import Trackage.Console.Element
import Trackage.Console.Schematic
import Trackage.Console.Script
import Trackage.Console.Session

/-!
The page on which an operator loads a track, puts trains on it, extends their allocations and keeps
runs. From top to bottom it shows the track, a form for a further train, the trains, the schematic,
the runs and the log.
-/

namespace Trackage.Console.Page

open Script

def listItems (answer : Option Json) : Except Fault Json := do
  return ((← (answer.getD (.object [("items", .array [])])).member? "items").getD (.array []))

/-- The track definition, which the operator can edit and load. -/
def trackForm : Script Unit := do
  presentText .header "Track"
  let definition ← textArea "Track definition (<length> <junction> <branch> <junction> <branch>)"
    (← remembered Session.trackTextKey)
  present (.weightedColumns [2, 1])
  let name ← textInput "Track name" "track-1"
  if ← button "Load Track" true false then
    if let some answer ← callFor (Client.saveTrack definition name) then
      remember Session.trackTextKey definition
      let track ← need (answer.field "id")
      remember Session.trackKey track
      let sections ← need (answer.field "sections")
      logText s!"Successfully loaded track #{track.plain} with {sections.plain} sections"

/-- The loaded track; without one the page ends here. -/
def loadedTrack : Script Json := do
  let track ← remembered Session.trackKey
  if track.isNull then
    presentText .info "Load a track to start adding trains."
    stop
  return track

/-- Reads a route text that an operator typed; what is no segment is logged. -/
def readRoute (route : Json) : Script (Option Json) := do
  match route with
  | .string text =>
    match RouteText.read text with
    | .ok segments => return some (.ofList SegmentRequest.toJson segments)
    | .error error =>
      log .error (.string error.message)
      return none
  | _ => throw (.fault .noMember)

/-- The form for a further train. -/
def trainForm (track : Json) : Script Unit := do
  rule
  presentText .header "Add Train"
  let routeText ← textArea "Route (one segment per line: <junction> <branch> <start> <end>)"
    (← remembered Session.routeTextKey)
  present (.columns 3)
  let start ← numberInput "add_start" "Start Offset" (.int 0) none
  let stop ← numberInput "add_end" "End Offset" (.int 5) none
  if ← button "Add Train" false false then
    if let some route ← readRoute routeText then
      let errand ← need (Client.addTrain track route start stop)
      if let some answer ← callFor errand then
        remember Session.routeTextKey routeText
        let train ← need (answer.field "train")
        let text ← need (train.field "text")
        logText s!"The following train is added successfully:\n{text.plain}"
        rerun

/-- The train that the operator selects among trains. -/
def selectTrain (trains : List Json) : Script (Json × Json) := do
  let identifiers ← need (trains.mapM (Json.field · "identifier"))
  let identifier ← choose "Train" identifiers fun identifier => s!"Train {identifier.plain}"
  let own := (trains.zip identifiers).find? fun (_, other) => other.alike identifier
  return (identifier, (own.map (·.1)).getD .null)

/-- The selected train, which the operator can look at and move. -/
def selectedTrain (track : Json) (trains : List Json) : Script Unit := do
  let (identifier, train) ← selectTrain trains
  let shown := identifier.plain
  present (.columns 4)
  let oldStart ← need (do (← train.field "start_offset").whole)
  let start ← numberInput s!"upd_start_{shown}" "Start Offset" (.int oldStart) none
  let oldStop ← need (do (← train.field "end_offset").whole)
  let stop ← numberInput s!"upd_end_{shown}" "End Offset" (.int oldStop) none
  if ← button "View Allocation" false false then
    let text ← need (train.field "text")
    logText s!"The allocation of Train {shown} is:\n{text.plain}"
  if ← button "Update Train" false false then
    let errand ← need (Client.updateTrain track identifier start stop)
    if let some answer ← call errand then
      if (answer.getD "updated").truthy then
        let text ← need (do (← answer.field "train").field "text")
        logText s!"The allocation of Train {shown} is updated to:\n{text.plain}"
      else
        logText <| "The given start and end offsets are the same as the original. " ++
          "The train remains unchanged."
      rerun

/-- The target that the operator sets for a train, if it lies beyond its end. -/
def targetFor (train : Json) : Script (Option (String × Json)) := do
  let identifier ← need (train.field "identifier")
  let length ← need (do (← train.field "route_length").whole)
  let reached ← need (train.field "end_offset")
  let target ← numberInput s!"target_{identifier.plain}" s!"Train {identifier.plain} target end"
    (.int (← need reached.whole)) (some length)
  if ← need (target.exceeds reached) then
    return some (identifier.plain, .int (← need target.whole))
  else return none

/-- How much the segments of an extension come to. -/
def grantedLength (segments : Json) : Except Fault Json := do
  let lengths ← (← segments.each).mapM (Json.field · "length")
  lengths.foldlM Json.plus (.int 0)

/-- The extensions that the operator asks for. -/
def extensionForm (track : Json) (trains : List Json) : Script Unit := do
  presentText .subheader "Request Extensions"
  present (.columns (min 4 trains.length))
  let targets := (← trains.mapM targetFor).filterMap id
  if ← button "Allocate Extensions" false targets.isEmpty then
    let errand ← need (Client.extendTrains track (.object targets))
    if let some answer ← callFor errand then
      let granted ← match answer.getD "granted" with
        | .object fields => fields.mapM fun (identifier, segments) => do
          return (identifier, ← need (grantedLength segments))
        | _ => pure []
      logText s!"Granted extensions (meters by train): {(Json.object granted).display}"
      rerun

/-- The trains on the track. -/
def trainList (track : Json) (trains : List Json) : Script Unit := do
  rule
  presentText .header "Trains"
  (← need (trainPanel (.array trains))).forM present
  unless trains.isEmpty do
    selectedTrain track trains
    extensionForm track trains

/-- The schematic of the track with the trains on it. -/
def schematicChart (details : Option Json) (trains : List Json) : Script Unit := do
  if let some details := details then
    let schematic ← need (do Schematic.draw (← details.field "track") (.array trains))
    present (.chart schematic.title schematic.height schematic.traces.length)

/-- What stands in a text box, or nothing where it is left empty. -/
def orNull (value : Json) : Json := if value.truthy then value else .null

/-- The form for a run in which every train asks for the rest of its route. -/
def runForm (track : Json) (trains : List Json) : Script Unit := do
  present (.weightedColumns [2, 2, 1])
  let name ← textInput "Run name" "rest-of-routes"
  let comment ← textInput "Comment" ""
  if ← button "Save Run" false false then
    let occupied ← need (trains.mapM (Json.field · "allocation"))
    let requested ← need (trains.mapM (Json.field · "remaining"))
    let errand := Client.allocateOnTrack track (.array occupied) (.array requested) (orNull name)
      (orNull comment)
    if let some answer ← callFor errand then
      let run ← need (answer.field "run_id")
      let indicators ← need (answer.field "kpis")
      let full ← need (indicators.field "fully_granted")
      let total ← need (indicators.field "total_trains")
      logText <| s!"Saved run #{run.plain}: {full.plain} of {total.plain} trains could take " ++
        "the rest of their route"

/-- The kept runs of the track. -/
def runList (track : Json) (trains : List Json) : Script Unit := do
  rule
  presentText .header "Allocation Runs"
  unless trains.isEmpty do runForm track trains
  let answer ← callFor (Client.listRuns track (.int 0) (.int Service.usualPage))
  let items ← need (listItems answer)
  if items.truthy then
    let runs ← need (do (← items.each).mapM (Json.field · "id"))
    let run ← choose "Run" runs Json.plain
    if let some answer ← callFor (Client.showRun run) then
      let details ← need (answer.field "run")
      (indicatorPanel ((← need (details.member? "kpis")).getD .null)).forM present
  else presentText .caption "No runs saved for this track yet."

/-- Shows an entry of the log. -/
def logEntry (entry : Json) : Script Unit := do
  match ← need entry.each with
  | [level, message] =>
    present (.text (if level.alike (.string LogLevel.error.text) then .error else .plain) message)
  | [] => throw (.fault (.value (.tooFewEnds 0)))
  | [_] => throw (.fault (.value (.tooFewEnds 1)))
  | _ => throw (.fault (.value .tooManyEnds))

/-- The log, newest first. -/
def output : Script Unit := do
  rule
  present (.weightedColumns [4, 1])
  presentText .header "Output"
  if ← button "Clear Output" false false then
    setSession (← session).clearLog
    rerun
  let entries ← need (← remembered Session.logKey).each
  entries.reverse.forM logEntry

/-- The whole page. -/
def script : Script Unit := do
  present (.page "Railway Track Allocation" "wide")
  presentText .title "Railway Track Allocation – Trains & Routes"
  setSession (← session).ensureDefaults
  trackForm
  let track ← loadedTrack
  let details ← callFor (Client.showTrack track)
  let listed ← callFor (Client.listTrains track)
  let trains ← need (do (← listItems listed).each)
  trainForm track
  trainList track trains
  schematicChart details trains
  runList track trains
  output

end Trackage.Console.Page
