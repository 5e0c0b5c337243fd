import Trackage.Operation
import Trackage.Payload.Shape
import Trackage.Railway.Basic
import Trackage.Scenario
import Trackage.Service.Request
import Trackage.Store.Basic

/-!
The service. It keeps tracks and runs in a store, a railway for each track whose trains were asked
for, and a trail of what it allocated. A railway is given up when its track is defined anew or
deleted. A request is carried out step by step: what was changed before a step fails stays changed,
also where the failure is answered with what went wrong.
-/

namespace Trackage

/-- All that the service keeps; the trail is in the order of events. -/
structure Service where
  store : Store
  railways : List (Int × Railway)
  trail : List Json

namespace Service

/-- A service that was never asked anything. -/
def start : Service := ⟨.empty, [], []⟩

instance : Inhabited Service := ⟨start⟩

/-- What an answer shows of a fault. -/
def errorBody (fault : Fault) : Json :=
  let shown := ("error", Json.string (fault.message?.getD ""))
  match fault with
  | .domain (.format error) => .object [shown, ("line", .ofOption .int error.line)]
  | _ => .object [shown]

/-- An answer that names what is not there. -/
def missing (what : String) : Json := .object [("error", .string s!"{what} not found")]

/-- Steps that carry out a request. -/
abbrev Handler (α : Type) := Operation Service Fault α

open Operation (check)

/-- Goes on with what some steps give. Where they fail with a fault that is answered, the answer shows
the fault, and the service stays as they have left it. -/
def attempt (steps : Handler α) (next : α → Handler Json) : Handler Json := fun service =>
  match steps service with
  | .ok value service => next value service
  | .error fault service =>
    if fault.isAnswered then .ok (errorBody fault) service else .error fault service

def record (service : Service) (event : List (String × Json)) : Service :=
  { service with trail := service.trail ++ [.object event] }

/-- Changes the store and goes on with what the change answers. -/
def changeStore (change : Store → Store × α) : Handler α :=
  modifyGet fun service =>
    ((change service.store).2, { service with store := (change service.store).1 })

/-- The track of a stored definition. -/
def storedTrack? (service : Service) (id : Int) : Except Fault (Option Track) := do
  match service.store.getTrack (← Cell.ofInt id) with
  | none => return none
  | some (_, row) => return some (← (Track.ofText row.definition).mapError .ofDefinition)

/-- Gives up the railway on a track. -/
def forget (service : Service) (id : Int) : Service :=
  { service with railways := service.railways.filter (·.1 != id) }

/-- Keeps a railway for a track. -/
def keep (service : Service) (id : Int) (railway : Railway) : Service :=
  { service with railways := (id, railway) :: (service.forget id).railways }

/-- The railway on a stored track, with the service that keeps it from then on: the one that is kept,
or else one without trains. -/
def railway? (service : Service) (id : Int) : Except Fault (Option (Service × Railway)) :=
  match service.railways.find? (·.1 == id) with
  | some (_, railway) => .ok (some (service, railway))
  | none => (service.storedTrack? id).map fun track => track.map fun track =>
    (service.keep id (.empty (some track)), .empty (some track))

/-- Goes on with the railway on a stored track, which is kept from then on. -/
def withRailway (id : Int) (next : Railway → Handler Json) : Handler Json := do
  match ← check ((← get).railway? id) with
  | none => return missing "track"
  | some (opened, railway) =>
    set opened
    next railway

/-- Carries out an operation on the railway that is kept for a track. -/
def onRailway (id : Int) (railway : Railway) (operation : Operation Railway Fault α) : Handler α :=
  operation.on railway fun railway service => service.keep id railway

def sectionJson (s : Section) : Json :=
  .object [("length", .natural s.length), ("endpoints", .ofList EndPoint.toJson s.ends)]

def trackFields (track : Track) : List (String × Json) := [
  ("sections", .ofList sectionJson track.sections), ("junctions", .ofList .string track.junctions)]

/-- What is shown of a train. Its sections were read from a definition and can be written; an offset
that cannot be stands here as a number too, and keeps the answer from being sent. -/
def trainJson (t : Train) : Json :=
  .object [
    ("identifier", .natural t.identifier), ("start_offset", .natural t.start),
    ("end_offset", .natural t.stop), ("route_length", .natural t.route.length),
    ("route", Segment.rowToJson t.route.segments), ("allocation", Segment.rowToJson t.allocation),
    ("remaining", Segment.rowToJson t.remaining), ("text", .string t.text)]

/-- Checks and allocates requested routes on a track. -/
def allocateRoutes (track : Track) (routes : RoutesRequest) :
    Except Fault (List (String × Json)) := do
  -- Routes are read as data, and so held to the same rules as those in a file.
  let occupied ← routesOfJson track (rowsToJson routes.occupied)
  let requested ← routesOfJson track (rowsToJson routes.requested)
  allocationToJson requested (← orFault (Scenario.run track occupied requested))

/-- A field of an answer under construction. -/
def fieldOf (key : String) (fields : List (String × Json)) : Json := (Json.object fields).getD key

/-- The track that the demonstration runs on. -/
def demoDefinition : String := "10 j1 FACING j2 NORMAL"

/-- Two trains on one section; the first is cut short before the second. -/
def demoRoutes : RoutesRequest :=
  let piece (start stop : Int) : List SegmentRequest := [⟨"j1", "FACING", start, stop⟩]
  ⟨[piece 0 3, piece 6 9], [piece 2 7, piece 8 10]⟩

def demo : Except Fault Json := do
  let track ← (Track.ofText demoDefinition).mapError .ofDefinition
  return .object (← allocateRoutes track demoRoutes)

def allocate (definition : String) (routes : RoutesRequest) : Handler Json :=
  attempt (do
      let track ← check ((Track.ofText definition).mapError .ofDefinition)
      check (allocateRoutes track routes))
    fun fields => do
      modify fun service => service.record [
        ("type", .string "allocate"), ("trains", .natural routes.occupied.length),
        ("kpis", fieldOf "kpis" fields)]
      return .object fields

def compareLocations (definition : String) (a b : LocationRequest) : Handler Json :=
  attempt (do
      let track ← check ((Track.ofText definition).mapError .ofDefinition)
      let a ← check (Location.ofJson track a.toJson)
      let b ← check (Location.ofJson track b.toJson)
      return (a, b))
    fun (a, b) => return .object [
      ("equivalent", .bool (decide (a.Equivalent b))), ("a", .string a.text), ("b", .string b.text)]

/-- Stores a track; its definition is kept as the track writes it. -/
def createTrack (name definition : String) : Handler Json :=
  attempt (check ((Track.ofText definition).mapError .ofDefinition)) fun track => do
    let _ ← check ([name, track.text].mapM Cell.ofText)
    let id ← changeStore fun store => store.saveTrack name track.text
    return .object [("id", .natural id), ("sections", .natural track.sections.length)]

def listTracks (service : Service) (offset limit : Int) : Except Fault Json := do
  let limit ← Cell.ofInt limit
  let rows ← service.store.listTracks (← Cell.ofInt offset) limit
  return .object [("items", .ofList (fun row => row.2.toJson row.1) rows)]

def showTrack (service : Service) (id : Int) : Except Fault Json := do
  match service.store.getTrack (← Cell.ofInt id) with
  | none => return missing "track"
  | some (_, row) =>
    let track ← (Track.ofText row.definition).mapError .ofDefinition
    match row.toJson id with
    | .object fields => return .object [("track", .object (fields ++ trackFields track))]
    | other => return other

/-- The text of the track that a definition is read as. -/
def writtenDefinition (definition : String) : Except Fault String :=
  ((Track.ofText definition).mapError .ofDefinition).map Track.text

/-- Renames a track or defines it anew. A new definition does away with the trains. -/
def updateTrack (id : Int) (name definition : Option String) : Handler Json :=
  attempt (check (definition.mapM writtenDefinition)) fun definition => do
    if name.isNone && definition.isNone then return .object [("updated", .bool false)]
    else
      let nameCell ← check (name.mapM Cell.ofText)
      let definitionCell ← check (definition.mapM Cell.ofText)
      let key ← check (Cell.ofInt id)
      let updated ← check ((← get).store.updateTrack key nameCell definitionCell)
      modify fun service => { service with store := updated.1 }
      modify fun service => if updated.2 && definition.isSome then service.forget id else service
      return .object [("updated", .bool updated.2)]

def deleteTrack (id : Int) : Handler Json := do
  let key ← check (Cell.ofInt id)
  let found ← changeStore fun store => store.deleteTrack key
  modify fun service => service.forget id
  return .object [("deleted", .bool found)]

/-- The run that is stored of an allocation. -/
def ranOn (id : Int) (routes : RoutesRequest) (name comment : Option String)
    (fields : List (String × Json)) : StoredRun where
  track := .integer id
  name := name
  comment := comment
  input := routes.toJson
  allocation := fieldOf "allocated" fields
  indicators := (fieldOf "kpis" fields).put "by_train" (fieldOf "by_train" fields)

/-- Allocates routes on a stored track and stores the run. -/
def allocateOnTrack (id : Int) (routes : RoutesRequest) (name comment : Option String) :
    Handler Json := do
  match ← check ((← get).storedTrack? id) with
  | none => return missing "track"
  | some track =>
    attempt (check (allocateRoutes track routes)) fun fields => do
      let _ ← check (Cell.ofInt id)
      let _ ← check ((name.toList ++ comment.toList).mapM Cell.ofText)
      let number ← changeStore fun store => store.saveRun (ranOn id routes name comment fields)
      modify fun service => service.record [
        ("type", .string "allocate"), ("track_id", .int id), ("run_id", .natural number),
        ("kpis", fieldOf "kpis" fields)]
      return .object (("run_id", .natural number) :: fields)

def listRuns (service : Service) (track offset limit : Int) : Except Fault Json := do
  let track ← Cell.ofInt track
  let limit ← Cell.ofInt limit
  let rows ← service.store.listRuns track (← Cell.ofInt offset) limit
  return .object [("items", .ofList (fun row => row.2.toListing row.1) rows)]

def showRun (service : Service) (id : Int) : Except Fault Json := do
  match service.store.getRun (← Cell.ofInt id) with
  | none => return missing "run"
  | some (_, row) => return .object [("run", row.toJson id)]

def deleteRun (id : Int) : Handler Json := do
  let key ← check (Cell.ofInt id)
  let found ← changeStore fun store => store.deleteRun key
  return .object [("deleted", .bool found)]

/-- The columns of the table of a run. -/
def runColumns : List String := ["train", "requested_length", "allocated_length"]

def tableLine (cells : List String) : String := ",".intercalate cells ++ "\r\n"

/-- The lengths of a run train by train, as a table. -/
def runTable (service : Service) (id : Int) : Except Fault Reply := do
  match service.store.getRun (← Cell.ofInt id) with
  | none => return .table "error,run not found\n" none
  | some (_, row) =>
    let rows := ((row.indicators.getD "by_train").array?).getD []
    let line (row : Json) : String := tableLine (runColumns.map fun key => (row.getD key).compact)
    return .table (tableLine runColumns ++ String.join (rows.map line))
      (some s!"run_{id}_allocation.csv")

def addTrain (id : Int) (route : List SegmentRequest) (start stop : Int) : Handler Json :=
  withRailway id fun railway =>
    attempt (do
        let segments ← check (route.mapM fun s => Segment.ofJsonOn railway.track s.toJson)
        let route ← check (orFault ((Route.build segments).mapError (.map .route)))
        onRailway id railway ((Railway.add route start stop).adaptExcept fun rejection =>
          .domain (.rejected rejection)))
      fun train => return .object [("train", trainJson train)]

def listTrains (id : Int) : Handler Json :=
  withRailway id fun railway => return .object [("items", .ofList trainJson railway.trains)]

def updateTrain (id identifier start stop : Int) : Handler Json :=
  withRailway id fun railway =>
    attempt (onRailway id railway do
        let changed ← (Railway.move identifier start stop).adaptExcept RailwayError.fault
        return (changed, (← get).train? identifier))
      fun (changed, train) => return .object [
        ("updated", .bool changed), ("train", .ofOption trainJson train)]

/-- The last target given for each train. -/
def targetOf (targets : List (Int × Int)) (identifier : Nat) : Option Int :=
  (targets.reverse.find? (·.1 == (identifier : Int))).map (·.2)

/-- What is shown of the trains that were granted something to move on. -/
def byTrain (write : List Segment → Json) (granted : List (Nat × List Segment)) : Json :=
  .object (granted.map fun (identifier, segments) => (toString identifier, write segments))

def extendTrains (id : Int) (targets : List (Int × Int)) : Handler Json :=
  withRailway id fun railway => do
    let moved := railway.extend (targetOf targets)
    modify fun service => service.keep id moved.1
    -- The trains have moved already where the trail cannot tell how far.
    let lengths := byTrain (fun segments => .natural (lengthOf segments)) moved.2
    check (if lengths.isWritable then .ok () else .error (.ofNumeral .unwritable))
    modify fun service => service.record [
      ("type", .string "extend"), ("track_id", .int id), ("granted", lengths)]
    return .object [
      ("granted", byTrain Segment.rowToJson moved.2), ("items", .ofList trainJson moved.1.trains)]

/-- Replies with the data of an answer. -/
def reply (answer : Handler Json) : Handler Reply := do return .data (← answer)

/-- Replies with what a look at the service shows. -/
def look (view : Service → Except Fault Json) : Handler Reply := do
  return .data (← check (view (← get)))

/-- The steps that carry out a request. -/
def handler : Request → Handler Reply
  | .demo => look fun _ => demo
  | .allocate definition routes => reply (allocate definition routes)
  | .compareLocations definition a b => reply (compareLocations definition a b)
  | .createTrack name definition => reply (createTrack name definition)
  | .listTracks offset limit => look (listTracks · offset limit)
  | .showTrack track => look (showTrack · track)
  | .updateTrack track name definition => reply (updateTrack track name definition)
  | .deleteTrack track => reply (deleteTrack track)
  | .allocateOnTrack track routes name comment => reply (allocateOnTrack track routes name comment)
  | .listRuns track offset limit => look (listRuns · track offset limit)
  | .showRun run => look (showRun · run)
  | .deleteRun run => reply (deleteRun run)
  | .runTable run => do check ((← get).runTable run)
  | .addTrain track route start stop => reply (addTrain track route start stop)
  | .listTrains track => reply (listTrains track)
  | .updateTrain track identifier start stop => reply (updateTrain track identifier start stop)
  | .extendTrains track targets => reply (extendTrains track targets)

/-- What a request comes to. -/
def handle (service : Service) (request : Request) : Except Fault (Service × Reply) :=
  (handler request).outcome service

/-- The service after a request, also where the request fails. -/
def after (service : Service) (request : Request) : Service := (handler request).left service

end Service

end Trackage
