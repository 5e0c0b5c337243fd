import Trackage.Allocation.Basic
import Trackage.Json.Writer
import Trackage.Payload.Field
import Trackage.Text.Upper

/-!
Railway values as untyped data. A segment or location names only its departing end-point; the
section is the one that the track has connected there.
-/

namespace Trackage

namespace EndPoint

/-- Reads an end-point. The branch may be written in any case. -/
def ofJson (data : Json) : Except Fault EndPoint := do
  let given ← data.field "branch"
  match Branch.ofText? (Text.upper given.plain) with
  | none =>
    .error (.domain (.unknownBranch given.display (data.getD "junction").display))
  | some branch =>
    let junction ← data.field "junction"
    return ⟨junction.plain, branch⟩

def toJson (e : EndPoint) : Json :=
  .object [("junction", .string e.junction), ("branch", .string e.branch.text)]

/-- The section connected at an end-point. There may be no track at all to look on. -/
def sectionOn (track : Option Track) (e : EndPoint) : Except Fault Section :=
  match track with
  | none => .error .noMember
  | some track =>
    match track.sectionAt? e with
    | some s => .ok s
    | none => .error (.domain (.segment (.nothingConnected e)))

end EndPoint

namespace Segment

/-- Reads a segment on a track that may be missing. -/
def ofJsonOn (track : Option Track) (data : Json) : Except Fault Segment := do
  let departing ← EndPoint.ofJson (← data.field "departing")
  let on ← departing.sectionOn track
  let start ← (← data.field "start").whole
  let stop ← (← data.field "end").whole
  (build on departing start stop).mapError fun error => .domain (.segment error)

/-- Reads a segment on a track. -/
def ofJson (track : Track) (data : Json) : Except Fault Segment := ofJsonOn (some track) data

/-- What is shown of a segment that can be written. -/
def toJson (s : Segment) : Json :=
  .object [
    ("departing", s.departing.toJson), ("start", .natural s.start), ("end", .natural s.stop),
    ("length", .natural s.length), ("section", .string s.on.text),
    ("from", .string s.firstLocation.text), ("to", .string s.lastLocation.text)]

/-- Several segments, such as those of a route. -/
def rowToJson (segments : List Segment) : Json := .ofList toJson segments

/-- A segment is shown where it can be written. -/
def shown (s : Segment) : Except Fault Json :=
  if s.isWritable then .ok s.toJson else .error (.ofNumeral .unwritable)

def rowShown (segments : List Segment) : Except Fault Json := (segments.mapM shown).map .array

/-- Shows the segments of several routes. -/
def rowsShown (rows : List (List Segment)) : Except Fault Json := (rows.mapM rowShown).map .array

end Segment

/-- Reads a location on a track. -/
def Location.ofJson (track : Track) (data : Json) : Except Fault Location := do
  let departing ← EndPoint.ofJson (← data.field "departing")
  let on ← departing.sectionOn (some track)
  let offset ← (← data.field "offset").whole
  (Location.build on departing offset).mapError fun error => .domain (.location error)

/-- Reads routes on a track, none if they are not given. -/
def routesOfJson (track : Track) (data : Json) : Except Fault (List (List Segment)) := do
  (← data.eachGiven).mapM fun route => do
    (← route.each).mapM (Segment.ofJson track)

def Indicators.toJson (k : Indicators) : Json :=
  .object [
    ("total_trains", .natural k.totalTrains), ("fully_granted", .natural k.fullyGranted),
    ("truncated", .natural k.truncated), ("blocked", .natural k.blocked),
    ("requested_length", .natural k.requestedLength),
    ("allocated_length", .natural k.allocatedLength), ("grant_ratio", .float k.grantRatio)]

def TrainLengths.toJson (row : TrainLengths) : Json :=
  .object [
    ("train", .natural row.train), ("requested_length", .natural row.requested),
    ("allocated_length", .natural row.granted)]

/-- An allocation with its indicators, or a fault when it cannot be written or the indicators are out
of range. -/
def allocationToJson (requested granted : List (List Segment)) :
    Except Fault (List (String × Json)) := do
  let allocated ← Segment.rowsShown granted
  match Indicators.of? requested granted with
  | none => throw .overflow
  | some indicators => return [
      ("allocated", allocated), ("kpis", indicators.toJson),
      ("by_train", .ofList TrainLengths.toJson (lengthsByTrain requested granted))]

end Trackage
