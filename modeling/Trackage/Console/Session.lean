import Trackage.Fault
import Trackage.Service.Request
import Trackage.Text.Basic
import Trackage.Text.Upper

/-!
What a console remembers from one run of its page to the next: named values, among them the loaded
track, the two texts under edit and the log. One of the two texts is that of a route, with a segment on
each line, as a junction, a branch, a start and an end; blank lines are passed over but counted.
-/

namespace Trackage.RouteText

/-- The segment on a line of four words. The branch may be written in any case. -/
def segmentOf (number : Nat) : List String → Except ValueError SegmentRequest
  | [junction, branch, start, stop] => do
    let start ← (Text.readNumeral start).mapError .numeral
    let stop ← (Text.readNumeral stop).mapError .numeral
    return ⟨junction, Text.upper branch, start, stop⟩
  | _ => .error (.routeLine number)

/-- The segments on lines that are numbered from a first number. -/
def ofLines (number : Nat) : List String → Except ValueError (List SegmentRequest)
  | [] => .ok []
  | line :: lines =>
    match Text.words line with
    | [] => ofLines (number + 1) lines
    | words => do
      let segment ← segmentOf number words
      return segment :: (← ofLines (number + 1) lines)

/-- Reads a route text. -/
def read (text : String) : Except ValueError (List SegmentRequest) :=
  ofLines 1 (Text.lines text)

end Trackage.RouteText

namespace Trackage

/-- The remembered values in the order in which they were first set. -/
structure Session where
  values : List (String × Json)

/-- How a log entry is meant. -/
inductive LogLevel where
  | info
  | error
deriving DecidableEq, Repr

def LogLevel.text : LogLevel → String
  | .info => "info"
  | .error => "error"

namespace Session

def empty : Session := ⟨[]⟩

def trackKey : String := "track_id"
def trackTextKey : String := "track_text"
def routeTextKey : String := "route_text"
def logKey : String := "action_log"

def toJson (session : Session) : Json := .object session.values

/-- The value of a name that has to be known. -/
def value (session : Session) (key : String) : Except Fault Json :=
  match session.toJson.get? key with
  | some found => .ok found
  | none => .error .noMember

def set (session : Session) (key : String) (value : Json) : Session :=
  ⟨Json.putField key value session.values⟩

/-- Sets a value under a name that is not known yet. -/
def setMissing (session : Session) (key : String) (value : Json) : Session :=
  match session.toJson.get? key with
  | some _ => session
  | none => session.set key value

/-- The track that a new session starts with. -/
def defaultTrack : String :=
  "\n".intercalate [
    "10 j1 FACING j2 FACING", "12 j2 NORMAL j3 FACING", "8 j2 REVERSE j4 FACING",
    "15 j3 NORMAL j4 NORMAL"]

/-- The route that a new session starts with. -/
def defaultRoute : String := "\n".intercalate ["j1 FACING 0 10", "j2 NORMAL 0 12"]

/-- Sets what a page relies on wherever nothing is set. -/
def ensureDefaults (session : Session) : Session :=
  (((session.setMissing trackKey .null).setMissing trackTextKey (.string defaultTrack)).setMissing
    routeTextKey (.string defaultRoute)).setMissing logKey (.array [])

/-- Appends an entry to the log, which has to be there. -/
def log (session : Session) (level : LogLevel) (message : Json) : Except Fault Session := do
  match ← session.value logKey with
  | .array entries =>
    return session.set logKey (.array (entries ++ [.array [.string level.text, message]]))
  | _ => throw .noMember

def clearLog (session : Session) : Session := session.set logKey (.array [])

end Session

end Trackage
