import Trackage.Json.Writer
import Trackage.Payload.Field
import Trackage.Service.Http

/-!
Calls from the console to the service. What an operator typed is sent as it is, apart from the
offsets of trains, which are made whole numbers first.
-/

namespace Trackage.Client

/-- The methods that the console uses. -/
inductive Method where
  | get
  | post
  | put
deriving DecidableEq, Repr

def Method.text : Method → String
  | .get => "GET"
  | .post => "POST"
  | .put => "PUT"

/-- A call: its body and its query are nothing when it has none. -/
structure Errand where
  method : Method
  path : String
  body : Json := .null
  query : Json := .null

/-- The path of a track, or of something that a track has. -/
def trackPath (track : Json) (rest : String) : String := s!"/tracks/{track.plain}{rest}"

def allocateOnTrack (track occupied requested name comment : Json) : Errand where
  method := .post
  path := trackPath track "/allocate"
  body := .object [
    ("occupied", occupied), ("requested", requested), ("name", name), ("comment", comment)]

def saveTrack (definition name : Json) : Errand where
  method := .post
  path := "/tracks"
  body := .object [("name", name), ("definition", definition)]

def showTrack (track : Json) : Errand where
  method := .get
  path := trackPath track ""

def addTrain (track route start stop : Json) : Except Fault Errand := do
  let start ← start.whole
  let stop ← stop.whole
  return {
    method := .post
    path := trackPath track "/trains"
    body := .object [("route", route), ("start_offset", .int start), ("end_offset", .int stop)] }

def listTrains (track : Json) : Errand where
  method := .get
  path := trackPath track "/trains"

def updateTrain (track identifier start stop : Json) : Except Fault Errand := do
  let path := trackPath track s!"/trains/{identifier.plain}"
  let start ← start.whole
  let stop ← stop.whole
  return {
    method := .put
    path
    body := .object [("start_offset", .int start), ("end_offset", .int stop)] }

/-- Asks for extensions; the targets are an object from identifiers to offsets. -/
def extendTrains (track targets : Json) : Except Fault Errand := do
  match targets with
  | .object fields =>
    let targets ← fields.mapM fun (identifier, target) => do
      return (identifier, Json.int (← target.whole))
    return {
      method := .post
      path := trackPath track "/trains/extend"
      body := .object [("targets", .object targets)] }
  | _ => throw .noMember

def listRuns (track offset limit : Json) : Errand where
  method := .get
  path := trackPath track "/runs"
  query := .object [("offset", offset), ("limit", limit)]

def showRun (run : Json) : Errand where
  method := .get
  path := s!"/runs/{run.plain}"

/-- Where the service is expected when nothing else is said. -/
def usualAddress : String := "http://localhost:8000"

/-- How long a call may take, in seconds, when nothing else is said. -/
def usualTimeout : Json := .float (.ofNat 30)

/-- The address of the service: the given one, or else that of the environment. -/
def baseAddress (given : Json) (environment : Option String) : String :=
  if given.truthy then given.plain else environment.getD usualAddress

/-- The least status of a refusal. -/
def leastRefusal : Nat := 400

/-- What a response comes to. -/
def outcome (status : Nat) (response : Json) : Except Fault Json :=
  if leastRefusal ≤ status then .error (.refusedRequest status) else .ok response

/-- The phrase that goes with the status of a refusal. -/
def reasonPhrase : Nat → String
  | 400 => "Bad Request"
  | 404 => "Not Found"
  | 405 => "Method Not Allowed"
  | 422 => "Unprocessable Entity"
  | 500 => "Internal Server Error"
  | _ => ""

/-- What an operator is told about a refusal. -/
def refusalText (status : Nat) (path : String) : String :=
  let side := if status < 500 then "Client" else "Server"
  s!"{status} {side} Error: {reasonPhrase status} for url: {usualAddress}{path}"

/-- Whether a character may stand in front of data. -/
def isDataBlank (c : Char) : Bool := c == ' ' || c == '\t' || c == '\n' || c == '\r'

/-- What an operator is told about a response whose text is no data: where data should start. -/
def noDataText (content : String) : String :=
  let before := content.toList.takeWhile isDataBlank
  let line := before.count '\n' + 1
  let column := (before.reverse.takeWhile (· != '\n')).length + 1
  s!"Expecting value: line {line} column {column} (char {before.length})"

/-- The pairs of a query, if there is one. -/
def Errand.queryPairs? (errand : Errand) : Option (List (String × String)) :=
  match errand.query with
  | .object fields => some (fields.map fun (key, value) => (key, value.plain))
  | _ => none

/-- The call that a service receives. -/
def Errand.toCall (errand : Errand) : Except Fault Service.Call :=
  let body := if errand.body.isNull then .ok none else (Service.sentText errand.body).map some
  Service.Call.ofAddress errand.method.text errand.path errand.queryPairs? body

end Trackage.Client
