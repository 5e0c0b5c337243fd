import Trackage.Json.Writer
import Trackage.Service.Address
import Trackage.Service.Basic
import Trackage.Service.Body
import Trackage.Text.Upper

/-!
The service over HTTP. A call is matched against the endpoints by path and method, its parts are
read into a request, and the reply is put into a response.
-/

namespace Trackage.Service

/-- A call: a method, an address, and the text of the body if there is one. -/
structure Call where
  method : String
  address : Address
  body : Option String

/-- A response: a status with what the call asked for or where to look for it. -/
structure Response where
  status : Nat
  body : Option Json := none
  text : Option String := none
  location : Option String := none
  disposition : Option String := none

/-- What an endpoint is for. -/
inductive Action where
  | description
  | manual
  | root
  | icon
  | demo
  | allocate
  | compareLocations
  | createTrack
  | listTracks
  | showTrack
  | updateTrack
  | deleteTrack
  | allocateOnTrack
  | listRuns
  | showRun
  | deleteRun
  | runTable
  | addTrain
  | listTrains
  | updateTrain
  | extendTrains
deriving DecidableEq, Repr

/-- An endpoint: its method and the parts of its path, nothing standing for any part. -/
structure Endpoint where
  method : String
  path : List (Option String)
  action : Action

/-- The pages on which the service describes itself: one as data, the others to be read. -/
def manualPages : List (List String × Action) := [
  (["openapi.json"], .description), (["docs"], .manual), (["docs", "oauth2-redirect"], .manual),
  (["redoc"], .manual)]

/-- The endpoints of the pages, which may also be asked for without their content. -/
def manualEndpoints : List Endpoint :=
  manualPages.flatMap fun (page, action) =>
    ["GET", "HEAD"].map fun method => ⟨method, page.map some, action⟩

/-- What the service is called on its pages. -/
def title : String := "Railway Track Allocation API"

/-- The head of a page; what the page shows is left to a browser. -/
def manualText : String := s!"\n    <!DOCTYPE html>\n    <title>{title}</title>\n"

/-- The head of the description as data. -/
def descriptionData : Json :=
  .object [("openapi", .string "3.1.0"), ("info", .object [("title", .string title)])]

/-- The endpoints in the order in which they are tried. -/
def endpoints : List Endpoint := manualEndpoints ++ [
  ⟨"GET", [some ""], .root⟩,
  ⟨"GET", [some "favicon.ico"], .icon⟩,
  ⟨"GET", [some "demo"], .demo⟩,
  ⟨"POST", [some "allocate"], .allocate⟩,
  ⟨"POST", [some "locations", some "equivalent"], .compareLocations⟩,
  ⟨"POST", [some "tracks"], .createTrack⟩,
  ⟨"GET", [some "tracks"], .listTracks⟩,
  ⟨"GET", [some "tracks", none], .showTrack⟩,
  ⟨"PUT", [some "tracks", none], .updateTrack⟩,
  ⟨"DELETE", [some "tracks", none], .deleteTrack⟩,
  ⟨"POST", [some "tracks", none, some "allocate"], .allocateOnTrack⟩,
  ⟨"GET", [some "tracks", none, some "runs"], .listRuns⟩,
  ⟨"GET", [some "runs", none], .showRun⟩,
  ⟨"DELETE", [some "runs", none], .deleteRun⟩,
  ⟨"GET", [some "runs", none, some "allocation.csv"], .runTable⟩,
  ⟨"POST", [some "tracks", none, some "trains"], .addTrain⟩,
  ⟨"GET", [some "tracks", none, some "trains"], .listTrains⟩,
  ⟨"PUT", [some "tracks", none, some "trains", none], .updateTrain⟩,
  ⟨"POST", [some "tracks", none, some "trains", some "extend"], .extendTrains⟩]

/-- The parts of a path that stand where a pattern leaves them open, if the path has the pattern. A
line feed behind a pattern that ends in a fixed part is passed over. -/
def matchPath? : List (Option String) → List String → Option (List String)
  | [], [] => some []
  | [some fixed], [part] => if part = fixed ∨ part = fixed ++ "\n" then some [] else none
  | some fixed :: pattern, part :: path => if fixed = part then matchPath? pattern path else none
  | none :: pattern, part :: path =>
    if part = "" then none else (matchPath? pattern path).map (part :: ·)
  | _, _ => none

/-- The parts of a path, which starts with a slash. -/
def pathParts (path : String) : List String :=
  ((Text.partsAt '/' path.toList).map String.ofList).drop 1

/-- The text in which data is sent; only finite numbers can be. -/
def sentText (data : Json) : Except Fault String :=
  if data.isFinite then .ok data.compact else .error (.value .notFinite)

/-- A call to an address with the text of a body, which is asked for last and has to be put into
bytes. Given pairs take the place of the address's own query. -/
def Call.ofAddress (method address : String) (query : Option (List (String × String)))
    (body : Except Fault (Option String)) : Except Fault Call := do
  let address ← Address.read address query
  let body ← body
  unless body.all Text.isWhole do throw .notWhole
  return ⟨Text.upper method, address, body⟩

/-- What the path and the method of a call lead to. -/
inductive Destination where
  | action (action : Action) (values : List String)
  | wrongMethod
  | redirect (location : String)
  | nowhere

/-- The path without the slashes at its end. -/
def withoutLastSlash (path : String) : String :=
  String.ofList (path.toList.reverse.dropWhile (· == '/')).reverse

/-- Whether some endpoint has a path. -/
def isKnownPath (path : String) : Bool :=
  endpoints.any fun endpoint => (matchPath? endpoint.path (pathParts path)).isSome

/-- Finds the endpoint of a call. A path that only has a slash too many is sent on. -/
def destination (call : Call) : Destination :=
  let path := call.address.path
  let parts := pathParts path
  let found := endpoints.findSome? fun endpoint =>
    if endpoint.method = call.method then
      (matchPath? endpoint.path parts).map (Destination.action endpoint.action)
    else none
  match found with
  | some destination => destination
  | none =>
    let shorter := withoutLastSlash path
    if isKnownPath path then .wrongMethod
    else if shorter != path && isKnownPath shorter then .redirect (call.address.sentOn shorter)
    else .nowhere

/-- Whether an action needs a body. -/
def Action.needsBody : Action → Bool
  | .allocate | .compareLocations | .createTrack | .updateTrack | .allocateOnTrack | .addTrain
  | .updateTrain | .extendTrains => true
  | _ => false

/-- A whole number in a query, or the usual one when the query does not have it. -/
def queryInt? (query : List (String × String)) (key : String) (usual : Int) : Option Int :=
  match query.reverse.find? (·.1 == key) with
  | none => some usual
  | some (_, text) => textInt? text

/-- How many rows a listing shows when nothing is said about it. -/
def usualPage : Int := 50

/-- The offset and the limit of a listing. -/
def page? (query : List (String × String)) : Option (Int × Int) := do
  let offset ← queryInt? query "offset" 0
  let limit ← queryInt? query "limit" usualPage
  return (offset, limit)

/-- Reads a request from the parts of a call; nothing when a part has the wrong kind. -/
def request? (action : Action) (values : List Int) (query : List (String × String)) (body : Json) :
    Option Request :=
  match action, values with
  | .demo, [] => some .demo
  | .allocate, [] => do
    let definition ← part? text? "track" body
    return .allocate definition (← routes? body)
  | .compareLocations, [] => do
    let definition ← part? text? "track" body
    let a ← part? location? "a" body
    let b ← part? location? "b" body
    return .compareLocations definition a b
  | .createTrack, [] => do
    let name ← textOr? "track" "name" body
    let definition ← part? text? "definition" body
    return .createTrack name definition
  | .listTracks, [] => do
    let (offset, limit) ← page? query
    return .listTracks offset limit
  | .showTrack, [track] => some (.showTrack track)
  | .updateTrack, [track] => do
    let name ← optionalText? "name" body
    let definition ← optionalText? "definition" body
    return .updateTrack track name definition
  | .deleteTrack, [track] => some (.deleteTrack track)
  | .allocateOnTrack, [track] => do
    let routes ← routes? body
    let name ← optionalText? "name" body
    let comment ← optionalText? "comment" body
    return .allocateOnTrack track routes name comment
  | .listRuns, [track] => do
    let (offset, limit) ← page? query
    return .listRuns track offset limit
  | .showRun, [run] => some (.showRun run)
  | .deleteRun, [run] => some (.deleteRun run)
  | .runTable, [run] => some (.runTable run)
  | .addTrain, [track] => do
    let route ← part? (row? segment?) "route" body
    let start ← part? int? "start_offset" body
    let stop ← part? int? "end_offset" body
    return .addTrain track route start stop
  | .listTrains, [track] => some (.listTrains track)
  | .updateTrain, [track, identifier] => do
    let start ← part? int? "start_offset" body
    let stop ← part? int? "end_offset" body
    return .updateTrain track identifier start stop
  | .extendTrains, [track] => do
    let targets ← part? targets? "targets" body
    return .extendTrains track targets
  | _, _ => none

/-- Drops a byte order mark in front of a text. -/
def withoutMark (text : String) : String :=
  match text.toList with
  | '\ufeff' :: rest => String.ofList rest
  | _ => text

/-- The value in the body of a call, nothing for a call without one, or the status with which the
body is refused. -/
def readBody (call : Call) : Except Nat Json :=
  match call.body with
  | none | some "" => .ok .null
  | some text =>
    match Text.ofData? (Text.octets text) with
    | none => .error 400
    | some text =>
      match Json.read (withoutMark text) with
      | .ok body => .ok body
      | .error .malformed => .error 422
      | .error (.numeral _) | .error (.tooDeep _) => .error 400

/-- Short texts for calls that lead nowhere. -/
def detail (text : String) : Option Json := some (.object [("detail", .string text)])

def refuse (status : Nat) : Response :=
  if status = 400 then { status, body := detail "There was an error parsing the body" }
  else { status }

/-- Puts a reply into a response. -/
def Response.ofReply : Reply → Response
  | .data body => { status := 200, body := some body }
  | .table text fileName =>
    { status := 200
      text := some text
      disposition := fileName.map fun name => s!"attachment; filename={name}" }

/-- A response as it can be sent: a body cannot that holds a number with too many digits, or half of a
pair. -/
def Response.checked (response : Response) : Except Fault Response :=
  if !response.body.all Json.isWritable then .error (.ofNumeral .unwritable)
  else if !response.body.all Json.isWhole then .error .notWhole
  else .ok response

/-- Reads the request of a call to an endpoint and carries it out. What a request has changed stays
changed also if it fails or its response cannot be sent. -/
def perform (service : Service) (action : Action) (values : List String) (call : Call) :
    Service × Except Fault Response :=
  match if action.needsBody then readBody call else .ok .null with
  | .error status => (service, .ok (refuse status))
  | .ok body =>
    let query := Address.queryPairs call.address.query
    let request := (values.mapM textInt?).bind fun values =>
      if action.needsBody && !body.isObject then none else request? action values query body
    match request with
    | none => (service, .ok (refuse 422))
    | some request =>
      match handler request service with
      | .ok reply service => (service, (Response.ofReply reply).checked)
      | .error fault service => (service, .error fault)

/-- What a call comes to, with the service that it leaves. -/
def answer (service : Service) (call : Call) : Service × Except Fault Response :=
  match destination call with
  | .action .description _ => (service, .ok { status := 200, body := some descriptionData })
  | .action .manual _ => (service, .ok { status := 200, text := some manualText })
  | .action .root _ => (service, .ok { status := 307, location := some "/docs" })
  | .action .icon _ => (service, .ok { status := 204 })
  | .action action values => service.perform action values call
  | .wrongMethod => (service, .ok { status := 405, body := detail "Method Not Allowed" })
  | .redirect location => (service, .ok { status := 307, location := some location })
  | .nowhere => (service, .ok { status := 404, body := detail "Not Found" })

/-- The method that asks for a response without its content. -/
def contentless : String := "HEAD"

/-- Answers a call. -/
def respond (service : Service) (call : Call) : Service × Except Fault Response :=
  let (service, answered) := service.answer call
  (service, answered.map fun response =>
    if call.method = contentless then { response with body := none, text := none } else response)

end Trackage.Service
