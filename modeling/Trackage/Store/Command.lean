import Trackage.Json.Writer
import Trackage.Payload.Field
import Trackage.Store.Basic

/-!
Commands to the store, as untyped data. The arguments of a command are made cells one after the other
before anything is carried out, so that one that cannot be stored is found out first.
-/

namespace Trackage.Store

/-- Refuses a command with an argument missing or one too many. -/
def checkArguments (command : Json) (required optional : List String) : Except Fault Unit :=
  match command with
  | .object fields =>
    let known := "do" :: required ++ optional
    if required.all (fun key => (command.get? key).isSome) && fields.all (known.contains ·.1) then
      .ok ()
    else .error .wrongKind
  | _ => .error .wrongKind

/-- What a listing shows when nothing is said about it. -/
def usualLimit : Int := 50

/-- The bounds of a listing, which stand from a place on: the offset and the limit. -/
def bounds (command : Json) (place : Nat) : Except Fault (Cell × Cell) := do
  let limit ← Cell.ofJson place ((command.get? "limit").getD (.int usualLimit))
  let offset ← Cell.ofJson (place + 1) ((command.get? "offset").getD (.int 0))
  return (offset, limit)

/-- The argument that points to a row. -/
def key (command : Json) (name : String) : Except Fault Cell := Cell.ofJson 1 (command.getD name)

/-- Data that is stored as its text, in which no text may hold half a pair. -/
def storable (data : Json) : Except Fault Json :=
  if data.isWhole then .ok data else .error .notWhole

/-- Changes a track; where nothing is given to change, the store is not even asked. -/
def changeTrack (store : Store) (command : Json) : Except Fault (Store × Bool) := do
  let given (name : String) : Option Json := (command.get? name).filter fun value => !value.isNull
  let name ← (given "name").mapM (Cell.ofJson 1)
  let place := if name.isSome then 2 else 1
  let definition ← (given "definition").mapM (Cell.ofJson place)
  let place := if definition.isSome then place + 1 else place
  if name.isNone && definition.isNone then return (store, false)
  store.updateTrack (← Cell.ofJson place (command.getD "tid")) name definition

/-- The run that a command stores. -/
def givenRun (command : Json) : Except Fault StoredRun := do
  let track ← Cell.ofJson 1 (command.getD "track_id")
  let name ← Cell.ofJson 2 (command.getD "name")
  let comment ← Cell.ofJson 3 (command.getD "comment")
  let input ← storable (command.getD "input_payload")
  let allocation ← storable (command.getD "allocation")
  let indicators ← storable (command.getD "kpis")
  return ⟨track.asNumber, name.text?, comment.text?, input, allocation, indicators⟩

/-- Carries out one command. -/
def execute (store : Store) (command : Json) : Except Fault (Store × Json) := do
  match command.get? "do" with
  | some (.string "init_db") =>
    checkArguments command [] []
    return (store, .null)
  | some (.string "save_track") =>
    checkArguments command ["name", "definition"] []
    let name ← Cell.ofJson 1 (command.getD "name")
    let definition ← Cell.ofJson 2 (command.getD "definition")
    let name ← required "name" name.text?
    let definition ← required "definition" definition.text?
    let (store, id) := store.saveTrack name definition
    return (store, .natural id)
  | some (.string "list_tracks") =>
    checkArguments command [] ["offset", "limit"]
    let (offset, limit) ← bounds command 1
    let rows ← store.listTracks offset limit
    return (store, .ofList (fun row => row.2.toJson row.1) rows)
  | some (.string "get_track") =>
    checkArguments command ["tid"] []
    let key ← key command "tid"
    return (store, .ofOption (fun row => row.2.toJson row.1) (store.getTrack key))
  | some (.string "update_track") =>
    checkArguments command ["tid"] ["name", "definition"]
    let (store, changed) ← store.changeTrack command
    return (store, .bool changed)
  | some (.string "delete_track") =>
    checkArguments command ["tid"] []
    let (store, found) := store.deleteTrack (← key command "tid")
    return (store, .bool found)
  | some (.string "save_run") =>
    checkArguments command ["track_id", "input_payload", "allocation", "kpis"] ["name", "comment"]
    let (store, id) := store.saveRun (← givenRun command)
    return (store, .natural id)
  | some (.string "get_run") =>
    checkArguments command ["rid"] []
    let key ← key command "rid"
    return (store, .ofOption (fun row => row.2.toJson row.1) (store.getRun key))
  | some (.string "list_runs_by_track") =>
    checkArguments command ["tid"] ["offset", "limit"]
    let track ← key command "tid"
    let (offset, limit) ← bounds command 2
    let rows ← store.listRuns track offset limit
    return (store, .ofList (fun row => row.2.toListing row.1) rows)
  | some (.string "delete_run") =>
    checkArguments command ["rid"] []
    let (store, found) := store.deleteRun (← key command "rid")
    return (store, .bool found)
  | _ => throw .noMember

end Trackage.Store
