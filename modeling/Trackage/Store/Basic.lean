import Trackage.Json.Reader
import Trackage.Json.Writer
import Trackage.Store.Cell
import Trackage.Store.Table

/-!
The store of tracks and of the allocations that were run on them. Rows are looked up by cells, of
which only those that stand for a whole number point to a row. Runs are deleted with their track, but
a run may name a track that is not there, or something that is no number at all. The data of a run is
kept in columns of texts, and read from them whenever the run is looked up.

The time at which a row was created is no part of it here. Every row has one and every listing shows
it, but it comes from a clock and not from a request: no look-up, order or answer depends on it.
-/

namespace Trackage

/-- A stored track: its name and its definition. -/
structure StoredTrack where
  name : String
  definition : String
deriving DecidableEq, Repr

/-- A stored run: the track it was run on, what was asked for, and what came of it. -/
structure StoredRun where
  track : Cell
  name : Option String
  comment : Option String
  input : Json
  allocation : Json
  indicators : Json

/-- What is kept. -/
structure Store where
  tracks : Table StoredTrack
  runs : Table StoredRun

namespace Store

def empty : Store := ⟨.empty, .empty⟩

instance : Inhabited Store := ⟨empty⟩

/-- Stores a track; the answer is its number. -/
def saveTrack (store : Store) (name definition : String) : Store × Nat :=
  ({ store with tracks := store.tracks.insert ⟨name, definition⟩ }, store.tracks.nextId)

/-- The number that a bound of a listing has to be. -/
def bound (cell : Cell) : Except Fault Int :=
  match cell.index? with
  | some value => .ok value
  | none => .error (.constraint "datatype mismatch")

/-- A page of a listing. Where no rows are asked for, the offset is not even looked at. -/
def page (rows : List α) (offset limit : Cell) : Except Fault (List α) := do
  let limit ← bound limit
  if limit = 0 then return []
  let offset ← bound offset
  return Table.page rows offset limit

def listTracks (store : Store) (offset limit : Cell) : Except Fault (List (Nat × StoredTrack)) :=
  page store.tracks.rows offset limit

/-- The row that a cell points to. -/
def rowAt? (table : Table α) (key : Cell) : Option (Int × α) := do
  let id ← key.index?
  return (id, ← table.get? id)

/-- The table without the row that a cell points to, and whether there was one. -/
def eraseAt (table : Table α) (key : Cell) : Table α × Bool :=
  match rowAt? table key with
  | some (id, _) => (table.erase id, true)
  | none => (table, false)

def getTrack (store : Store) (key : Cell) : Option (Int × StoredTrack) := rowAt? store.tracks key

/-- A part of a stored track that has to be there. -/
def required (column : String) (value : Option String) : Except Fault String :=
  match value with
  | some text => .ok text
  | none => .error (.constraint s!"NOT NULL constraint failed: tracks.{column}")

/-- Changes the name or the definition of a track, or both; what is not given stays. The answer says
whether there was a track to change. -/
def updateTrack (store : Store) (key : Cell) (name definition : Option Cell) :
    Except Fault (Store × Bool) := do
  match store.getTrack key with
  | none => return (store, false)
  | some (id, row) =>
    let name ← name.elim (.ok row.name) fun cell => required "name" cell.text?
    let definition ← definition.elim (.ok row.definition) fun cell =>
      required "definition" cell.text?
    return ({ store with tracks := store.tracks.modify id fun _ => ⟨name, definition⟩ }, true)

/-- Deletes a track and its runs. The answer says whether the track was there. -/
def deleteTrack (store : Store) (key : Cell) : Store × Bool :=
  let (tracks, found) := eraseAt store.tracks key
  (⟨tracks, store.runs.filter fun _ run => !run.track.isFoundBy key⟩, found)

/-- Stores a run; the answer is its number. -/
def saveRun (store : Store) (run : StoredRun) : Store × Nat :=
  ({ store with runs := store.runs.insert run }, store.runs.nextId)

def getRun (store : Store) (key : Cell) : Option (Int × StoredRun) := rowAt? store.runs key

def listRuns (store : Store) (track offset limit : Cell) :
    Except Fault (List (Nat × StoredRun)) :=
  page (store.runs.rows.filter fun row => row.2.track.isFoundBy track) offset limit

/-- Deletes a run. The answer says whether it was there. -/
def deleteRun (store : Store) (key : Cell) : Store × Bool :=
  let (runs, found) := eraseAt store.runs key
  ({ store with runs }, found)

end Store

/-- A stored track with its number. -/
def StoredTrack.toJson (id : Int) (row : StoredTrack) : Json :=
  .object [("id", .int id), ("name", .string row.name), ("definition", .string row.definition)]

/-- A stored run with its number. -/
def StoredRun.toJson (id : Int) (row : StoredRun) : Json :=
  .object [
    ("id", .int id), ("track_id", row.track.toJson), ("name", .ofOption .string row.name),
    ("comment", .ofOption .string row.comment), ("input_payload", row.input),
    ("allocation", row.allocation), ("kpis", row.indicators)]

/-- A stored run in a listing. -/
def StoredRun.toListing (id : Nat) (row : StoredRun) : Json :=
  .object [
    ("id", .natural id), ("name", .ofOption .string row.name),
    ("comment", .ofOption .string row.comment)]

/-- A stored run with its data as texts. -/
structure RunRow where
  track : Cell
  name : Option String
  comment : Option String
  input : String
  allocation : String
  indicators : String

def StoredRun.toRow (run : StoredRun) : RunRow where
  track := run.track
  name := run.name
  comment := run.comment
  input := run.input.kept
  allocation := run.allocation.kept
  indicators := run.indicators.kept

/-- The run that a row holds. -/
def RunRow.run (row : RunRow) : Except JsonError StoredRun := do
  let input ← Json.read row.input
  let allocation ← Json.read row.allocation
  let indicators ← Json.read row.indicators
  return {
    track := row.track
    name := row.name
    comment := row.comment
    input
    allocation
    indicators }

end Trackage
