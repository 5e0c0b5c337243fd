import Trackage.Store.Command
import Trackage.Proofs.Store.Table

/-!
Listings of the store. Pages of one size, read on until one is empty, have every track once and the
newest first, and likewise the runs of a track and no others. Deleting a track takes its row and its
runs, and nothing else.
-/

namespace Trackage

/-- Pages are read on from a number until one is empty; what they have together. -/
inductive ReadOn {α : Type} (page : Nat → Except Fault (List α)) : Nat → List α → Prop
  | done {k : Nat} (empty : page k = .ok []) : ReadOn page k []
  | more {k : Nat} {rows others : List α} (shown : page k = .ok rows) (nonempty : rows ≠ [])
      (rest : ReadOn page (k + 1) others) : ReadOn page k (rows ++ others)

/-- Pages that divide rows have what is left of them from any page on. -/
theorem readOn_drop {α : Type} {rows : List α} {page : Nat → Except Fault (List α)} {size : Nat}
    (positive : 0 < size) (divides : ∀ k, page k = .ok ((rows.drop (k * size)).take size)) (k : Nat) :
    ReadOn page k (rows.drop (k * size)) := by
  -- What is left gets less from page to page.
  induction left : rows.length - k * size using Nat.strongRecOn generalizing k with
  | ind left ih =>
    have after : (rows.drop (k * size)).drop size = rows.drop ((k + 1) * size) := by
      rw [List.drop_drop, Nat.succ_mul]
    by_cases none_left : rows.length ≤ k * size
    · rw [List.drop_eq_nil_of_le none_left]
      apply ReadOn.done
      rw [divides, List.drop_eq_nil_of_le none_left, List.take_nil]
    · rw [← List.take_append_drop size (rows.drop (k * size)), after]
      apply ReadOn.more (divides k)
      · rw [ne_eq, List.take_eq_nil_iff, List.drop_eq_nil_iff]
        omega
      · refine ih (rows.length - (k + 1) * size) ?_ (k + 1) rfl
        rw [Nat.succ_mul]
        omega

/-- The track of a run is given by its number, or not at all. -/
def StoredRun.NamesByNumber (run : StoredRun) : Prop :=
  run.track = .null ∨ ∃ id, run.track = .integer id

namespace Store

variable {store next : Store} {command answer : Json}

/-! ### What commands do -/

/-- The store after a command; one that fails leaves it as it was. -/
def after (store : Store) (command : Json) : Store :=
  match store.execute command with
  | .ok (next, _) => next
  | .error _ => store

def run (store : Store) (commands : List Json) : Store := commands.foldl after store

/-- What a command can do to the store. -/
inductive Step (store : Store) (command : Json) : Store → Prop
  | unchanged : Step store command store
  | saved (name definition : String) : Step store command (store.saveTrack name definition).1
  | changed (id : Int) (row : StoredTrack) :
      Step store command { store with tracks := store.tracks.modify id fun _ => row }
  | deleted (key : Cell) : Step store command (store.deleteTrack key).1
  | ran {run : StoredRun} (given : givenRun command = .ok run) :
      Step store command (store.saveRun run).1
  | runDeleted (key : Cell) : Step store command (store.deleteRun key).1

theorem step_updateTrack {key : Cell} {name definition : Option Cell} {changed : Bool}
    (updated : store.updateTrack key name definition = .ok (next, changed)) (command : Json) :
    Step store command next := by
  unfold updateTrack at updated
  split at updated
  next =>
    cases updated
    exact .unchanged
  next id row _ =>
    obtain ⟨name, -, updated⟩ := Outcome.bind_eq_ok_iff.mp updated
    obtain ⟨definition, -, updated⟩ := Outcome.bind_eq_ok_iff.mp updated
    cases updated
    exact .changed id ⟨name, definition⟩

theorem step_changeTrack {changed : Bool}
    (updated : store.changeTrack command = .ok (next, changed)) : Step store command next := by
  unfold changeTrack at updated
  obtain ⟨name, -, updated⟩ := Outcome.bind_eq_ok_iff.mp updated
  obtain ⟨definition, -, updated⟩ := Outcome.bind_eq_ok_iff.mp updated
  dsimp only at updated
  by_cases absent : (name.isNone && definition.isNone) = true
  · rw [if_pos absent] at updated
    cases updated
    exact .unchanged
  · rw [if_neg absent] at updated
    obtain ⟨key, -, updated⟩ := Outcome.bind_eq_ok_iff.mp updated
    exact step_updateTrack updated command

theorem step_execute (executed : store.execute command = .ok (next, answer)) :
    Step store command next := by
  unfold execute at executed
  split at executed
  case h_11 => cases executed
  -- The arguments of every known command are checked first.
  all_goals obtain ⟨_, -, executed⟩ := Outcome.bind_eq_ok_iff.mp executed
  case h_1 =>
    cases executed
    exact .unchanged
  case h_2 =>
    obtain ⟨_, -, executed⟩ := Outcome.bind_eq_ok_iff.mp executed
    obtain ⟨_, -, executed⟩ := Outcome.bind_eq_ok_iff.mp executed
    obtain ⟨name, -, executed⟩ := Outcome.bind_eq_ok_iff.mp executed
    obtain ⟨definition, -, executed⟩ := Outcome.bind_eq_ok_iff.mp executed
    cases executed
    exact .saved name definition
  case h_3 =>
    obtain ⟨_, -, executed⟩ := Outcome.bind_eq_ok_iff.mp executed
    obtain ⟨_, -, executed⟩ := Outcome.bind_eq_ok_iff.mp executed
    cases executed
    exact .unchanged
  case h_4 | h_8 =>
    obtain ⟨_, -, executed⟩ := Outcome.bind_eq_ok_iff.mp executed
    cases executed
    exact .unchanged
  case h_5 =>
    obtain ⟨⟨changed, found⟩, updated, executed⟩ := Outcome.bind_eq_ok_iff.mp executed
    cases executed
    exact step_changeTrack updated
  case h_6 =>
    obtain ⟨key, -, executed⟩ := Outcome.bind_eq_ok_iff.mp executed
    cases executed
    exact .deleted key
  case h_7 =>
    obtain ⟨run, given, executed⟩ := Outcome.bind_eq_ok_iff.mp executed
    cases executed
    exact .ran given
  case h_9 =>
    obtain ⟨_, -, executed⟩ := Outcome.bind_eq_ok_iff.mp executed
    obtain ⟨_, -, executed⟩ := Outcome.bind_eq_ok_iff.mp executed
    obtain ⟨_, -, executed⟩ := Outcome.bind_eq_ok_iff.mp executed
    cases executed
    exact .unchanged
  case h_10 =>
    obtain ⟨key, -, executed⟩ := Outcome.bind_eq_ok_iff.mp executed
    cases executed
    exact .runDeleted key

theorem step_after (store : Store) (command : Json) : Step store command (store.after command) := by
  unfold after
  split
  next next answer executed => exact step_execute executed
  next => exact .unchanged

/-! ### Runs that name tracks by number -/

/-- A command that says which track a run was on says it by number, or says that it was on none. -/
def NumbersTrack (command : Json) : Prop :=
  ∀ value, command.get? "track_id" = some value → value = .null ∨ ∃ id, value = .int id

theorem namesByNumber_of_givenRun {run : StoredRun} (numbered : NumbersTrack command)
    (given : givenRun command = .ok run) : run.NamesByNumber := by
  obtain ⟨track, track_given, rest⟩ := Outcome.bind_eq_ok_iff.mp given
  obtain ⟨_, -, rest⟩ := Outcome.bind_eq_ok_iff.mp rest
  obtain ⟨_, -, rest⟩ := Outcome.bind_eq_ok_iff.mp rest
  obtain ⟨_, -, rest⟩ := Outcome.bind_eq_ok_iff.mp rest
  obtain ⟨_, -, rest⟩ := Outcome.bind_eq_ok_iff.mp rest
  obtain ⟨_, -, rest⟩ := Outcome.bind_eq_ok_iff.mp rest
  cases rest
  -- A track that is left out counts as one that is null.
  have nothing (absent : Cell.ofJson 1 .null = .ok track) : track.asNumber = .null := by
    cases absent
    rfl
  unfold Json.getD at track_given
  cases found : command.get? "track_id" with
  | none =>
    rw [found] at track_given
    exact .inl (nothing track_given)
  | some value =>
    rw [found] at track_given
    rcases numbered value found with rfl | ⟨id, rfl⟩
    · exact .inl (nothing track_given)
    · obtain ⟨rfl, -⟩ := Cell.ofInt_eq_ok track_given
      exact .inr ⟨id, rfl⟩

theorem mem_of_mem_eraseAt {α : Type} {table : Table α} {key : Cell} {row : Nat × α}
    (left : row ∈ (eraseAt table key).1.rows) : row ∈ table.rows := by
  unfold eraseAt at left
  split at left
  · exact (List.mem_filter.mp left).1
  · exact left

/-- Runs that are there name tracks by number if those did that were there before, and if the one
that may be new does. -/
theorem Step.namesByNumber (stepped : Step store command next) (numbered : NumbersTrack command)
    (named : ∀ row ∈ store.runs.rows, row.2.NamesByNumber) :
    ∀ row ∈ next.runs.rows, row.2.NamesByNumber := by
  intro row member
  cases stepped with
  | unchanged | saved | changed => exact named row member
  -- Runs only go, so that those which stay were there before.
  | deleted => exact named row (List.mem_filter.mp member).1
  | ran given =>
    -- No other command brings a row that was not there.
    rcases List.mem_cons.mp member with rfl | old
    · exact namesByNumber_of_givenRun numbered given
    · exact named row old
  | runDeleted => exact named row (mem_of_mem_eraseAt member)

theorem namesByNumber_run {commands : List Json} (numbered : ∀ command ∈ commands, NumbersTrack command)
    (named : ∀ row ∈ store.runs.rows, row.2.NamesByNumber) :
    ∀ row ∈ (run store commands).runs.rows, row.2.NamesByNumber := by
  induction commands generalizing store with
  | nil => exact named
  | cons command commands ih =>
    obtain ⟨first, others⟩ := List.forall_mem_cons.mp numbered
    exact ih others ((step_after store command).namesByNumber first named)

/-! ### Pages -/

theorem page_integer {α : Type} (rows : List α) (offset limit : Nat) :
    page rows (.integer offset) (.integer limit) = .ok ((rows.drop offset).take limit) := by
  change (if (limit : Int) = 0 then Except.ok [] else .ok (Table.page rows offset limit)) = _
  -- Both bounds are there, so that it does not matter which one is looked at first.
  split
  next none_asked =>
    rw [Int.natCast_eq_zero.mp none_asked, List.take_zero]
  next =>
    rw [Table.page, if_neg (Int.not_lt.mpr (Int.natCast_nonneg limit)), Int.toNat_natCast,
      Int.toNat_natCast]

def listTracksCommand (offset limit : Int) : Json :=
  .object [("do", .string "list_tracks"), ("offset", .int offset), ("limit", .int limit)]

def listRunsCommand (track offset limit : Int) : Json :=
  .object [("do", .string "list_runs_by_track"), ("tid", .int track), ("offset", .int offset),
    ("limit", .int limit)]

def deleteTrackCommand (track : Int) : Json :=
  .object [("do", .string "delete_track"), ("tid", .int track)]

section Commands

variable {track offset limit : Int}

/-- The bounds of a listing stand in a command by their names. -/
theorem bounds_of_get? {place : Nat} (offset_given : command.get? "offset" = some (.int offset))
    (limit_given : command.get? "limit" = some (.int limit)) (offset_fits : Cell.fits offset = true)
    (limit_fits : Cell.fits limit = true) :
    bounds command place = .ok (.integer offset, .integer limit) := by
  simp only [bounds, offset_given, limit_given, Option.getD_some, Cell.ofJson,
    Cell.ofInt_of_fits offset_fits, Cell.ofInt_of_fits limit_fits]
  rfl

theorem execute_listTracks (offset_fits : Cell.fits offset = true)
    (limit_fits : Cell.fits limit = true) : store.execute (listTracksCommand offset limit) =
      (store.listTracks (.integer offset) (.integer limit)).map fun rows =>
        (store, .ofList (fun row => row.2.toJson row.1) rows) := by
  change (do
    let both ← bounds (listTracksCommand offset limit) 1
    let rows ← store.listTracks both.1 both.2
    return (store, Json.ofList (fun row : Nat × StoredTrack => row.2.toJson row.1) rows)) = _
  rw [bounds_of_get? rfl rfl offset_fits limit_fits]
  rfl

theorem execute_listRuns (track_fits : Cell.fits track = true) (offset_fits : Cell.fits offset = true)
    (limit_fits : Cell.fits limit = true) : store.execute (listRunsCommand track offset limit) =
      (store.listRuns (.integer track) (.integer offset) (.integer limit)).map fun rows =>
        (store, .ofList (fun row => row.2.toListing row.1) rows) := by
  change (do
    let key ← Cell.ofInt track
    let both ← bounds (listRunsCommand track offset limit) 2
    let rows ← store.listRuns key both.1 both.2
    return (store, Json.ofList (fun row : Nat × StoredRun => row.2.toListing row.1) rows)) = _
  rw [Cell.ofInt_of_fits track_fits, bounds_of_get? rfl rfl offset_fits limit_fits]
  rfl

theorem execute_deleteTrack (store : Store) (track : Int) :
    store.execute (deleteTrackCommand track) = (Cell.ofInt track).map fun key =>
      ((store.deleteTrack key).1, .bool (store.deleteTrack key).2) := rfl

end Commands

/-- Pages of one size, which commands are answered with, divide the rows that are there: read on until
one is empty, they have every row once and the newest first. -/
structure Paged {α : Type} (store : Store) (size : Nat) (command : Int → Int → Json)
    (page : Cell → Cell → Except Fault (List (Nat × α))) (shown : Nat × α → Json)
    (there : Int → α → Prop) (rows : List (Nat × α)) : Prop where
  answered (k : Nat) (fit : Cell.fits (k * size : Nat) = true) :
    store.execute (command (k * size : Nat) size) =
      (page (.integer (k * size : Nat)) (.integer size)).map fun part => (store, .ofList shown part)
  read : ReadOn (fun k => page (.integer (k * size : Nat)) (.integer size)) 0 rows
  newest_first : rows.Pairwise fun newer older => older.1 < newer.1
  every (id : Int) (row : α) : (∃ n : Nat, (n : Int) = id ∧ (n, row) ∈ rows) ↔ there id row

theorem readOn_page {α : Type} (rows : List α) {size : Nat} (positive : 0 < size) :
    ReadOn (fun k => page rows (.integer (k * size : Nat)) (.integer size)) 0 rows := by
  have all := readOn_drop positive (fun k => page_integer rows (k * size) size) 0
  rwa [Nat.zero_mul, List.drop_zero] at all

theorem fits_natCast {size : Nat} (below : size < Cell.wordLimit) : Cell.fits size = true := by
  rw [Cell.fits, decide_eq_true_eq]
  unfold Cell.wordLimit at below ⊢
  omega

theorem rowAt?_eq_some_iff {α : Type} {table : Table α} {id : Int} {found : Int × α} :
    rowAt? table (.integer id) = some found ↔
      id = found.1 ∧ ∃ n : Nat, (n : Int) = id ∧ (n, found.2) ∈ table.rows := by
  obtain ⟨other, row⟩ := found
  rw [rowAt?_integer, ← Table.get?_eq_some_iff, Option.map_eq_some_iff]
  constructor
  · rintro ⟨row, stored, same⟩
    cases same
    exact ⟨rfl, stored⟩
  · rintro ⟨rfl, stored⟩
    exact ⟨row, stored, rfl⟩

theorem rowAt?_self_iff {α : Type} {table : Table α} {id : Int} {row : α} :
    rowAt? table (.integer id) = some (id, row) ↔
      ∃ n : Nat, (n : Int) = id ∧ (n, row) ∈ table.rows := by
  rw [rowAt?_eq_some_iff, and_iff_right rfl]

theorem paged_tracks (store : Store) {size : Nat} (positive : 0 < size) (below : size < Cell.wordLimit) :
    Paged store size listTracksCommand store.listTracks (fun row => row.2.toJson row.1)
      (fun id row => store.getTrack (.integer id) = some (id, row)) store.tracks.rows where
  answered _ fit := execute_listTracks fit (fits_natCast below)
  read := readOn_page _ positive
  newest_first := store.tracks.descending
  every _ _ := rowAt?_self_iff.symm

/-! ### The runs of a track -/

/-- Runs that name tracks by number are found by the numbers that they name. -/
theorem isFoundBy_iff {run : StoredRun} (named : run.NamesByNumber) {track : Int} :
    run.track.isFoundBy (.integer track) = true ↔ run.track = .integer track := by
  rcases named with none_named | ⟨id, numbered⟩
  · -- What holds nothing is found by no number.
    rw [none_named]
    exact iff_of_false Bool.false_ne_true nofun
  · rw [numbered, Cell.isFoundBy_integer, Cell.integer.injEq]

theorem paged_runs {track : Int} (named : ∀ row ∈ store.runs.rows, row.2.NamesByNumber)
    (track_fits : Cell.fits track = true) {size : Nat} (positive : 0 < size)
    (below : size < Cell.wordLimit) :
    Paged store size (listRunsCommand track) (store.listRuns (.integer track))
      (fun row => row.2.toListing row.1)
      (fun id run => store.getRun (.integer id) = some (id, run) ∧ run.track = .integer track)
      (store.runs.rows.filter fun row => row.2.track.isFoundBy (.integer track)) where
  answered _ fit := execute_listRuns track_fits fit (fits_natCast below)
  read := readOn_page _ positive
  newest_first := store.runs.descending.filter _
  every id run := by
    -- The test of the listing comes to an equation for every run that is stored.
    rw [getRun, rowAt?_self_iff]
    constructor
    · rintro ⟨n, number, listed⟩
      obtain ⟨member, found⟩ := List.mem_filter.mp listed
      exact ⟨⟨n, number, member⟩, (isFoundBy_iff (named _ member)).mp found⟩
    · rintro ⟨⟨n, number, member⟩, on_track⟩
      exact ⟨n, number, List.mem_filter.mpr ⟨member, (isFoundBy_iff (named _ member)).mpr on_track⟩⟩

/-! ### Deleting a track -/

/-- A track is deleted with its runs, and everything else stays. -/
structure Deleted (store next : Store) (track : Int) : Prop where
  tracks (id : Int) : next.getTrack (.integer id) =
    if id = track then none else store.getTrack (.integer id)
  runs (id : Int) : next.getRun (.integer id) =
    (store.getRun (.integer id)).filter fun row => row.2.track ≠ .integer track

theorem getTrack_deleteTrack (store : Store) (track id : Int) :
    (store.deleteTrack (.integer track)).1.getTrack (.integer id) =
      if id = track then none else store.getTrack (.integer id) := by
  rw [getTrack, rowAt?_integer, deleteTrack_tracks, Table.get?_erase, getTrack, rowAt?_integer]
  split <;> rfl

theorem mem_runs_deleteTrack {track : Int} (named : ∀ row ∈ store.runs.rows, row.2.NamesByNumber)
    {row : Nat × StoredRun} : row ∈ (store.deleteTrack (.integer track)).1.runs.rows ↔
      row ∈ store.runs.rows ∧ row.2.track ≠ .integer track := by
  change row ∈ store.runs.rows.filter _ ↔ _
  rw [List.mem_filter]
  refine and_congr_right fun member => ?_
  rw [ne_eq, ← isFoundBy_iff (named row member), Bool.not_eq_true, Bool.not_eq_true']

theorem getRun_deleteTrack {track : Int} (named : ∀ row ∈ store.runs.rows, row.2.NamesByNumber)
    (id : Int) : (store.deleteTrack (.integer track)).1.getRun (.integer id) =
      (store.getRun (.integer id)).filter fun row => row.2.track ≠ .integer track := by
  ext found
  rw [Option.filter_eq_some_iff, getRun, getRun, rowAt?_eq_some_iff, rowAt?_eq_some_iff, and_assoc]
  simp only [mem_runs_deleteTrack named, decide_eq_true_eq, ← and_assoc, exists_and_right]

theorem exists_deleted {track : Int} (named : ∀ row ∈ store.runs.rows, row.2.NamesByNumber)
    (fit : Cell.fits track = true) : ∃ next, Deleted store next track ∧
      store.execute (deleteTrackCommand track) =
        .ok (next, .bool (store.getTrack (.integer track)).isSome) := by
  refine ⟨(store.deleteTrack (.integer track)).1,
    ⟨getTrack_deleteTrack store track, getRun_deleteTrack named⟩, ?_⟩
  rw [execute_deleteTrack, Cell.ofInt_of_fits fit]
  have found : (store.deleteTrack (.integer track)).2 = (store.getTrack (.integer track)).isSome := by
    rw [deleteTrack, eraseAt_integer, getTrack, rowAt?_integer, Option.isSome_map]
  rw [← found]
  rfl

/-! ### Every history -/

/-- After any commands that number tracks, pages of any size divide the tracks and the runs of every
track. A track is deleted with its runs and nothing else, and the answer says whether it was there. -/
theorem listings_partition (commands : List Json)
    (numbered : ∀ command ∈ commands, NumbersTrack command) :
    let store := run .empty commands
    (∀ size : Nat, 0 < size → size < Cell.wordLimit →
      (∃ rows, Paged store size listTracksCommand store.listTracks (fun row => row.2.toJson row.1)
        (fun id row => store.getTrack (.integer id) = some (id, row)) rows) ∧
      ∀ track : Int, Cell.fits track = true →
        ∃ rows, Paged store size (listRunsCommand track) (store.listRuns (.integer track))
          (fun row => row.2.toListing row.1)
          (fun id run => store.getRun (.integer id) = some (id, run) ∧ run.track = .integer track)
          rows) ∧
    ∀ track : Int,
      (Cell.fits track = true → ∃ next, Deleted store next track ∧
        store.execute (deleteTrackCommand track) =
          .ok (next, .bool (store.getTrack (.integer track)).isSome)) ∧
      (Cell.fits track = false → store.execute (deleteTrackCommand track) = .error .overflow) := by
  intro store
  have named : ∀ row ∈ store.runs.rows, row.2.NamesByNumber := namesByNumber_run numbered nofun
  refine ⟨fun size positive below => ⟨⟨_, paged_tracks store positive below⟩, ?_⟩, ?_⟩
  · intro track track_fits
    exact ⟨_, paged_runs named track_fits positive below⟩
  · intro track
    refine ⟨exists_deleted named, fun unfit => ?_⟩
    rw [execute_deleteTrack, Cell.ofInt, unfit]
    rfl

def saveTrackCommand (name definition : String) : Json :=
  .object [("do", .string "save_track"), ("name", .string name), ("definition", .string definition)]

def saveRunCommand (track : Option Int) : Json :=
  .object [("do", .string "save_run"), ("track_id", .ofOption .int track),
    ("input_payload", .object []), ("allocation", .array []), ("kpis", .object [])]

/-- Three tracks with runs, of which the second is deleted. -/
def gapHistory : List Json := [
  saveTrackCommand "line" "10 j1 FACING j2 NORMAL", saveTrackCommand "ring" "", saveRunCommand (some 2),
  saveRunCommand (some 1), saveRunCommand none, saveTrackCommand "yard" "", deleteTrackCommand 2,
  saveRunCommand (some 1)]

theorem numbersTrack_gapHistory : ∀ command ∈ gapHistory, NumbersTrack command := by
  simp only [gapHistory, List.forall_mem_cons]
  refine ⟨nofun, nofun, ?_, ?_, ?_, nofun, nofun, ?_, nofun⟩
  all_goals
    intro value given
    cases given
    first | exact .inl rfl | exact .inr ⟨_, rfl⟩

/-- Two tracks are left with a number missing between them, and the first one has its runs. -/
theorem listings_partition_gap :
    let store := run .empty gapHistory
    (∀ command ∈ gapHistory, NumbersTrack command) ∧
    store.tracks.rows.map (·.1) = [3, 1] ∧ store.runs.rows.map (·.1) = [4, 3, 2] ∧
    (∃ rows, Paged store 2 listTracksCommand store.listTracks (fun row => row.2.toJson row.1)
      (fun id row => store.getTrack (.integer id) = some (id, row)) rows) ∧
    (∃ rows, Paged store 2 (listRunsCommand 1) (store.listRuns (.integer 1))
      (fun row => row.2.toListing row.1)
      (fun id run => store.getRun (.integer id) = some (id, run) ∧ run.track = .integer 1) rows) ∧
    ∃ next, Deleted store next 1 ∧
      store.execute (deleteTrackCommand 1) = .ok (next, .bool true) := by
  intro store
  obtain ⟨paged, deleted⟩ := listings_partition gapHistory numbersTrack_gapHistory
  obtain ⟨tracks, runs⟩ := paged 2 (by decide) (by decide)
  obtain ⟨next, only, answered⟩ := (deleted 1).1 (by decide)
  have stored : (store.getTrack (.integer 1)).isSome = true := by decide +kernel
  refine ⟨numbersTrack_gapHistory, by decide +kernel, by decide +kernel, tracks, runs 1 (by decide),
    next, only, ?_⟩
  rw [answered, stored]

end Store

end Trackage
