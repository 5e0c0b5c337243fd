import Mathlib.Data.List.Nodup
import Trackage.Store.Basic
import Trackage.Proofs.Outcome

/-!
Rows of tables and of the store. A number stands for one row, and a change of one row leaves the rows
of all other numbers as they are.
-/

namespace Trackage

/-- Where keys are distinct, a key finds the entry that has it. -/
theorem find?_key_eq_some_iff {α κ : Type} [BEq κ] [LawfulBEq κ] {entries : List α} {key : α → κ}
    (distinct : (entries.map key).Nodup) {k : κ} {entry : α} :
    (entries.find? fun entry => key entry == k) = some entry ↔ entry ∈ entries ∧ key entry = k := by
  constructor
  · intro found
    exact ⟨List.mem_of_find?_eq_some found, by simpa using List.find?_some found⟩
  · rintro ⟨member, rfl⟩
    obtain ⟨first, found⟩ : ∃ first,
        (entries.find? fun other => key other == key entry) = some first := by
      rw [← Option.isSome_iff_exists, List.find?_isSome]
      exact ⟨entry, member, by simp⟩
    have same_key : key first = key entry := by simpa using List.find?_some found
    rw [found, List.inj_on_of_nodup_map distinct (List.mem_of_find?_eq_some found) member same_key]

namespace Table

variable {α : Type} {table : Table α} {id other : Int} {row : α}

/-- No two rows have the same number. -/
theorem nodup_numbers (table : Table α) : (table.rows.map fun row => (row.1 : Int)).Nodup := by
  rw [List.Nodup, List.pairwise_map]
  exact table.descending.imp fun {newer older} below => by omega

theorem get?_eq_some_iff :
    table.get? id = some row ↔ ∃ n : Nat, (n : Int) = id ∧ (n, row) ∈ table.rows := by
  unfold get?
  rw [Option.map_eq_some_iff]
  constructor
  · rintro ⟨⟨n, stored⟩, found, rfl⟩
    obtain ⟨member, number⟩ := (find?_key_eq_some_iff table.nodup_numbers).mp found
    exact ⟨n, number, member⟩
  · rintro ⟨n, number, member⟩
    exact ⟨(n, row), (find?_key_eq_some_iff table.nodup_numbers).mpr ⟨member, number⟩, rfl⟩

/-- A new row does not take the place of one that is there. -/
theorem get?_insert (stored : table.get? id = some row) (new : α) :
    (table.insert new).get? id = some row := by
  obtain ⟨n, number, member⟩ := get?_eq_some_iff.mp stored
  exact get?_eq_some_iff.mpr ⟨n, number, List.mem_cons_of_mem _ member⟩

theorem get?_modify (change : α → α) : (table.modify id change).get? other =
    if other = id then (table.get? id).map change else table.get? other := by
  simp only [get?, modify, List.find?_map, Option.map_map, Function.comp_def]
  by_cases same : other = id
  · rw [if_pos same, ← same]
    cases found : table.rows.find? fun row => (row.1 : Int) == other with
    | none => rfl
    | some stored =>
      have number : (stored.1 : Int) = other := by simpa using List.find?_some found
      simp only [Option.map_some, if_pos number]
  · rw [if_neg same]
    cases found : table.rows.find? fun row => (row.1 : Int) == other with
    | none => rfl
    | some stored =>
      have number : (stored.1 : Int) = other := by simpa using List.find?_some found
      simp only [Option.map_some, number, if_neg same]

theorem get?_erase : (table.erase id).get? other = if other = id then none else table.get? other := by
  simp only [get?, erase, filter, List.find?_filter]
  split
  next same =>
    subst same
    simp
  next different =>
    congr 1
    refine congrArg (List.find? · table.rows) (funext fun row => ?_)
    by_cases itself : (row.1 : Int) = other <;> simp [itself, different]

/-- Numbers of rows are among those that were given. -/
theorem le_lastId (stored : table.get? id = some row) : id ≤ table.lastId := by
  obtain ⟨n, rfl, member⟩ := get?_eq_some_iff.mp stored
  exact Int.ofNat_le.mpr (table.bounded (n, row) member)

/-- The new row stands under the new number. -/
theorem get?_insert_nextId (new : α) : (table.insert new).get? table.nextId = some new :=
  get?_eq_some_iff.mpr ⟨table.nextId, rfl, List.mem_cons_self⟩

/-- Where no row has the number, erasing changes nothing. -/
theorem erase_eq_self (absent : table.get? id = none) : table.erase id = table := by
  have none_has : ∀ row ∈ table.rows, ((row.1 : Int) != id) = true := by
    simp only [bne_iff_ne]
    rintro ⟨n, row⟩ member rfl
    cases absent.symm.trans (get?_eq_some_iff.mpr ⟨n, rfl, member⟩)
  obtain ⟨rows, lastId, descending, bounded⟩ := table
  simp only [erase, filter, List.filter_eq_self.mpr none_has]

end Table

namespace Cell

theorem ofInt_eq_ok {value : Int} {cell : Cell} (made : ofInt value = .ok cell) :
    cell = .integer value ∧ fits value = true := by
  unfold ofInt at made
  split at made
  next fit => exact ⟨(Except.ok.inj made).symm, fit⟩
  next => cases made

theorem ofInt_of_fits {value : Int} (fit : fits value = true) : ofInt value = .ok (.integer value) :=
  if_pos fit

theorem ofText_eq_ok {value : String} {cell : Cell} (made : ofText value = .ok cell) :
    cell = .text value := by
  unfold ofText at made
  split at made
  next => exact (Except.ok.inj made).symm
  next => cases made

theorem mapM_ofText_eq_ok {value : Option String} {cell : Option Cell}
    (made : value.mapM ofText = .ok cell) : cell = value.map .text := by
  cases value with
  | none => cases made; rfl
  | some text =>
    obtain ⟨one, first, last⟩ := Outcome.bind_eq_ok_iff.mp made
    cases last
    rw [ofText_eq_ok first, Option.map_some]

/-- Whole numbers are found by themselves alone. -/
theorem isFoundBy_integer {kept key : Int} :
    (integer kept).isFoundBy (.integer key) = true ↔ kept = key := by
  have units (value : Int) :
      Binary64.signedSignificand (decide (value < 0)) value.natAbs = value := by
    unfold Binary64.signedSignificand
    split
    next negative =>
      have below := of_decide_eq_true negative
      omega
    next positive =>
      have above := of_decide_eq_false (Bool.eq_false_iff.mpr positive)
      omega
  change Binary64.eqv (.finite (kept < 0) kept.natAbs 0) (.finite (key < 0) key.natAbs 0) = true ↔ _
  simp only [Binary64.eqv, Binary64.lt, units, Int.min_self, Int.sub_self, Int.toNat_zero,
    Bool.and_eq_true, Bool.not_eq_true', decide_eq_false_iff_not]
  have one : ((Binary64.twoTo 0 : Nat) : Int) = 1 := rfl
  rw [one]
  omega

end Cell

namespace Store

variable {α : Type} {table : Table α} {store : Store} {id : Int}

theorem rowAt?_integer :
    rowAt? table (.integer id) = (table.get? id).map fun row => (id, row) := by
  change (table.get? id >>= fun row => some (id, row)) = _
  cases table.get? id <;> rfl

theorem eraseAt_integer : eraseAt table (.integer id) = (table.erase id, (table.get? id).isSome) := by
  unfold eraseAt
  rw [rowAt?_integer]
  cases stored : table.get? id with
  | none => rw [Table.erase_eq_self stored]; rfl
  | some row => rfl

theorem deleteTrack_tracks : (store.deleteTrack (.integer id)).1.tracks = store.tracks.erase id := by
  simp only [deleteTrack, eraseAt_integer]

/-- The row of a track after a change; what is not given stays. -/
def changedRow (row : StoredTrack) (name definition : Option String) : StoredTrack :=
  ⟨name.getD row.name, definition.getD row.definition⟩

theorem updateTrack_integer (name definition : Option String) :
    store.updateTrack (.integer id) (name.map .text) (definition.map .text) =
      .ok (match store.tracks.get? id with
        | none => (store, false)
        | some row =>
          ({ store with
              tracks := store.tracks.modify id fun _ => changedRow row name definition }, true)) := by
  unfold updateTrack getTrack
  rw [rowAt?_integer]
  cases store.tracks.get? id with
  | none => rfl
  | some row => cases name <;> cases definition <;> rfl

end Store

end Trackage
