/-!
Tables of rows with numbers. Every new row gets a number above all numbers given before, also those
of rows that are gone, so that no number ever comes back. Listings go from the newest row to the
oldest.
-/

namespace Trackage

/-- Rows with their numbers, the newest first, and the last number that was given. -/
structure Table (α : Type) where
  rows : List (Nat × α)
  lastId : Nat
  descending : rows.Pairwise fun newer older => older.1 < newer.1
  bounded : ∀ row ∈ rows, row.1 ≤ lastId

namespace Table

variable {α : Type}

def empty : Table α := ⟨[], 0, .nil, by simp⟩

instance : Inhabited (Table α) := ⟨empty⟩

/-- The number that the next row gets. -/
def nextId (table : Table α) : Nat := table.lastId + 1

/-- Adds a row. -/
def insert (table : Table α) (row : α) : Table α where
  rows := (table.nextId, row) :: table.rows
  lastId := table.nextId
  descending := .cons (fun old stored => Nat.lt_succ_of_le (table.bounded old stored))
    table.descending
  bounded := by
    intro row stored
    rcases List.mem_cons.mp stored with rfl | stored
    · exact Nat.le_refl _
    · exact Nat.le_succ_of_le (table.bounded row stored)

/-- The row of a number. -/
def get? (table : Table α) (id : Int) : Option α :=
  (table.rows.find? fun row => (row.1 : Int) == id).map (·.2)

/-- Changes the row of a number. -/
def modify (table : Table α) (id : Int) (change : α → α) : Table α where
  rows := table.rows.map fun row => (row.1, if (row.1 : Int) = id then change row.2 else row.2)
  lastId := table.lastId
  descending := List.pairwise_map.mpr table.descending
  bounded := by
    intro row stored
    obtain ⟨old, old_stored, rfl⟩ := List.mem_map.mp stored
    exact table.bounded old old_stored

/-- Keeps the rows that pass a test. -/
def filter (table : Table α) (keep : Nat → α → Bool) : Table α where
  rows := table.rows.filter fun row => keep row.1 row.2
  lastId := table.lastId
  descending := table.descending.filter _
  bounded := fun row stored => table.bounded row (List.mem_filter.mp stored).1

/-- Removes the row of a number. -/
def erase (table : Table α) (id : Int) : Table α := table.filter fun other _ => (other : Int) != id

/-- A page of a listing: as many rows as the limit says after as many as the offset says. A negative
limit stands for all rows, and a negative offset for none. -/
def page (rows : List β) (offset limit : Int) : List β :=
  let rest := rows.drop offset.toNat
  if limit < 0 then rest else rest.take limit.toNat

end Table

end Trackage
