import Mathlib.Data.List.Forall2

/-!
When a row of checks succeeds. Each check either passes on a result or refuses, and the whole
succeeds when every one of them does. Where the whole is refused, one of the checks was.
-/

namespace Trackage.Outcome

variable {ε ε' α β : Type}

theorem bind_eq_ok_iff {x : Except ε α} {f : α → Except ε β} {b : β} :
    x >>= f = .ok b ↔ ∃ a, x = .ok a ∧ f a = .ok b := by
  cases x <;> simp [bind, Except.bind]

theorem mapError_eq_ok_iff {x : Except ε α} {f : ε → ε'} {a : α} :
    x.mapError f = .ok a ↔ x = .ok a := by
  cases x <;> simp [Except.mapError]

theorem map_eq_ok_iff {x : Except ε α} {f : α → β} {b : β} :
    x.map f = .ok b ↔ ∃ a, x = .ok a ∧ f a = b := by
  cases x <;> simp [Except.map]

/-- A list is taken over when each entry is. -/
theorem mapM_eq_ok_iff {f : α → Except ε β} {row : List α} {results : List β} :
    row.mapM f = .ok results ↔ List.Forall₂ (fun a b => f a = .ok b) row results := by
  induction row generalizing results with
  | nil => cases results <;> simp [pure, Except.pure]
  | cons a row ih =>
    rw [List.mapM_cons, bind_eq_ok_iff]
    constructor
    · rintro ⟨b, first, rest⟩
      obtain ⟨others, taken, made⟩ := bind_eq_ok_iff.mp rest
      cases made
      exact .cons first (ih.mp taken)
    · rintro (_ | ⟨first, rest⟩)
      exact ⟨_, first, bind_eq_ok_iff.mpr ⟨_, ih.mpr rest, rfl⟩⟩

/-- Where an entry is taken over by a function when it passes a check, a list is when all entries do. -/
theorem mapM_eq_ok_iff_of_check {f : α → Except ε β} {p : α → Prop} {g : α → β}
    (each : ∀ a b, f a = .ok b ↔ p a ∧ g a = b) {row : List α} {results : List β} :
    row.mapM f = .ok results ↔ (∀ a ∈ row, p a) ∧ row.map g = results := by
  rw [mapM_eq_ok_iff]
  simp only [each]
  rw [List.forall₂_and_left, ← List.forall₂_map_left_iff (f := g) (R := Eq), List.forall₂_eq_eq_eq]

/-- A list is taken over when there is something to take for each entry. -/
theorem exists_mapM_eq_ok {f : α → Except ε β} {r : β → α → Prop} {row : List α}
    (each : ∀ a ∈ row, ∃ b, f a = .ok b ∧ r b a) :
    ∃ results, row.mapM f = .ok results ∧ List.Forall₂ r results row := by
  simp only [mapM_eq_ok_iff]
  induction row with
  | nil => exact ⟨[], .nil, .nil⟩
  | cons a row ih =>
    obtain ⟨first, others⟩ := List.forall_mem_cons.mp each
    obtain ⟨b, ok, related⟩ := first
    obtain ⟨results, later, all_related⟩ := ih others
    exact ⟨b :: results, .cons ok later, .cons related all_related⟩

/-- Each result is that of some entry. -/
theorem exists_of_mem_right {r : α → β → Prop} {row : List α} {results : List β} {b : β}
    (related : List.Forall₂ r row results) (member : b ∈ results) : ∃ a ∈ row, r a b := by
  induction related with
  | nil => cases member
  | @cons a first row rest here later ih =>
    rcases List.mem_cons.mp member with rfl | inside
    · exact ⟨a, List.mem_cons_self, here⟩
    · obtain ⟨other, there, also_related⟩ := ih inside
      exact ⟨other, List.mem_cons_of_mem a there, also_related⟩

theorem exists_of_mem_mapM {f : α → Except ε β} {row : List α} {results : List β} {b : β}
    (taken : row.mapM f = .ok results) (member : b ∈ results) : ∃ a ∈ row, f a = .ok b :=
  exists_of_mem_right (r := fun a b => f a = .ok b) (mapM_eq_ok_iff.mp taken) member

theorem exists_of_mem_left {f : α → Except ε β} {row : List α} {results : List β} {a : α}
    (taken : row.mapM f = .ok results) (member : a ∈ row) : ∃ b, f a = .ok b := by
  induction mapM_eq_ok_iff.mp taken with
  | nil => cases member
  | @cons first b row rest ok later ih =>
    rcases List.mem_cons.mp member with rfl | inside
    · exact ⟨b, ok⟩
    · exact ih (mapM_eq_ok_iff.mpr later) inside

theorem bind_eq_error_iff {x : Except ε α} {f : α → Except ε β} {e : ε} :
    x >>= f = .error e ↔ x = .error e ∨ ∃ a, x = .ok a ∧ f a = .error e := by
  cases x <;> simp [bind, Except.bind]

theorem mapError_eq_error_iff {x : Except ε α} {f : ε → ε'} {e : ε'} :
    x.mapError f = .error e ↔ ∃ cause, x = .error cause ∧ f cause = e := by
  cases x <;> simp [Except.mapError]

/-- A list that is not taken over has an entry that is not. -/
theorem exists_of_mapM_eq_error {f : α → Except ε β} {row : List α} {e : ε}
    (failed : row.mapM f = .error e) : ∃ a ∈ row, f a = .error e := by
  induction row with
  | nil => cases failed
  | cons a row ih =>
    rw [List.mapM_cons, bind_eq_error_iff] at failed
    rcases failed with first | ⟨b, -, rest⟩
    · exact ⟨a, List.mem_cons_self, first⟩
    · rcases bind_eq_error_iff.mp rest with later | ⟨_, -, made⟩
      · obtain ⟨other, member, refused⟩ := ih later
        exact ⟨other, List.mem_cons_of_mem a member, refused⟩
      · cases made

end Trackage.Outcome
