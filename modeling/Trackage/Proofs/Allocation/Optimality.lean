import Trackage.Proofs.Allocation.Priority

/-!
The order of priority as an optimum. Among all vectors of rows that the trains could be given
together, an allocation has the lexicographically greatest lengths, and no other vector has the same
lengths.
-/

namespace Trackage

/-- What trains may be given together: each gets a leading part of its request, however the ends of
its sections are ordered, clear of what other trains occupy and of what earlier trains get. -/
structure Admissible (occupied requested vector : List (List Segment)) : Prop where
  length_eq : vector.length = requested.length
  leading : ∀ (i : Nat) (row request : List Segment), vector[i]? = some row →
    requested[i]? = some request → ∃ part, LeadingPart part request ∧ sameSegments row part = true
  clear_of_occupied : ∀ (i j : Nat) (row route : List Segment), vector[i]? = some row →
    occupied[j]? = some route → j ≠ i → ClearOf row route
  clear_of_earlier : ∀ (i j : Nat) (row earlier : List Segment), vector[i]? = some row →
    vector[j]? = some earlier → j < i → ClearOf row earlier

theorem Served.admissible {occupied requested allocated : List (List Segment)}
    (served : Served occupied requested allocated) : Admissible occupied requested allocated := by
  refine ⟨served.length_eq, ?_, ?_, ?_⟩
  · intro i row request row_at request_at
    exact ⟨row, (served.greatest i request row request_at row_at).leading, sameSegments_refl row⟩
  · intro i j row route row_at route_at other
    exact served.clear_of_occupied row_at route_at other
  · intro i j row earlier row_at earlier_at before
    exact served.clear_of_earlier row_at earlier_at before

private theorem lex_or_eq {xs ys : List Nat} (lengths : xs.length = ys.length)
    (bounded : ∀ i : Nat, (∀ j < i, xs[j]? = ys[j]?) →
      ∀ x y, xs[i]? = some x → ys[i]? = some y → x ≤ y) :
    List.Lex (· < ·) xs ys ∨ xs = ys := by
  induction xs generalizing ys with
  | nil =>
    cases ys with
    | nil => exact .inr rfl
    | cons y ys => cases lengths
  | cons x xs ih =>
    cases ys with
    | nil => cases lengths
    -- The first entries decide unless they are equal.
    | cons y ys =>
      have below : x ≤ y := bounded 0 (fun j absent => by omega) x y rfl rfl
      rcases Nat.lt_or_eq_of_le below with less | rfl
      · exact .inl (.rel less)
      · have rest := ih (Nat.succ.inj lengths) fun i before =>
          bounded (i + 1) fun j earlier => by
            cases j with
            | zero => rfl
            | succ j => exact before j (Nat.lt_of_succ_lt_succ earlier)
        exact rest.imp .cons (congrArg (x :: ·))

private theorem not_lex_of_le {xs ys : List Nat} (below : List.Forall₂ (· ≤ ·) ys xs) :
    ¬ List.Lex (· < ·) xs ys := by
  intro less
  induction below with
  | nil => cases less
  | cons first _ ih =>
    cases less with
    | rel strict => omega
    | cons later => exact ih later

section Comparison

variable {track : Track} {occupied requested allocated vector : List (List Segment)}
variable (occupied_on : ∀ route ∈ occupied, LiesOn route track)
variable (requested_on : ∀ request ∈ requested, LiesOn request track)
variable (served : Served occupied requested allocated)
variable (admissible : Admissible occupied requested vector)
include occupied_on requested_on served admissible

/-- While the trains before it get what an allocation grants them, no train can get more. -/
theorem Admissible.leads_granted {i : Nat}
    (agree : ∀ (j : Nat) (row given : List Segment), j < i → vector[j]? = some row →
      allocated[j]? = some given → List.Forall₂ Segment.Same row given)
    {row given : List Segment} (row_at : vector[i]? = some row)
    (given_at : allocated[i]? = some given) :
    ∃ part, LeadingPart part given ∧ List.Forall₂ Segment.Same row part := by
  obtain ⟨request, request_at, great⟩ := served.exists_request given_at
  obtain ⟨part, leads, same⟩ := admissible.leading i row request row_at request_at
  rw [sameSegments_iff] at same
  have request_on := requested_on request (List.mem_of_getElem? request_at)
  have part_on := leads.liesOn request_on
  have row_on := part_on.of_same same
  have covered := touches_of_same (forall₂_same_symm same)
  -- The grant is the greatest of all leading parts that are clear of what is barred, so that it is
  -- enough that this part is.
  refine ⟨part, great.greatest part leads (not_barred_of_clear ?_ ?_), same⟩
  · intro j route route_at other
    have route_on := occupied_on route (List.mem_of_getElem? route_at)
    have clear := admissible.clear_of_occupied i j row route row_at route_at other
    exact clear.mono part_on row_on route_on covered
  -- The grant of an earlier train covers the same points as its entry of the vector.
  · intro j earlier earlier_at before
    obtain ⟨wanted, wanted_at, granted⟩ := served.exists_request earlier_at
    have earlier_on := granted.leading.liesOn (requested_on wanted (List.mem_of_getElem? wanted_at))
    have inside : j < vector.length := by
      rw [admissible.length_eq, ← served.length_eq]
      exact (List.getElem?_eq_some_iff.mp earlier_at).1
    have entry_at := List.getElem?_eq_getElem inside
    have entry_same := agree j vector[j] earlier before entry_at earlier_at
    have entry_on := earlier_on.of_same entry_same
    have clear := admissible.clear_of_earlier i j row vector[j] row_at entry_at before
    have part_clear := clear.mono part_on row_on entry_on covered
    have earlier_covered := touches_of_same (forall₂_same_symm entry_same)
    exact (part_clear.symm.mono earlier_on entry_on part_on earlier_covered).symm

theorem Admissible.same_of_lengths {i : Nat}
    (lengths : ∀ j < i, (vector.map lengthOf)[j]? = (allocated.map lengthOf)[j]?) :
    ∀ (j : Nat) (row given : List Segment), j < i → vector[j]? = some row →
      allocated[j]? = some given → List.Forall₂ Segment.Same row given := by
  -- The rows before a train agree by induction, and a leading part of equal length is all of it.
  intro j
  induction j using Nat.strongRecOn with
  | ind j ih =>
    intro row given before row_at given_at
    obtain ⟨part, leads, same⟩ := admissible.leads_granted occupied_on requested_on served
      (fun k row given earlier => ih k earlier row given (Nat.lt_trans earlier before))
      row_at given_at
    have length_eq := lengths j before
    rw [List.getElem?_map, List.getElem?_map, row_at, given_at] at length_eq
    have part_length : lengthOf part = lengthOf given :=
      (lengthOf_eq_of_same same).symm.trans (Option.some.inj length_eq)
    rw [← leads.eq_of_lengthOf_eq part_length]
    exact same

theorem Admissible.lengths_le :
    List.Lex (· < ·) (vector.map lengthOf) (allocated.map lengthOf) ∨
      vector.map lengthOf = allocated.map lengthOf := by
  apply lex_or_eq
  · rw [List.length_map, List.length_map, admissible.length_eq, served.length_eq]
  · intro i lengths x y x_at y_at
    rw [List.getElem?_map, Option.map_eq_some_iff] at x_at y_at
    obtain ⟨row, row_at, rfl⟩ := x_at
    obtain ⟨given, given_at, rfl⟩ := y_at
    have agree := admissible.same_of_lengths occupied_on requested_on served lengths
    obtain ⟨part, leads, same⟩ :=
      admissible.leads_granted occupied_on requested_on served agree row_at given_at
    rw [lengthOf_eq_of_same same]
    exact leads.lengthOf_le

end Comparison

/-- Requests that are admissible as they stand are granted unchanged. -/
theorem Served.eq_requested {track : Track} {occupied requested allocated : List (List Segment)}
    (occupied_on : ∀ route ∈ occupied, LiesOn route track)
    (requested_on : ∀ request ∈ requested, LiesOn request track)
    (served : Served occupied requested allocated)
    (admissible : Admissible occupied requested requested) : allocated = requested := by
  have leading (i : Nat) (in_allocated : i < allocated.length)
      (in_requested : i < requested.length) : LeadingPart allocated[i] requested[i] :=
    (served.greatest i _ _ (List.getElem?_eq_getElem in_requested)
      (List.getElem?_eq_getElem in_allocated)).leading
  -- Grants are no longer than requests, so that lengths which come no earlier are equal.
  have below : List.Forall₂ (· ≤ ·) (allocated.map lengthOf) (requested.map lengthOf) := by
    refine List.forall₂_iff_get.mpr ⟨by simp [served.length_eq], fun i first second => ?_⟩
    simp only [List.length_map] at first second
    simpa using (leading i first second).lengthOf_le
  have equal := (admissible.lengths_le occupied_on requested_on served).resolve_left
    (not_lex_of_le below)
  refine List.ext_getElem served.length_eq fun i in_allocated in_requested => ?_
  refine (leading i in_allocated in_requested).eq_of_lengthOf_eq ?_
  have at_i := congrArg (·[i]?) equal
  simpa [in_allocated, in_requested] using at_i.symm

/-- An allocation on one track is admissible and has the lexicographically greatest lengths of all
admissible vectors; an admissible vector of the same lengths is the same; and requests that are
admissible as they stand are granted unchanged. -/
theorem allocate?_optimal {track : Track} {occupied requested : List (List Segment)}
    (occupied_on : ∀ route ∈ occupied, LiesOn route track)
    (requested_on : ∀ request ∈ requested, LiesOn request track)
    (lengths : occupied.length = requested.length) :
    ∃ allocated, allocate? occupied requested = some allocated ∧
      Admissible occupied requested allocated ∧
      (∀ vector, Admissible occupied requested vector →
        (List.Lex (· < ·) (vector.map lengthOf) (allocated.map lengthOf) ∨
          vector.map lengthOf = allocated.map lengthOf) ∧
        (vector.map lengthOf = allocated.map lengthOf →
          List.Forall₂ (fun row given => sameSegments row given = true) vector allocated)) ∧
      (Admissible occupied requested requested → allocated = requested) := by
  obtain ⟨allocated, answered, served⟩ := allocate?_served occupied_on requested_on lengths
  refine ⟨allocated, answered, served.admissible, ?_, ?_⟩
  · intro vector admissible
    refine ⟨admissible.lengths_le occupied_on requested_on served, fun equal => ?_⟩
    have count : vector.length = allocated.length :=
      admissible.length_eq.trans served.length_eq.symm
    refine List.forall₂_iff_get.mpr ⟨count, fun i in_vector in_allocated => ?_⟩
    rw [sameSegments_iff]
    exact admissible.same_of_lengths occupied_on requested_on served (fun j _ => by rw [equal])
      i _ _ (Nat.lt_succ_self i) (List.getElem?_eq_getElem in_vector)
      (List.getElem?_eq_getElem in_allocated)
  · exact served.eq_requested occupied_on requested_on

/-- Two trains that head for each other leave no better choice. -/
theorem allocate?_optimal_headOn :
    (∀ route ∈ headOnOccupied, LiesOn route (.single .line)) ∧
      (∀ request ∈ headOnRequested, LiesOn request (.single .line)) ∧
      headOnOccupied.length = headOnRequested.length ∧
      ∃ allocated, allocate? headOnOccupied headOnRequested = some allocated ∧
        ∀ vector, Admissible headOnOccupied headOnRequested vector →
          List.Lex (· < ·) (vector.map lengthOf) (allocated.map lengthOf) ∨
            vector.map lengthOf = allocated.map lengthOf := by
  obtain ⟨occupied_on, requested_on⟩ := headOn_liesOn
  obtain ⟨allocated, answered, -, greatest, -⟩ := allocate?_optimal occupied_on requested_on rfl
  exact ⟨occupied_on, requested_on, rfl, allocated, answered, fun vector admissible =>
    (greatest vector admissible).1⟩

end Trackage
