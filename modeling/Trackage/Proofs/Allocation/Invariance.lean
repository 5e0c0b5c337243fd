import Trackage.Proofs.Allocation.Optimality
import Trackage.Proofs.Route.Points

/-!
What leaves an allocation as it is. A grant that is requested again is granted again. What trains
occupy counts by its points only, however it is described. And where no two trains request a common
point, the order of the trains does not matter.
-/

namespace Trackage

/-- Another train than that of an index occupies a location. -/
def OccupiedByOthers (occupied : List (List Segment)) (i : Nat) (l : Location) : Prop :=
  ∃ j route, occupied[j]? = some route ∧ j ≠ i ∧ Touches route l

section Points

variable {track : Track} {occupied others : List (List Segment)}

theorem OccupiedByOthers.of_samePoints (occupied_on : ∀ route ∈ occupied, LiesOn route track)
    (others_on : ∀ route ∈ others, LiesOn route track)
    (same : List.Forall₂ (SamePoints track) occupied others) {i : Nat} {l : Location}
    (l_on : l.On track) (held : OccupiedByOthers occupied i l) : OccupiedByOthers others i l := by
  obtain ⟨j, route, route_at, other, touched⟩ := held
  obtain ⟨inside, rfl⟩ := List.getElem?_eq_some_iff.mp route_at
  have also_inside : j < others.length := same.length_eq ▸ inside
  have entries : SamePoints track occupied[j] others[j] := same.get inside also_inside
  have route_on := occupied_on _ (List.getElem_mem inside)
  have other_on := others_on _ (List.getElem_mem also_inside)
  exact ⟨j, others[j], List.getElem?_eq_getElem also_inside, other,
    (entries.touches_iff route_on other_on l_on).mp touched⟩

theorem occupiedByOthers_congr (occupied_on : ∀ route ∈ occupied, LiesOn route track)
    (others_on : ∀ route ∈ others, LiesOn route track)
    (same : List.Forall₂ (SamePoints track) occupied others) {i : Nat} {l : Location}
    (l_on : l.On track) : OccupiedByOthers occupied i l ↔ OccupiedByOthers others i l := by
  have back : List.Forall₂ (SamePoints track) others occupied :=
    List.Forall₂.flip (same.imp fun _ _ pair => pair.symm)
  exact ⟨.of_samePoints occupied_on others_on same l_on,
    .of_samePoints others_on occupied_on back l_on⟩

end Points

/-- What is admissible for some requests can be requested itself. -/
theorem Admissible.itself {occupied requested vector : List (List Segment)}
    (admissible : Admissible occupied requested vector) : Admissible occupied vector vector where
  length_eq := rfl
  leading i row request row_at request_at := by
    obtain rfl : row = request := Option.some.inj (row_at.symm.trans request_at)
    exact ⟨row, .refl row, sameSegments_refl row⟩
  clear_of_occupied := admissible.clear_of_occupied
  clear_of_earlier := admissible.clear_of_earlier

namespace Served

variable {occupied others requested allocated changed : List (List Segment)}

/-- The same requests are answered alike when other trains occupy the same of them. -/
theorem unique (served : Served occupied requested allocated)
    (also : Served others requested changed)
    (same : ∀ (i : Nat) (request : List Segment), requested[i]? = some request →
      ∀ l ∈ locationsOf request, OccupiedByOthers occupied i l ↔ OccupiedByOthers others i l) :
    allocated = changed := by
  refine List.ext_getElem? fun i => ?_
  -- Earlier trains were granted the same, so that the same is barred to this one.
  induction i using Nat.strongRecOn with
  | ind i ih =>
    have lengths : allocated.length = changed.length := served.length_eq.trans also.length_eq.symm
    cases row_at : allocated[i]? with
    | none =>
      rw [List.getElem?_eq_none_iff] at row_at
      exact (List.getElem?_eq_none_iff.mpr (lengths ▸ row_at)).symm
    | some row =>
      obtain ⟨request, request_at, great⟩ := served.exists_request row_at
      have inside : i < changed.length := lengths ▸ (List.getElem?_eq_some_iff.mp row_at).1
      have given_at := List.getElem?_eq_getElem inside
      have agree : ∀ l ∈ locationsOf request,
          Barred occupied allocated i l ↔ Barred others changed i l := by
        intro l member
        refine or_congr (same i request request_at l member) (exists_congr fun j => ?_)
        by_cases before : j < i
        · rw [ih j before]
        · simp only [before, false_and, and_false]
      rw [given_at, (great.congr agree).unique (also.greatest i request _ request_at given_at)]

/-- Where no two trains request a common point, only what other trains occupy hinders a train. -/
theorem uncontested (served : Served occupied requested allocated)
    (apart : requested.Pairwise ClearOf) {i : Nat} {request row : List Segment}
    (request_at : requested[i]? = some request) (row_at : allocated[i]? = some row) :
    GreatestClear (OccupiedByOthers occupied i) request row := by
  refine (served.greatest i request row request_at row_at).congr fun l member => ⟨?_, .inl⟩
  rintro (held | ⟨j, earlier, earlier_at, before, m, m_in, same⟩)
  · exact held
  -- What an earlier train was granted is part of its request, and so clear of this one.
  · obtain ⟨wanted, wanted_at, granted⟩ := served.exists_request earlier_at
    obtain ⟨i_inside, rfl⟩ := List.getElem?_eq_some_iff.mp request_at
    obtain ⟨j_inside, rfl⟩ := List.getElem?_eq_some_iff.mp wanted_at
    have clear := List.pairwise_iff_getElem.mp apart j i j_inside i_inside before
    exact absurd same (clear m (granted.leading.locations_subset m m_in) l member)

end Served

/-- The rows at some indices, in their order. -/
def rowsAt (order : List Nat) (rows : List (List Segment)) : List (List Segment) :=
  order.filterMap (rows[·]?)

section Order

variable {order : List Nat} {rows : List (List Segment)}

theorem lt_of_mem_order {n : Nat} (complete : order.Perm (List.range n)) :
    ∀ i ∈ order, i < n :=
  fun _ member => List.mem_range.mp (complete.mem_iff.mp member)

theorem getElem?_rowsAt (inside : ∀ i ∈ order, i < rows.length) (k : Nat) :
    (rowsAt order rows)[k]? = order[k]?.bind (rows[·]?) := by
  induction order generalizing k with
  | nil => rfl
  | cons i order ih =>
    have i_at := List.getElem?_eq_getElem (inside i List.mem_cons_self)
    simp only [rowsAt, List.filterMap_cons, i_at]
    cases k with
    | zero => simp [i_at]
    | succ k => exact ih (fun j later => inside j (List.mem_cons_of_mem i later)) k

theorem perm_rowsAt (complete : order.Perm (List.range rows.length)) :
    (rowsAt order rows).Perm rows := by
  have all : rowsAt (List.range rows.length) rows = rows := by
    refine List.ext_getElem? fun k => ?_
    rw [getElem?_rowsAt (lt_of_mem_order (.refl _))]
    by_cases inside : k < rows.length
    · rw [List.getElem?_range inside, Option.bind_some]
    · simp [Nat.not_lt.mp inside]
  have same : (rowsAt order rows).Perm (rowsAt (List.range rows.length) rows) :=
    complete.filterMap _
  rwa [all] at same

/-- Which trains are the others does not depend on the order of trains. -/
theorem occupiedByOthers_rowsAt (complete : order.Perm (List.range rows.length)) {i k : Nat}
    (i_at : order[k]? = some i) {l : Location} :
    OccupiedByOthers (rowsAt order rows) k l ↔ OccupiedByOthers rows i l := by
  have inside := lt_of_mem_order complete
  have distinct : order.Nodup := complete.nodup_iff.mpr List.nodup_range
  constructor
  · rintro ⟨m, route, route_at, other, touched⟩
    rw [getElem?_rowsAt inside, Option.bind_eq_some_iff] at route_at
    obtain ⟨j, j_at, route_at⟩ := route_at
    refine ⟨j, route, route_at, ?_, touched⟩
    rintro rfl
    -- An order names no train twice.
    have m_inside := (List.getElem?_eq_some_iff.mp j_at).1
    exact other ((List.getElem?_inj m_inside distinct).mp (j_at.trans i_at.symm))
  · rintro ⟨j, route, route_at, other, touched⟩
    have j_inside := List.mem_range.mpr (List.getElem?_eq_some_iff.mp route_at).1
    obtain ⟨m, j_at⟩ := List.mem_iff_getElem?.mp (complete.mem_iff.mpr j_inside)
    refine ⟨m, route, ?_, ?_, touched⟩
    · rw [getElem?_rowsAt inside, j_at, Option.bind_some, route_at]
    · rintro rfl
      exact other (Option.some.inj (j_at.symm.trans i_at))

/-- Served in another order, trains that do not compete are granted the same. -/
theorem Served.eq_rowsAt {occupied requested allocated changed : List (List Segment)}
    (served : Served occupied requested allocated)
    (also : Served (rowsAt order occupied) (rowsAt order requested) changed)
    (lengths : occupied.length = requested.length) (apart : requested.Pairwise ClearOf)
    (complete : order.Perm (List.range occupied.length)) : changed = rowsAt order allocated := by
  have requests_complete : order.Perm (List.range requested.length) := lengths ▸ complete
  have reordered := perm_rowsAt requests_complete
  have also_apart := (reordered.pairwise_iff ClearOf.symm).mpr apart
  have count : changed.length = order.length := by
    rw [also.length_eq, reordered.length_eq, requests_complete.length_eq, List.length_range]
  have inside : ∀ i ∈ order, i < requested.length := lt_of_mem_order requests_complete
  refine List.ext_getElem? fun k => ?_
  rw [getElem?_rowsAt (by rwa [served.length_eq])]
  cases i_at : order[k]? with
  | none =>
    rw [List.getElem?_eq_none_iff] at i_at
    rw [Option.bind_none, List.getElem?_eq_none_iff, count]
    exact i_at
  | some i =>
    have i_inside := inside i (List.mem_of_getElem? i_at)
    have request_at := List.getElem?_eq_getElem i_inside
    have row_at := List.getElem?_eq_getElem (served.length_eq ▸ i_inside)
    have given_at := List.getElem?_eq_getElem (count ▸ (List.getElem?_eq_some_iff.mp i_at).1)
    have wanted_at : (rowsAt order requested)[k]? = some requested[i] := by
      rw [getElem?_rowsAt inside, i_at, Option.bind_some, request_at]
    -- The train of the index is hindered by the same trains wherever it stands in the order.
    have great := (served.uncontested apart request_at row_at).congr fun l _ =>
      (occupiedByOthers_rowsAt complete i_at).symm
    rw [given_at, Option.bind_some, row_at,
      great.unique (also.uncontested also_apart wanted_at given_at)]

end Order

/-- An allocation that is requested is granted, and requests are granted unchanged only when they are
admissible together. -/
theorem allocate?_idempotent {track : Track} {occupied requested : List (List Segment)}
    (occupied_on : ∀ route ∈ occupied, LiesOn route track)
    (requested_on : ∀ request ∈ requested, LiesOn request track)
    (lengths : occupied.length = requested.length) :
    ∃ allocated, allocate? occupied requested = some allocated ∧
      allocate? occupied allocated = some allocated ∧
      (allocated = requested ↔ Admissible occupied requested requested) := by
  obtain ⟨allocated, answered, served⟩ := allocate?_served occupied_on requested_on lengths
  have allocated_on := served.liesOn requested_on
  obtain ⟨again, again_answered, again_served⟩ :=
    allocate?_served occupied_on allocated_on (lengths.trans served.length_eq.symm)
  have settled : again = allocated :=
    again_served.eq_requested occupied_on allocated_on served.admissible.itself
  refine ⟨allocated, answered, settled ▸ again_answered, ?_, ?_⟩
  · rintro rfl
    exact served.admissible
  · exact served.eq_requested occupied_on requested_on

/-- Two trains that head for each other ask again for what they were granted. -/
theorem allocate?_idempotent_headOn :
    (∀ route ∈ headOnOccupied, LiesOn route (.single .line)) ∧
      (∀ request ∈ headOnRequested, LiesOn request (.single .line)) ∧
      headOnOccupied.length = headOnRequested.length ∧
      ∃ allocated, allocate? headOnOccupied headOnRequested = some allocated ∧
        allocate? headOnOccupied allocated = some allocated := by
  obtain ⟨occupied_on, requested_on⟩ := headOn_liesOn
  obtain ⟨allocated, answered, again, -⟩ := allocate?_idempotent occupied_on requested_on rfl
  exact ⟨occupied_on, requested_on, rfl, allocated, answered, again⟩

/-- Trains that occupy the same points are served alike, however their segments are described. -/
theorem allocate?_samePoints {track : Track} {occupied others requested : List (List Segment)}
    (occupied_on : ∀ route ∈ occupied, LiesOn route track)
    (others_on : ∀ route ∈ others, LiesOn route track)
    (requested_on : ∀ request ∈ requested, LiesOn request track)
    (lengths : occupied.length = requested.length)
    (same : List.Forall₂ (SamePoints track) occupied others) :
    ∃ allocated, allocate? occupied requested = some allocated ∧
      allocate? others requested = some allocated := by
  obtain ⟨allocated, answered, served⟩ := allocate?_served occupied_on requested_on lengths
  obtain ⟨changed, also_answered, also_served⟩ :=
    allocate?_served others_on requested_on (same.length_eq.symm.trans lengths)
  have equal : allocated = changed := by
    refine served.unique also_served fun i request request_at l member => ?_
    have request_on := requested_on request (List.mem_of_getElem? request_at)
    exact occupiedByOthers_congr occupied_on others_on same (request_on.locations_on l member)
  exact ⟨allocated, answered, equal ▸ also_answered⟩

/-- What the two trains that head for each other hold, cut up and described from the far ends. -/
theorem allocate?_samePoints_headOn :
    let turned : List (List Segment) :=
      [[(Segment.ahead 0 2).reversed, (Segment.ahead 2 3).reversed], [backHeld.reversed]]
    (∀ route ∈ headOnOccupied, LiesOn route (.single .line)) ∧
      (∀ route ∈ turned, LiesOn route (.single .line)) ∧
      (∀ request ∈ headOnRequested, LiesOn request (.single .line)) ∧
      headOnOccupied.length = headOnRequested.length ∧
      List.Forall₂ (SamePoints (.single .line)) headOnOccupied turned ∧
      ∃ allocated, allocate? headOnOccupied headOnRequested = some allocated ∧
        allocate? turned headOnRequested = some allocated := by
  intro turned
  obtain ⟨occupied_on, requested_on⟩ := headOn_liesOn
  have parts_on : LiesOn [.ahead 0 2, .ahead 2 3] (.single .line) := by simp [LiesOn]
  have back_on : LiesOn [backHeld] (.single .line) := by simp [LiesOn, backHeld]
  have turned_on : ∀ route ∈ turned, LiesOn route (.single .line) := by
    simpa [turned, LiesOn] using And.intro parts_on back_on
  have cut : SamePoints (.single .line) [aheadHeld] [.ahead 0 2, .ahead 2 3] :=
    samePoints_cut [aheadHeld] (show 2 ≤ lengthOf [aheadHeld] by decide)
  have swapped := List.Perm.swap (Segment.ahead 0 2).reversed (Segment.ahead 2 3).reversed []
  have same : List.Forall₂ (SamePoints (.single .line)) headOnOccupied turned :=
    .cons ((cut.trans (samePoints_reversed parts_on)).trans (samePoints_of_perm swapped))
      (.cons (samePoints_reversed back_on) .nil)
  exact ⟨occupied_on, turned_on, requested_on, rfl, same,
    allocate?_samePoints occupied_on turned_on requested_on rfl same⟩

/-- Where no two trains request a common point, each is hindered only by what other trains occupy,
and the trains are granted the same in every order in which they are served. -/
theorem allocate?_rowsAt {track : Track} {occupied requested : List (List Segment)}
    (occupied_on : ∀ route ∈ occupied, LiesOn route track)
    (requested_on : ∀ request ∈ requested, LiesOn request track)
    (lengths : occupied.length = requested.length) (apart : requested.Pairwise ClearOf) :
    ∃ allocated, allocate? occupied requested = some allocated ∧
      (∀ (i : Nat) (request row : List Segment), requested[i]? = some request →
        allocated[i]? = some row → GreatestClear (OccupiedByOthers occupied i) request row) ∧
      ∀ order : List Nat, order.Perm (List.range occupied.length) →
        allocate? (rowsAt order occupied) (rowsAt order requested) =
          some (rowsAt order allocated) := by
  obtain ⟨allocated, answered, served⟩ := allocate?_served occupied_on requested_on lengths
  refine ⟨allocated, answered, fun i request row => served.uncontested apart, ?_⟩
  intro order complete
  have reordered := perm_rowsAt complete
  have requests_reordered : (rowsAt order requested).Perm requested :=
    perm_rowsAt (lengths ▸ complete)
  obtain ⟨changed, also_answered, also_served⟩ := allocate?_served
    (fun route member => occupied_on route (reordered.mem_iff.mp member))
    (fun request member => requested_on request (requests_reordered.mem_iff.mp member))
    (reordered.length_eq.trans (lengths.trans requests_reordered.length_eq.symm))
  rw [also_answered, served.eq_rowsAt also_served lengths apart complete]

/-- A third train stands between the two, and is served first. -/
theorem allocate?_rowsAt_between :
    let occupied : List (List Segment) := [[.ahead 0 1], [.back 0 1], [.ahead 5 6]]
    let requested : List (List Segment) := [[.ahead 1 5], [.back 1 3], []]
    (∀ route ∈ occupied, LiesOn route (.single .line)) ∧
      (∀ request ∈ requested, LiesOn request (.single .line)) ∧
      occupied.length = requested.length ∧ requested.Pairwise ClearOf ∧
      ∃ allocated, allocate? occupied requested = some allocated ∧
        allocate? [[.ahead 5 6], [.ahead 0 1], [.back 0 1]] [[], [.ahead 1 5], [.back 1 3]] =
          some (rowsAt [2, 0, 1] allocated) := by
  intro occupied requested
  have occupied_on : ∀ route ∈ occupied, LiesOn route (.single .line) := by
    simp [occupied, LiesOn]
  have requested_on : ∀ request ∈ requested, LiesOn request (.single .line) := by
    simp [requested, LiesOn]
  have clear : ClearOf [.ahead 1 5] [.back 1 3] := by
    unfold ClearOf
    decide
  have idle (row : List Segment) : ClearOf row [] := fun _ _ _ absent => by cases absent
  have apart : requested.Pairwise ClearOf := by simp [requested, clear, idle]
  obtain ⟨allocated, answered, -, reordered⟩ := allocate?_rowsAt occupied_on requested_on rfl apart
  exact ⟨occupied_on, requested_on, rfl, apart, allocated, answered,
    reordered [2, 0, 1] (by decide)⟩

end Trackage
