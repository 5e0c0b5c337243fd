import Trackage.Proofs.Allocation.Grant

/-!
Service in order of priority. On one track each train is granted the greatest leading part of its
request that is clear of what other trains occupy and of what earlier trains were granted. In
particular grants are leading parts of requests that keep clear of one another.
-/

namespace Trackage

/-- A location is barred to the train of an index: another train occupies it, or an earlier one was
granted it. -/
def Barred (occupied granted : List (List Segment)) (i : Nat) (l : Location) : Prop :=
  (∃ j route, occupied[j]? = some route ∧ j ≠ i ∧ Touches route l) ∨
    ∃ j row, granted[j]? = some row ∧ j < i ∧ Touches row l

theorem not_barred_of_clear {occupied granted : List (List Segment)} {i : Nat} {row : List Segment}
    (clear_of_occupied : ∀ (j : Nat) (route : List Segment), occupied[j]? = some route → j ≠ i →
      ClearOf row route)
    (clear_of_earlier : ∀ (j : Nat) (earlier : List Segment), granted[j]? = some earlier → j < i →
      ClearOf row earlier) :
    ∀ l ∈ locationsOf row, ¬ Barred occupied granted i l := by
  rintro l in_row (⟨j, route, route_at, other, m, in_route, same⟩ |
    ⟨j, earlier, earlier_at, before, m, in_earlier, same⟩)
  · exact clear_of_occupied j route route_at other l in_row m in_route same.symm
  · exact clear_of_earlier j earlier earlier_at before l in_row m in_earlier same.symm

/-- What is barred to a train when some trains were served before: what those hold, what was granted
to them, and the same of the trains served since. -/
def BarredFrom (granted : LocationSet) (before after : List LocationSet)
    (rows : List (List Segment)) (i : Nat) (l : Location) : Prop :=
  (granted.contains l = true ∨ ∃ set ∈ before, set.contains l = true) ∨
    (∃ j set, after[j]? = some set ∧ j ≠ i ∧ set.contains l = true) ∨
      ∃ j row, rows[j]? = some row ∧ j < i ∧ Touches row l

private theorem exists_getElem?_cons {α : Type} (a : α) (rest : List α) (p : Nat → α → Prop) :
    (∃ j b, (a :: rest)[j]? = some b ∧ p j b) ↔
      p 0 a ∨ ∃ j b, rest[j]? = some b ∧ p (j + 1) b := by
  constructor
  · rintro ⟨j, b, found, holds⟩
    cases j with
    | zero =>
      rw [List.getElem?_cons_zero, Option.some.injEq] at found
      exact .inl (found ▸ holds)
    | succ j => exact .inr ⟨j, b, by simpa using found, holds⟩
  · rintro (holds | ⟨j, b, found, holds⟩)
    · exact ⟨0, a, rfl, holds⟩
    · exact ⟨j + 1, b, by simpa using found, holds⟩

section Service

variable {track : Track} {granted own : LocationSet} {before after : List LocationSet}

theorem contains_ofList_locationsOf {row : List Segment} (row_on : LiesOn row track) {l : Location}
    (l_on : l.On track) :
    (LocationSet.ofList (locationsOf row)).contains l = true ↔ Touches row l :=
  LocationSet.contains_ofList row_on.locations_on l_on

/-- The first of the trains left is barred from what was granted and what other trains hold. -/
theorem contains_forbiddenFor (granted_on : granted.On track)
    (before_on : ∀ set ∈ before, set.On track) (after_on : ∀ set ∈ after, set.On track)
    (rows : List (List Segment)) {l : Location} (l_on : l.On track) :
    (forbiddenFor granted before after).contains l = true ↔
      BarredFrom granted before (own :: after) rows 0 l := by
  obtain ⟨held_on, held⟩ := LocationSet.foldl_union granted_on before_on
  have holds := (LocationSet.foldl_union held_on after_on).2 l l_on
  unfold forbiddenFor BarredFrom
  rw [holds, held l l_on, exists_getElem?_cons]
  simp only [ne_eq, not_true_eq_false, false_and, false_or, Nat.succ_ne_zero, not_false_eq_true,
    true_and, Nat.not_lt_zero, and_false, exists_false, or_false, List.mem_iff_getElem?]
  -- Only the trains after it are left to compare: as members on one side, by index on the other.
  refine or_congr_right ⟨?_, ?_⟩
  · rintro ⟨set, ⟨j, found⟩, within⟩
    exact ⟨j, set, found, within⟩
  · rintro ⟨j, set, found, within⟩
    exact ⟨set, ⟨j, found⟩, within⟩

/-- Once a train is served, its grant and what it holds are barred to those after it. -/
theorem barredFrom_succ {row : List Segment} (granted_on : granted.On track)
    (row_on : LiesOn row track) (rows : List (List Segment)) (i : Nat) {l : Location}
    (l_on : l.On track) :
    BarredFrom (granted.union (.ofList (locationsOf row))) (before ++ [own]) after rows i l ↔
      BarredFrom granted before (own :: after) (row :: rows) (i + 1) l := by
  unfold BarredFrom
  rw [LocationSet.contains_union granted_on (.ofList row_on.locations_on) l_on,
    contains_ofList_locationsOf row_on l_on, exists_getElem?_cons, exists_getElem?_cons]
  simp only [List.mem_append, List.mem_singleton, or_and_right, exists_or, exists_eq_left, ne_eq,
    Nat.add_right_cancel_iff, Nat.add_lt_add_iff_right, Nat.zero_lt_succ, true_and,
    (Nat.succ_ne_zero i).symm, not_false_eq_true]
  -- Both sides are now one disjunction in two orders.
  exact Iff.of_eq (by ac_rfl)

/-- Served in order, each train is granted the greatest leading part of its request that is clear of
what is barred to it. -/
theorem grantFrom?_greatestClear {requests : List (List Segment)} (granted_on : granted.On track)
    (before_on : ∀ set ∈ before, set.On track) (after_on : ∀ set ∈ after, set.On track)
    (requests_on : ∀ request ∈ requests, LiesOn request track)
    (lengths : requests.length = after.length) :
    ∃ rows, grantFrom? granted before after requests = some rows ∧ rows.length = after.length ∧
      ∀ i request row, requests[i]? = some request → rows[i]? = some row →
        GreatestClear (BarredFrom granted before after rows i) request row := by
  -- The induction is on the trains left. What is barred to them from those before is the invariant.
  induction after generalizing granted before requests with
  | nil =>
    exact ⟨[], by simp [grantFrom?], rfl, fun i request row _ absent => by simp at absent⟩
  | cons own after ih =>
    cases requests with
    | nil => simp at lengths
    | cons request requests =>
      have request_on : LiesOn request track := requests_on request (by simp)
      -- The first train is served, and the others after it with its grant forbidden.
      let row := grant (forbiddenFor granted before after) request
      have great := grant_greatestClear (forbiddenFor granted before after) request
      have row_on : LiesOn row track := great.leading.liesOn request_on
      have after_later : ∀ set ∈ after, set.On track :=
        fun set later => after_on set (List.mem_cons_of_mem own later)
      have served_on : ∀ set ∈ before ++ [own], set.On track := by
        intro set served
        rcases List.mem_append.mp served with earlier | last
        · exact before_on set earlier
        · exact after_on set (by simp [List.mem_singleton.mp last])
      obtain ⟨rows, answered, count, greatest⟩ := ih
        (granted_on.union (.ofList row_on.locations_on)) served_on after_later
        (fun r later => requests_on r (List.mem_cons_of_mem request later)) (by simpa using lengths)
      refine ⟨row :: rows, by simp [grantFrom?, answered, row], by simp [count], ?_⟩
      intro i wanted given wanted_at given_at
      cases i with
      -- Later trains bar nothing from the first, so that its grant does not depend on theirs.
      | zero =>
        obtain rfl : request = wanted := by simpa using wanted_at
        obtain rfl : row = given := by simpa using given_at
        exact great.congr fun l member => contains_forbiddenFor granted_on before_on after_later _
          (request_on.locations_on l member)
      | succ i =>
        rw [List.getElem?_cons_succ] at wanted_at given_at
        have wanted_on : LiesOn wanted track :=
          requests_on wanted (List.mem_cons_of_mem request (List.mem_of_getElem? wanted_at))
        exact (greatest i wanted given wanted_at given_at).congr fun l member =>
          barredFrom_succ granted_on row_on rows i (wanted_on.locations_on l member)

/-- Before the first train is served nothing is granted, and every train bars the others. -/
theorem barredFrom_empty {occupied : List (List Segment)}
    (occupied_on : ∀ route ∈ occupied, LiesOn route track) (rows : List (List Segment)) (i : Nat)
    {l : Location} (l_on : l.On track) :
    BarredFrom .empty [] (occupied.map fun route => .ofList (locationsOf route)) rows i l ↔
      Barred occupied rows i l := by
  have held : (∃ j set, (occupied.map fun route => LocationSet.ofList (locationsOf route))[j]? =
        some set ∧ j ≠ i ∧ set.contains l = true) ↔
      ∃ j route, occupied[j]? = some route ∧ j ≠ i ∧ Touches route l := by
    constructor
    · rintro ⟨j, set, found, other, within⟩
      rw [List.getElem?_map, Option.map_eq_some_iff] at found
      obtain ⟨route, route_at, rfl⟩ := found
      have route_on := occupied_on route (List.mem_of_getElem? route_at)
      exact ⟨j, route, route_at, other, (contains_ofList_locationsOf route_on l_on).mp within⟩
    · rintro ⟨j, route, route_at, other, touched⟩
      have route_on := occupied_on route (List.mem_of_getElem? route_at)
      exact ⟨j, .ofList (locationsOf route), by rw [List.getElem?_map, route_at]; rfl, other,
        (contains_ofList_locationsOf route_on l_on).mpr touched⟩
  unfold BarredFrom Barred
  rw [held, LocationSet.contains_empty]
  simp

end Service

/-- Each train has the greatest leading part of its request clear of what is barred to it. -/
structure Served (occupied requested allocated : List (List Segment)) : Prop where
  length_eq : allocated.length = requested.length
  greatest : ∀ (i : Nat) (request row : List Segment), requested[i]? = some request →
    allocated[i]? = some row → GreatestClear (Barred occupied allocated i) request row

/-- An allocation on one track answers and serves the trains in order. -/
theorem allocate?_served {track : Track} {occupied requested : List (List Segment)}
    (occupied_on : ∀ route ∈ occupied, LiesOn route track)
    (requested_on : ∀ request ∈ requested, LiesOn request track)
    (lengths : occupied.length = requested.length) :
    ∃ allocated, allocate? occupied requested = some allocated ∧
      Served occupied requested allocated := by
  have held_on : ∀ set ∈ occupied.map fun route => LocationSet.ofList (locationsOf route),
      set.On track := by
    intro set present
    obtain ⟨route, there, rfl⟩ := List.mem_map.mp present
    exact .ofList (occupied_on route there).locations_on
  have none_before : ∀ set ∈ ([] : List LocationSet), set.On track := by simp
  obtain ⟨allocated, answered, count, greatest⟩ := grantFrom?_greatestClear LocationSet.On.empty
    none_before held_on requested_on (by simp [lengths])
  refine ⟨allocated, answered, by simpa [lengths] using count, ?_⟩
  intro i request row request_at row_at
  have request_on := requested_on request (List.mem_of_getElem? request_at)
  exact (greatest i request row request_at row_at).congr fun l member =>
    barredFrom_empty occupied_on allocated i (request_on.locations_on l member)

namespace Served

variable {occupied requested allocated : List (List Segment)} {i j : Nat} {row : List Segment}

theorem exists_request (served : Served occupied requested allocated)
    (row_at : allocated[i]? = some row) :
    ∃ request, requested[i]? = some request ∧
      GreatestClear (Barred occupied allocated i) request row := by
  have inside : i < requested.length := by
    rw [← served.length_eq]
    exact (List.getElem?_eq_some_iff.mp row_at).1
  have request_at := List.getElem?_eq_getElem inside
  exact ⟨requested[i], request_at, served.greatest i _ row request_at row_at⟩

theorem liesOn {track : Track} (served : Served occupied requested allocated)
    (requested_on : ∀ request ∈ requested, LiesOn request track) :
    ∀ row ∈ allocated, LiesOn row track := by
  intro row member
  obtain ⟨i, row_at⟩ := List.mem_iff_getElem?.mp member
  obtain ⟨request, request_at, great⟩ := served.exists_request row_at
  exact great.leading.liesOn (requested_on request (List.mem_of_getElem? request_at))

theorem clear_of_occupied (served : Served occupied requested allocated)
    (row_at : allocated[i]? = some row) {route : List Segment}
    (route_at : occupied[j]? = some route) (other : j ≠ i) : ClearOf row route := by
  obtain ⟨request, -, great⟩ := served.exists_request row_at
  intro l in_row m in_route same
  exact great.clear l in_row (.inl ⟨j, route, route_at, other, m, in_route, same.symm⟩)

theorem clear_of_earlier (served : Served occupied requested allocated)
    (row_at : allocated[i]? = some row) {earlier : List Segment}
    (earlier_at : allocated[j]? = some earlier) (before : j < i) : ClearOf row earlier := by
  obtain ⟨request, -, great⟩ := served.exists_request row_at
  intro l in_row m in_earlier same
  exact great.clear l in_row (.inr ⟨j, earlier, earlier_at, before, m, in_earlier, same.symm⟩)

/-- Trains that hold clear stretches are clear of each other with what they were granted. -/
theorem footprints_clear (served : Served occupied requested allocated) {held other : List Segment}
    (held_at : occupied[i]? = some held) (other_at : occupied[j]? = some other)
    (row_at : allocated[i]? = some row) {granted : List Segment}
    (granted_at : allocated[j]? = some granted) (distinct : i ≠ j) (clear : ClearOf held other) :
    ClearOf (held ++ row) (other ++ granted) := by
  have held_granted := served.clear_of_occupied granted_at held_at distinct
  have row_other := served.clear_of_occupied row_at other_at distinct.symm
  have row_granted : ClearOf row granted := by
    rcases Nat.lt_or_gt_of_ne distinct with before | after
    · exact (served.clear_of_earlier granted_at row_at before).symm
    · exact served.clear_of_earlier row_at granted_at after
  rw [clearOf_append_left, clearOf_append_right, clearOf_append_right]
  exact ⟨⟨clear, held_granted.symm⟩, row_other, row_granted⟩

end Served

/-- An allocation on one track answers each train with a leading part of its request, and these are
clear of what other trains occupy and of what earlier trains were granted. -/
theorem allocate?_safe {track : Track} {occupied requested : List (List Segment)}
    (occupied_on : ∀ route ∈ occupied, LiesOn route track)
    (requested_on : ∀ request ∈ requested, LiesOn request track)
    (lengths : occupied.length = requested.length) :
    ∃ allocated, allocate? occupied requested = some allocated ∧
      allocated.length = occupied.length ∧
      (∀ (i : Nat) (row request : List Segment), allocated[i]? = some row →
        requested[i]? = some request → LeadingPart row request) ∧
      (∀ (i j : Nat) (row route : List Segment), allocated[i]? = some row →
        occupied[j]? = some route → j ≠ i → ClearOf row route) ∧
      ∀ (i j : Nat) (row earlier : List Segment), allocated[i]? = some row →
        allocated[j]? = some earlier → j < i → ClearOf row earlier := by
  obtain ⟨allocated, answered, served⟩ := allocate?_served occupied_on requested_on lengths
  refine ⟨allocated, answered, served.length_eq.trans lengths.symm, ?_, ?_, ?_⟩
  · intro i row request row_at request_at
    exact (served.greatest i request row request_at row_at).leading
  · intro i j row route row_at route_at other
    exact served.clear_of_occupied row_at route_at other
  · intro i j row earlier row_at earlier_at before
    exact served.clear_of_earlier row_at earlier_at before

/-- Two trains that head for each other keep clear of each other. -/
theorem allocate?_safe_headOn :
    (∀ route ∈ headOnOccupied, LiesOn route (.single .line)) ∧
      (∀ request ∈ headOnRequested, LiesOn request (.single .line)) ∧
      headOnOccupied.length = headOnRequested.length ∧
      ∃ allocated, allocate? headOnOccupied headOnRequested = some allocated ∧
        allocated.length = 2 ∧
        ∀ (i j : Nat) (row earlier : List Segment), allocated[i]? = some row →
          allocated[j]? = some earlier → j < i → ClearOf row earlier := by
  obtain ⟨occupied_on, requested_on⟩ := headOn_liesOn
  obtain ⟨allocated, answered, count, -, -, clear⟩ := allocate?_safe occupied_on requested_on rfl
  exact ⟨occupied_on, requested_on, rfl, allocated, answered, count, clear⟩

end Trackage
