import Trackage.Scenario
import Trackage.Proofs.Allocation.Priority
import Trackage.Proofs.Outcome
import Trackage.Proofs.Route.Joints

/-!
Checked scenarios. The check lets through exactly the scenarios that the allocation expects, and on
those each train is granted a route that starts like its request, and with what it holds it is clear
of every other train.
-/

namespace Trackage

theorem Segment.firstLocation_eq {s t : Segment} (sections : t.on = s.on)
    (ends : t.departing = s.departing) (starts : t.start = s.start) :
    t.firstLocation = s.firstLocation := by
  cases s
  cases t
  simp only at sections ends starts
  subst sections ends starts
  rfl

theorem LeadingPart.head_eq {t : Segment} {part row : List Segment}
    (leading : LeadingPart (t :: part) row) :
    ∃ s rest, row = s :: rest ∧ t.on = s.on ∧ t.departing = s.departing ∧ t.start = s.start := by
  cases leading with
  | cut rest sections ends starts stops => exact ⟨_, rest, rfl, sections, ends, starts⟩
  | whole _ later => exact ⟨_, _, rfl, rfl, rfl, rfl⟩

/-- A leading part of a continuous row is continuous. -/
theorem LeadingPart.joined {part row : List Segment} (leading : LeadingPart part row)
    (row_joined : firstJointError? row = .none) : firstJointError? part = .none := by
  induction leading with
  | none row => rfl
  | cut rest sections ends starts stops => rfl
  | @whole s part rest later ih =>
    cases part with
    | nil => rfl
    -- A joint depends only on how the segment behind it starts, and that may be cut at its stop.
    | cons t part =>
      obtain ⟨u, others, rfl, sections, ends, starts⟩ := later.head_eq
      obtain ⟨joint, others_joined⟩ := (Route.firstJointError?_cons_cons s u others).mp row_joined
      refine (Route.firstJointError?_cons_cons s t part).mpr ⟨?_, ih others_joined⟩
      rw [Route.jointError?_eq_none_iff] at joint ⊢
      rw [Segment.firstLocation_eq sections ends starts, sections, ends]
      exact joint

theorem Route.exists_build_singleton (s : Segment) : ∃ route, Route.build [s] = .ok route :=
  ⟨⟨[s], List.cons_ne_nil s [], rfl⟩, Route.build_eq_ok_iff.mpr rfl⟩

/-- A leading part of a route is a route, unless it is empty, and it starts like the route. -/
theorem LeadingPart.eq_nil_or_route {part row : List Segment} (leading : LeadingPart part row)
    (accepted : row = [] ∨ ∃ route, Route.build row = .ok route) :
    part = [] ∨ (∃ route, Route.build part = .ok route) ∧
      part.head?.map Segment.firstLocation = row.head?.map Segment.firstLocation := by
  cases part with
  | nil => exact .inl rfl
  | cons t part =>
    obtain ⟨s, rest, rfl, sections, ends, starts⟩ := leading.head_eq
    obtain ⟨route, built⟩ := accepted.resolve_left (List.cons_ne_nil s rest)
    have row_joined : firstJointError? (s :: rest) = .none :=
      Route.build_eq_ok_iff.mp built ▸ route.joined
    refine .inr ⟨⟨⟨t :: part, List.cons_ne_nil t part, leading.joined row_joined⟩, ?_⟩, ?_⟩
    · exact Route.build_eq_ok_iff.mpr rfl
    · simp [Segment.firstLocation_eq sections ends starts]

namespace Scenario

/-- What the allocation expects of the routes that trains occupy and request. -/
structure Valid (track : Track) (occupied requested : List (List Segment)) : Prop where
  lengths : occupied.length = requested.length
  on_track : ∀ row ∈ occupied ++ requested, ∀ s ∈ row, track.contains s.on = true
  occupied_routes : ∀ row ∈ occupied, row ≠ [] ∧ ∃ route, Route.build row = .ok route
  requested_routes : ∀ row ∈ requested, row = [] ∨ ∃ route, Route.build row = .ok route
  apart : occupied.Pairwise ClearOf

theorem checkOnTrack_eq_ok_iff {track : Track} {row : List Segment} {done : Unit} :
    checkOnTrack track row = .ok done ↔ LiesOn row track := by
  unfold checkOnTrack
  cases found : row.find? fun s => !s.onTrack track with
  | none => simpa [LiesOn] using List.find?_eq_none.mp found
  | some s =>
    have off : s.onTrack track = false := by simpa using List.find?_some found
    have member := List.mem_of_find?_eq_some found
    simp only [reduceCtorEq, false_iff]
    intro lies
    simp [lies s member] at off

theorem routes_eq_ok_iff {rows : List (List Segment)} {held : List Route} :
    routes rows = .ok held ↔ held.map Route.segments = rows := by
  unfold routes
  simp only [Outcome.mapM_eq_ok_iff, Outcome.mapError_eq_ok_iff, Route.build_eq_ok_iff]
  constructor
  · intro related
    induction related with
    | nil => rfl
    | cons first _ ih => rw [List.map_cons, first, ih]
  · rintro rfl
    induction held with
    | nil => exact .nil
    | cons route held ih => exact .cons rfl ih

theorem exists_routes_iff {rows : List (List Segment)} :
    (∃ held, routes rows = .ok held) ↔ ∀ row ∈ rows, ∃ route, Route.build row = .ok route := by
  simp only [routes_eq_ok_iff, Route.build_eq_ok_iff]
  constructor
  · rintro ⟨held, rfl⟩ row member
    obtain ⟨route, -, same⟩ := List.mem_map.mp member
    exact ⟨route, same⟩
  · intro accepted
    induction rows with
    | nil => exact ⟨[], rfl⟩
    | cons row rows ih =>
      obtain ⟨route, rfl⟩ := accepted row List.mem_cons_self
      obtain ⟨held, rfl⟩ := ih fun other later => accepted other (List.mem_cons_of_mem _ later)
      exact ⟨route :: held, rfl⟩

theorem firstIntersection?_eq_none_iff (held : List Route) (index : Nat) :
    firstIntersection? index held = none ↔
      held.Pairwise fun route other => route.intersects other = false := by
  induction held generalizing index with
  | nil => simp [firstIntersection?]
  | cons route rest ih =>
    rw [List.pairwise_cons, ← ih (index + 1), firstIntersection?]
    cases found : rest.findIdx? route.intersects with
    | none =>
      have apart := List.findIdx?_eq_none_iff.mp found
      exact ⟨fun later => ⟨apart, later⟩, fun both => both.2⟩
    | some later =>
      obtain ⟨inside, meets, -⟩ := List.findIdx?_eq_some_iff_getElem.mp found
      simp only [reduceCtorEq, false_iff, not_and]
      intro apart
      simp [apart _ (List.getElem_mem inside)] at meets

theorem pairwise_intersects_iff {track : Track} {held : List Route}
    (held_on : ∀ route ∈ held, LiesOn route.segments track) :
    (held.Pairwise fun route other => route.intersects other = false) ↔
      (held.map Route.segments).Pairwise ClearOf := by
  rw [List.pairwise_map]
  refine List.Pairwise.iff_of_mem fun first second => ?_
  exact haveCommonPoint_eq_false_iff (held_on _ first) (held_on _ second)

theorem check_eq_ok_iff {track : Track} {occupied requested : List (List Segment)} :
    check track occupied requested = .ok () ↔
      occupied.length = requested.length ∧ LiesOn (occupied ++ requested).flatten track ∧
        ∃ held, routes occupied = .ok held ∧
          (∃ wanted, routes (requested.filter fun row => !row.isEmpty) = .ok wanted) ∧
            firstIntersection? 0 held = none := by
  unfold check
  by_cases lengths : occupied.length = requested.length
  · simp only [ne_eq, lengths, not_true_eq_false, if_false, Outcome.bind_eq_ok_iff,
      checkOnTrack_eq_ok_iff, exists_const, true_and]
    refine and_congr_right fun _ => exists_congr fun held => and_congr_right fun _ => ?_
    rw [exists_and_right]
    refine and_congr_right fun _ => ?_
    cases firstIntersection? 0 held <;>
      simp [pure, Except.pure, throw, throwThe, MonadExceptOf.throw]
  · simp only [ne_eq, lengths, not_false_eq_true, if_true, false_and, iff_false]
    exact fun passed => by cases passed

/-- The check lets through exactly the scenarios that the allocation expects. -/
theorem check_eq_ok_iff_valid {track : Track} {occupied requested : List (List Segment)} :
    check track occupied requested = .ok () ↔ Valid track occupied requested := by
  rw [check_eq_ok_iff]
  have requested_iff : (∃ wanted, routes (requested.filter fun row => !row.isEmpty) = .ok wanted) ↔
      ∀ row ∈ requested, row = [] ∨ ∃ route, Route.build row = .ok route := by
    rw [exists_routes_iff]
    refine forall_congr' fun row => ?_
    simp only [List.mem_filter, Bool.not_eq_true', List.isEmpty_eq_false_iff, and_imp,
      or_iff_not_imp_left, ne_eq]
  have on_track_iff : LiesOn (occupied ++ requested).flatten track ↔
      ∀ row ∈ occupied ++ requested, LiesOn row track := List.forall_mem_flatten
  rw [requested_iff, on_track_iff]
  constructor
  · rintro ⟨lengths, on_track, held, built, requested_routes, clear⟩
    have held_eq := routes_eq_ok_iff.mp built
    refine ⟨lengths, on_track, ?_, requested_routes, ?_⟩
    · intro row member
      obtain ⟨route, route_eq⟩ := exists_routes_iff.mp ⟨held, built⟩ row member
      exact ⟨Route.build_eq_ok_iff.mp route_eq ▸ route.nonempty, route, route_eq⟩
    · rw [← held_eq] at on_track ⊢
      exact (pairwise_intersects_iff fun route member =>
        on_track _ (List.mem_append_left _ (List.mem_map_of_mem member))).mp
          ((firstIntersection?_eq_none_iff held 0).mp clear)
  · rintro ⟨lengths, on_track, occupied_routes, requested_routes, apart⟩
    obtain ⟨held, built⟩ := exists_routes_iff.mpr fun row member => (occupied_routes row member).2
    have held_eq := routes_eq_ok_iff.mp built
    refine ⟨lengths, on_track, held, built, requested_routes, ?_⟩
    rw [← held_eq] at on_track apart
    exact (firstIntersection?_eq_none_iff held 0).mpr ((pairwise_intersects_iff fun route member =>
      on_track _ (List.mem_append_left _ (List.mem_map_of_mem member))).mpr apart)

theorem run_eq_ok_iff {track : Track} {occupied requested allocated : List (List Segment)} :
    run track occupied requested = .ok allocated ↔
      check track occupied requested = .ok () ∧
        (allocate? occupied requested).getD [] = allocated := by
  unfold run
  rw [Outcome.bind_eq_ok_iff]
  constructor
  · rintro ⟨⟨⟩, passed, given⟩
    exact ⟨passed, Except.ok.inj given⟩
  · rintro ⟨passed, rfl⟩
    exact ⟨(), passed, rfl⟩

/-- Routes of segments that can be written are only refused with an error. -/
theorem exists_error_of_run {track : Track} {occupied requested : List (List Segment)}
    {raised : Raised DomainError}
    (writable : ∀ row ∈ occupied ++ requested, ∀ s ∈ row, s.isWritable = true)
    (failed : run track occupied requested = .error raised) : ∃ error, raised = .error error := by
  have of_routes {rows : List (List Segment)} (among : ∀ row ∈ rows, row ∈ occupied ++ requested)
      (refused : routes rows = .error raised) : ∃ error, raised = .error error := by
    obtain ⟨row, member, row_refused⟩ := Outcome.exists_of_mapM_eq_error refused
    obtain ⟨cause, built, rfl⟩ := Outcome.mapError_eq_error_iff.mp row_refused
    obtain ⟨error, rfl⟩ := Route.exists_error_of_build (writable row (among row member)) built
    exact ⟨.route error, rfl⟩
  obtain refused | ⟨_, -, given⟩ := Outcome.bind_eq_error_iff.mp failed
  · by_cases lengths : occupied.length = requested.length
    · simp only [check, ne_eq, lengths, not_true_eq_false, if_false] at refused
      obtain off | ⟨_, -, refused⟩ := Outcome.bind_eq_error_iff.mp refused
      · unfold checkOnTrack at off
        split at off
        next s found =>
          obtain ⟨row, member, s_in⟩ := List.mem_flatten.mp (List.mem_of_find?_eq_some found)
          rw [Raised.of, if_pos (writable row member s s_in)] at off
          exact ⟨_, (Except.error.inj off).symm⟩
        next => cases off
      obtain unbuilt | ⟨held, -, refused⟩ := Outcome.bind_eq_error_iff.mp refused
      · exact of_routes (fun _ => List.mem_append_left _) unbuilt
      obtain unbuilt | ⟨_, -, refused⟩ := Outcome.bind_eq_error_iff.mp refused
      · exact of_routes (fun _ kept => List.mem_append_right _ (List.mem_filter.mp kept).1) unbuilt
      split at refused
      next => exact ⟨_, (Except.error.inj refused).symm⟩
      next => cases refused
    · simp only [check, ne_eq, lengths, not_false_eq_true, if_true] at refused
      exact ⟨_, (Except.error.inj refused).symm⟩
  · cases given

namespace Valid

variable {track : Track} {occupied requested : List (List Segment)}

theorem exists_served (valid : Valid track occupied requested) :
    ∃ allocated, allocate? occupied requested = some allocated ∧
      run track occupied requested = .ok allocated ∧ Served occupied requested allocated := by
  obtain ⟨allocated, answered, served⟩ := allocate?_served
    (fun row member => valid.on_track row (List.mem_append_left _ member))
    (fun row member => valid.on_track row (List.mem_append_right _ member)) valid.lengths
  refine ⟨allocated, answered, run_eq_ok_iff.mpr ⟨check_eq_ok_iff_valid.mpr valid, ?_⟩, served⟩
  rw [answered, Option.getD_some]

theorem clear_of_ne (valid : Valid track occupied requested) {i j : Nat}
    {held other : List Segment} (held_at : occupied[i]? = some held)
    (other_at : occupied[j]? = some other) (distinct : i ≠ j) : ClearOf held other := by
  obtain ⟨i_inside, rfl⟩ := List.getElem?_eq_some_iff.mp held_at
  obtain ⟨j_inside, rfl⟩ := List.getElem?_eq_some_iff.mp other_at
  have apart := List.pairwise_iff_getElem.mp valid.apart
  rcases Nat.lt_or_gt_of_ne distinct with before | after
  · exact apart i j i_inside j_inside before
  · exact (apart j i j_inside i_inside after).symm

end Valid

/-- The check lets through exactly the valid scenarios. These are allocated, and then each train is
granted nothing or a route on the track that starts where its request does, and what two trains hold
and are granted has no point in common. -/
theorem run_gate (track : Track) (occupied requested : List (List Segment)) :
    (check track occupied requested = .ok () ↔ Valid track occupied requested) ∧
      (check track occupied requested = .ok () →
        ∃ allocated, run track occupied requested = .ok allocated) ∧
      ∀ allocated, run track occupied requested = .ok allocated →
        allocate? occupied requested = some allocated ∧ allocated.length = occupied.length ∧
        (∀ (i : Nat) (row request : List Segment), allocated[i]? = some row →
          requested[i]? = some request →
            row = [] ∨ (∃ route, Route.build row = .ok route ∧ route.onTrack track = true) ∧
              row.head?.map Segment.firstLocation = request.head?.map Segment.firstLocation) ∧
        ∀ (i j : Nat) (held other row granted : List Segment), i ≠ j →
          occupied[i]? = some held → occupied[j]? = some other →
          allocated[i]? = some row → allocated[j]? = some granted →
            ClearOf (held ++ row) (other ++ granted) := by
  refine ⟨check_eq_ok_iff_valid, ?_, ?_⟩
  · intro passed
    obtain ⟨allocated, -, ran, -⟩ := (check_eq_ok_iff_valid.mp passed).exists_served
    exact ⟨allocated, ran⟩
  · intro allocated ran
    have valid := check_eq_ok_iff_valid.mp (run_eq_ok_iff.mp ran).1
    obtain ⟨given, answered, also_ran, served⟩ := valid.exists_served
    obtain rfl : given = allocated := Except.ok.inj (also_ran.symm.trans ran)
    refine ⟨answered, served.length_eq.trans valid.lengths.symm, ?_, ?_⟩
    · intro i row request row_at request_at
      have leading := (served.greatest i request row request_at row_at).leading
      have member := List.mem_of_getElem? request_at
      have row_on := leading.liesOn (valid.on_track request (List.mem_append_right _ member))
      refine (leading.eq_nil_or_route (valid.requested_routes request member)).imp_right ?_
      rintro ⟨⟨route, built⟩, starts⟩
      rw [← Route.build_eq_ok_iff.mp built] at row_on
      exact ⟨⟨route, built, Route.onTrack_iff.mpr row_on⟩, starts⟩
    · intro i j held other row granted distinct held_at other_at row_at granted_at
      exact served.footprints_clear held_at other_at row_at granted_at distinct
        (valid.clear_of_ne held_at other_at distinct)

/-- Two trains that head for each other make a valid scenario, and keep clear with their grants. -/
theorem run_gate_headOn :
    Valid (.single .line) headOnOccupied headOnRequested ∧
      ∃ allocated, run (.single .line) headOnOccupied headOnRequested = .ok allocated ∧
        ∀ row granted, allocated[0]? = some row → allocated[1]? = some granted →
          ClearOf ([aheadHeld] ++ row) ([backHeld] ++ granted) := by
  obtain ⟨occupied_on, requested_on⟩ := headOn_liesOn
  have valid : Valid (.single .line) headOnOccupied headOnRequested := by
    refine ⟨rfl, ?_, ?_, ?_, ?_⟩
    · intro row member
      exact (List.mem_append.mp member).elim (occupied_on row) (requested_on row)
    · intro row member
      rcases List.mem_pair.mp member with rfl | rfl
      · exact ⟨List.cons_ne_nil _ _, Route.exists_build_singleton aheadHeld⟩
      · exact ⟨List.cons_ne_nil _ _, Route.exists_build_singleton backHeld⟩
    · intro row member
      rcases List.mem_pair.mp member with rfl | rfl
      · exact .inr (Route.exists_build_singleton aheadWanted)
      · exact .inr (Route.exists_build_singleton backWanted)
    · unfold ClearOf
      decide
  obtain ⟨passes, ran, clear⟩ := run_gate (.single .line) headOnOccupied headOnRequested
  obtain ⟨allocated, answered⟩ := ran (passes.mpr valid)
  obtain ⟨-, -, -, footprints⟩ := clear allocated answered
  exact ⟨valid, allocated, answered, fun row granted row_at granted_at =>
    footprints 0 1 _ _ row granted (by decide) rfl rfl row_at granted_at⟩

end Scenario

end Trackage
