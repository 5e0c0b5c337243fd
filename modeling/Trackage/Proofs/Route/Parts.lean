import Trackage.Proofs.Allocation.Offsets

/-!
Parts of routes. A route has a part between any two distances from its start, in order and within
it. The part goes through the points that the route comes to between the two, and a part of it is a
part of the route.
-/

namespace Trackage

namespace Route

/-- A stretch of a stretch is a stretch of the row. -/
theorem pieces_pieces (row : List Segment) {start stop first last : Nat}
    (within : last ≤ stop - start) :
    pieces (pieces row start stop) first last = pieces row (start + first) (start + last) := by
  induction row generalizing start stop first last with
  | nil => rfl
  | cons s rest ih =>
    rcases Nat.lt_or_ge first last with forward | backward
    · by_cases inside : start < min stop s.length
      · have left : last - (min stop s.length - start) = start + last - s.length := by omega
        have behind (distance : Nat) :
            pieces (pieces rest 0 (stop - s.length)) distance (start + last - s.length) =
              pieces rest distance (start + last - s.length) := by
          rw [ih (by omega), Nat.zero_add, Nat.zero_add]
        rw [pieces_cons_of_lt rest inside]
        by_cases ahead : first < min last (min stop s.length - start)
        · rw [pieces_cons_of_lt _ (by simpa using ahead), pieces_cons_of_lt rest (by omega)]
          -- A piece of the first piece is a piece of the segment.
          refine congrArg₂ List.cons (Segment.ext rfl rfl (Nat.add_assoc _ _ _) ?_) ?_
          · change s.start + start + min last (s.piece start _ inside _).length =
              s.start + min (start + last) s.length
            rw [Segment.length_piece]
            omega
          · rw [Segment.length_piece, left, behind]
        · have beyond : first - (min stop s.length - start) = start + first - s.length := by omega
          rw [pieces_cons_of_le _ (by simpa using Nat.le_of_not_lt ahead),
            pieces_cons_of_le rest (by omega), Segment.length_piece, left, beyond, behind]
      · have before (distance : Nat) (within : s.length ≤ start) :
            start - s.length + distance = start + distance - s.length := by omega
        rw [pieces_cons_of_le rest (Nat.le_of_not_lt inside), ih (by omega),
          pieces_cons_of_le rest (by omega), before first (by omega), before last (by omega)]
    · rw [pieces_eq_nil _ backward, pieces_eq_nil _ (Nat.add_le_add_left backward start)]

/-- The points of a row in the order of travel. A joint is one point, the last of the segment before
it. -/
def course (track : Track) : List Segment → List Point
  | [] => []
  | s :: rest => s.locations.map track.point ++ (course track rest).tail

section Course

variable {track : Track} {row : List Segment} {start stop distance : Nat}

theorem length_course (nonempty : row ≠ []) : (course track row).length = lengthOf row + 1 := by
  induction row with
  | nil => exact absurd rfl nonempty
  | cons s rest ih =>
    simp only [course, lengthOf, List.length_append, List.length_map, List.length_tail,
      Segment.length_locations]
    cases rest with
    | nil => rfl
    | cons t rest =>
      rw [ih (List.cons_ne_nil t rest)]
      omega

/-- The points of the course come one to a unit of distance. -/
theorem getElem?_course (row : List Segment) (distance : Nat) :
    (course track row)[distance]? = pointAt? track row distance := by
  induction row generalizing distance with
  | nil => rfl
  | cons s rest ih =>
    simp only [course, s.locations_eq_map, List.map_map]
    rcases Nat.lt_or_ge s.length distance with beyond | inside
    -- Behind the segment the course goes on with the second point of the rest.
    · rw [pointAt?_of_lt rest beyond, ← ih,
        List.getElem?_append_right (by simpa using Nat.succ_le_of_lt beyond), List.getElem?_tail]
      congr 1
      simp only [List.length_map, List.length_range]
      omega
    · rw [pointAt?_of_le rest inside,
        List.getElem?_append_left (by simpa using Nat.lt_succ_of_le inside)]
      simp only [List.getElem?_map, List.getElem?_range (Nat.lt_succ_of_le inside),
        Option.map_some, Function.comp_apply]

theorem pointAt?_eq_none (row : List Segment) (beyond : lengthOf row < distance) :
    pointAt? track row distance = none := by
  induction row generalizing distance with
  | nil => rfl
  | cons s rest ih =>
    simp only [lengthOf] at beyond
    rw [pointAt?_of_lt rest (by omega)]
    exact ih (by omega)

/-- A stretch of a continuous row comes to the points of the row. -/
theorem pointAt?_pieces (row_on : LiesOn row track) (joined : firstJointError? row = none)
    (ordered : start < stop) (within : stop ≤ lengthOf row) (inside : distance ≤ stop - start) :
    pointAt? track (pieces row start stop) distance = pointAt? track row (start + distance) := by
  induction row generalizing start stop distance with
  | nil => rfl
  | cons s rest ih =>
    have rest_on := row_on.tail
    have rest_joined := firstJointError?_tail joined
    simp only [lengthOf] at within
    by_cases first : start < min stop s.length
    · rw [pieces_cons_of_lt rest first]
      rcases Nat.lt_or_ge (min stop s.length - start) distance with beyond | near
      -- The stretch has all of the segment from its start on, and goes on behind it.
      · rw [pointAt?_of_lt _ (by simpa using beyond), pointAt?_of_lt rest (by omega),
          Segment.length_piece, ih rest_on rest_joined (by omega) (by omega) (by omega)]
        congr 1
        omega
      · rw [pointAt?_of_le _ (by simpa using near), pointAt?_of_le rest (by omega),
          Segment.locationAfter_piece]
    · rw [pieces_cons_of_le rest (Nat.le_of_not_lt first),
        ih rest_on rest_joined (by omega) (by omega) (by omega)]
      rcases Nat.lt_or_ge s.length (start + distance) with beyond | at_joint
      · rw [pointAt?_of_lt rest beyond]
        congr 1
        omega
      -- A stretch that begins at a joint begins with the last point of the segment before it.
      · obtain ⟨rfl, rfl⟩ : start = s.length ∧ distance = 0 := by omega
        rw [Nat.sub_self, Nat.add_zero, Nat.add_zero, pointAt?_of_le rest (Nat.le_refl _)]
        cases rest with
        | nil =>
          simp only [lengthOf] at within
          omega
        | cons t rest =>
          exact pointAt?_zero_of_joint row_on ((firstJointError?_cons_cons s t rest).mp joined).1

/-- The course of a stretch is that part of the course of the row. -/
theorem course_pieces (row_on : LiesOn row track) (joined : firstJointError? row = none)
    (ordered : start < stop) (within : stop ≤ lengthOf row) :
    course track (pieces row start stop) =
      ((course track row).drop start).take (stop - start + 1) := by
  apply List.ext_getElem?
  intro distance
  rw [getElem?_course, List.getElem?_take, List.getElem?_drop, getElem?_course]
  split
  next inside =>
    exact pointAt?_pieces row_on joined ordered within (Nat.le_of_lt_succ inside)
  next beyond =>
    apply pointAt?_eq_none
    rw [lengthOf_pieces (Nat.le_of_lt ordered) within]
    omega

end Course

section Part

variable {r held : Route} {start stop : Nat}

private theorem natural_distances {first last : Int} (positive : 0 ≤ first)
    (ordered : first < last) : ∃ start stop : Nat, first = start ∧ last = stop := by
  obtain ⟨start, rfl⟩ := Int.eq_ofNat_of_zero_le positive
  obtain ⟨stop, rfl⟩ := Int.eq_ofNat_of_zero_le (Int.le_trans positive (Int.le_of_lt ordered))
  exact ⟨start, stop, rfl, rfl⟩

theorem part_eq_error_iff (r : Route) (start stop : Int) (raised : Raised RouteError) :
    r.part start stop = .error raised ↔
      ¬ (0 ≤ start ∧ start < stop ∧ stop ≤ r.length) ∧
        raised = (RouteError.noSuchPart start stop r.length).raised := by
  by_cases inside : 0 ≤ start ∧ start < stop ∧ stop ≤ r.length
  · obtain ⟨first, last, rfl, rfl⟩ := natural_distances inside.1 inside.2.1
    obtain ⟨held, cut, -⟩ := r.part_eq_ok (Int.ofNat_lt.mp inside.2.1) (Int.ofNat_le.mp inside.2.2)
    simp [cut, inside]
  · rw [part, if_neg inside, Except.error.injEq]
    simp only [inside, not_false_eq_true, true_and]
    exact eq_comm

theorem part_refused (r : Route) (start stop : Int) :
    (∀ error, r.part start stop = .error (.error error) ↔
      ¬ (0 ≤ start ∧ start < stop ∧ stop ≤ r.length) ∧
        error = .noSuchPart start stop r.length ∧ error.isWritable = true) ∧
    (r.part start stop = .error .unwritable ↔
      ¬ (0 ≤ start ∧ start < stop ∧ stop ≤ r.length) ∧
        (RouteError.noSuchPart start stop r.length).isWritable = false) := by
  simp only [part_eq_error_iff, RouteError.raised, Raised.of]
  cases writable : (RouteError.noSuchPart start stop r.length).isWritable with
  | false =>
    refine ⟨fun error => ⟨fun refused => (by cases refused.2), ?_⟩, by simp⟩
    rintro ⟨-, rfl, also_writable⟩
    cases writable.symm.trans also_writable
  | true =>
    refine ⟨fun error => ?_, by simp⟩
    simp only [if_true, Raised.error.injEq]
    constructor
    · rintro ⟨outside, rfl⟩
      exact ⟨outside, rfl, writable⟩
    · rintro ⟨outside, same, -⟩
      exact ⟨outside, same⟩

theorem length_pos (r : Route) : 0 < r.length := by
  have nonempty := r.nonempty
  simp only [length]
  cases segments : r.segments with
  | nil => exact absurd segments nonempty
  | cons s rest => exact Nat.add_pos_left s.length_pos _

theorem part_all (r : Route) : r.part 0 r.length = .ok r := by
  have all := r.part_eq_build r.length_pos (Nat.le_refl _)
  rw [Int.natCast_zero] at all
  rw [all, build_eq_ok_iff]
  exact (pieces_all r.segments).symm

theorem length_of_pieces (cut : held.segments = pieces r.segments start stop)
    (ordered : start < stop) (within : stop ≤ r.length) : held.length = stop - start := by
  rw [length, cut]
  exact lengthOf_pieces (Nat.le_of_lt ordered) within

/-- A part of a part is a part of the route, and so the same route. -/
theorem part_part (cut : held.segments = pieces r.segments start stop) (ordered : start < stop)
    (within : stop ≤ r.length) {first last : Int} (positive : 0 ≤ first) (forward : first < last)
    (inside : last ≤ stop - start) :
    held.part first last = r.part (start + first) (start + last) := by
  obtain ⟨first, last, rfl, rfl⟩ := natural_distances positive forward
  have held_length := length_of_pieces cut ordered within
  rw [← Int.natCast_add, ← Int.natCast_add, held.part_eq_build (by omega) (by omega),
    r.part_eq_build (by omega) (by omega), cut, pieces_pieces r.segments (by omega)]

end Part

/-- A route has no part beyond it, backwards or without length, which is refused with an error if the
two distances and the length can be written. Each other part is a route of the length between the two
distances, and goes through the points of the route from one distance to the other. The part from the
start to the end is the route itself, and a part of a part is a part of the route. -/
theorem part_algebra (r : Route) (start stop : Int) :
    (∀ error, r.part start stop = .error (.error error) ↔
      ¬ (0 ≤ start ∧ start < stop ∧ stop ≤ r.length) ∧
        error = .noSuchPart start stop r.length ∧ error.isWritable = true) ∧
    (r.part start stop = .error .unwritable ↔
      ¬ (0 ≤ start ∧ start < stop ∧ stop ≤ r.length) ∧
        (RouteError.noSuchPart start stop r.length).isWritable = false) ∧
    (0 ≤ start → start < stop → stop ≤ r.length → ∃ held, r.part start stop = .ok held ∧
      build held.segments = .ok held ∧ (held.length : Int) = stop - start ∧
      (∀ track, r.onTrack track = true →
        (course track r.segments).length = r.length + 1 ∧
          course track held.segments =
            ((course track r.segments).drop start.toNat).take ((stop - start).toNat + 1)) ∧
      ∀ first last : Int, 0 ≤ first → first < last → last ≤ stop - start →
        held.part first last = r.part (start + first) (start + last)) ∧
    r.part 0 r.length = .ok r := by
  obtain ⟨refused, unwritable⟩ := r.part_refused start stop
  refine ⟨refused, unwritable, ?_, r.part_all⟩
  intro positive ordered within
  obtain ⟨first, last, rfl, rfl⟩ := natural_distances positive ordered
  have ordered := Int.ofNat_lt.mp ordered
  have within := Int.ofNat_le.mp within
  obtain ⟨held, cut, segments⟩ := r.part_eq_ok ordered within
  have held_length := length_of_pieces segments ordered within
  refine ⟨held, cut, build_eq_ok_iff.mpr rfl, by omega, ?_, ?_⟩
  · intro track route_on
    refine ⟨length_course r.nonempty, ?_⟩
    rw [segments, Int.toNat_natCast, ← Int.natCast_sub (Nat.le_of_lt ordered), Int.toNat_natCast]
    exact course_pieces (onTrack_iff.mp route_on) r.joined ordered within
  · intro first last positive forward inside
    exact part_part segments ordered within positive forward inside

/-- A part that goes beyond a joint, and a part of it that begins at the joint. -/
theorem part_algebra_joint :
    let r : Route := ⟨[.ahead 0 3, .ahead 3 10], List.cons_ne_nil _ _, rfl⟩
    r.onTrack (.single .line) = true ∧ ∃ held, r.part 2 8 = .ok held ∧ (held.length : Int) = 6 ∧
      course (.single .line) held.segments = ((course (.single .line) r.segments).drop 2).take 7 ∧
      held.part 1 4 = r.part 3 6 := by
  intro r
  have route_on : r.onTrack (.single .line) = true := by simp [r, Route.onTrack]
  obtain ⟨-, -, parts, -⟩ := r.part_algebra 2 8
  obtain ⟨held, cut, -, length_eq, points, inner⟩ := parts (by decide) (by decide) (by decide)
  obtain ⟨-, between⟩ := points (.single .line) route_on
  exact ⟨route_on, held, cut, length_eq, between, inner 1 4 (by decide) (by decide) (by decide)⟩

/-- A part of a short route that is to go on too far for the distance to be written is refused, but with
no error. -/
theorem not_part_error_of_overlong :
    let r : Route := ⟨[.ahead 0 3], List.cons_ne_nil _ _, rfl⟩
    ¬ (0 ≤ (0 : Int) ∧ (0 : Int) < Text.numeralBound ∧ (Text.numeralBound : Int) ≤ r.length) ∧
      r.part 0 Text.numeralBound = .error .unwritable ∧
      ¬ ∃ error, r.part 0 Text.numeralBound = .error (.error error) := by
  intro r
  have short : r.length = 3 := rfl
  have beyond : ¬ (0 ≤ (0 : Int) ∧ (0 : Int) < Text.numeralBound ∧
      (Text.numeralBound : Int) ≤ r.length) := by
    rw [short]
    decide +kernel
  have long : (RouteError.noSuchPart 0 Text.numeralBound r.length).isWritable = false := by
    rw [short]
    decide +kernel
  have refused := (r.part_refused 0 Text.numeralBound).2.mpr ⟨beyond, long⟩
  refine ⟨beyond, refused, ?_⟩
  rintro ⟨error, also_refused⟩
  cases refused.symm.trans also_refused

end Route

end Trackage
