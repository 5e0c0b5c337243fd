import Mathlib.Order.Bounds.Basic
import Mathlib.Tactic.IntervalCases
import Trackage.Proofs.Allocation.Grant
import Trackage.Proofs.Route.Pieces

/-!
Grants told from distances. A route goes from point to point of its track, one for each distance up to
its length. Its grant is the part of it up to the point before the one before the first forbidden
point, however the route is cut into segments.
-/

namespace Trackage

namespace Route

/-- The point at a distance from the start of a row of segments. -/
def pointAt? (track : Track) : List Segment → Nat → Option Point
  | [], _ => none
  | s :: rest, distance =>
    -- A joint is the end of the segment before it, and no point of its own.
    if distance ≤ s.length then some (track.point (s.locationAfter distance))
    else pointAt? track rest (distance - s.length)

section Points

variable {track : Track} {row rest : List Segment} {s t : Segment} {stop distance : Nat}

theorem pointAt?_of_le (rest : List Segment) (within : distance ≤ s.length) :
    pointAt? track (s :: rest) distance = some (track.point (s.locationAfter distance)) :=
  if_pos within

theorem pointAt?_of_lt (rest : List Segment) (beyond : s.length < distance) :
    pointAt? track (s :: rest) distance = pointAt? track rest (distance - s.length) :=
  if_neg (Nat.not_le.mpr beyond)

/-- A row has a point at every distance up to its length. -/
theorem exists_pointAt? (nonempty : row ≠ []) (within : distance ≤ lengthOf row) :
    ∃ p, pointAt? track row distance = some p := by
  induction row generalizing distance with
  | nil => exact absurd rfl nonempty
  | cons s rest ih =>
    rcases Nat.lt_or_ge s.length distance with beyond | inside
    · rw [pointAt?_of_lt rest beyond]
      simp only [lengthOf] at within
      apply ih
      · rintro rfl
        simp only [lengthOf] at within
        omega
      · omega
    · exact ⟨_, pointAt?_of_le rest inside⟩

/-- In a continuous row the first point behind a joint is the last point before it. -/
theorem pointAt?_zero_of_joint (row_on : LiesOn (s :: t :: rest) track)
    (joint : jointError? s t = none) :
    pointAt? track (t :: rest) 0 = some (track.point (s.locationAfter s.length)) := by
  have meets := (jointError?_eq_none_iff.mp joint).1
  have first : t.locationAfter 0 = t.firstLocation := by
    have inside := Nat.lt_of_lt_of_le t.start_lt_stop t.stop_le_length
    simp only [Segment.locationAfter, Nat.add_zero, dif_pos inside, Segment.firstLocation,
      Segment.locationAt]
  have on_last := Segment.on_locationAfter (row_on s List.mem_cons_self) s.length
  have on_first := Segment.on_locationAfter
    (row_on t (List.mem_cons_of_mem s List.mem_cons_self)) 0
  rw [← s.locationAfter_length, ← first] at meets
  rw [pointAt?_of_le rest (Nat.zero_le _),
    (Location.equivalent_iff_point_eq on_last on_first).mp meets]

/-- A leading stretch of a continuous row has the points at the distances up to its stop. -/
theorem mem_points_pieces_iff (row_on : LiesOn row track) (joined : firstJointError? row = none)
    (positive : 0 < stop) (within : stop ≤ lengthOf row) {p : Point} :
    (∃ l ∈ locationsOf (pieces row 0 stop), track.point l = p) ↔
      ∃ distance ≤ stop, pointAt? track row distance = some p := by
  induction row generalizing stop with
  | nil =>
    simp only [lengthOf] at within
    omega
  | cons s rest ih =>
    have rest_on := row_on.tail
    have rest_joined := firstJointError?_tail joined
    have length_pos := s.length_pos
    have from_zero : 0 - s.length = 0 := Nat.zero_sub _
    simp only [lengthOf] at within
    simp only [mem_locationsOf_pieces_cons, from_zero]
    constructor
    · rintro ⟨l, ⟨-, distance, -, below, rfl⟩ | later, rfl⟩
      · exact ⟨distance, by omega, pointAt?_of_le rest (by omega)⟩
      · have further : 0 < stop - s.length := by
          apply Nat.pos_of_ne_zero
          intro short
          rw [short, pieces_eq_nil rest (Nat.le_refl 0)] at later
          cases later
        obtain ⟨distance, below, point_at⟩ :=
          (ih rest_on rest_joined further (by omega)).mp ⟨l, later, rfl⟩
        -- What the rest calls its start is the joint, to which the first segment leads.
        rcases Nat.eq_zero_or_pos distance with rfl | behind
        · refine ⟨s.length, by omega, ?_⟩
          rw [pointAt?_of_le rest (Nat.le_refl _), ← point_at]
          cases rest with
          | nil => cases point_at
          | cons t rest =>
            have joint := ((firstJointError?_cons_cons s t rest).mp joined).1
            exact (pointAt?_zero_of_joint row_on joint).symm
        · refine ⟨s.length + distance, by omega, ?_⟩
          rw [pointAt?_of_lt rest (by omega), Nat.add_sub_cancel_left, point_at]
    · rintro ⟨distance, below, point_at⟩
      rcases Nat.lt_or_ge s.length distance with beyond | inside
      · rw [pointAt?_of_lt rest beyond] at point_at
        obtain ⟨l, later, rfl⟩ := (ih rest_on rest_joined (by omega) (by omega)).mpr
          ⟨_, Nat.sub_le_sub_right below s.length, point_at⟩
        exact ⟨l, .inr later, rfl⟩
      · rw [pointAt?_of_le rest inside, Option.some.injEq] at point_at
        exact ⟨_, .inl ⟨by omega, distance, Nat.zero_le _, by omega, rfl⟩, point_at⟩

end Points

/-- At a distance from its start a row comes to a forbidden point. -/
def BarredAt (track : Track) (forbidden : LocationSet) (row : List Segment) (distance : Nat) : Prop :=
  ∃ l ∈ forbidden.members, pointAt? track row distance = some (track.point l)

section Grant

variable {track : Track} {forbidden : LocationSet} {r : Route}

/-- A leading stretch is clear of the forbidden locations when no point up to its stop is forbidden. -/
theorem clear_pieces_iff (forbidden_on : forbidden.On track) (route_on : r.onTrack track = true)
    {stop : Nat} (positive : 0 < stop) (within : stop ≤ r.length) :
    (∀ l ∈ locationsOf (pieces r.segments 0 stop), ¬ forbidden.contains l = true) ↔
      ∀ distance ≤ stop, ¬ BarredAt track forbidden r.segments distance := by
  have row_on := onTrack_iff.mp route_on
  have points (p : Point) := mem_points_pieces_iff row_on r.joined positive within (p := p)
  have held {l : Location} (member : l ∈ locationsOf (pieces r.segments 0 stop)) :
      forbidden.contains l = true ↔ ∃ m ∈ forbidden.members, track.point l = track.point m := by
    have l_on := (liesOn_pieces row_on 0 stop).locations_on l member
    rw [LocationSet.contains_iff_equivalent forbidden_on l_on]
    refine exists_congr fun m => and_congr_right fun m_in => ?_
    rw [Location.equivalent_iff_point_eq (forbidden_on m m_in) l_on, eq_comm]
  constructor
  · rintro clear distance below ⟨m, m_in, point_at⟩
    obtain ⟨l, member, same⟩ := (points _).mpr ⟨distance, below, point_at⟩
    exact clear l member ((held member).mpr ⟨m, m_in, same⟩)
  · intro clear l member barred
    obtain ⟨m, m_in, same⟩ := (held member).mp barred
    obtain ⟨distance, below, point_at⟩ := (points _).mp ⟨l, member, rfl⟩
    exact clear distance below ⟨m, m_in, by rw [point_at, same]⟩

theorem grant_eq_pieces (forbidden : LocationSet) (r : Route) :
    grant forbidden r.segments = pieces r.segments 0 (lengthOf (grant forbidden r.segments)) :=
  eq_pieces_of_leading_all (grant_greatestClear forbidden r.segments).leading

/-- The grant is the longest leading stretch without a forbidden point, where a stretch without any
length has no points at all. -/
theorem isGreatest_grant (forbidden_on : forbidden.On track) (route_on : r.onTrack track = true) :
    IsGreatest {stop | stop ≤ r.length ∧
        (0 < stop → ∀ distance ≤ stop, ¬ BarredAt track forbidden r.segments distance)}
      (lengthOf (grant forbidden r.segments)) := by
  have great := grant_greatestClear forbidden r.segments
  have cut := grant_eq_pieces forbidden r
  constructor
  · refine ⟨great.leading.lengthOf_le, fun positive => ?_⟩
    rw [← clear_pieces_iff forbidden_on route_on positive great.leading.lengthOf_le, ← cut]
    exact great.clear
  · rintro stop ⟨within, free⟩
    rcases Nat.eq_zero_or_pos stop with rfl | positive
    · exact Nat.zero_le _
    · have leads := leadingPart_pieces_all r.segments within
      have longer := (great.greatest _ leads
        ((clear_pieces_iff forbidden_on route_on positive within).mpr (free positive))).lengthOf_le
      rwa [lengthOf_pieces (Nat.zero_le _) within, Nat.sub_zero] at longer

end Grant

/-- A route on a track has a point at each distance, and its grant is told from these. Without a
forbidden one it is the whole route. Otherwise it is nothing where the first forbidden point comes at
a distance of one or less, and elsewhere the part of the route up to one before that point. Routes
with the same points are granted the same length. -/
theorem grant_by_distance (track : Track) (r : Route) (route_on : r.onTrack track = true)
    (forbidden : LocationSet) (forbidden_on : forbidden.On track) :
    (∀ distance ≤ r.length, ∃ p, pointAt? track r.segments distance = some p) ∧
    ((∀ distance ≤ r.length, ¬ BarredAt track forbidden r.segments distance) →
      grant forbidden r.segments = r.segments) ∧
    (∀ k, IsLeast {distance | distance ≤ r.length ∧
        BarredAt track forbidden r.segments distance} k →
      (k ≤ 1 → grant forbidden r.segments = []) ∧
      (1 < k → ∃ part, r.part 0 ((k : Int) - 1) = .ok part ∧
        grant forbidden r.segments = part.segments)) ∧
    ∀ other : Route, other.onTrack track = true → other.length = r.length →
      (∀ distance ≤ r.length,
        pointAt? track other.segments distance = pointAt? track r.segments distance) →
      lengthOf (grant forbidden other.segments) = lengthOf (grant forbidden r.segments) := by
  have great := isGreatest_grant forbidden_on route_on
  obtain ⟨within, free⟩ := great.1
  refine ⟨fun distance => exists_pointAt? r.nonempty, ?_, ?_, ?_⟩
  · intro clear
    have all : r.length ≤ lengthOf (grant forbidden r.segments) :=
      great.2 ⟨Nat.le_refl _, fun _ => clear⟩
    exact (grant_greatestClear forbidden r.segments).leading.eq_of_lengthOf_eq
      (Nat.le_antisymm within all)
  · rintro k ⟨⟨k_within, k_barred⟩, least⟩
    constructor
    · intro early
      -- Any length at all would take the grant to the forbidden point.
      have none_left : lengthOf (grant forbidden r.segments) = 0 := by
        by_contra some_left
        exact free (by omega) k (by omega) k_barred
      rw [grant_eq_pieces, none_left, pieces_eq_nil _ (Nat.le_refl 0)]
    · intro late
      have before : k - 1 ≤ lengthOf (grant forbidden r.segments) := by
        refine great.2 ⟨by omega, fun _ distance below barred => ?_⟩
        have reached := least ⟨by omega, barred⟩
        omega
      have short : lengthOf (grant forbidden r.segments) < k := by
        by_contra reaches
        exact free (by omega) k (by omega) k_barred
      have length_eq : lengthOf (grant forbidden r.segments) = k - 1 := by omega
      have ordered : 0 < k - 1 := by omega
      obtain ⟨part, cut, segments_eq⟩ := r.part_eq_ok ordered (by omega)
      refine ⟨part, ?_, ?_⟩
      · rwa [Int.natCast_sub (by omega), Int.natCast_zero, Int.natCast_one] at cut
      · rw [grant_eq_pieces, length_eq, segments_eq]
  · intro other other_on same_length same_points
    have barred_iff (distance : Nat) (within : distance ≤ r.length) :
        BarredAt track forbidden other.segments distance ↔
          BarredAt track forbidden r.segments distance := by
      unfold BarredAt
      rw [same_points distance within]
    -- The two lengths are the greatest of one set.
    have same_set : {stop | stop ≤ other.length ∧
          (0 < stop → ∀ distance ≤ stop, ¬ BarredAt track forbidden other.segments distance)} =
        {stop | stop ≤ r.length ∧
          (0 < stop → ∀ distance ≤ stop, ¬ BarredAt track forbidden r.segments distance)} := by
      ext stop
      rw [Set.mem_ofPred_eq, Set.mem_ofPred_eq, same_length]
      refine and_congr_right fun inside => imp_congr_right fun _ => ?_
      exact forall₂_congr fun distance below => not_congr (barred_iff distance (by omega))
    have also_great := isGreatest_grant forbidden_on other_on
    rw [same_set] at also_great
    exact also_great.unique great

/-- A route over the whole section of ten units, whose far end is forbidden. -/
theorem grant_by_distance_farEnd :
    let r : Route := ⟨[.ahead 0 3, .ahead 3 10], List.cons_ne_nil _ _, rfl⟩
    let forbidden := LocationSet.ofList [.far .line Section.line.first]
    r.onTrack (.single .line) = true ∧ forbidden.On (.single .line) ∧
      IsLeast {distance | distance ≤ r.length ∧
        BarredAt (.single .line) forbidden r.segments distance} 10 ∧
      ∃ part, r.part 0 9 = .ok part ∧ grant forbidden r.segments = part.segments := by
  intro r forbidden
  have line_on : Section.line.Same .line := .refl _
  have route_on : r.onTrack (.single .line) = true := by
    simp [r, Route.onTrack, Segment.onTrack, Segment.ahead, Track.contains_single, line_on]
  have forbidden_on : forbidden.On (.single .line) := by
    refine LocationSet.On.ofList fun l member => ?_
    obtain rfl := List.mem_singleton.mp member
    exact (Track.contains_single _ _).mpr line_on
  have members : forbidden.members = [.far .line Section.line.first] := by
    simp only [forbidden, LocationSet.ofList, LocationSet.insertAll, List.foldl_cons,
      List.foldl_nil, LocationSet.insert, LocationSet.contains_empty, Bool.false_eq_true, if_false]
    rfl
  have least : IsLeast {distance | distance ≤ r.length ∧
      BarredAt (.single .line) forbidden r.segments distance} 10 := by
    constructor
    · exact ⟨by decide, .far .line Section.line.first, by rw [members]; exact .head _, rfl⟩
    · rintro distance ⟨-, l, l_in, point_at⟩
      rw [members] at l_in
      obtain rfl := List.mem_singleton.mp l_in
      by_contra nearer
      have inside : distance < 10 := Nat.lt_of_not_le nearer
      -- A point between the ends is no junction, and the near end is another one.
      interval_cases distance <;>
        simp [r, pointAt?, Segment.ahead, Segment.length, Segment.locationAfter, Track.point,
          Location.far, Section.line, Section.opposite] at point_at
  obtain ⟨-, -, cut, -⟩ := grant_by_distance (.single .line) r route_on forbidden forbidden_on
  exact ⟨route_on, forbidden_on, least, (cut 10 least).2 (by decide)⟩

end Route

end Trackage
