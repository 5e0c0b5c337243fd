import Trackage.Proofs.Route.Intervals
import Trackage.Proofs.Route.Points

/-!
Segments point by point. A segment comes to one point for each unit of distance, and to no point
twice unless it goes all the way round a loop. Travelled from the other end of its section it comes to
the same points in reverse, and meets the same segments.
-/

namespace Trackage

/-- The point at a distance from an end of a section. -/
def Section.pointFrom (s : Section) (e : EndPoint) (distance : Nat) : Point :=
  if distance = 0 then .junction e.junction
  else if distance = s.length then .junction (s.opposite e).junction
  else .along s (s.fromFirst e distance)

namespace Segment

/-- The segment covers the whole of a section that comes back to the junction it leaves. -/
def GoesRound (s : Segment) : Prop :=
  s.start = 0 ∧ s.stop = s.on.length ∧ s.departing.junction = s.arriving.junction

instance (s : Segment) : Decidable s.GoesRound := by unfold GoesRound; infer_instance

@[simp] theorem getElem_locations (s : Segment) (i : Nat) (within : i < s.locations.length) :
    s.locations[i] = s.locationAfter i := by
  simp only [locations_eq_map, List.getElem_map, List.getElem_range]

section Points

variable {track : Track} {s t : Segment} {distance : Nat}

theorem point_locationAfter {stored : Section} (found : track.sectionAt? s.departing = some stored)
    (same : stored.Same s.on) (within : distance ≤ s.length) :
    track.point (s.locationAfter distance) =
      stored.pointFrom s.departing (s.start + distance) := by
  have lengths := same.1
  have positive := s.on.length_pos
  have fits := Nat.le_trans (add_le_stop within) s.stop_le_length
  rcases Nat.lt_or_eq_of_le fits with inside | at_end
  · have not_far : ¬ s.start + distance = stored.length := by omega
    simp only [locationAfter_of_lt inside, Track.point, Section.pointFrom, found, Option.getD_some,
      if_neg not_far]
  -- The far end is described as a junction, which is one however the section is written.
  · have departs : s.departing ∈ stored.ends := (same.mem_ends_iff _).mpr s.departing_mem
    have behind : ¬ s.start + distance = 0 := by omega
    have at_far : s.start + distance = stored.length := by omega
    rw [locationAfter_of_le (Nat.le_of_eq at_end.symm), Section.pointFrom, if_neg behind,
      if_pos at_far, same.opposite_eq departs]
    rfl

/-- The points that a segment comes to lie at its offsets, counted from the end it departs from. -/
theorem map_point_locations (s_on : s.onTrack track = true) :
    ∃ stored, track.sectionAt? s.departing = some stored ∧ stored.Same s.on ∧
      s.locations.map track.point =
        (List.range (s.length + 1)).map fun i => stored.pointFrom s.departing (s.start + i) := by
  have first_on : s.firstLocation.On track := s_on
  obtain ⟨stored, found, -, same⟩ := first_on.stored
  refine ⟨stored, found, same, ?_⟩
  rw [locations_eq_map, List.map_map]
  refine List.map_congr_left fun i inside => ?_
  exact point_locationAfter found same (Nat.le_of_lt_succ (List.mem_range.mp inside))

/-- Of two locations of a segment the nearer one lies before the far end, so that they can be one
point only as the two ends of a whole loop. -/
theorem locationAfter_equivalent_iff {i j : Nat} (before : i < j) (within : j ≤ s.length) :
    (s.locationAfter i).Equivalent (s.locationAfter j) ↔ i = 0 ∧ j = s.length ∧ s.GoesRound := by
  have ordered := s.start_lt_stop
  have fits := s.stop_le_length
  have length_eq : s.length = s.stop - s.start := rfl
  rw [locationAfter_of_lt (by omega)]
  rcases Nat.lt_or_ge (s.start + j) s.on.length with inside | at_end
  -- Before the far end both are described from one end, by different offsets.
  · rw [locationAfter_of_lt inside, Location.equivalent_iff_cases]
    constructor
    · rintro (⟨-, zero, -⟩ | ⟨-, offsets⟩ | ⟨-, ends, -⟩)
      · simp only at zero
        omega
      · simp only at offsets
        omega
      · exact absurd rfl ends
    · rintro ⟨-, whole, -, stops, -⟩
      omega
  -- The far end is a junction, which the nearer one is only at the very start of the section.
  · rw [locationAfter_of_le at_end, Location.equivalent_iff_of_zero rfl, GoesRound]
    constructor
    · rintro ⟨starts, junctions⟩
      simp only at starts
      exact ⟨by omega, by omega, by omega, by omega, junctions⟩
    · rintro ⟨first, -, starts, -, junctions⟩
      exact ⟨by simp only; omega, junctions⟩

/-- A segment that is turned comes to equivalent locations in reverse. -/
theorem locations_reversed (s : Segment) :
    List.Forall₂ Location.Equivalent s.reversed.locations s.locations.reverse := by
  rw [List.forall₂_iff_get]
  constructor
  · simp only [length_locations, length_reversed, List.length_reverse]
  · intro i inside _
    rw [length_locations, length_reversed] at inside
    simp only [List.get_eq_getElem, List.getElem_reverse, getElem_locations, length_locations,
      Nat.add_sub_cancel]
    exact s.locationAfter_reversed (Nat.le_of_lt_succ inside)

theorem build_reversed (s : Segment) :
    build s.on s.arriving ((s.on.length : Int) - s.stop) ((s.on.length : Int) - s.start) =
      .ok s.reversed := by
  have ordered := s.start_lt_stop
  have fits := s.stop_le_length
  refine build_eq_ok_iff.mpr ⟨rfl, rfl, ?_, ?_⟩
  · exact Int.ofNat_sub fits
  · exact Int.ofNat_sub (by omega)

theorem intersects_iff_touches (s_on : s.onTrack track = true) (t_on : t.onTrack track = true) :
    s.intersects t = true ↔ ∃ m ∈ t.locations, Touches [s] m := by
  rw [intersects, haveCommonPoint_iff (locations_on s_on) (locations_on t_on)]
  simp only [Touches, locationsOf_singleton]
  constructor
  · rintro ⟨l, on_s, m, on_t, same⟩
    exact ⟨m, on_t, l, on_s, same⟩
  · rintro ⟨m, on_t, l, on_s, same⟩
    exact ⟨l, on_s, m, on_t, same⟩

/-- A segment and its reversal meet the same segments, since they come to the same points. -/
theorem reversed_intersects (s_on : s.onTrack track = true) (t_on : t.onTrack track = true) :
    s.reversed.intersects t = s.intersects t := by
  have back_on : s.reversed.onTrack track = true := s_on
  have s_lies : LiesOn [s] track := List.forall_mem_singleton.mpr s_on
  have back_lies : LiesOn [s.reversed] track := List.forall_mem_singleton.mpr back_on
  rw [Bool.eq_iff_iff, intersects_iff_touches back_on t_on, intersects_iff_touches s_on t_on]
  refine exists_congr fun m => and_congr_right fun on_t => ?_
  exact ((samePoints_reversed s_lies).touches_iff s_lies back_lies (locations_on t_on m on_t)).symm

theorem intersects_comm (s_on : s.onTrack track = true) (t_on : t.onTrack track = true) :
    s.intersects t = t.intersects s :=
  haveCommonPoint_comm (locations_on s_on) (locations_on t_on)

end Points

/-- The expansion of a segment and of its reversal. A segment from one offset to another has a
location for each offset of the two and between them, which on any track that has its section is the
point at that distance from the end it departs from. These locations are different points, but for the
first and the last one of a segment round a whole loop. The same stretch from the other end of the
section is a segment too, with equivalent locations in reverse, and where either of two segments is
turned they intersect as before. -/
theorem locations_expansion (s : Segment) :
    s.locations.length = s.stop - s.start + 1 ∧
    (∀ track : Track, s.onTrack track = true → ∃ stored,
      track.sectionAt? s.departing = some stored ∧ stored.Same s.on ∧
        s.locations.map track.point = (List.range (s.stop - s.start + 1)).map fun i =>
          stored.pointFrom s.departing (s.start + i)) ∧
    (∀ (i j : Nat) (before : i < j) (within : j < s.locations.length),
      s.locations[i].Equivalent s.locations[j] ↔
        i = 0 ∧ j = s.stop - s.start ∧ s.GoesRound) ∧
    build s.on s.arriving ((s.on.length : Int) - s.stop) ((s.on.length : Int) - s.start) =
      .ok s.reversed ∧
    List.Forall₂ Location.Equivalent s.reversed.locations s.locations.reverse ∧
    ∀ (track : Track) (t : Segment), s.onTrack track = true → t.onTrack track = true →
      s.reversed.intersects t = s.intersects t ∧ s.intersects t.reversed = s.intersects t := by
  refine ⟨s.length_locations, fun track s_on => map_point_locations s_on, ?_, s.build_reversed,
    s.locations_reversed, ?_⟩
  · intro i j before within
    rw [length_locations] at within
    simp only [getElem_locations]
    exact locationAfter_equivalent_iff before (Nat.le_of_lt_succ within)
  · intro track t s_on t_on
    have back_on : t.reversed.onTrack track = true := t_on
    refine ⟨reversed_intersects s_on t_on, ?_⟩
    rw [intersects_comm s_on back_on, reversed_intersects t_on s_on, intersects_comm t_on s_on]

/-- Round a whole loop the first location and the last are one point and all others are different,
and from its other end the loop meets what it meets from this one. -/
theorem locations_expansion_loop :
    let s : Segment := .loopOut 10
    let t : Segment := .loopHome 4
    s.onTrack (.single .loop) = true ∧ t.onTrack (.single .loop) = true ∧
      s.locations.length = 11 ∧
      (∀ last : 10 < s.locations.length,
        s.locations[0].Equivalent s.locations[10] ∧
          ¬ s.locations[0].Equivalent s.locations[9]) ∧
      s.reversed.intersects t = s.intersects t := by
  intro s t
  have s_on : s.onTrack (.single .loop) = true := (Track.contains_single _ _).mpr (.refl _)
  have t_on : t.onTrack (.single .loop) = true := (Track.contains_single _ _).mpr (.refl _)
  obtain ⟨count, -, different, -, -, turned⟩ := locations_expansion s
  refine ⟨s_on, t_on, count, fun last => ⟨?_, fun same => ?_⟩, (turned _ t s_on t_on).1⟩
  · exact (different 0 10 (by decide) last).mpr (by decide)
  · exact absurd ((different 0 9 (by decide) (Nat.lt_of_succ_lt last)).mp same) (by decide)

end Segment

end Trackage
