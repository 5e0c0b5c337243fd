import Trackage.Proofs.Route.Intervals

/-!
Spans of segments. Counted from the first end of its section, a segment covers the distances from one
number to another, and the same ones when it is travelled the other way. Rows of segments that are
clear of each other have no distance on a section in common.
-/

namespace Trackage

/-- A point of a section, as its distance from the first end of the section. -/
def Location.fromFirst (l : Location) : Nat := l.on.fromFirst l.endPoint l.offset

/-- Locations of one section are one point when they are at one distance from its first end. -/
theorem Location.equivalent_of_fromFirst_eq {l m : Location} (sections : l.on = m.on)
    (distances : l.fromFirst = m.fromFirst) : l.Equivalent m := by
  have m_end : m.endPoint ∈ l.on.ends := sections ▸ m.endPoint_mem
  have m_lt : m.offset < l.on.length := sections ▸ m.offset_lt
  unfold fromFirst at distances
  rw [← sections, Section.fromFirst_eq_iff l.endPoint_mem m_end l.offset_lt m_lt] at distances
  rw [equivalent_iff_cases]
  split at distances
  next ends => exact .inr (.inl ⟨ends, distances⟩)
  next ends => exact .inr (.inr ⟨sections ▸ .refl _, ends, distances⟩)

namespace Segment

/-- A segment covers its section from one distance to another, both counted from the first end of the
section: these are as far apart as its offsets, and the points between them are those of the
segment. -/
structure Spans (s : Segment) (start stop : Nat) : Prop where
  width : start + (s.stop - s.start) = stop
  within : stop ≤ s.on.length
  points : ∀ distance : Nat, start ≤ distance ∧ distance ≤ stop ↔
    ∃ l ∈ s.locations, l.fromFirst = distance

theorem fromFirst_locationAfter {s : Segment} {distance : Nat} (within : distance ≤ s.length) :
    (s.locationAfter distance).fromFirst = s.on.fromFirst s.departing (s.start + distance) := by
  have fits := Nat.le_trans (add_le_stop within) s.stop_le_length
  rcases Nat.lt_or_eq_of_le fits with inside | at_end
  · rw [locationAfter_of_lt inside]
    rfl
  -- The far end is described from the other end of the section.
  · rw [locationAfter_of_le (Nat.le_of_eq at_end.symm), at_end]
    change s.on.fromFirst (s.on.opposite s.departing) 0 = s.on.fromFirst s.departing s.on.length
    unfold Section.fromFirst Section.opposite
    by_cases first : s.departing = s.on.first
    · simp only [first, if_true, if_neg s.on.first_ne_second.symm, Nat.sub_zero]
    · simp only [first, if_false, if_true, Nat.sub_self]

/-- A segment covers the distances from where it begins to where it ends. -/
theorem spans (s : Segment) : s.Spans (s.startFrom s.on.first) (s.stopFrom s.on.first) := by
  have ordered := s.start_lt_stop
  have fits := s.stop_le_length
  have length_eq : s.length = s.stop - s.start := rfl
  have points (distance : Nat) : (∃ l ∈ s.locations, l.fromFirst = distance) ↔
      ∃ after ≤ s.length, s.on.fromFirst s.departing (s.start + after) = distance := by
    constructor
    · rintro ⟨_, on_s, rfl⟩
      obtain ⟨after, within, rfl⟩ := mem_locations.mp on_s
      exact ⟨after, within, (fromFirst_locationAfter within).symm⟩
    · rintro ⟨after, within, rfl⟩
      exact ⟨_, mem_locations.mpr ⟨after, within, rfl⟩, fromFirst_locationAfter within⟩
  by_cases first : s.departing = s.on.first
  · simp only [startFrom, stopFrom, if_pos first]
    refine ⟨by omega, fits, fun distance => ?_⟩
    rw [points]
    simp only [Section.fromFirst, if_pos first]
    constructor
    · exact fun covered => ⟨distance - s.start, by omega, by omega⟩
    · rintro ⟨after, within, rfl⟩
      omega
  -- Seen from the other end, distances run backwards.
  · simp only [startFrom, stopFrom, if_neg first]
    refine ⟨by omega, Nat.sub_le _ _, fun distance => ?_⟩
    rw [points]
    simp only [Section.fromFirst, if_neg first]
    constructor
    · exact fun covered => ⟨s.on.length - distance - s.start, by omega, by omega⟩
    · rintro ⟨after, within, rfl⟩
      omega

/-- The span does not depend on the direction of travel. -/
theorem span_reversed (s : Segment) :
    s.reversed.startFrom s.on.first = s.startFrom s.on.first ∧
      s.reversed.stopFrom s.on.first = s.stopFrom s.on.first := by
  have ordered := s.start_lt_stop
  have fits := s.stop_le_length
  have departs : s.reversed.departing = s.on.opposite s.departing := rfl
  have length_eq : s.reversed.on.length = s.on.length := rfl
  have start_eq : s.reversed.start = s.on.length - s.stop := rfl
  have stop_eq : s.reversed.stop = s.on.length - s.start := rfl
  unfold startFrom stopFrom
  rw [departs, length_eq, start_eq, stop_eq]
  by_cases first : s.departing = s.on.first
  · have other : s.on.opposite s.departing ≠ s.on.first :=
      fun same => s.on.opposite_ne s.departing (same.trans first.symm)
    rw [if_neg other, if_neg other, if_pos first, if_pos first]
    omega
  · have same : s.on.opposite s.departing = s.on.first := if_neg first
    rw [if_pos same, if_pos same, if_neg first, if_neg first]
    exact ⟨rfl, rfl⟩

/-- Where rows of segments are clear of each other, their spans on one section do not meet. -/
theorem Spans.apart {s t : Segment} {row other : List Segment} {start stop first last : Nat}
    (spans : s.Spans start stop) (also : t.Spans first last) (clear : ClearOf row other)
    (s_in : s ∈ row) (t_in : t ∈ other) (sections : s.on = t.on) (distance : Nat) :
    ¬ ((start ≤ distance ∧ distance ≤ stop) ∧ (first ≤ distance ∧ distance ≤ last)) := by
  rw [spans.points, also.points]
  rintro ⟨⟨l, on_s, l_at⟩, m, on_t, m_at⟩
  -- A distance that both cover is a point of both segments.
  have on_section : l.on = m.on := by
    obtain ⟨_, -, rfl⟩ := mem_locations.mp on_s
    obtain ⟨_, -, rfl⟩ := mem_locations.mp on_t
    rw [locationAfter_on, locationAfter_on, sections]
  exact clear l (mem_locationsOf.mpr ⟨s, s_in, on_s⟩) m (mem_locationsOf.mpr ⟨t, t_in, on_t⟩)
    (Location.equivalent_of_fromFirst_eq on_section (l_at.trans m_at.symm))

end Segment

end Trackage
