import Trackage.Proofs.Segment.Locations

/-!
Segments travelled the other way. A segment and its reversal cover the same stretch from the two ends
of their section, and come to the same points in opposite orders.
-/

namespace Trackage

theorem Section.opposite_opposite {s : Section} {e : EndPoint} (member : e ∈ s.ends) :
    s.opposite (s.opposite e) = e :=
  (eq_opposite (s.opposite_mem_ends e) member (s.opposite_ne e)).symm

namespace Segment

theorem arriving_mem (s : Segment) : s.arriving ∈ s.on.ends := s.on.opposite_mem_ends s.departing

theorem far_offsets_lt (s : Segment) : s.on.length - s.stop < s.on.length - s.start := by
  have ordered := s.start_lt_stop
  have within := s.stop_le_length
  omega

theorem far_stop_le (s : Segment) : s.on.length - s.start ≤ s.on.length := Nat.sub_le _ _

/-- The same stretch, departing from the other end of the section. -/
def reversed (s : Segment) : Segment where
  on := s.on
  departing := s.arriving
  start := s.on.length - s.stop
  stop := s.on.length - s.start
  departing_mem := s.arriving_mem
  start_lt_stop := s.far_offsets_lt
  stop_le_length := s.far_stop_le

@[simp] theorem length_reversed (s : Segment) : s.reversed.length = s.length := by
  have ordered := s.start_lt_stop
  have within := s.stop_le_length
  simp only [length, reversed]
  omega

@[simp] theorem onTrack_reversed (s : Segment) (track : Track) :
    s.reversed.onTrack track = s.onTrack track := rfl

theorem locationAfter_of_lt {s : Segment} {distance : Nat}
    (within : s.start + distance < s.on.length) :
    s.locationAfter distance =
      ⟨s.on, s.departing, s.start + distance, s.departing_mem, within⟩ := dif_pos within

theorem locationAfter_of_le {s : Segment} {distance : Nat}
    (beyond : s.on.length ≤ s.start + distance) :
    s.locationAfter distance = .far s.on s.departing := dif_neg (Nat.not_lt.mpr beyond)

theorem locationAfter_reversed (s : Segment) {distance : Nat} (inside : distance ≤ s.length) :
    (s.reversed.locationAfter distance).Equivalent (s.locationAfter (s.length - distance)) := by
  have ordered := s.start_lt_stop
  have within := s.stop_le_length
  have length_eq : s.length = s.stop - s.start := rfl
  have start_eq : s.reversed.start = s.on.length - s.stop := rfl
  have section_length : s.reversed.on.length = s.on.length := rfl
  rw [Location.equivalent_iff_cases]
  -- Either end of the section is a far end for one of the two segments, and all other points are
  -- described from both ends.
  by_cases at_near : distance = s.stop
  · rw [locationAfter_of_le (by omega), locationAfter_of_lt (by omega)]
    refine .inr (.inl ⟨Section.opposite_opposite s.departing_mem, ?_⟩)
    simp only [Location.far]
    omega
  · rw [locationAfter_of_lt (by omega)]
    by_cases at_far : s.start + (s.length - distance) < s.on.length
    · rw [locationAfter_of_lt at_far]
      refine .inr (.inr ⟨.refl _, s.on.opposite_ne s.departing, ?_⟩)
      simp only
      omega
    · rw [locationAfter_of_le (Nat.not_lt.mp at_far)]
      refine .inr (.inl ⟨rfl, ?_⟩)
      simp only [Location.far]
      omega

end Segment

end Trackage
