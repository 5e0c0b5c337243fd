import Trackage.Proofs.Route.Pieces
import Trackage.Proofs.Segment.Reversal

/-!
Points of rows of segments. A row covers the same points when its segments come in another order, are
travelled the other way, or are cut into pieces.
-/

namespace Trackage

/-- The points that a row of segments covers. -/
def pointsOf (track : Track) (row : List Segment) : List Point :=
  (locationsOf row).map track.point

def SamePoints (track : Track) (row other : List Segment) : Prop :=
  ∀ p, p ∈ pointsOf track row ↔ p ∈ pointsOf track other

variable {track : Track} {row other : List Segment}

theorem mem_pointsOf {p : Point} :
    p ∈ pointsOf track row ↔
      ∃ s ∈ row, ∃ distance ≤ s.length, track.point (s.locationAfter distance) = p := by
  simp only [pointsOf, List.mem_map, mem_locationsOf, Segment.mem_locations]
  constructor
  · rintro ⟨l, ⟨s, s_in, distance, within, rfl⟩, rfl⟩
    exact ⟨s, s_in, distance, within, rfl⟩
  · rintro ⟨s, s_in, distance, within, rfl⟩
    exact ⟨_, ⟨s, s_in, distance, within, rfl⟩, rfl⟩

theorem touches_iff_mem_pointsOf (row_on : LiesOn row track) {l : Location} (l_on : l.On track) :
    Touches row l ↔ track.point l ∈ pointsOf track row := by
  rw [pointsOf, List.mem_map]
  refine exists_congr fun m => and_congr_right fun m_in => ?_
  exact Location.equivalent_iff_point_eq (row_on.locations_on m m_in) l_on

namespace SamePoints

theorem symm (same : SamePoints track row other) : SamePoints track other row :=
  fun p => (same p).symm

theorem trans {third : List Segment} (same : SamePoints track row other)
    (further : SamePoints track other third) : SamePoints track row third :=
  fun p => (same p).trans (further p)

theorem touches_iff (same : SamePoints track row other) (row_on : LiesOn row track)
    (other_on : LiesOn other track) {l : Location} (l_on : l.On track) :
    Touches row l ↔ Touches other l := by
  rw [touches_iff_mem_pointsOf row_on l_on, touches_iff_mem_pointsOf other_on l_on]
  exact same _

end SamePoints

theorem samePoints_of_perm (reordered : row.Perm other) : SamePoints track row other := by
  intro p
  simp only [mem_pointsOf, reordered.mem_iff]

/-- It makes no difference which way a row is travelled. -/
theorem samePoints_reversed (row_on : LiesOn row track) :
    SamePoints track row (row.map Segment.reversed).reverse := by
  have turned {s : Segment} (s_in : s ∈ row) {distance : Nat} (within : distance ≤ s.length) :
      track.point (s.reversed.locationAfter distance) =
        track.point (s.locationAfter (s.length - distance)) := by
    have s_on := row_on s s_in
    have back_on : s.reversed.onTrack track = true := s_on
    exact (Location.equivalent_iff_point_eq (Segment.on_locationAfter back_on distance)
      (Segment.on_locationAfter s_on _)).mp (s.locationAfter_reversed within)
  intro p
  simp only [mem_pointsOf, List.mem_reverse, List.mem_map, exists_exists_and_eq_and,
    Segment.length_reversed]
  refine exists_congr fun s => and_congr_right fun s_in => ?_
  constructor
  · rintro ⟨distance, within, rfl⟩
    refine ⟨s.length - distance, Nat.sub_le _ _, ?_⟩
    rw [turned s_in (Nat.sub_le _ _), Nat.sub_sub_self within]
  · rintro ⟨distance, within, rfl⟩
    exact ⟨s.length - distance, Nat.sub_le _ _, (turned s_in within).symm⟩

/-- A row may be cut at any distance from its start. -/
theorem samePoints_cut (row : List Segment) {middle : Nat} (within : middle ≤ lengthOf row) :
    SamePoints track row
      (Route.pieces row 0 middle ++ Route.pieces row middle (lengthOf row)) := by
  intro p
  have divided (l : Location) : l ∈ locationsOf row ↔
      l ∈ locationsOf (Route.pieces row 0 middle) ∨
        l ∈ locationsOf (Route.pieces row middle (lengthOf row)) := by
    rw [← Route.mem_locationsOf_pieces_iff (Nat.zero_le _) within, Route.pieces_all]
  simp only [pointsOf, List.mem_map, locationsOf_append, List.mem_append, divided]

end Trackage
