import Trackage.Proofs.Segment.Locations

/-!
Leading parts of rows of segments. A part covers only points of its row, and one that is as long as
the row is the whole row.
-/

namespace Trackage

/-- The first segments of a row whole, and after them possibly the next one, stopped earlier. -/
inductive LeadingPart : List Segment → List Segment → Prop
  | none (row : List Segment) : LeadingPart [] row
  | cut {s t : Segment} (rest : List Segment) (sections : t.on = s.on)
      (ends : t.departing = s.departing) (starts : t.start = s.start) (stops : t.stop < s.stop) :
      LeadingPart [t] (s :: rest)
  | whole (s : Segment) {part rest : List Segment} (later : LeadingPart part rest) :
      LeadingPart (s :: part) (s :: rest)

namespace Segment

/-- A segment that is stopped earlier is a leading piece. -/
theorem eq_piece_of_cut {s t : Segment} (sections : t.on = s.on) (ends : t.departing = s.departing)
    (starts : t.start = s.start) (stops : t.stop < s.stop) :
    ∃ fits : t.length ≤ s.length, t = s.piece 0 t.length t.length_pos fits := by
  have ordered := t.start_lt_stop
  have fits : t.length ≤ s.length := by
    unfold length
    omega
  refine ⟨fits, Segment.ext sections ends starts ?_⟩
  simp only [piece, length]
  omega

end Segment

namespace LeadingPart

theorem refl (row : List Segment) : LeadingPart row row := by
  induction row with
  | nil => exact .none []
  | cons s rest ih => exact .whole s ih

theorem lengthOf_le {part row : List Segment} (leading : LeadingPart part row) :
    lengthOf part ≤ lengthOf row := by
  induction leading with
  | none row => exact Nat.zero_le _
  | cut rest sections ends starts stops =>
    obtain ⟨fits, -⟩ := Segment.eq_piece_of_cut sections ends starts stops
    simp only [lengthOf]
    omega
  | whole s later ih =>
    simp only [lengthOf]
    omega

theorem eq_of_lengthOf_eq {part row : List Segment} (leading : LeadingPart part row)
    (lengths : lengthOf part = lengthOf row) : part = row := by
  induction leading with
  | none row =>
    cases row with
    | nil => rfl
    | cons s rest =>
      have positive := s.length_pos
      simp only [lengthOf] at lengths
      omega
  -- A segment that stops earlier is shorter, so that the lengths cannot be equal here.
  | @cut s t rest sections ends starts stops =>
    have shorter : t.length < s.length := by
      have ordered := t.start_lt_stop
      unfold Segment.length
      omega
    simp only [lengthOf] at lengths
    omega
  | whole s later ih =>
    simp only [lengthOf, Nat.add_left_cancel_iff] at lengths
    rw [ih lengths]

theorem antisymm {part row : List Segment} (leading : LeadingPart part row)
    (back : LeadingPart row part) : part = row :=
  leading.eq_of_lengthOf_eq (Nat.le_antisymm leading.lengthOf_le back.lengthOf_le)

theorem locations_subset {part row : List Segment} (leading : LeadingPart part row) :
    ∀ l ∈ locationsOf part, l ∈ locationsOf row := by
  induction leading with
  | none row => intro l absent; cases absent
  | cut rest sections ends starts stops =>
    intro l member
    obtain ⟨fits, cut⟩ := Segment.eq_piece_of_cut sections ends starts stops
    rw [cut, locationsOf_singleton, Segment.mem_locations] at member
    obtain ⟨distance, within, rfl⟩ := member
    rw [Segment.length_piece, Nat.sub_zero] at within
    rw [Segment.locationAfter_piece, Nat.zero_add, locationsOf_cons]
    have on_s := Segment.mem_locations.mpr ⟨distance, Nat.le_trans within fits, rfl⟩
    exact List.mem_append_left _ on_s
  | whole s later ih =>
    intro l member
    rw [locationsOf_cons, List.mem_append] at member ⊢
    exact member.imp_right (ih l)

theorem liesOn {part row : List Segment} {track : Track} (leading : LeadingPart part row)
    (row_on : LiesOn row track) : LiesOn part track := by
  induction leading with
  | none row => intro s absent; cases absent
  | cut rest sections ends starts stops =>
    intro u member
    obtain rfl := List.mem_singleton.mp member
    have s_on := row_on _ (List.mem_cons_self)
    unfold Segment.onTrack at s_on ⊢
    rw [sections]
    exact s_on
  | whole s later ih =>
    intro u member
    rcases List.mem_cons.mp member with rfl | further
    · exact row_on u List.mem_cons_self
    · exact ih row_on.tail u further

end LeadingPart

namespace Segment

variable {s : Segment} {distance : Nat}

theorem leading?_leadingPart (shorter : distance < s.length) (rest : List Segment) :
    LeadingPart (s.leading? distance).toList (s :: rest) := by
  unfold leading?
  split
  · refine .cut rest rfl rfl rfl ?_
    simp only [piece]
    unfold length at shorter
    omega
  · exact .none _

theorem mem_locations_leading? {l : Location}
    (member : l ∈ locationsOf (s.leading? distance).toList) :
    ∃ d ≤ distance, s.locationAfter d = l := by
  unfold leading? at member
  split at member
  · rw [Option.toList_some, locationsOf_singleton, mem_locations] at member
    obtain ⟨d, within, rfl⟩ := member
    rw [length_piece, Nat.sub_zero] at within
    exact ⟨d, within, by rw [locationAfter_piece, Nat.zero_add]⟩
  · cases member

/-- A segment that is stopped earlier is a leading part of every longer leading piece. -/
theorem cut_leads_leading? {t : Segment} (sections : t.on = s.on)
    (ends : t.departing = s.departing) (starts : t.start = s.start) (stops : t.stop < s.stop)
    (reaches : t.length ≤ distance) (within : distance ≤ s.length) :
    LeadingPart [t] (s.leading? distance).toList := by
  have positive := t.length_pos
  have fits : 0 < distance ∧ distance ≤ s.length := by omega
  unfold leading?
  rw [dif_pos fits, Option.toList_some]
  -- The piece goes on behind the segment or is the segment.
  rcases Nat.lt_or_eq_of_le reaches with shorter | whole
  · refine .cut [] sections ends starts ?_
    simp only [piece]
    unfold length at shorter
    omega
  · obtain ⟨_, cut⟩ := eq_piece_of_cut sections ends starts stops
    subst whole
    rw [← cut]
    exact .refl [t]

end Segment

end Trackage
