import Trackage.Text.Numeral
import Trackage.Track.Basic

/-!
Sections of one track. A track contains a section when it stores the same one, and two sections that
it contains are the same as soon as they share an end-point. End-points are totally ordered.
-/

namespace Trackage

namespace EndPoint

theorem rank_injective {a b : Branch} (same : a.rank = b.rank) : a = b := by
  cases a <;> cases b <;> first | rfl | cases same

theorem le_total (a b : EndPoint) : a.le b = true ∨ b.le a = true := by
  by_cases same : a.junction = b.junction
  · rcases Nat.le_total a.branch.rank b.branch.rank with below | above
    · left; simp [le, same, below]
    · right; simp [le, same, above]
  -- Names are compared first, and different names never compare equal.
  · have keys : Text.orderKey a.junction ≠ Text.orderKey b.junction :=
      fun equal => same (Text.eq_of_orderKey_eq equal)
    by_cases below : Text.orderKey a.junction < Text.orderKey b.junction
    · left; simp [le, below]
    · have above : Text.orderKey b.junction < Text.orderKey a.junction := by
        by_cases above : Text.orderKey b.junction < Text.orderKey a.junction
        · exact above
        · exact absurd (List.le_antisymm above below) keys
      right; simp [le, above]

theorem le_antisymm {a b : EndPoint} (below : a.le b = true) (above : b.le a = true) : a = b := by
  simp only [le, Bool.or_eq_true, decide_eq_true_eq, Bool.and_eq_true, beq_iff_eq] at below above
  -- Neither name can come strictly before the other, so that only the branches are left to compare.
  have junctions : a.junction = b.junction := by
    rcases below with less | ⟨same, -⟩
    · rcases above with greater | ⟨same, -⟩
      · exact absurd greater (List.lt_asymm less)
      · exact same.symm
    · exact same
  have irreflexive (text : String) : ¬ Text.orderKey text < Text.orderKey text := List.lt_irrefl _
  rw [junctions] at below above
  have ranks : a.branch.rank = b.branch.rank := by
    rcases below with less | ⟨-, below⟩
    · exact absurd less (irreflexive _)
    · rcases above with less | ⟨-, above⟩
      · exact absurd less (irreflexive _)
      · exact Nat.le_antisymm below above
  cases a; cases b
  simp only [mk.injEq]
  exact ⟨junctions, rank_injective ranks⟩

end EndPoint

namespace Section

theorem Same.trans {s t u : Section} (first : s.Same t) (second : t.Same u) : s.Same u := by
  obtain ⟨lengths, direct | crossed⟩ := first
  · simpa only [Same, lengths, direct] using second
  · obtain ⟨further, direct | back⟩ := second
    · exact ⟨lengths.trans further, .inr ⟨crossed.1.trans direct.2, crossed.2.trans direct.1⟩⟩
    · exact ⟨lengths.trans further, .inl ⟨crossed.1.trans back.2, crossed.2.trans back.1⟩⟩

theorem opposite_ne (s : Section) (e : EndPoint) : s.opposite e ≠ e := by
  unfold opposite
  split
  next at_first => exact fun back => s.first_ne_second (at_first.symm.trans back.symm)
  next off_first => exact fun back => off_first back.symm

/-- The far end is the end-point that is not the near one. -/
theorem eq_opposite {s : Section} {e f : EndPoint} (e_mem : e ∈ s.ends) (f_mem : f ∈ s.ends)
    (different : e ≠ f) : f = s.opposite e := by
  rw [mem_ends] at e_mem f_mem
  unfold opposite
  rcases e_mem with rfl | rfl <;> rcases f_mem with rfl | rfl
  · exact absurd rfl different
  · rw [if_pos rfl]
  · rw [if_neg different]
  · exact absurd rfl different

/-- Which end is the far one does not depend on how the section is written. -/
theorem Same.opposite_eq {s t : Section} (same : s.Same t) {e : EndPoint} (member : e ∈ s.ends) :
    s.opposite e = t.opposite e :=
  eq_opposite ((same.mem_ends_iff e).mp member)
    ((same.mem_ends_iff _).mp (s.opposite_mem_ends e)) (s.opposite_ne e).symm

end Section

namespace Track

/-- A track contains the sections that are the same as a stored one. -/
theorem contains_iff (track : Track) (s : Section) :
    track.contains s = true ↔ ∃ t ∈ track.sections, t.Same s := by
  constructor
  · exact stored_of_contains
  · rintro ⟨t, stored, same⟩
    have on_t : s.first ∈ t.ends := (same.mem_ends_iff _).mpr (by simp)
    unfold contains sectionAt?
    rw [track.indexed]
    cases found : track.sections.find? fun u => decide (s.first ∈ u.ends) with
    | none =>
      have absent := List.find?_eq_none.mp found t stored
      simp only [decide_eq_true_eq] at absent
      exact absurd on_t absent
    | some u =>
      have on_u : s.first ∈ u.ends := by simpa using List.find?_some found
      obtain rfl := track.eq_of_mem_ends (List.mem_of_find?_eq_some found) stored on_u on_t
      simp [same]

theorem contains_of_same (track : Track) {s t : Section} (same : s.Same t)
    (s_on : track.contains s = true) : track.contains t = true := by
  obtain ⟨u, stored, u_same⟩ := (track.contains_iff s).mp s_on
  exact (track.contains_iff t).mpr ⟨u, stored, u_same.trans same⟩

/-- The section at an end-point is the stored one that has it. -/
theorem sectionAt?_eq_some_iff (track : Track) (e : EndPoint) (s : Section) :
    track.sectionAt? e = some s ↔ s ∈ track.sections ∧ e ∈ s.ends := by
  unfold sectionAt?
  rw [track.indexed]
  constructor
  · intro found
    exact ⟨List.mem_of_find?_eq_some found, by simpa using List.find?_some found⟩
  · rintro ⟨stored, on_s⟩
    cases found : track.sections.find? fun t => decide (e ∈ t.ends) with
    | none =>
      have absent := List.find?_eq_none.mp found s stored
      exact absurd on_s (by simpa using absent)
    | some t =>
      have on_t : e ∈ t.ends := by simpa using List.find?_some found
      rw [track.eq_of_mem_ends (List.mem_of_find?_eq_some found) stored on_t on_s]

/-- What is connected where depends on nothing but the sections. -/
theorem sectionAt?_congr {a b : Track} (same : a.sections = b.sections) (e : EndPoint) :
    a.sectionAt? e = b.sectionAt? e := by
  unfold sectionAt?
  rw [a.indexed, b.indexed, same]

theorem contains_congr {a b : Track} (same : a.sections = b.sections) (s : Section) :
    a.contains s = b.contains s := by
  unfold contains
  rw [sectionAt?_congr same]

theorem same_of_mem_ends {track : Track} {s t : Section} (s_on : track.contains s = true)
    (t_on : track.contains t = true) {e : EndPoint} (on_s : e ∈ s.ends) (on_t : e ∈ t.ends) :
    s.Same t := by
  obtain ⟨u, u_stored, u_same⟩ := (track.contains_iff s).mp s_on
  obtain ⟨v, v_stored, v_same⟩ := (track.contains_iff t).mp t_on
  obtain rfl := track.eq_of_mem_ends u_stored v_stored ((u_same.mem_ends_iff e).mpr on_s)
    ((v_same.mem_ends_iff e).mpr on_t)
  exact u_same.symm.trans v_same

/-- The track of one section. -/
def single (s : Section) : Track :=
  empty.append s (by simp [empty]) (by simp [empty])

theorem contains_single (s t : Section) : (single s).contains t = true ↔ s.Same t := by
  rw [contains_iff]
  simp [single, append, empty]

end Track

/-- A section of ten units between two junctions. -/
def Section.line : Section := ⟨10, ⟨"j1", .facing⟩, ⟨"j2", .normal⟩, by decide, by decide⟩

/-- The same section, its ends written the other way. -/
def Section.lineBack : Section := ⟨10, ⟨"j2", .normal⟩, ⟨"j1", .facing⟩, by decide, by decide⟩

/-- A section of ten units that comes back to the junction it leaves. -/
def Section.loop : Section :=
  ⟨10, ⟨"j1", .normal⟩, ⟨"j1", .reverse⟩, Section.line.length_pos, by decide⟩

/-- A section with a length of one digit more than can be written. -/
def Section.overlong : Section :=
  ⟨Text.numeralBound, ⟨"j1", .facing⟩, ⟨"j2", .normal⟩, by decide +kernel, by decide⟩

end Trackage
