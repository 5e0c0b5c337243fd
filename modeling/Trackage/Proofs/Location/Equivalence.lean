import Trackage.Location.Basic
import Trackage.Proofs.Track.Sections

/-!
Descriptions of one point. Equivalence is reflexive and symmetric for any two locations. Among the
locations of one track it is equality of the points themselves, and so are equality of canonical
forms and, in one direction, equality of keys.
-/

namespace Trackage

/-- A point of a track, whatever it is described from: a junction, or a distance along a stored
section from its first end. -/
inductive Point where
  | junction (name : String)
  | along (on : Section) (distance : Nat)
deriving DecidableEq, Repr

/-- An offset from an end of a section, counted from its first end. -/
def Section.fromFirst (s : Section) (e : EndPoint) (offset : Nat) : Nat :=
  if e = s.first then offset else s.length - offset

/-- The point that a location describes. -/
def Track.point (track : Track) (l : Location) : Point :=
  if l.offset = 0 then .junction l.endPoint.junction
  else
    let stored := (track.sectionAt? l.endPoint).getD l.on
    .along stored (stored.fromFirst l.endPoint l.offset)

/-- Offsets from the ends of a section reach one place when they are equal offsets from one end, or
fill the section from both. -/
theorem Section.fromFirst_eq_iff {s : Section} {e f : EndPoint} {x y : Nat} (e_mem : e ∈ s.ends)
    (f_mem : f ∈ s.ends) (x_lt : x < s.length) (y_lt : y < s.length) :
    s.fromFirst e x = s.fromFirst f y ↔ if e = f then x = y else x + y = s.length := by
  unfold fromFirst
  by_cases ends : e = f
  · subst ends
    rw [if_pos rfl]
    split <;> omega
  · have other := eq_opposite e_mem f_mem ends
    unfold opposite at other
    -- The two ends are different, so that exactly one of them is the first.
    by_cases first : e = s.first
    · rw [if_pos first] at other
      rw [if_neg ends, if_pos first, if_neg (other ▸ s.first_ne_second.symm)]
      omega
    · rw [if_neg first] at other
      rw [if_neg ends, if_neg first, if_pos other]
      omega

namespace Location

/-- The section of the location is one of the track. -/
def On (l : Location) (track : Track) : Prop := track.contains l.on = true

instance (l : Location) (track : Track) : Decidable (l.On track) := by unfold On; infer_instance

/-- Equivalence is one of three cases: one junction, one description, or the two descriptions from
the two ends of a section. -/
theorem equivalent_iff_cases (a b : Location) :
    a.Equivalent b ↔
      (a.offset = 0 ∧ b.offset = 0 ∧ a.endPoint.junction = b.endPoint.junction) ∨
        (a.endPoint = b.endPoint ∧ a.offset = b.offset) ∨
        (a.on.Same b.on ∧ a.endPoint ≠ b.endPoint ∧ a.offset + b.offset = a.on.length) := by
  have a_lt := a.offset_lt
  unfold Equivalent
  -- The cases are tried one after the other. Each that is reached excludes the ones before it.
  split
  next zero =>
    constructor
    · exact fun junctions => .inl ⟨zero.1, zero.2, junctions⟩
    · rintro (⟨-, -, junctions⟩ | ⟨ends, -⟩ | ⟨-, -, fills⟩)
      · exact junctions
      · rw [ends]
      · omega
  next positive =>
    split
    next ends =>
      constructor
      · exact fun offsets => .inr (.inl ⟨ends, offsets⟩)
      · rintro (⟨a_zero, b_zero, -⟩ | ⟨-, offsets⟩ | ⟨-, different, -⟩)
        · exact absurd ⟨a_zero, b_zero⟩ positive
        · exact offsets
        · exact absurd ends different
    next ends =>
      constructor
      · exact fun ⟨sections, fills⟩ => .inr (.inr ⟨sections, ends, fills⟩)
      · rintro (⟨a_zero, b_zero, -⟩ | ⟨same, -⟩ | ⟨sections, -, fills⟩)
        · exact absurd ⟨a_zero, b_zero⟩ positive
        · exact absurd same ends
        · exact ⟨sections, fills⟩

theorem equivalent_refl (l : Location) : l.Equivalent l :=
  (equivalent_iff_cases l l).mpr (.inr (.inl ⟨rfl, rfl⟩))

theorem Equivalent.symm {a b : Location} (same : a.Equivalent b) : b.Equivalent a := by
  rw [equivalent_iff_cases] at same ⊢
  rcases same with ⟨a_zero, b_zero, junctions⟩ | ⟨ends, offsets⟩ | ⟨sections, ends, fills⟩
  · exact .inl ⟨b_zero, a_zero, junctions.symm⟩
  · exact .inr (.inl ⟨ends.symm, offsets.symm⟩)
  · refine .inr (.inr ⟨sections.symm, ends.symm, ?_⟩)
    rw [← sections.1, Nat.add_comm]
    exact fills

theorem not_equivalent_of_zero {a b : Location} (a_zero : a.offset = 0) (b_pos : b.offset ≠ 0) :
    ¬ a.Equivalent b := by
  intro same
  rcases (equivalent_iff_cases a b).mp same with
    ⟨-, b_zero, -⟩ | ⟨-, offsets⟩ | ⟨sections, -, fills⟩
  · exact b_pos b_zero
  · exact b_pos (offsets ▸ a_zero)
  · have b_lt := b.offset_lt
    rw [a_zero, Nat.zero_add, sections.1] at fills
    omega

theorem equivalent_iff_of_zero {a b : Location} (b_zero : b.offset = 0) :
    a.Equivalent b ↔ a.offset = 0 ∧ a.endPoint.junction = b.endPoint.junction := by
  by_cases a_zero : a.offset = 0
  · simp only [Equivalent, a_zero, b_zero, and_self, if_true, true_and]
  · simp only [a_zero, false_and, iff_false]
    exact fun same => not_equivalent_of_zero b_zero a_zero same.symm

theorem On.stored {l : Location} {track : Track} (on : l.On track) :
    ∃ s, track.sectionAt? l.endPoint = some s ∧ s ∈ track.sections ∧ s.Same l.on := by
  obtain ⟨s, stored, same⟩ := (track.contains_iff l.on).mp on
  have on_s : l.endPoint ∈ s.ends := (same.mem_ends_iff _).mpr l.endPoint_mem
  exact ⟨s, (track.sectionAt?_eq_some_iff _ _).mpr ⟨stored, on_s⟩, stored, same⟩

theorem On.same {a b : Location} {track : Track} (a_on : a.On track) (b_on : b.On track)
    (ends : a.endPoint = b.endPoint) : a.on.Same b.on :=
  Track.same_of_mem_ends a_on b_on a.endPoint_mem (ends ▸ b.endPoint_mem)

/-- Locations of one track are equivalent exactly when they are one point of it. -/
theorem equivalent_iff_point_eq {track : Track} {a b : Location} (a_on : a.On track)
    (b_on : b.On track) : a.Equivalent b ↔ track.point a = track.point b := by
  obtain ⟨s, at_a, s_stored, s_same⟩ := a_on.stored
  obtain ⟨t, at_b, t_stored, t_same⟩ := b_on.stored
  have a_lt := a.offset_lt
  have b_lt := b.offset_lt
  have a_end : a.endPoint ∈ s.ends := (s_same.mem_ends_iff _).mpr a.endPoint_mem
  have b_end : b.endPoint ∈ t.ends := (t_same.mem_ends_iff _).mpr b.endPoint_mem
  have s_length := s_same.1
  have t_length := t_same.1
  simp only [Track.point, at_a, at_b, Option.getD_some]
  -- A junction and a point between the ends are never one, on either side.
  by_cases a_zero : a.offset = 0 <;> by_cases b_zero : b.offset = 0
  · simp [Equivalent, a_zero, b_zero]
  · simp [not_equivalent_of_zero a_zero b_zero, a_zero, b_zero]
  · have apart : ¬ a.Equivalent b := fun same => not_equivalent_of_zero b_zero a_zero same.symm
    simp [apart, a_zero, b_zero]
  · simp only [Equivalent, a_zero, b_zero, false_and, if_false, Point.along.injEq]
    by_cases one : s = t
    · subst one
      have sections : a.on.Same b.on := s_same.symm.trans t_same
      rw [Section.fromFirst_eq_iff a_end b_end (by omega) (by omega), s_length]
      simp only [sections, true_and]
    -- Two stored sections have no end-point in common, and no location of one is on the other.
    · have no_common {e : EndPoint} (on_s : e ∈ s.ends) : e ∉ t.ends :=
        fun on_t => one (track.eq_of_mem_ends s_stored t_stored on_s on_t)
      have ends : a.endPoint ≠ b.endPoint := fun ends => no_common a_end (ends ▸ b_end)
      have sections : ¬ a.on.Same b.on := fun same =>
        no_common a_end (((t_same.trans same.symm).mem_ends_iff _).mpr a.endPoint_mem)
      simp only [if_neg ends, sections, one, false_and]

theorem Equivalent.trans {track : Track} {a b c : Location} (a_on : a.On track) (b_on : b.On track)
    (c_on : c.On track) (first : a.Equivalent b) (second : b.Equivalent c) : a.Equivalent c := by
  rw [equivalent_iff_point_eq a_on b_on] at first
  rw [equivalent_iff_point_eq b_on c_on] at second
  exact (equivalent_iff_point_eq a_on c_on).mpr (first.trans second)

theorem canonical_eq_junction {l : Location} {name : String}
    (form : l.canonical = .junction name) : l.offset = 0 ∧ l.endPoint.junction = name := by
  unfold canonical at form
  split at form
  next zero => exact ⟨zero, Canonical.junction.inj form⟩
  · simp only at form
    split at form
    · cases form
    · split at form <;> cases form

/-- The canonical form is itself a description of the location. -/
theorem exists_canonical_description {l : Location} {e : EndPoint} {offset : Nat}
    (form : l.canonical = .along e offset) :
    ∃ m : Location, m.on = l.on ∧ m.endPoint = e ∧ m.offset = offset ∧ m.Equivalent l := by
  have lt := l.offset_lt
  unfold canonical at form
  split at form
  · cases form
  next positive =>
    -- The form is the location itself or this description of it from the far end.
    let far : Location :=
      ⟨l.on, l.on.opposite l.endPoint, l.on.length - l.offset, l.on.opposite_mem_ends _, by omega⟩
    have from_far : far.Equivalent l := by
      refine (equivalent_iff_cases far l).mpr (.inr (.inr ⟨.refl _, l.on.opposite_ne _, ?_⟩))
      exact Nat.sub_add_cancel (Nat.le_of_lt lt)
    simp only at form
    split at form
    · cases form; exact ⟨l, rfl, rfl, rfl, l.equivalent_refl⟩
    · split at form
      · cases form; exact ⟨far, rfl, rfl, rfl, from_far⟩
      · split at form
        · cases form; exact ⟨l, rfl, rfl, rfl, l.equivalent_refl⟩
        · cases form
          have halfway : far.offset = l.offset := by
            change l.on.length - l.offset = l.offset
            omega
          exact ⟨far, rfl, rfl, halfway, from_far⟩

theorem canonical_eq_of_same {a b : Location} (sections : a.on.Same b.on)
    (ends : a.endPoint = b.endPoint) (offsets : a.offset = b.offset) :
    a.canonical = b.canonical := by
  unfold canonical
  rw [ends, offsets, sections.1, sections.opposite_eq (ends ▸ a.endPoint_mem)]

/-- The canonical form does not depend on the end from which the location is described. -/
theorem canonical_eq_of_fills {a b : Location} (sections : a.on.Same b.on)
    (ends : a.endPoint ≠ b.endPoint) (fills : a.offset + b.offset = a.on.length) :
    a.canonical = b.canonical := by
  have a_lt := a.offset_lt
  have b_lt := b.offset_lt
  have lengths := sections.1
  have b_end : b.endPoint = a.on.opposite a.endPoint :=
    Section.eq_opposite a.endPoint_mem ((sections.mem_ends_iff _).mpr b.endPoint_mem) ends
  have a_end : a.endPoint = b.on.opposite b.endPoint :=
    Section.eq_opposite b.endPoint_mem ((sections.mem_ends_iff _).mp a.endPoint_mem) ends.symm
  have a_far : a.on.length - a.offset = b.offset := by omega
  have b_far : b.on.length - b.offset = a.offset := by omega
  have a_pos : ¬ a.offset = 0 := by omega
  have b_pos : ¬ b.offset = 0 := by omega
  simp only [canonical, if_neg a_pos, if_neg b_pos, ← a_end, ← b_end, a_far, b_far]
  rcases Nat.lt_trichotomy a.offset b.offset with nearer | halfway | farther
  · rw [if_pos nearer, if_neg (Nat.lt_asymm nearer), if_pos nearer]
  -- Halfway the order of the two ends decides, from whichever end it is asked.
  · simp only [halfway, Nat.lt_irrefl, if_false, Canonical.along.injEq, and_true]
    by_cases below : a.endPoint.le b.endPoint = true
    · have above : ¬ b.endPoint.le a.endPoint = true :=
        fun above => ends (EndPoint.le_antisymm below above)
      rw [if_pos below, if_neg above]
    · have above := (EndPoint.le_total a.endPoint b.endPoint).resolve_left below
      rw [if_neg below, if_pos above]
  · rw [if_neg (Nat.lt_asymm farther), if_pos farther, if_pos farther]

theorem equivalent_iff_canonical_eq {track : Track} {a b : Location} (a_on : a.On track)
    (b_on : b.On track) : a.Equivalent b ↔ a.canonical = b.canonical := by
  constructor
  · intro same
    rcases (equivalent_iff_cases a b).mp same with
      ⟨a_zero, b_zero, junctions⟩ | ⟨ends, offsets⟩ | ⟨sections, ends, fills⟩
    · simp [canonical, a_zero, b_zero, junctions]
    · exact canonical_eq_of_same (a_on.same b_on ends) ends offsets
    · exact canonical_eq_of_fills sections ends fills
  · intro forms
    cases form : b.canonical with
    | junction name =>
      obtain ⟨a_zero, a_name⟩ := canonical_eq_junction (forms.trans form)
      obtain ⟨b_zero, b_name⟩ := canonical_eq_junction form
      exact (equivalent_iff_cases a b).mpr (.inl ⟨a_zero, b_zero, a_name.trans b_name.symm⟩)
    -- Both forms are descriptions themselves, and these are equal.
    | along e offset =>
      obtain ⟨m, m_sec, m_end, m_offset, m_same⟩ := exists_canonical_description (forms.trans form)
      obtain ⟨n, n_sec, n_end, n_offset, n_same⟩ := exists_canonical_description form
      have m_on : m.On track := by rw [On, m_sec]; exact a_on
      have n_on : n.On track := by rw [On, n_sec]; exact b_on
      have between : m.Equivalent n := (equivalent_iff_cases m n).mpr
        (.inr (.inl ⟨m_end.trans n_end.symm, m_offset.trans n_offset.symm⟩))
      exact m_same.symm.trans a_on m_on b_on (between.trans m_on n_on b_on n_same)

theorem key_eq_of_equivalent {track : Track} {a b : Location} (a_on : a.On track)
    (b_on : b.On track) (same : a.Equivalent b) : a.key = b.key := by
  unfold key
  rw [(equivalent_iff_canonical_eq a_on b_on).mp same]

end Location

end Trackage
