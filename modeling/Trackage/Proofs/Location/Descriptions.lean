import Trackage.Proofs.Location.Equivalence

/-!
Descriptions on a section. A location lies on a section of its track exactly when one of the
locations that can be built on that section is the same point, so that the descriptions of one point
lie on the same sections.
-/

namespace Trackage

/-- All locations of a section, from either of its ends. -/
def Section.descriptions (s : Section) : List Location :=
  s.ends.attach.flatMap fun e =>
    List.ofFn fun offset : Fin s.length => ⟨s, e.1, offset, e.2, offset.isLt⟩

theorem Section.mem_descriptions {s : Section} {l : Location} : l ∈ s.descriptions ↔ l.on = s := by
  simp only [descriptions, List.mem_flatMap, List.mem_ofFn]
  constructor
  · rintro ⟨e, -, offset, rfl⟩
    rfl
  · rintro rfl
    exact ⟨⟨l.endPoint, l.endPoint_mem⟩, List.mem_attach _ _, ⟨l.offset, l.offset_lt⟩, rfl⟩

namespace Location

theorem build_eq_ok_iff {on : Section} {e : EndPoint} {offset : Int} {l : Location} :
    build on e offset = .ok l ↔ l.on = on ∧ l.endPoint = e ∧ (l.offset : Int) = offset := by
  unfold build
  constructor
  · intro built
    split at built
    · cases built
    · split at built
      · cases built
      · split at built
        · cases built
          exact ⟨rfl, rfl, by simp only; omega⟩
        · cases built
  · rintro ⟨rfl, rfl, rfl⟩
    have within := l.offset_lt
    rw [dif_neg (by omega), dif_neg (by omega), dif_pos l.endPoint_mem]
    rfl

theorem exists_build_iff {s : Section} {P : Location → Prop} :
    (∃ e ∈ s.ends, ∃ offset < s.length, ∃ l, build s e (offset : Nat) = .ok l ∧ P l) ↔
      ∃ l ∈ s.descriptions, P l := by
  simp only [Section.mem_descriptions]
  constructor
  · rintro ⟨e, -, offset, -, l, built, holds⟩
    exact ⟨l, (build_eq_ok_iff.mp built).1, holds⟩
  · rintro ⟨l, rfl, holds⟩
    exact ⟨l.endPoint, l.endPoint_mem, l.offset, l.offset_lt, l,
      build_eq_ok_iff.mpr ⟨rfl, rfl, rfl⟩, holds⟩

variable {track : Track} {a b : Location} {s : Section}

theorem onSection_of_zero (zero : a.offset = 0) :
    a.onSection s = true ↔ ∃ e ∈ s.ends, e.junction = a.endPoint.junction := by
  simp only [onSection, atJunction, zero, beq_self_eq_true, if_true, List.contains_iff_mem,
    Section.junctions, List.mem_map]

theorem onSection_of_ne_zero (between : a.offset ≠ 0) : a.onSection s = true ↔ s.Same a.on := by
  simp only [onSection, atJunction, beq_iff_eq, if_neg between, decide_eq_true_eq]

/-- A location lies on a section of its track when it is the same point as one built there. -/
theorem onSection_iff_exists (a_on : a.On track) (s_on : track.contains s = true) :
    a.onSection s = true ↔ ∃ l ∈ s.descriptions, l.Equivalent a := by
  simp only [Section.mem_descriptions]
  by_cases zero : a.offset = 0
  -- The junction is described from that end of the section by which the section touches it.
  · rw [onSection_of_zero zero]
    constructor
    · rintro ⟨e, on_s, junctions⟩
      refine ⟨⟨s, e, 0, on_s, s.length_pos⟩, rfl, ?_⟩
      exact (equivalent_iff_of_zero zero).mpr ⟨rfl, junctions⟩
    · rintro ⟨l, rfl, same⟩
      exact ⟨l.endPoint, l.endPoint_mem, ((equivalent_iff_of_zero zero).mp same).2⟩
  -- Any other point keeps its end and its offset, however its section is written.
  · rw [onSection_of_ne_zero zero]
    constructor
    · intro sections
      have on_s : a.endPoint ∈ s.ends := (sections.mem_ends_iff _).mpr a.endPoint_mem
      refine ⟨⟨s, a.endPoint, a.offset, on_s, sections.1 ▸ a.offset_lt⟩, rfl, ?_⟩
      exact (equivalent_iff_cases _ _).mpr (.inr (.inl ⟨rfl, rfl⟩))
    · rintro ⟨l, rfl, same⟩
      have l_on : l.On track := s_on
      rcases (equivalent_iff_cases l a).mp same with ⟨-, a_zero, -⟩ | ⟨ends, -⟩ | ⟨sections, -, -⟩
      · exact absurd a_zero zero
      · exact l_on.same a_on ends
      · exact sections

theorem Equivalent.atJunction_eq (same : a.Equivalent b) : a.atJunction = b.atJunction := by
  rw [Bool.eq_iff_iff, atJunction, atJunction, beq_iff_eq, beq_iff_eq]
  constructor
  · exact fun a_zero => ((equivalent_iff_of_zero a_zero).mp same.symm).1
  · exact fun b_zero => ((equivalent_iff_of_zero b_zero).mp same).1

theorem Equivalent.onSection_eq (a_on : a.On track) (b_on : b.On track) (same : a.Equivalent b)
    (s_on : track.contains s = true) : a.onSection s = b.onSection s := by
  rw [Bool.eq_iff_iff, onSection_iff_exists a_on s_on, onSection_iff_exists b_on s_on]
  refine exists_congr fun l => and_congr_right fun described => ?_
  have l_on : l.On track := by rw [On, Section.mem_descriptions.mp described]; exact s_on
  constructor
  · exact fun met => met.trans l_on a_on b_on same
  · exact fun met => met.trans l_on b_on a_on same.symm

/-- On one track a location lies on a section exactly when an end-point of the section and an offset
less than its length make an equivalent location there. Hence equivalent locations agree on whether
they are junctions, and on which sections of the track they lie. -/
theorem onSection_by_descriptions (track : Track) :
    (∀ (a : Location) (s : Section), a.On track → track.contains s = true →
      (a.onSection s = true ↔
        ∃ e ∈ s.ends, ∃ offset < s.length, ∃ l, build s e (offset : Nat) = .ok l ∧
          l.Equivalent a)) ∧
    ∀ a b : Location, a.On track → b.On track → a.Equivalent b →
      a.atJunction = b.atJunction ∧
        ∀ s : Section, track.contains s = true → a.onSection s = b.onSection s := by
  constructor
  · intro a s a_on s_on
    rw [onSection_iff_exists a_on s_on, exists_build_iff]
  · intro a b a_on b_on same
    exact ⟨same.atJunction_eq, fun s s_on => same.onSection_eq a_on b_on s_on⟩

/-- Four units from one end and six units from the other are one point, which lies on the section
also when the section is written the other way. -/
theorem onSection_by_descriptions_lineBack :
    let ahead : Location := ⟨.line, Section.line.first, 4, by simp, by decide⟩
    let back : Location := ⟨.lineBack, Section.lineBack.first, 6, by simp, by decide⟩
    ahead.On (.single .line) ∧ back.On (.single .line) ∧
      (Track.single .line).contains .lineBack = true ∧
      ahead.onSection .lineBack = true ∧ ahead.atJunction = back.atJunction ∧
      ahead.onSection .lineBack = back.onSection .lineBack := by
  intro ahead back
  have written_back : (Track.single .line).contains .lineBack = true :=
    (Track.contains_single _ _).mpr ⟨rfl, .inr ⟨rfl, rfl⟩⟩
  have ahead_on : ahead.On (.single .line) := (Track.contains_single _ _).mpr (.refl _)
  have back_on : back.On (.single .line) := written_back
  obtain ⟨described, alike⟩ := onSection_by_descriptions (.single .line)
  have same : ahead.Equivalent back := by decide
  have lies := (described ahead .lineBack ahead_on written_back).mpr
    ⟨Section.lineBack.first, by simp, 6, by decide, back, build_eq_ok_iff.mpr ⟨rfl, rfl, rfl⟩,
      same.symm⟩
  obtain ⟨junctions, sections⟩ := alike ahead back ahead_on back_on same
  exact ⟨ahead_on, back_on, written_back, lies, junctions, sections _ written_back⟩

end Location

end Trackage
