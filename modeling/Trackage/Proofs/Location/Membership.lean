import Trackage.Location.Set
import Trackage.Proofs.Location.Equivalence

/-!
Sets of locations of one track. However members are found, a location is in a set exactly when it is
a description of the point of some location that was put in.
-/

namespace Trackage

namespace LocationSet

variable {track : Track}

/-- All members are locations of the track. -/
def On (set : LocationSet) (track : Track) : Prop := ∀ member ∈ set.members, member.On track

/-- On one track the key of a location never hides an equivalent member. -/
theorem contains_iff_equivalent {set : LocationSet} (set_on : set.On track) {l : Location}
    (l_on : l.On track) : set.contains l = true ↔ ∃ member ∈ set.members, member.Equivalent l := by
  rw [contains_iff]
  constructor
  · rintro ⟨member, present, -, same⟩
    exact ⟨member, present, same⟩
  -- The search looks under one key only, which is why equal keys are needed here.
  · rintro ⟨member, present, same⟩
    have keys := Location.key_eq_of_equivalent (set_on member present) l_on same
    exact ⟨member, present, keys, same⟩

theorem On.empty : LocationSet.empty.On track := by
  intro member present
  cases present

theorem contains_empty (l : Location) : LocationSet.empty.contains l = false := by
  rw [← Bool.not_eq_true, contains_iff]
  rintro ⟨member, present, -⟩
  cases present

theorem On.insert {set : LocationSet} (set_on : set.On track) {l : Location} (l_on : l.On track) :
    (set.insert l).On track := by
  unfold LocationSet.insert
  split
  · exact set_on
  · intro member present
    rcases List.mem_cons.mp present with rfl | old
    · exact l_on
    · exact set_on member old

theorem contains_insert {set : LocationSet} (set_on : set.On track) {l x : Location}
    (l_on : l.On track) (x_on : x.On track) :
    (set.insert l).contains x = true ↔ set.contains x = true ∨ l.Equivalent x := by
  rw [contains_iff_equivalent (set_on.insert l_on) x_on, contains_iff_equivalent set_on x_on]
  unfold LocationSet.insert
  split
  next present =>
    constructor
    · exact .inl
    -- A member that was there before stands for the location that was not added.
    · rintro (old | same)
      · exact old
      · obtain ⟨member, old, met⟩ := (contains_iff_equivalent set_on l_on).mp present
        exact ⟨member, old, met.trans (set_on member old) l_on x_on same⟩
  next =>
    simp only [push, List.mem_cons, exists_eq_or_imp]
    exact or_comm

theorem On.insertAll {set : LocationSet} (set_on : set.On track) {locations : List Location}
    (locations_on : ∀ l ∈ locations, l.On track) : (set.insertAll locations).On track := by
  induction locations generalizing set with
  | nil => exact set_on
  | cons l rest ih =>
    exact ih (set_on.insert (locations_on l (by simp)))
      fun m later => locations_on m (List.mem_cons_of_mem l later)

theorem contains_insertAll {set : LocationSet} (set_on : set.On track) {locations : List Location}
    (locations_on : ∀ l ∈ locations, l.On track) {x : Location} (x_on : x.On track) :
    (set.insertAll locations).contains x = true ↔
      set.contains x = true ∨ ∃ l ∈ locations, l.Equivalent x := by
  induction locations generalizing set with
  | nil => simp [insertAll]
  | cons l rest ih =>
    have l_on : l.On track := locations_on l (by simp)
    have rest_on : ∀ m ∈ rest, m.On track :=
      fun m later => locations_on m (List.mem_cons_of_mem l later)
    have step := ih (set_on.insert l_on) rest_on
    rw [contains_insert set_on l_on x_on] at step
    simp only [List.mem_cons, exists_eq_or_imp, ← or_assoc]
    exact step

theorem On.ofList {locations : List Location} (locations_on : ∀ l ∈ locations, l.On track) :
    (ofList locations).On track :=
  On.empty.insertAll locations_on

/-- A location is in the set of a list when some element of the list is equivalent to it. -/
theorem contains_ofList {locations : List Location} (locations_on : ∀ l ∈ locations, l.On track)
    {x : Location} (x_on : x.On track) :
    (ofList locations).contains x = true ↔ ∃ l ∈ locations, l.Equivalent x := by
  unfold ofList
  rw [contains_insertAll On.empty locations_on x_on, contains_empty]
  simp

theorem On.union {first second : LocationSet} (first_on : first.On track)
    (second_on : second.On track) : (first.union second).On track :=
  first_on.insertAll fun l present => second_on l (List.mem_reverse.mp present)

theorem contains_union {first second : LocationSet} (first_on : first.On track)
    (second_on : second.On track) {x : Location} (x_on : x.On track) :
    (first.union second).contains x = true ↔
      first.contains x = true ∨ second.contains x = true := by
  unfold union
  rw [contains_insertAll first_on (fun l present => second_on l (List.mem_reverse.mp present)) x_on,
    contains_iff_equivalent second_on x_on]
  simp only [List.mem_reverse]

theorem foldl_union {first : LocationSet} (first_on : first.On track) {sets : List LocationSet}
    (sets_on : ∀ set ∈ sets, set.On track) :
    (sets.foldl union first).On track ∧ ∀ x : Location, x.On track →
      ((sets.foldl union first).contains x = true ↔
        first.contains x = true ∨ ∃ set ∈ sets, set.contains x = true) := by
  induction sets generalizing first with
  | nil => exact ⟨first_on, fun x _ => by simp⟩
  | cons set rest ih =>
    have set_on : set.On track := sets_on set (by simp)
    obtain ⟨on, holds⟩ := ih (first_on.union set_on)
      fun other later => sets_on other (List.mem_cons_of_mem set later)
    refine ⟨on, fun x x_on => ?_⟩
    rw [List.foldl_cons, holds x x_on, contains_union first_on set_on x_on]
    simp only [List.mem_cons, exists_eq_or_imp, or_assoc]

theorem isDisjoint_iff (set : LocationSet) (locations : List Location) :
    set.isDisjoint locations = true ↔ ∀ l ∈ locations, ¬ set.contains l = true := by
  simp [isDisjoint]

end LocationSet

theorem haveCommonPoint_iff {track : Track} {a b : List Location} (a_on : ∀ l ∈ a, l.On track)
    (b_on : ∀ l ∈ b, l.On track) :
    haveCommonPoint a b = true ↔ ∃ l ∈ a, ∃ m ∈ b, l.Equivalent m := by
  unfold haveCommonPoint
  rw [Bool.not_eq_true', ← Bool.not_eq_true, LocationSet.isDisjoint_iff]
  constructor
  · intro meets
    by_cases met : ∃ m ∈ b, (LocationSet.ofList a).contains m = true
    · obtain ⟨m, in_b, held⟩ := met
      obtain ⟨l, in_a, same⟩ := (LocationSet.contains_ofList a_on (b_on m in_b)).mp held
      exact ⟨l, in_a, m, in_b, same⟩
    · exact absurd (fun m in_b held => met ⟨m, in_b, held⟩) meets
  · rintro ⟨l, in_a, m, in_b, same⟩ clear
    exact clear m in_b ((LocationSet.contains_ofList a_on (b_on m in_b)).mpr ⟨l, in_a, same⟩)

namespace Location

/-- The encodings of a point agree. Equivalence of any two locations is reflexive, symmetric and the
disjunction of its three cases. Among the locations of one track it is equality of points, hence
transitive, and equality of canonical forms; it implies equality of keys, so that sets find exactly
the locations equivalent to an element of the list they were made from. -/
theorem encodings_agree (track : Track) :
    (∀ l : Location, l.Equivalent l) ∧
    (∀ a b : Location, a.Equivalent b ↔ b.Equivalent a) ∧
    (∀ a b : Location, a.Equivalent b ↔
      (a.offset = 0 ∧ b.offset = 0 ∧ a.endPoint.junction = b.endPoint.junction) ∨
        (a.endPoint = b.endPoint ∧ a.offset = b.offset) ∨
        (a.on.Same b.on ∧ a.endPoint ≠ b.endPoint ∧ a.offset + b.offset = a.on.length)) ∧
    (∀ a b : Location, a.On track → b.On track →
      (a.Equivalent b ↔ track.point a = track.point b) ∧
        (a.Equivalent b ↔ a.canonical = b.canonical) ∧ (a.Equivalent b → a.key = b.key)) ∧
    (∀ a b c : Location, a.On track → b.On track → c.On track →
      a.Equivalent b → b.Equivalent c → a.Equivalent c) ∧
    (∀ (locations : List Location) (x : Location), (∀ l ∈ locations, l.On track) → x.On track →
      ((LocationSet.ofList locations).contains x = true ↔ ∃ l ∈ locations, l.Equivalent x)) := by
  refine ⟨equivalent_refl, fun a b => ⟨.symm, .symm⟩, equivalent_iff_cases, ?_, ?_, ?_⟩
  · intro a b a_on b_on
    exact ⟨equivalent_iff_point_eq a_on b_on, equivalent_iff_canonical_eq a_on b_on,
      key_eq_of_equivalent a_on b_on⟩
  · intro a b c a_on b_on c_on first second
    exact first.trans a_on b_on c_on second
  · intro locations x locations_on x_on
    exact LocationSet.contains_ofList locations_on x_on

/-- Halfway between the ends of a section the offset from the first end of one way to write it and
the offset from the first end of the other are one point, with one canonical form and one key. -/
theorem encodings_agree_halfway :
    let ahead : Location := ⟨.line, Section.line.first, 5, by simp, by decide⟩
    let back : Location := ⟨.lineBack, Section.lineBack.first, 5, by simp, by decide⟩
    ahead.On (.single .line) ∧ back.On (.single .line) ∧ ahead.Equivalent back ∧
      ahead.canonical = back.canonical ∧ ahead.key = back.key ∧
      (LocationSet.ofList [ahead]).contains back = true := by
  intro ahead back
  have ahead_on : ahead.On (.single .line) := (Track.contains_single _ _).mpr (.refl _)
  have back_on : back.On (.single .line) :=
    (Track.contains_single _ _).mpr ⟨rfl, .inr ⟨rfl, rfl⟩⟩
  obtain ⟨-, -, -, agree, -, member⟩ := encodings_agree (.single .line)
  obtain ⟨-, forms, keys⟩ := agree ahead back ahead_on back_on
  have same : ahead.Equivalent back := by decide
  have held := (member [ahead] back (by simpa using ahead_on) back_on).mpr
    ⟨ahead, List.mem_singleton_self _, same⟩
  exact ⟨ahead_on, back_on, same, forms.mp same, keys same, held⟩

end Location

end Trackage
