import Mathlib.Order.Bounds.Basic
import Trackage.Proofs.Allocation.Grant
import Trackage.Proofs.Route.Intervals

/-!
Where grants end. The offset at which a segment is cut is known from the intervals of the segments
that bar it, so that a grant can be worked out without looking at points one by one.
-/

namespace Trackage

namespace Segment

/-- Some other segment meets this one at the offset. -/
def BlockedAt (s : Segment) (others : List Segment) (offset : Nat) : Prop :=
  ∃ t ∈ others, t.MeetsAt s offset

instance (s : Segment) (others : List Segment) (offset : Nat) :
    Decidable (s.BlockedAt others offset) :=
  inferInstanceAs (Decidable (∃ t ∈ others, t.MeetsAt s offset))

/-- No offset of the segment is blocked. -/
def FreeOf (s : Segment) (others : List Segment) : Prop :=
  ∀ offset ≤ s.stop, s.start ≤ offset → ¬ s.BlockedAt others offset

instance (s : Segment) (others : List Segment) : Decidable (s.FreeOf others) :=
  inferInstanceAs (Decidable (∀ offset ≤ s.stop, _))

theorem leading?_eq_none_iff {s : Segment} {length : Nat} (within : length ≤ s.length) :
    s.leading? length = none ↔ length = 0 := by
  simp only [leading?]
  split
  next fits => simp [Nat.ne_of_gt fits.1]
  next misfit =>
    simp only [true_iff]
    omega

theorem exists_leading? {s : Segment} {distance : Nat} (far : 2 ≤ distance)
    (within : distance ≤ s.length) :
    ∃ t, s.leading? (distance - 1) = some t ∧ t.on = s.on ∧ t.departing = s.departing ∧
      t.start = s.start ∧ t.stop = s.start + distance - 1 := by
  have fits : 0 < distance - 1 ∧ distance - 1 ≤ s.length := by omega
  refine ⟨s.piece 0 (distance - 1) fits.1 fits.2, dif_pos fits, rfl, rfl, rfl, ?_⟩
  simp only [piece]
  omega

theorem longestFree_eq_self_iff {s : Segment} {forbidden : LocationSet} :
    s.longestFree forbidden = some s ↔ forbidden.isDisjoint s.locations = true := by
  constructor
  · intro whole
    by_cases free : forbidden.isDisjoint s.locations = true
    · exact free
    -- Where the segment is cut, what is left of it is shorter.
    · obtain ⟨first, within, -, -, stopped⟩ := longestFree_of_meets free
      rw [stopped] at whole
      simp only [leading?] at whole
      split at whole
      next fits =>
        have lengths := congrArg Segment.length (Option.some.inj whole)
        rw [length_piece] at lengths
        have positive := s.length_pos
        omega
      next => cases whole
  · intro free
    rw [LocationSet.isDisjoint_iff] at free
    have missed : s.locations.findIdx? forbidden.contains = none :=
      List.findIdx?_eq_none_iff.mpr fun l on_s => by simpa using free l on_s
    simp only [longestFree, missed]

section Barred

variable {track : Track} {s : Segment} {others : List Segment}

theorem contains_iff_blockedAt (s_on : s.onTrack track = true) (others_on : LiesOn others track)
    {distance : Nat} (within : distance ≤ s.length) :
    (LocationSet.ofList (locationsOf others)).contains (s.locationAfter distance) = true ↔
      s.BlockedAt others (s.start + distance) := by
  rw [LocationSet.contains_ofList others_on.locations_on (on_locationAfter s_on distance)]
  constructor
  · rintro ⟨l, member, same⟩
    obtain ⟨t, t_in, on_t⟩ := mem_locationsOf.mp member
    exact ⟨t, t_in, (meetsAt_iff s_on (others_on t t_in) within).mp ⟨l, on_t, same⟩⟩
  · rintro ⟨t, t_in, met⟩
    obtain ⟨l, on_t, same⟩ := (meetsAt_iff s_on (others_on t t_in) within).mpr met
    exact ⟨l, mem_locationsOf.mpr ⟨t, t_in, on_t⟩, same⟩

theorem isDisjoint_iff_freeOf (s_on : s.onTrack track = true) (others_on : LiesOn others track) :
    (LocationSet.ofList (locationsOf others)).isDisjoint s.locations = true ↔ s.FreeOf others := by
  rw [LocationSet.isDisjoint_iff]
  constructor
  · intro free offset before after blocked
    obtain ⟨distance, within, rfl⟩ := exists_distance after before
    have held := (contains_iff_blockedAt s_on others_on within).mpr blocked
    exact free _ (mem_locations.mpr ⟨distance, within, rfl⟩) held
  · intro free l on_s held
    obtain ⟨distance, within, rfl⟩ := mem_locations.mp on_s
    have blocked := (contains_iff_blockedAt s_on others_on within).mp held
    exact free (s.start + distance) (add_le_stop within) (Nat.le_add_right _ _) blocked

/-- A segment that is not free is cut one unit before the least blocked offset. -/
theorem longestFree_of_not_freeOf (s_on : s.onTrack track = true)
    (others_on : LiesOn others track) (barred : ¬ s.FreeOf others) :
    ∃ distance ≤ s.length,
      IsLeast {o | s.start ≤ o ∧ o ≤ s.stop ∧ s.BlockedAt others o} (s.start + distance) ∧
      s.longestFree (.ofList (locationsOf others)) = s.leading? (distance - 1) := by
  rw [← isDisjoint_iff_freeOf s_on others_on] at barred
  obtain ⟨first, within, held, before, stopped⟩ := longestFree_of_meets barred
  have blocked := (contains_iff_blockedAt s_on others_on within).mp held
  refine ⟨first, within, ⟨⟨Nat.le_add_right _ _, add_le_stop within, blocked⟩, ?_⟩, stopped⟩
  rintro offset ⟨after, not_behind, also⟩
  obtain ⟨distance, within_too, rfl⟩ := exists_distance after not_behind
  -- No location before the first forbidden one is blocked.
  have held_too := (contains_iff_blockedAt s_on others_on within_too).mpr also
  have not_nearer := Nat.le_of_not_lt fun nearer => before distance nearer held_too
  exact Nat.add_le_add_left not_nearer s.start

end Barred

end Segment

/-- Segments that are clear of what is forbidden are granted whole, and the grant goes on behind
them. -/
theorem grant_append_of_clear {forbidden : LocationSet} {before : List Segment}
    (clear : ∀ u ∈ before, forbidden.isDisjoint u.locations = true) (rest : List Segment) :
    grant forbidden (before ++ rest) = before ++ grant forbidden rest := by
  induction before with
  | nil => rfl
  | cons u before ih =>
    have u_clear := clear u List.mem_cons_self
    simp only [List.cons_append, grant, if_pos u_clear]
    rw [ih fun v later => clear v (List.mem_cons_of_mem u later)]

theorem grant_eq_whole_iff {forbidden : LocationSet} {before : List Segment}
    (clear : ∀ u ∈ before, forbidden.isDisjoint u.locations = true) (s : Segment)
    (rest : List Segment) :
    grant forbidden (before ++ s :: rest) = before ++ s :: grant forbidden rest ↔
      forbidden.isDisjoint s.locations = true := by
  rw [grant_append_of_clear clear, List.append_cancel_left_eq]
  by_cases free : forbidden.isDisjoint s.locations = true
  · simp only [grant, free, if_true]
  -- A grant that begins with the segment is not what is left of a segment that was cut.
  · refine iff_of_false (fun whole => ?_) free
    rw [grant, if_neg free] at whole
    cases cut : s.longestFree forbidden with
    | none =>
      rw [cut] at whole
      cases whole
    | some t =>
      rw [cut] at whole
      obtain ⟨rfl, -⟩ := List.cons.inj whole
      exact free (Segment.longestFree_eq_self_iff.mp cut)

/-- The grant from intervals. A segment that is come to is granted whole exactly when none of its
offsets is blocked. Otherwise what is left of it ends one unit before the least blocked offset, and
nothing is left when that is its start or the offset next to it. -/
theorem grant_by_intervals {track : Track} {s : Segment} (s_on : s.onTrack track = true)
    {others : List Segment} (others_on : LiesOn others track) :
    let forbidden := LocationSet.ofList (locationsOf others)
    (∀ before rest, LiesOn before track → (∀ u ∈ before, u.FreeOf others) →
      (grant forbidden (before ++ s :: rest) = before ++ s :: grant forbidden rest ↔
        s.FreeOf others)) ∧
    (s.longestFree forbidden = some s ↔ s.FreeOf others) ∧
    (¬ s.FreeOf others →
      ∃ o, IsLeast {o | s.start ≤ o ∧ o ≤ s.stop ∧ s.BlockedAt others o} o ∧
        (s.start + 2 ≤ o → ∃ t, s.longestFree forbidden = some t ∧ t.on = s.on ∧
          t.departing = s.departing ∧ t.start = s.start ∧ t.stop = o - 1) ∧
        (o ≤ s.start + 1 → s.longestFree forbidden = none)) := by
  intro forbidden
  have free_iff {u : Segment} (u_on : u.onTrack track = true) :=
    Segment.isDisjoint_iff_freeOf u_on others_on
  refine ⟨?_, ?_, ?_⟩
  · intro before rest before_on before_free
    rw [← free_iff s_on]
    exact grant_eq_whole_iff (fun u u_in => (free_iff (before_on u u_in)).mpr (before_free u u_in))
      s rest
  · rw [← free_iff s_on]
    exact Segment.longestFree_eq_self_iff
  · intro barred
    obtain ⟨distance, within, least, cut⟩ :=
      Segment.longestFree_of_not_freeOf s_on others_on barred
    refine ⟨s.start + distance, least, ?_, ?_⟩
    · intro far
      rw [cut]
      exact Segment.exists_leading? (Nat.le_of_add_le_add_left far) within
    · intro near
      rw [cut]
      exact (Segment.leading?_eq_none_iff (by omega)).mpr (by omega)

/-- The other segment covers the offsets from five to seven. One segment before them is granted
whole, and the next one is cut. -/
theorem grant_by_intervals_ahead :
    let others : List Segment := [.back 3 5]
    let forbidden := LocationSet.ofList (locationsOf others)
    (Segment.ahead 2 7).onTrack (.single .line) = true ∧ LiesOn others (.single .line) ∧
      grant forbidden ([.ahead 0 1] ++ .ahead 1 2 :: [.ahead 2 7]) =
        [.ahead 0 1] ++ .ahead 1 2 :: grant forbidden [.ahead 2 7] ∧
      ∃ t, (Segment.ahead 2 7).longestFree forbidden = some t ∧ t.start = 2 ∧ t.stop = 4 := by
  intro others forbidden
  have others_on : LiesOn others (.single .line) := by simp [others, LiesOn]
  have short_on : (Segment.ahead 1 2).onTrack (.single .line) = true := by simp
  have wanted_on : (Segment.ahead 2 7).onTrack (.single .line) = true := by simp
  have before_on : LiesOn [.ahead 0 1] (.single .line) := by simp [LiesOn]
  obtain ⟨whole, -⟩ := grant_by_intervals short_on others_on
  have kept := (whole [.ahead 0 1] [.ahead 2 7] before_on (by decide)).mpr (by decide)
  obtain ⟨-, -, cuts⟩ := grant_by_intervals wanted_on others_on
  obtain ⟨o, least, cut, -⟩ := cuts (by decide)
  have none_nearer : ∀ o < 5, ¬ (Segment.ahead 2 7).BlockedAt others o := by decide
  have upper : o ≤ 5 := least.2 ⟨by decide, by decide, by decide⟩
  have lower : 5 ≤ o := Nat.le_of_not_lt fun nearer => none_nearer o nearer least.1.2.2
  obtain rfl : o = 5 := Nat.le_antisymm upper lower
  obtain ⟨t, left, -, -, starts, stops⟩ := cut (by decide)
  exact ⟨wanted_on, others_on, kept, t, left, starts, stops⟩

end Trackage
