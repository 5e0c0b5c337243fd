import Mathlib.Data.List.Chain
import Trackage.Proofs.Route.Intervals

/-!
Rows of segments that are routes. Two segments of one track are joined in the middle of a section or
across a junction, and a row is accepted as a route exactly when it has a segment and each of its
segments is joined to the next one.
-/

namespace Trackage

namespace Segment

/-- The second segment goes on along the section of the first, from an offset between the ends and
in the same direction. -/
def GoesOnIn (before after : Segment) : Prop :=
  before.on.Same after.on ∧ before.departing = after.departing ∧ after.start = before.stop ∧
    before.stop < before.on.length

/-- The first segment runs to the end of its section, and the second leaves the junction there
otherwise than back along the section. -/
def CrossesTo (before after : Segment) : Prop :=
  before.stop = before.on.length ∧ after.start = 0 ∧
    before.arriving.junction = after.departing.junction ∧
    ¬ (before.on.Same after.on ∧ before.departing ≠ after.departing)

def Joined (before after : Segment) : Prop := before.GoesOnIn after ∨ before.CrossesTo after

instance (before after : Segment) : Decidable (before.Joined after) := by
  unfold Joined GoesOnIn CrossesTo; infer_instance

theorem lastLocation_of_lt {s : Segment} (inside : s.stop < s.on.length) :
    s.lastLocation = ⟨s.on, s.departing, s.stop, s.departing_mem, inside⟩ := dif_pos inside

theorem lastLocation_of_eq {s : Segment} (at_end : s.stop = s.on.length) :
    s.lastLocation = .far s.on s.departing := dif_neg (Nat.not_lt.mpr (Nat.le_of_eq at_end.symm))

variable {track : Track} {before after : Segment}

/-- Where the first segment stops between the ends of its section, an equivalent start is on that
section, and from the other end only where the second segment turns back. -/
theorem joined_iff_of_lt (before_on : before.onTrack track = true)
    (after_on : after.onTrack track = true) (inside : before.stop < before.on.length) :
    before.lastLocation.Equivalent after.firstLocation ∧
        (before.on.Same after.on → before.departing = after.departing) ↔
      before.GoesOnIn after := by
  have moves := before.start_lt_stop
  rw [lastLocation_of_lt inside, Location.equivalent_iff_cases]
  constructor
  -- The stop is no junction, and the ends that fill the section are those of a turn.
  · rintro ⟨⟨stopped, -, -⟩ | ⟨ends, offsets⟩ | ⟨sections, ends, -⟩, forward⟩
    · simp only at stopped
      omega
    · have departing : before.departing = after.departing := ends
      have sections := Track.same_of_mem_ends before_on after_on before.departing_mem
        (departing ▸ after.departing_mem)
      exact ⟨sections, departing, offsets.symm, inside⟩
    · exact absurd (forward sections) ends
  · rintro ⟨-, ends, offsets, -⟩
    exact ⟨.inr (.inl ⟨ends, offsets.symm⟩), fun _ => ends⟩

/-- Where the first segment runs to the end of its section, it stops at a junction, and only a start
at that junction is equivalent. -/
theorem joined_iff_of_eq (at_end : before.stop = before.on.length) :
    before.lastLocation.Equivalent after.firstLocation ∧
        (before.on.Same after.on → before.departing = after.departing) ↔
      before.CrossesTo after := by
  have meets : before.lastLocation.Equivalent after.firstLocation ↔
      after.start = 0 ∧ after.departing.junction = before.arriving.junction := by
    rw [lastLocation_of_eq at_end]
    constructor
    · exact fun same => (Location.equivalent_iff_of_zero rfl).mp same.symm
    · exact fun starts => ((Location.equivalent_iff_of_zero rfl).mpr starts).symm
  rw [meets, CrossesTo, not_and, not_not]
  constructor
  · rintro ⟨⟨starts, junctions⟩, forward⟩
    exact ⟨at_end, starts, junctions.symm, forward⟩
  · rintro ⟨-, starts, junctions, forward⟩
    exact ⟨⟨starts, junctions.symm⟩, forward⟩

end Segment

namespace Route

variable {track : Track} {row : List Segment}

/-- On one track the two tests of a joint pass for segments that are joined, and for no others. -/
theorem jointError?_eq_none_iff_joined {before after : Segment}
    (before_on : before.onTrack track = true) (after_on : after.onTrack track = true) :
    jointError? before after = none ↔ before.Joined after := by
  rw [jointError?_eq_none_iff, Segment.Joined]
  -- Whether the first segment reaches the end of its section tells which kind of joint it can be.
  rcases Nat.lt_or_eq_of_le before.stop_le_length with inside | at_end
  · have not_across : ¬ before.CrossesTo after := fun across => Nat.ne_of_lt inside across.1
    rw [Segment.joined_iff_of_lt before_on after_on inside, or_iff_left not_across]
  · have not_within : ¬ before.GoesOnIn after := fun within => Nat.ne_of_lt within.2.2.2 at_end
    rw [Segment.joined_iff_of_eq at_end, or_iff_right not_within]

theorem firstJointError?_eq_none_iff (row_on : LiesOn row track) :
    firstJointError? row = none ↔ row.IsChain Segment.Joined := by
  induction row with
  | nil => exact iff_of_true rfl .nil
  | cons s rest ih =>
    cases rest with
    | nil => exact iff_of_true rfl (.singleton s)
    | cons t rest =>
      have s_on := row_on s List.mem_cons_self
      have t_on := row_on t (List.mem_cons_of_mem s List.mem_cons_self)
      rw [firstJointError?_cons_cons, List.isChain_cons_cons, ih row_on.tail,
        jointError?_eq_none_iff_joined s_on t_on]

/-- An error names the first two neighbours that fail, those before them having passed. -/
theorem exists_of_firstJointError? {error : RouteError}
    (failed : firstJointError? row = some error) :
    ∃ front before after rest, row = front ++ before :: after :: rest ∧
      firstJointError? (front ++ [before]) = none ∧ jointError? before after = some error := by
  induction row with
  | nil => cases failed
  | cons s rest ih =>
    cases rest with
    | nil => cases failed
    | cons t rest =>
      cases joint : jointError? s t with
      | some first =>
        simp only [firstJointError?, joint, Option.some.injEq] at failed
        exact ⟨[], s, t, rest, rfl, rfl, failed ▸ joint⟩
      | none =>
        simp only [firstJointError?, joint] at failed
        obtain ⟨front, before, after, later, split, passed, fails⟩ := ih failed
        refine ⟨s :: front, before, after, later, by rw [split, List.cons_append], ?_, fails⟩
        -- The neighbour of the first segment is the head of what has passed.
        cases front with
        | nil =>
          obtain ⟨rfl, -⟩ := List.cons.inj split
          exact (firstJointError?_cons_cons s t []).mpr ⟨joint, rfl⟩
        | cons u front =>
          obtain ⟨rfl, -⟩ := List.cons.inj split
          exact (firstJointError?_cons_cons s t _).mpr ⟨joint, passed⟩

theorem eq_of_jointError? {before after : Segment} {error : RouteError}
    (failed : jointError? before after = some error) :
    error = .notContinuous before after ∨ error = .turnsBack before after := by
  unfold jointError? at failed
  split at failed
  · exact .inl (Option.some.inj failed).symm
  · split at failed
    · exact .inr (Option.some.inj failed).symm
    · cases failed

theorem raised_of_jointError? {before after : Segment} {error : RouteError}
    (failed : jointError? before after = some error) :
    error.raised = if before.isWritable ∧ after.isWritable then .error error else .unwritable := by
  have writable : error.isWritable = (before.isWritable && after.isWritable) := by
    rcases eq_of_jointError? failed with rfl | rfl <;> rfl
  simp only [RouteError.raised, Raised.of, writable, Bool.and_eq_true]

theorem build_empty : build [] = .error (.error .empty) := rfl

theorem build_of_joint {error : RouteError} (joint : firstJointError? row = some error) :
    build row = .error error.raised := by
  have nonempty : row ≠ [] := by
    rintro rfl
    cases joint
  unfold build
  rw [dif_pos nonempty]
  split
  next first also_joint => rw [Option.some.inj (joint.symm.trans also_joint)]
  next passed => cases joint.symm.trans passed

/-- A row of segments that can be written is only refused with an error. -/
theorem exists_error_of_build {raised : Raised RouteError}
    (writable : ∀ s ∈ row, s.isWritable = true) (refused : build row = .error raised) :
    ∃ error, raised = .error error := by
  cases joint : firstJointError? row with
  | none =>
    by_cases empty : row = []
    · subst empty
      exact ⟨.empty, (Except.error.inj refused).symm⟩
    · have built : build row = .ok ⟨row, empty, joint⟩ := build_eq_ok_iff.mpr rfl
      cases built.symm.trans refused
  | some error =>
    obtain ⟨front, before, after, rest, rfl, -, failed⟩ := exists_of_firstJointError? joint
    have both := And.intro (writable before (by simp)) (writable after (by simp))
    rw [build_of_joint joint, raised_of_jointError? failed, if_pos both] at refused
    exact ⟨error, (Except.error.inj refused).symm⟩

/-- Routes are the rows of segments that are continuous and never turn back. A row of segments of one
track is accepted exactly when it is not empty and all its neighbours are joined. Any other row is
refused, for being empty or on account of its first two neighbours that are not joined. What it is
refused with is the error that names these two where both can be written, and the failure to write
them where one cannot. -/
theorem build_ok_iff_joined (row_on : LiesOn row track) :
    ((∃ route, build row = .ok route ∧ route.segments = row) ↔
      row ≠ [] ∧ row.IsChain Segment.Joined) ∧
    (¬ (row ≠ [] ∧ row.IsChain Segment.Joined) →
      (row = [] ∧ build row = .error (.error .empty)) ∨
        ∃ front before after rest, row = front ++ before :: after :: rest ∧
          (front ++ [before]).IsChain Segment.Joined ∧ ¬ before.Joined after ∧
          ∃ error, (error = .notContinuous before after ∨ error = .turnsBack before after) ∧
            build row = .error
              (if before.isWritable ∧ after.isWritable then .error error else .unwritable)) := by
  rw [← firstJointError?_eq_none_iff row_on]
  constructor
  · constructor
    · rintro ⟨route, -, rfl⟩
      exact ⟨route.nonempty, route.joined⟩
    · rintro ⟨nonempty, joined⟩
      exact ⟨⟨row, nonempty, joined⟩, build_eq_ok_iff.mpr rfl, rfl⟩
  · intro refused
    cases joint : firstJointError? row with
    | none =>
      obtain rfl : row = [] := not_not.mp fun nonempty => refused ⟨nonempty, joint⟩
      exact .inl ⟨rfl, build_empty⟩
    | some error =>
      obtain ⟨front, before, after, rest, rfl, passed, failed⟩ := exists_of_firstJointError? joint
      have raised := build_of_joint joint
      -- The tests that passed before the error say of the segments in front that they are joined.
      have front_on : LiesOn (front ++ [before]) track := fun s s_in =>
        row_on s (by rw [List.append_cons]; exact List.mem_append_left _ s_in)
      have before_on := row_on before (by simp)
      have after_on := row_on after (by simp)
      refine .inr ⟨front, before, after, rest, rfl, (firstJointError?_eq_none_iff front_on).mp passed,
        ?_, error, eq_of_jointError? failed, by rw [raised, raised_of_jointError? failed]⟩
      rw [← jointError?_eq_none_iff_joined before_on after_on, failed]
      exact Option.some_ne_none error

/-- A train may go round a loop twice, but it does not go back from the junction where it has come
round, although the two ends of the loop are one junction. -/
theorem build_ok_iff_joined_loop :
    LiesOn [.loopOut 10, .loopOut 4] (.single .loop) ∧
      LiesOn [.loopOut 10, .loopHome 4] (.single .loop) ∧
      (∃ route, build [.loopOut 10, .loopOut 4] = .ok route ∧
        route.segments = [.loopOut 10, .loopOut 4]) ∧
      ∃ error, build [.loopOut 10, .loopHome 4] = .error (.error error) := by
  have round_on : LiesOn [.loopOut 10, .loopOut 4] (.single .loop) := by
    simp [LiesOn, Segment.onTrack, Segment.loopOut, Track.contains_single, Section.Same.refl]
  have back_on : LiesOn [.loopOut 10, .loopHome 4] (.single .loop) := by
    simp [LiesOn, Segment.onTrack, Segment.loopOut, Segment.loopHome, Track.contains_single,
      Section.Same.refl]
  have round : [Segment.loopOut 10, .loopOut 4].IsChain Segment.Joined :=
    List.isChain_pair.mpr (by decide)
  have back : ¬ [Segment.loopOut 10, .loopHome 4].IsChain Segment.Joined :=
    fun joined => absurd (List.isChain_pair.mp joined) (by decide)
  refine ⟨round_on, back_on, (build_ok_iff_joined round_on).1.mpr ⟨List.cons_ne_nil _ _, round⟩, ?_⟩
  -- Both segments can be written, and so can the error that names them.
  have writable : ∀ s ∈ [Segment.loopOut 10, .loopHome 4], s.isWritable = true := by decide +kernel
  obtain ⟨empty, -⟩ | ⟨front, before, after, rest, split, -, -, error, -, refused⟩ :=
    (build_ok_iff_joined back_on).2 fun accepted => back accepted.2
  · cases empty
  · rw [split, List.forall_mem_append, List.forall_mem_cons, List.forall_mem_cons] at writable
    exact ⟨error, refused.trans (by rw [if_pos ⟨writable.2.1, writable.2.2.1⟩])⟩

/-- Two pieces with a gap between them, on a section that is too long to be written, are refused, but
with no error. -/
theorem not_build_error_of_overlong :
    LiesOn [.onOverlong 0, .onOverlong 2] (.single .overlong) ∧
      ¬ [Segment.onOverlong 0, .onOverlong 2].IsChain Segment.Joined ∧
      build [.onOverlong 0, .onOverlong 2] = .error .unwritable ∧
      ¬ ∃ error, build [.onOverlong 0, .onOverlong 2] = .error (.error error) := by
  have row_on : LiesOn [.onOverlong 0, .onOverlong 2] (.single .overlong) := by
    simp [LiesOn, Segment.onTrack, Segment.onOverlong, Track.contains_single, Section.Same.refl]
  have gap : ¬ (Segment.onOverlong 0).Joined (.onOverlong 2) := by
    rintro (⟨-, -, goes_on, -⟩ | ⟨-, starts, -⟩)
    · cases goes_on
    · cases starts
  have refused : build [.onOverlong 0, .onOverlong 2] = .error .unwritable := by
    cases joint : jointError? (.onOverlong 0) (.onOverlong 2) with
    | none =>
      have before_on := row_on _ List.mem_cons_self
      have after_on := row_on _ (List.mem_cons_of_mem _ List.mem_cons_self)
      exact absurd ((jointError?_eq_none_iff_joined before_on after_on).mp joint) gap
    | some error =>
      have first : firstJointError? [.onOverlong 0, .onOverlong 2] = some error := by
        simp only [firstJointError?, joint]
      rw [build_of_joint first, raised_of_jointError? joint, Segment.isWritable_onOverlong]
      rfl
  refine ⟨row_on, fun joined => gap (List.isChain_pair.mp joined), refused, ?_⟩
  rintro ⟨error, also_refused⟩
  cases refused.symm.trans also_refused

end Route

end Trackage
