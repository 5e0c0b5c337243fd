import Trackage.Proofs.Payload.RoundTrip
import Trackage.Proofs.Track.Grammar

/-!
What is shown of segments, read again. A segment is shown with its departing end-point and its
offsets, and from these the track gives it back on the section that is connected there; the other
fields are passed over. A segment that is read is shown with the names and offsets that it was read
from, its branch in capitals.
-/

namespace Trackage

/-- Data has a field for each part of a segment as a request names it, in whatever order and among
whatever other fields. -/
def SegmentRequest.StandsIn (named : SegmentRequest) (data : Json) : Prop :=
  ∃ departing, data.field "departing" = .ok departing ∧
    departing.field "junction" = .ok (.string named.junction) ∧
    departing.field "branch" = .ok (.string named.branch) ∧
    data.field "start" = .ok (.int named.start) ∧ data.field "end" = .ok (.int named.stop)

theorem SegmentRequest.standsIn_toJson (named : SegmentRequest) : named.StandsIn named.toJson :=
  ⟨departingJson named.junction named.branch, rfl, rfl, rfl, rfl, rfl⟩

theorem EndPoint.ofJson_eq_ok_iff {data : Json} {junction branch : String} {e : EndPoint}
    (junction_given : data.field "junction" = .ok (.string junction))
    (branch_given : data.field "branch" = .ok (.string branch)) :
    ofJson data = .ok e ↔ e.junction = junction ∧ e.branch.text = Text.upper branch := by
  rw [ofJson_of_fields junction_given branch_given, ← Branch.ofText?_eq_some_iff]
  cases Branch.ofText? (Text.upper branch) with
  | none => simp
  | some known => simp [EndPoint.ext_iff, eq_comm]

namespace Segment

variable {track : Track} {data : Json} {named : SegmentRequest} {s : Segment}

theorem request_standsIn (s : Segment) : s.request.StandsIn s.toJson :=
  ⟨s.departing.toJson, rfl, rfl, rfl, rfl, rfl⟩

/-- The segments that are read from data are those of the track that are named like it, but for the
case of the branch. -/
theorem ofJson_eq_ok_iff (stands : named.StandsIn data) :
    ofJson track data = .ok s ↔ s.on ∈ track.sections ∧
      s.request = ⟨named.junction, Text.upper named.branch, named.start, named.stop⟩ := by
  obtain ⟨departing, departing_given, junction_given, branch_given, start_given, stop_given⟩ :=
    stands
  rw [ofJson_of_fields departing_given start_given stop_given]
  simp only [Outcome.bind_eq_ok_iff, Outcome.mapError_eq_ok_iff, build_eq_ok_iff,
    EndPoint.sectionOn_eq_ok_iff, EndPoint.ofJson_eq_ok_iff junction_given branch_given, request,
    SegmentRequest.mk.injEq]
  constructor
  · rintro ⟨e, ⟨junction_eq, branch_eq⟩, on, ⟨t, same, stored, -⟩, rfl, rfl, starts, stops⟩
    obtain rfl := Option.some.inj same
    exact ⟨stored, junction_eq, branch_eq, starts, stops⟩
  · rintro ⟨stored, junction_eq, branch_eq, starts, stops⟩
    exact ⟨s.departing, ⟨junction_eq, branch_eq⟩, s.on, ⟨track, rfl, stored, s.departing_mem⟩, rfl,
      rfl, starts, stops⟩

/-- Data that names a segment over a section of the track is read as the same segment, written over
the section as the track has it. -/
theorem exists_ofJson_of_standsIn (stands : s.request.StandsIn data)
    (s_on : s.onTrack track = true) : ∃ read, ofJson track data = .ok read ∧ read.Same s := by
  obtain ⟨stored, member, same⟩ := (track.contains_iff s.on).mp s_on
  -- The stored section has the same ends and the same length, so that the segment fits on it.
  let read : Segment := ⟨stored, s.departing, s.start, s.stop,
    (same.mem_ends_iff _).mpr s.departing_mem, s.start_lt_stop, same.1 ▸ s.stop_le_length⟩
  have upper : Text.upper s.request.branch = s.request.branch :=
    (Branch.ofText?_eq_some_iff.mp s.departing.branch.ofText?_upper_text).symm
  refine ⟨read, (ofJson_eq_ok_iff stands).mpr ⟨member, ?_⟩, same, rfl, rfl, rfl⟩
  rw [upper]
  rfl

theorem exists_ofJson_toJson (s_on : s.onTrack track = true) :
    ∃ read, ofJson track s.toJson = .ok read ∧ read.Same s :=
  exists_ofJson_of_standsIn s.request_standsIn s_on

end Segment

/-- Routes that are shown are read as the same routes. -/
theorem exists_routesOfJson_shown {track : Track} {rows : List (List Segment)}
    (rows_on : ∀ row ∈ rows, LiesOn row track) :
    ∃ read, routesOfJson track (.ofList Segment.rowToJson rows) = .ok read ∧
      List.Forall₂ (List.Forall₂ Segment.Same) read rows := by
  change ∃ read, routesOfJson track (.ofList (.ofList Segment.toJson) rows) = .ok read ∧ _
  rw [routesOfJson_ofList]
  refine Outcome.exists_mapM_eq_ok fun row member => Outcome.exists_mapM_eq_ok fun s on_row => ?_
  exact Segment.exists_ofJson_toJson (rows_on row member s on_row)

namespace Segment

theorem shown_of_isWritable {s : Segment} (writable : s.isWritable = true) :
    s.shown = .ok s.toJson := if_pos writable

theorem shown_of_not_isWritable {s : Segment} (long : s.isWritable = false) :
    s.shown = .error (.ofNumeral .unwritable) := if_neg (by rw [long]; exact Bool.false_ne_true)

/-- On a track that adding and removing sections leads to, a segment is shown exactly if the length of
its section can be written. What is shown of it then, and of routes of such segments, is read as the
same segment and the same routes, whichever way their sections are written. What is read from data
that names a segment runs over a section of the track, and if it is shown, then with the same junction
and offsets and with the branch in capitals. -/
theorem payload_roundTrip (calls : List TrackCall) :
    let track := Track.run .empty calls
    (∀ s : Segment, track.contains s.on = true →
      (Text.isWritable s.on.length = true → ∃ data read, s.shown = .ok data ∧
        ofJson track data = .ok read ∧ read.Same s) ∧
      (Text.isWritable s.on.length = false → s.shown = .error (.ofNumeral .unwritable))) ∧
    (∀ rows : List (List Segment),
      (∀ row ∈ rows, ∀ s ∈ row,
        track.contains s.on = true ∧ Text.isWritable s.on.length = true) →
      ∃ data read, rowsShown rows = .ok data ∧ routesOfJson track data = .ok read ∧
        List.Forall₂ (List.Forall₂ Segment.Same) read rows) ∧
    ∀ (data : Json) (named : SegmentRequest) (s : Segment), named.StandsIn data →
      ofJson track data = .ok s →
        track.contains s.on = true ∧
          (Text.isWritable s.on.length = true → ∃ shown, s.shown = .ok shown ∧
            SegmentRequest.StandsIn
              ⟨named.junction, Text.upper named.branch, named.start, named.stop⟩ shown) := by
  intro track
  refine ⟨fun s s_on => ⟨fun writable => ?_, shown_of_not_isWritable⟩, fun rows each => ?_, ?_⟩
  · obtain ⟨read, read_eq, same⟩ := exists_ofJson_toJson s_on
    exact ⟨s.toJson, read, shown_of_isWritable writable, read_eq, same⟩
  · obtain ⟨read, read_eq, same⟩ :=
      exists_routesOfJson_shown fun row member s on_row => (each row member s on_row).1
    have shown := rowsShown_eq_ok_iff.mpr
      ⟨fun row member s on_row => (each row member s on_row).2, rfl⟩
    exact ⟨_, read, shown, read_eq, same⟩
  · intro data named s stands read
    obtain ⟨stored, request_eq⟩ := (ofJson_eq_ok_iff stands).mp read
    refine ⟨(track.contains_iff s.on).mpr ⟨s.on, stored, .refl s.on⟩, fun writable => ?_⟩
    exact ⟨s.toJson, shown_of_isWritable writable, request_eq ▸ s.request_standsIn⟩

/-- A segment over the section written the other way is read back over the stored one, and a branch
in small letters is shown in capitals. -/
theorem payload_roundTrip_back :
    let track := Track.run .empty [.add .line]
    let data : Json := .object [("end", .int 6), ("start", .int 2), ("note", .null),
      ("departing", .object [("branch", .string "normal"), ("junction", .string "j2")])]
    (∃ shown read, (back 2 6).shown = .ok shown ∧ ofJson track shown = .ok read ∧
        read.Same (back 2 6)) ∧
      (∃ shown read, rowsShown [[ahead 0 3, back 2 6], []] = .ok shown ∧
        routesOfJson track shown = .ok read ∧
        List.Forall₂ (List.Forall₂ Segment.Same) read [[ahead 0 3, back 2 6], []]) ∧
      ∃ s shown, ofJson track data = .ok s ∧ s.shown = .ok shown ∧
        SegmentRequest.StandsIn ⟨"j2", "NORMAL", 2, 6⟩ shown := by
  intro track data
  have sections : track.sections = [.line] := (Track.run_sections _ _).trans (by decide)
  have line_on : track.contains .line = true :=
    (track.contains_iff .line).mpr ⟨.line, sections ▸ List.mem_singleton_self _, .refl _⟩
  have turned : Section.line.Same .lineBack := by decide
  have lineBack_on : track.contains .lineBack = true := track.contains_of_same turned line_on
  have writable : Text.isWritable Section.line.length = true := by decide +kernel
  have rows_on : ∀ row ∈ [[ahead 0 3, back 2 6], []], ∀ s ∈ row,
      track.contains s.on = true ∧ Text.isWritable s.on.length = true := by
    have back_writable : Text.isWritable Section.lineBack.length = true := writable
    simp [ahead, back, line_on, lineBack_on, writable, back_writable]
  have stands : SegmentRequest.StandsIn ⟨"j2", "normal", 2, 6⟩ data :=
    ⟨_, rfl, rfl, rfl, rfl, rfl⟩
  let s : Segment := ⟨.line, Section.line.second, 2, 6, by simp, by decide, by decide⟩
  have read : ofJson track data = .ok s := (ofJson_eq_ok_iff stands).mpr
    ⟨sections ▸ List.mem_singleton_self _, by decide⟩
  obtain ⟨segments, routes, named⟩ := payload_roundTrip [.add .line]
  obtain ⟨shown, s_shown, renamed⟩ := (named data _ s stands read).2 writable
  have capitals : Text.upper "normal" = "NORMAL" := by decide
  exact ⟨(segments (back 2 6) lineBack_on).1 writable, routes _ rows_on, s, shown, read, s_shown,
    capitals ▸ renamed⟩

/-- A segment is on the track of a section that is too long to be written, but it is not shown. -/
theorem not_shown_of_overlong :
    let track := Track.run .empty [.add .overlong]
    track.contains (onOverlong 0).on = true ∧
      (onOverlong 0).shown = .error (.ofNumeral .unwritable) ∧
      ¬ ∃ data, (onOverlong 0).shown = .ok data := by
  intro track
  have sections : track.sections = [.overlong] := (Track.run_sections _ _).trans rfl
  have refused := shown_of_not_isWritable (isWritable_onOverlong (by decide : 0 < 9))
  refine ⟨?_, refused, ?_⟩
  · exact (track.contains_iff _).mpr ⟨.overlong, sections ▸ List.mem_singleton_self _, .refl _⟩
  · rintro ⟨data, shown⟩
    cases refused.symm.trans shown

end Segment

end Trackage
