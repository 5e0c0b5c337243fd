import Trackage.Proofs.Json.Kept
import Trackage.Proofs.Payload.RoundTrip
import Trackage.Proofs.Track.RoundTrip
import Trackage.Store.Basic

/-!
Runs that can be kept. All that a run holds is read back from its columns when its numbers can be
written: the offsets of routes are no greater than the lengths of sections, and every share is a
number that was rounded.
-/

namespace Trackage

namespace Json

theorem areWritable_iff {items : List Json} :
    areWritable items = true ↔ ∀ item ∈ items, item.isWritable = true := by
  induction items with
  | nil => simp [areWritable]
  | cons item items ih => simp [areWritable, ih]

theorem isWritable_object {fields : List (String × Json)} :
    (object fields).isWritable = true ↔ ∀ field ∈ fields, field.2.isWritable = true := by
  rw [isWritable]
  induction fields with
  | nil => simp [fieldsAreWritable]
  | cons field fields ih => simp [fieldsAreWritable, ih]

theorem isWritable_ofList {α : Type} {write : α → Json} {values : List α} :
    (ofList write values).isWritable = true ↔ ∀ value ∈ values, (write value).isWritable = true := by
  rw [ofList, isWritable, areWritable_iff, List.forall_mem_map]

theorem Keepable.ofList {α : Type} {write : α → Json} {values : List α} {depth : Nat}
    (shallow : depth < deepestNesting)
    (each : ∀ value ∈ values, Keepable (depth + 1) (write value)) :
    Keepable depth (.ofList write values) :=
  .array shallow (List.forall_mem_map.mpr each)

end Json

open Json (Keepable deepestNesting)

theorem Binary64.isStandard_roundPlaces (places : Nat) (value : Binary64) :
    (value.roundPlaces places).IsStandard := by
  cases value with
  | finite negative significand exponent =>
    exact isStandard_nearest negative (Nat.pow_pos (by decide))
  | infinite negative => trivial
  | notANumber => trivial

/-- Every share is a number that was rounded. -/
theorem isStandard_percentage? {part whole : Nat} {ratio : Binary64}
    (share : percentage? part whole = some ratio) : ratio.IsStandard := by
  unfold percentage? at share
  split at share
  · cases share
    exact .inl ⟨rfl, rfl⟩
  · obtain ⟨x, -, share⟩ := Option.bind_eq_some_iff.mp share
    obtain ⟨y, -, share⟩ := Option.bind_eq_some_iff.mp share
    cases share
    exact Binary64.isStandard_roundPlaces 2 _

theorem isStandard_grantRatio {requested granted : List (List Segment)} {indicators : Indicators}
    (some_indicators : Indicators.of? requested granted = some indicators) :
    indicators.grantRatio.IsStandard := by
  unfold Indicators.of? at some_indicators
  split at some_indicators
  · cases some_indicators
    exact .inl ⟨rfl, rfl⟩
  · obtain ⟨ratio, share, rfl⟩ := Option.map_eq_some_iff.mp some_indicators
    exact isStandard_percentage? share

section Payloads

variable {depth : Nat}

theorem keepable_departingJson (junction branch : String) (shallow : depth < deepestNesting) :
    Keepable depth (departingJson junction branch) := by
  apply Keepable.object shallow (by simp)
  simp only [List.forall_mem_cons]
  exact ⟨.string _, .string _, by simp⟩

theorem SegmentRequest.keepable_toJson {named : SegmentRequest}
    (writable : Text.isWritable named.start = true ∧ Text.isWritable named.stop = true)
    (shallow : depth + 1 < deepestNesting) : Keepable depth named.toJson := by
  apply Keepable.object (Nat.lt_of_succ_lt shallow) (by simp)
  simp only [List.forall_mem_cons]
  exact ⟨keepable_departingJson _ _ shallow, .int writable.1, .int writable.2, by simp⟩

theorem Segment.keepable_toJson {s : Segment} (writable : s.toJson.isWritable = true)
    (shallow : depth + 1 < deepestNesting) : Keepable depth s.toJson := by
  simp only [toJson, Json.isWritable_object, List.forall_mem_cons] at writable
  obtain ⟨-, start, stop, length, -⟩ := writable
  apply Keepable.object (Nat.lt_of_succ_lt shallow) (by simp)
  simp only [List.forall_mem_cons]
  exact ⟨keepable_departingJson _ _ shallow, .int start, .int stop, .int length, .string _,
    .string _, .string _, by simp⟩

theorem TrainLengths.keepable_toJson {row : TrainLengths} (writable : row.toJson.isWritable = true)
    (shallow : depth < deepestNesting) : Keepable depth row.toJson := by
  simp only [toJson, Json.isWritable_object, List.forall_mem_cons] at writable
  obtain ⟨train, requested, granted, -⟩ := writable
  apply Keepable.object shallow (by simp)
  simp only [List.forall_mem_cons]
  exact ⟨.int train, .int requested, .int granted, by simp⟩

end Payloads

/-- The routes of a request can be kept when their offsets can be written. -/
theorem RoutesRequest.keepable_toJson {routes : RoutesRequest}
    (writable : ∀ row ∈ routes.occupied ++ routes.requested, ∀ named ∈ row,
      Text.isWritable named.start = true ∧ Text.isWritable named.stop = true) :
    Keepable 0 routes.toJson := by
  have rows {rows : List (List SegmentRequest)}
      (among : ∀ row ∈ rows, row ∈ routes.occupied ++ routes.requested) :
      Keepable 1 (rowsToJson rows) :=
    .ofList (by decide) fun row member => .ofList (by decide) fun named on_row =>
      SegmentRequest.keepable_toJson (writable row (among row member) named on_row) (by decide)
  apply Keepable.object (by decide) (by simp)
  simp only [List.forall_mem_cons]
  exact ⟨rows fun _ => List.mem_append_left _, rows fun _ => List.mem_append_right _, by simp⟩

theorem keepable_allocation {granted : List (List Segment)}
    (writable : (Json.ofList Segment.rowToJson granted).isWritable = true) :
    Keepable 0 (.ofList Segment.rowToJson granted) := by
  rw [Json.isWritable_ofList] at writable
  refine .ofList (by decide) fun row member => .ofList (by decide) fun s on_row => ?_
  exact Segment.keepable_toJson (Json.isWritable_ofList.mp (writable row member) s on_row) (by decide)

/-- The indicators can be kept with the lengths train by train among them. -/
theorem keepable_indicators {indicators : Indicators} {rows : List TrainLengths}
    (standard : indicators.grantRatio.IsStandard) (writable : indicators.toJson.isWritable = true)
    (rows_writable : (Json.ofList TrainLengths.toJson rows).isWritable = true) :
    Keepable 0 (indicators.toJson.put "by_train" (.ofList TrainLengths.toJson rows)) := by
  simp only [Indicators.toJson, Json.isWritable_object, List.forall_mem_cons] at writable
  obtain ⟨trains, full, truncated, blocked, requested, allocated, -⟩ := writable
  have rows_kept : Keepable 1 (.ofList TrainLengths.toJson rows) :=
    .ofList (by decide) fun row member =>
      TrainLengths.keepable_toJson (Json.isWritable_ofList.mp rows_writable row member) (by decide)
  rw [Indicators.toJson, Json.put, Json.putField_of_notMem (by simp)]
  apply Keepable.object (by decide) (by simp)
  simp only [List.forall_mem_append, List.forall_mem_cons]
  exact ⟨⟨.int trains, .int full, .int truncated, .int blocked, .int requested, .int allocated,
    .float standard, by simp⟩, rows_kept, by simp⟩

/-- The offsets of a segment that is read can be written, as the lengths of the sections can. -/
theorem writable_of_ofJson {track : Track} (sections : ∀ s ∈ track.sections, s.Writable)
    {named : SegmentRequest} {s : Segment} (read : Segment.ofJson track named.toJson = .ok s) :
    Text.isWritable named.start = true ∧ Text.isWritable named.stop = true := by
  obtain ⟨t, same, stored⟩ := Segment.on_mem_of_ofJsonOn read
  cases same
  have length := (sections s.on stored).isWritable
  rw [Segment.ofJson_named] at read
  obtain ⟨departing, -, read⟩ := Outcome.bind_eq_ok_iff.mp read
  obtain ⟨on, -, read⟩ := Outcome.bind_eq_ok_iff.mp read
  obtain ⟨-, -, start_eq, stop_eq⟩ :=
    Segment.build_eq_ok_iff.mp (Outcome.mapError_eq_ok_iff.mp read)
  rw [← start_eq, ← stop_eq]
  have ordered := s.start_lt_stop
  have within := s.stop_le_length
  exact ⟨Text.isWritable_of_le (by omega) length, Text.isWritable_of_le within length⟩

theorem writable_of_routesOfJson {track : Track} (sections : ∀ s ∈ track.sections, s.Writable)
    {named : List (List SegmentRequest)} {rows : List (List Segment)}
    (read : routesOfJson track (rowsToJson named) = .ok rows) :
    ∀ row ∈ named, ∀ segment ∈ row,
      Text.isWritable segment.start = true ∧ Text.isWritable segment.stop = true := by
  intro row member segment on_row
  rw [routesOfJson_rowsToJson] at read
  obtain ⟨_, row_read⟩ := Outcome.exists_of_mem_left read member
  obtain ⟨_, segment_read⟩ := Outcome.exists_of_mem_left row_read on_row
  exact writable_of_ofJson sections segment_read

/-- A run is read from the texts that are kept of it. -/
theorem StoredRun.run_toRow {run : StoredRun} (input : Keepable 0 run.input)
    (allocation : Keepable 0 run.allocation) (indicators : Keepable 0 run.indicators) :
    run.toRow.run = .ok run := by
  simp only [RunRow.run, toRow, Json.read_kept input, Json.read_kept allocation,
    Json.read_kept indicators]
  rfl

end Trackage
