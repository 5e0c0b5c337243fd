import Mathlib.Algebra.GroupWithZero.Nat
import Trackage.Proofs.Allocation.Lengths

/-!
Outcomes told by lengths. A train got all of its request exactly when it got the length of it, and
nothing exactly when it got no length, although outcomes look at segments and not at their lengths.
The indicators therefore count the rows of lengths, train by train, and their totals are the sums of
these rows.
-/

namespace Trackage

theorem lengthOf_eq_zero_iff {row : List Segment} : lengthOf row = 0 ↔ row = [] := by
  cases row with
  | nil => simp only [lengthOf]
  | cons s rest =>
    have positive := s.length_pos
    simp only [lengthOf, reduceCtorEq, iff_false]
    omega

/-- The outcome that the lengths of a train tell. -/
def TrainLengths.outcome (lengths : TrainLengths) : Outcome :=
  if lengths.granted = lengths.requested then .full
  else if lengths.granted = 0 then .blocked
  else .truncated

namespace TrainLengths

variable {lengths : TrainLengths}

theorem outcome_eq_full_iff : lengths.outcome = .full ↔ lengths.granted = lengths.requested := by
  unfold outcome
  split
  next all => exact iff_of_true rfl all
  next less => exact iff_of_false (by split <;> simp) less

theorem outcome_eq_blocked_iff :
    lengths.outcome = .blocked ↔ 0 < lengths.requested ∧ lengths.granted = 0 := by
  unfold outcome
  split
  · simp only [reduceCtorEq, false_iff]
    omega
  · split
    · simp only [true_iff]
      omega
    · simp only [reduceCtorEq, false_iff]
      omega

theorem outcome_eq_truncated_iff (granted_le : lengths.granted ≤ lengths.requested) :
    lengths.outcome = .truncated ↔
      0 < lengths.granted ∧ lengths.granted < lengths.requested := by
  unfold outcome
  split
  · simp only [reduceCtorEq, false_iff]
    omega
  · split
    · simp only [reduceCtorEq, false_iff]
      omega
    · simp only [true_iff]
      omega

end TrainLengths

/-- A part that is no shorter than its row is the row, so that outcomes can be told by lengths. -/
theorem LeadingPart.outcome_eq {row request : List Segment} (leading : LeadingPart row request)
    (train : Nat) :
    outcome request row = (TrainLengths.mk train (lengthOf request) (lengthOf row)).outcome := by
  have same_iff : sameSegments row request = true ↔ lengthOf row = lengthOf request := by
    constructor
    · exact fun same => lengthOf_eq_of_same (sameSegments_iff.mp same)
    · exact fun lengths => leading.eq_of_lengthOf_eq lengths ▸ sameSegments_refl row
  simp only [outcome, TrainLengths.outcome, same_iff, List.isEmpty_iff, lengthOf_eq_zero_iff]

theorem Outcome.count_add_count (outcomes : List Outcome) :
    outcomes.count .full + outcomes.count .truncated + outcomes.count .blocked =
      outcomes.length := by
  induction outcomes with
  | nil => rfl
  | cons outcome outcomes ih =>
    rw [List.length_cons, ← ih]
    cases outcome <;> simp <;> omega

section Rows

variable {requested granted : List (List Segment)}

theorem getElem?_lengthsByTrain {i : Nat} {request row : List Segment}
    (request_at : requested[i]? = some request) (row_at : granted[i]? = some row) :
    (lengthsByTrain requested granted)[i]? = some ⟨i, lengthOf request, lengthOf row⟩ := by
  have pair : (requested.zip granted)[i]? = some (request, row) :=
    List.getElem?_zip_eq_some.mpr ⟨request_at, row_at⟩
  simp [lengthsByTrain, List.getElem?_zipIdx, pair]

theorem length_lengthsByTrain (lengths : granted.length = requested.length) :
    (lengthsByTrain requested granted).length = requested.length := by
  simp only [lengthsByTrain, List.length_map, List.length_zipIdx, List.length_zip, lengths,
    Nat.min_self]

/-- What is made of the lengths alone does not need the numbers of the trains. -/
theorem map_lengthsByTrain {α : Type} (f : Nat → Nat → α) :
    ((lengthsByTrain requested granted).map fun row => f row.requested row.granted) =
      (requested.zip granted).map fun pair => f (lengthOf pair.1) (lengthOf pair.2) := by
  rw [lengthsByTrain, List.map_map]
  change (List.zipIdx _).map ((fun pair : List Segment × List Segment =>
    f (lengthOf pair.1) (lengthOf pair.2)) ∘ Prod.fst) = _
  rw [← List.map_map, List.zipIdx_map_fst]

theorem map_requested_lengthsByTrain (lengths : granted.length = requested.length) :
    (lengthsByTrain requested granted).map TrainLengths.requested = requested.map lengthOf := by
  rw [map_lengthsByTrain fun length _ => length]
  change (List.zip _ _).map (lengthOf ∘ Prod.fst) = _
  rw [← List.map_map, List.map_fst_zip (Nat.le_of_eq lengths.symm)]

theorem map_granted_lengthsByTrain (lengths : granted.length = requested.length) :
    (lengthsByTrain requested granted).map TrainLengths.granted = granted.map lengthOf := by
  rw [map_lengthsByTrain fun _ length => length]
  change (List.zip _ _).map (lengthOf ∘ Prod.snd) = _
  rw [← List.map_map, List.map_snd_zip (Nat.le_of_eq lengths)]

/-- No row grants more than it requests, where grants are leading parts of requests. -/
theorem granted_le_of_mem (leading : List.Forall₂ LeadingPart granted requested) :
    ∀ row ∈ lengthsByTrain requested granted, row.granted ≤ row.requested := by
  intro row member
  have pairs : (lengthsByTrain requested granted).map (fun row => (row.requested, row.granted)) =
      (requested.zip granted).map fun pair => (lengthOf pair.1, lengthOf pair.2) :=
    map_lengthsByTrain Prod.mk
  obtain ⟨pair, in_zip, same⟩ := List.mem_map.mp (pairs ▸ List.mem_map_of_mem member)
  obtain ⟨requested_eq, granted_eq⟩ := Prod.mk.inj same
  rw [← requested_eq, ← granted_eq]
  exact (List.forall₂_zip leading.flip in_zip).lengthOf_le

/-- The outcomes of the trains are those of their rows of lengths. -/
theorem map_outcome_lengthsByTrain (leading : List.Forall₂ LeadingPart granted requested) :
    (lengthsByTrain requested granted).map TrainLengths.outcome =
      (requested.zip granted).map fun pair => outcome pair.1 pair.2 := by
  change (lengthsByTrain requested granted).map (fun row =>
    (TrainLengths.mk 0 row.requested row.granted).outcome) = _
  rw [map_lengthsByTrain fun requested granted => (TrainLengths.mk 0 requested granted).outcome]
  refine List.map_congr_left fun pair in_zip => ?_
  have part : LeadingPart pair.2 pair.1 := List.forall₂_zip leading.flip in_zip
  exact (part.outcome_eq 0).symm

end Rows

/-- Rows that grant no more than they request come to the requested length when all of them do. -/
theorem TrainLengths.sum_granted_eq_iff {rows : List TrainLengths}
    (granted_le : ∀ row ∈ rows, row.granted ≤ row.requested) :
    (rows.map granted).sum ≤ (rows.map requested).sum ∧
      ((rows.map granted).sum = (rows.map requested).sum ↔
        ∀ row ∈ rows, row.granted = row.requested) := by
  induction rows with
  | nil => simp
  | cons row rows ih =>
    obtain ⟨first, others⟩ := List.forall_mem_cons.mp granted_le
    obtain ⟨le, eq_iff⟩ := ih others
    rw [List.forall_mem_cons, ← eq_iff]
    simp only [List.map_cons, List.sum_cons]
    omega

/-- The number of trains that indicators give for an outcome. -/
def Indicators.counted (k : Indicators) : Outcome → Nat
  | .full => k.fullyGranted
  | .truncated => k.truncated
  | .blocked => k.blocked

/-- What indicators hold, also those of no train at all. -/
theorem Indicators.fields_of_of? {requested granted : List (List Segment)} {k : Indicators}
    (lengths : granted.length = requested.length) (shown : of? requested granted = some k) :
    k.totalTrains = requested.length ∧
      (∀ o, k.counted o =
        ((requested.zip granted).map fun pair => outcome pair.1 pair.2).count o) ∧
      k.requestedLength = lengthOf requested.flatten ∧
      k.allocatedLength = lengthOf granted.flatten := by
  unfold of? at shown
  split at shown
  next empty =>
    obtain rfl := List.isEmpty_iff.mp empty
    obtain rfl := List.length_eq_zero_iff.mp lengths
    cases shown
    exact ⟨rfl, fun o => by cases o <;> rfl, rfl, rfl⟩
  next =>
    obtain ⟨ratio, -, rfl⟩ := Option.map_eq_some_iff.mp shown
    exact ⟨rfl, fun o => by cases o <;> rfl, rfl, rfl⟩

/-- What indicators say of trains that were granted leading parts of their requests, by the rows of
lengths of these trains. -/
structure Indicators.TellLengths (k : Indicators) (requested granted : List (List Segment)) :
    Prop where
  trains : k.totalTrains = requested.length
  counted : k.fullyGranted + k.truncated + k.blocked = k.totalTrains
  full : k.fullyGranted =
    (lengthsByTrain requested granted).countP fun row => row.granted = row.requested
  blocked : k.blocked =
    (lengthsByTrain requested granted).countP fun row => 0 < row.requested ∧ row.granted = 0
  truncated : k.truncated = (lengthsByTrain requested granted).countP fun row =>
    0 < row.granted ∧ row.granted < row.requested
  length_le : k.allocatedLength ≤ k.requestedLength
  length_eq_iff : k.allocatedLength = k.requestedLength ↔ k.fullyGranted = k.totalTrains
  requested_sum :
    k.requestedLength = ((lengthsByTrain requested granted).map TrainLengths.requested).sum
  granted_sum :
    k.allocatedLength = ((lengthsByTrain requested granted).map TrainLengths.granted).sum

/-- Indicators tell the lengths of trains that were granted leading parts of their requests. -/
theorem Indicators.tellLengths_of_leading {requested granted : List (List Segment)}
    {k : Indicators} (leading : List.Forall₂ LeadingPart granted requested)
    (shown : of? requested granted = some k) : k.TellLengths requested granted := by
  obtain ⟨trains, counts, requested_length, granted_length⟩ := fields_of_of? leading.length_eq shown
  rw [← map_outcome_lengthsByTrain leading] at counts
  have granted_le := granted_le_of_mem leading
  have rows_length := length_lengthsByTrain leading.length_eq
  -- To count the trains of an outcome is to count the rows that tell this outcome.
  have counted (o : Outcome) (p : TrainLengths → Bool)
      (told : ∀ row ∈ lengthsByTrain requested granted, row.outcome = o ↔ p row = true) :
      k.counted o = (lengthsByTrain requested granted).countP p := by
    rw [counts, List.count_eq_countP, List.countP_map]
    refine List.countP_congr fun row member => ?_
    simpa using told row member
  have full : k.fullyGranted =
      (lengthsByTrain requested granted).countP fun row => row.granted = row.requested :=
    counted .full _ fun row _ => by rw [TrainLengths.outcome_eq_full_iff, decide_eq_true_eq]
  have requested_sum :
      k.requestedLength = ((lengthsByTrain requested granted).map TrainLengths.requested).sum := by
    rw [map_requested_lengthsByTrain leading.length_eq, ← lengthOf_flatten, requested_length]
  have granted_sum :
      k.allocatedLength = ((lengthsByTrain requested granted).map TrainLengths.granted).sum := by
    rw [map_granted_lengthsByTrain leading.length_eq, ← lengthOf_flatten, granted_length]
  obtain ⟨sum_le, sum_eq_iff⟩ := TrainLengths.sum_granted_eq_iff granted_le
  refine ⟨trains, ?_, full, ?_, ?_, ?_, ?_, requested_sum, granted_sum⟩
  · change k.counted .full + k.counted .truncated + k.counted .blocked = k.totalTrains
    rw [counts, counts, counts, Outcome.count_add_count, List.length_map, rows_length, trains]
  · exact counted .blocked _ fun row _ => by
      rw [TrainLengths.outcome_eq_blocked_iff, decide_eq_true_eq]
  · exact counted .truncated _ fun row member => by
      rw [TrainLengths.outcome_eq_truncated_iff (granted_le row member), decide_eq_true_eq]
  · rw [requested_sum, granted_sum]
    exact sum_le
  · rw [requested_sum, granted_sum, sum_eq_iff, trains, full, ← rows_length,
      List.countP_eq_length]
    simp only [decide_eq_true_eq]

/-- Indicators classify grants by length. An allocation on one track has indicators, unless lengths
are beyond the range of the numbers that shares are told in. These count every train once: as granted
in full when it got the length that it requested, as blocked when it requested some length and got
none, as truncated when it got less but not nothing. The granted length is at most the requested one,
and equal to it when all trains are granted in full; both are the sums of the rows of lengths, of
which there is one for each train, in order. -/
theorem indicators_by_length {track : Track} {occupied requested : List (List Segment)}
    (occupied_on : ∀ route ∈ occupied, LiesOn route track)
    (requested_on : ∀ request ∈ requested, LiesOn request track)
    (lengths : occupied.length = requested.length)
    (moderate : lengthOf requested.flatten < Binary64.safeLength) :
    ∃ allocated k, allocate? occupied requested = some allocated ∧
      Indicators.of? requested allocated = some k ∧ k.TellLengths requested allocated ∧
      allocated.length = requested.length ∧
      (lengthsByTrain requested allocated).length = requested.length ∧
      ∀ (i : Nat) (request row : List Segment), requested[i]? = some request →
        allocated[i]? = some row →
          (lengthsByTrain requested allocated)[i]? = some ⟨i, lengthOf request, lengthOf row⟩ ∧
          (outcome request row = .full ↔ lengthOf row = lengthOf request) ∧
          (outcome request row = .blocked ↔ 0 < lengthOf request ∧ lengthOf row = 0) ∧
          (outcome request row = .truncated ↔
            0 < lengthOf row ∧ lengthOf row < lengthOf request) := by
  obtain ⟨allocated, answered, served⟩ := allocate?_served occupied_on requested_on lengths
  obtain ⟨k, shown⟩ := Indicators.exists_of? served.lengthOf_le moderate
  refine ⟨allocated, k, answered, shown, Indicators.tellLengths_of_leading served.leading shown,
    served.length_eq, length_lengthsByTrain served.length_eq, ?_⟩
  intro i request row request_at row_at
  have leading := (served.greatest i request row request_at row_at).leading
  rw [leading.outcome_eq i]
  exact ⟨getElem?_lengthsByTrain request_at row_at, TrainLengths.outcome_eq_full_iff,
    TrainLengths.outcome_eq_blocked_iff,
    TrainLengths.outcome_eq_truncated_iff leading.lengthOf_le⟩

/-- Two trains that head for each other are counted with a third one, which requests nothing and so is
granted in full. -/
theorem indicators_by_length_headOn :
    let occupied := headOnOccupied ++ [[]]
    let requested := headOnRequested ++ [[]]
    (∀ route ∈ occupied, LiesOn route (.single .line)) ∧
      (∀ request ∈ requested, LiesOn request (.single .line)) ∧
      occupied.length = requested.length ∧
      lengthOf requested.flatten < Binary64.safeLength ∧
      ∃ allocated k, allocate? occupied requested = some allocated ∧
        Indicators.of? requested allocated = some k ∧
        k.fullyGranted + k.truncated + k.blocked = 3 ∧ k.requestedLength = 12 ∧
        ∀ row, allocated[2]? = some row → outcome [] row = .full := by
  intro occupied requested
  have none_on : LiesOn [] (.single .line) := fun s absent => absurd absent List.not_mem_nil
  have occupied_on : ∀ route ∈ occupied, LiesOn route (.single .line) :=
    List.forall_mem_append.mpr ⟨headOn_liesOn.1, List.forall_mem_singleton.mpr none_on⟩
  have requested_on : ∀ request ∈ requested, LiesOn request (.single .line) :=
    List.forall_mem_append.mpr ⟨headOn_liesOn.2, List.forall_mem_singleton.mpr none_on⟩
  have moderate : lengthOf requested.flatten < Binary64.safeLength := by decide +kernel
  obtain ⟨allocated, k, answered, shown, tell, count, -, each⟩ :=
    indicators_by_length occupied_on requested_on rfl moderate
  refine ⟨occupied_on, requested_on, rfl, moderate, allocated, k, answered, shown,
    tell.counted.trans tell.trains, ?_, fun row row_at => ?_⟩
  · rw [(Indicators.fields_of_of? count shown).2.2.1]
    rfl
  · obtain ⟨-, -, blocked, truncated⟩ := each 2 [] row rfl row_at
    cases told : outcome [] row with
    | full => rfl
    | blocked => exact absurd (blocked.mp told).1 (Nat.lt_irrefl 0)
    | truncated => exact absurd (truncated.mp told).2 (Nat.not_lt_zero _)

end Trackage
