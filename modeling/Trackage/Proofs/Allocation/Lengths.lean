import Mathlib.Algebra.GroupWithZero.Nat
import Mathlib.Algebra.Order.BigOperators.Group.List
import Mathlib.Algebra.Order.Group.Nat
import Trackage.Proofs.Allocation.Priority
import Trackage.Proofs.Decimal.Range
import Trackage.Proofs.Payload.RoundTrip

/-!
Lengths of allocations. Trains are granted no more length than they request, so that the share of the
requested length is shown whenever that length is within the range of double-precision numbers.
-/

namespace Trackage

theorem lengthOf_eq_sum (row : List Segment) : lengthOf row = (row.map Segment.length).sum := by
  induction row with
  | nil => rfl
  | cons s row ih => rw [lengthOf, ih, List.map_cons, List.sum_cons]

theorem lengthOf_flatten (rows : List (List Segment)) :
    lengthOf rows.flatten = (rows.map lengthOf).sum := by
  rw [lengthOf_eq_sum, List.map_flatten, List.sum_flatten, List.map_map]
  exact congrArg List.sum (List.map_congr_left fun row _ => (lengthOf_eq_sum row).symm)

/-- Each train is granted a leading part of its request. -/
theorem Served.leading {occupied requested granted : List (List Segment)}
    (served : Served occupied requested granted) : List.Forall₂ LeadingPart granted requested := by
  refine List.forall₂_iff_get.mpr ⟨served.length_eq, fun i row_in request_in => ?_⟩
  exact (served.greatest i _ _ (List.getElem?_eq_getElem request_in)
    (List.getElem?_eq_getElem row_in)).leading

theorem Served.lengthOf_le {occupied requested granted : List (List Segment)}
    (served : Served occupied requested granted) :
    lengthOf granted.flatten ≤ lengthOf requested.flatten := by
  have shorter : List.Forall₂ (· ≤ ·) (granted.map lengthOf) (requested.map lengthOf) := by
    rw [List.forall₂_map_left_iff, List.forall₂_map_right_iff]
    exact served.leading.imp fun _ _ leading => leading.lengthOf_le
  rw [lengthOf_flatten, lengthOf_flatten]
  exact shorter.sum_le_sum

/-- There are indicators whenever the requested length is a safe one. -/
theorem Indicators.exists_of? {requested granted : List (List Segment)}
    (granted_le : lengthOf granted.flatten ≤ lengthOf requested.flatten)
    (moderate : lengthOf requested.flatten < Binary64.safeLength) :
    ∃ indicators, of? requested granted = some indicators := by
  unfold of?
  split
  next => exact ⟨_, rfl⟩
  -- The share is a quotient of two finite numbers, as no more is granted than requested.
  next =>
    obtain ⟨ratio, share⟩ := exists_percentage? granted_le moderate
    simp only [share]
    exact ⟨_, rfl⟩

/-- An allocation that can be written is shown whenever the requested length is a safe one. -/
theorem exists_allocationToJson {requested granted : List (List Segment)}
    (writable : ∀ row ∈ granted, ∀ s ∈ row, s.isWritable = true)
    (granted_le : lengthOf granted.flatten ≤ lengthOf requested.flatten)
    (moderate : lengthOf requested.flatten < Binary64.safeLength) :
    ∃ indicators : Indicators, allocationToJson requested granted = .ok [
      ("allocated", .ofList Segment.rowToJson granted), ("kpis", indicators.toJson),
      ("by_train", .ofList TrainLengths.toJson (lengthsByTrain requested granted))] := by
  obtain ⟨indicators, shown⟩ := Indicators.exists_of? granted_le moderate
  have allocated := Segment.rowsShown_eq_ok_iff.mpr ⟨writable, rfl⟩
  refine ⟨indicators, Outcome.bind_eq_ok_iff.mpr ⟨_, allocated, ?_⟩⟩
  rw [shown]
  rfl

/-- The length of a row of segments, as far as the offsets that are named go. -/
def namedLength (row : List SegmentRequest) : Nat :=
  (row.map fun named => (named.stop - named.start).toNat).sum

def RoutesRequest.requestedLength (routes : RoutesRequest) : Nat :=
  (routes.requested.map namedLength).sum

theorem lengthOf_of_row {track : Track} {named : List SegmentRequest} {row : List Segment}
    (read : (named.mapM fun named => Segment.ofJson track named.toJson) = .ok row) :
    lengthOf row = namedLength named := by
  induction Outcome.mapM_eq_ok_iff.mp read with
  | nil => rfl
  | cons first later ih =>
    rw [lengthOf, ih (Outcome.mapM_eq_ok_iff.mpr later), Segment.length_of_ofJson first]
    rfl

theorem lengthOf_of_routesOfJson {track : Track} {named : List (List SegmentRequest)}
    {rows : List (List Segment)} (read : routesOfJson track (rowsToJson named) = .ok rows) :
    lengthOf rows.flatten = (named.map namedLength).sum := by
  rw [routesOfJson_rowsToJson, Outcome.mapM_eq_ok_iff] at read
  rw [lengthOf_flatten]
  induction read with
  | nil => rfl
  | cons first _ ih => rw [List.map_cons, List.sum_cons, ih, lengthOf_of_row first]; rfl

end Trackage
