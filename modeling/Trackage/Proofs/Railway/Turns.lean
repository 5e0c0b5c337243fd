import Mathlib.Order.Bounds.Basic
import Trackage.Proofs.Railway.Farthest
import Trackage.Proofs.Railway.Numbered

/-!
The turns of a move. A train goes as far as the railway lets it at its turn, so that railways that are
alike at a turn let a train go equally far. In particular no target of a later train changes how far
an earlier one goes.
-/

namespace Trackage

namespace Railway

namespace Sound

variable {track : Track} {railway : Railway} {targets others : Nat → Option Int} {j : Nat}

/-- A train without a target stays where it is. -/
theorem unmoved (sound : Sound track railway) (untargeted : targets j = none) :
    (railway.extend targets).1.trains[j]? = railway.trains[j]? := by
  obtain ⟨granted, moved⟩ := sound.exists_movedBy targets
  cases train_at : railway.trains[j]? with
  | none =>
    rw [moved.trains_eq, List.getElem?_zipWith, train_at]
  | some t =>
    obtain ⟨row, granted_at⟩ := moved.exists_granted train_at
    have leads := (moved.greatest train_at granted_at).leading
    rw [sound.identifier_eq train_at, untargeted] at leads
    rw [moved.extended_at train_at granted_at, extended_of_no_target leads]

/-- At a turn the trains before it have moved, and the others have not. -/
theorem atTurn_getElem? (sound : Sound track railway) (k : Nat) :
    (railway.atTurn targets j).trains[k]? =
      if k < j then (railway.extend targets).1.trains[k]? else railway.trains[k]? := by
  obtain ⟨granted, moved⟩ := sound.exists_movedBy targets
  cases train_at : railway.trains[k]? with
  | none => simp only [atTurn, moved.trains_eq, List.getElem?_zipWith, train_at, ite_self]
  | some t =>
    obtain ⟨row, granted_at⟩ := moved.exists_granted train_at
    rw [moved.extended_at train_at granted_at,
      (moved.atTurn_eq_some_iff sound).mpr ⟨t, row, train_at, granted_at, rfl⟩, apply_ite some]

/-- How far a train goes depends on nothing but the railway at its turn and its own target. -/
theorem extend_eq_of_atTurn_eq (sound : Sound track railway) {other : Railway}
    (also : Sound track other) (same_turn : railway.atTurn targets j = other.atTurn others j)
    (same_target : targets j = others j) :
    (railway.extend targets).1.trains[j]? = (other.extend others).1.trains[j]? := by
  obtain ⟨granted, moved⟩ := sound.exists_movedBy targets
  obtain ⟨changed, also_moved⟩ := also.exists_movedBy others
  have same_train : railway.trains[j]? = other.trains[j]? := by
    have at_turn := congrArg (fun r : Railway => r.trains[j]?) same_turn
    simpa only [sound.atTurn_getElem?, also.atTurn_getElem?, Nat.lt_irrefl, if_false] using at_turn
  cases train_at : railway.trains[j]? with
  | none =>
    rw [moved.trains_eq, also_moved.trains_eq, List.getElem?_zipWith, List.getElem?_zipWith,
      ← same_train, train_at]
  | some t =>
    have also_at := same_train.symm.trans train_at
    obtain ⟨row, row_at⟩ := moved.exists_granted train_at
    obtain ⟨changed_row, changed_at⟩ := also_moved.exists_granted also_at
    -- Both stops are the greatest one of the same set.
    have greatest := moved.isGreatest_stop sound train_at row_at
    have also_greatest := also_moved.isGreatest_stop also also_at changed_at
    rw [sound.identifier_eq train_at, same_target, same_turn] at greatest
    rw [sound.identifier_eq train_at] at also_greatest
    have stops : t.stop + lengthOf row = t.stop + lengthOf changed_row :=
      Int.ofNat_inj.mp (greatest.unique also_greatest)
    rw [moved.extended_at train_at row_at, also_moved.extended_at also_at changed_at]
    simp only [Train.extended, stops]

end Sound

/-- Requests and targets of later trains change nothing for the trains up to an index. An allocation
answers those with the same rows, or lacks a request and answers nothing either way. A move takes them
equally far, on every railway that is reached and however its track was edited. -/
theorem priority_noninterference (i : Nat) :
    (∀ occupied requested others : List (List Segment), requested.length = others.length →
      (∀ j ≤ i, requested[j]? = others[j]?) →
      (requested.length < occupied.length →
        allocate? occupied requested = none ∧ allocate? occupied others = none) ∧
      (occupied.length ≤ requested.length →
        ∃ allocated changed, allocate? occupied requested = some allocated ∧
          allocate? occupied others = some changed ∧ allocated.length = occupied.length ∧
          changed.length = occupied.length ∧ ∀ j ≤ i, allocated[j]? = changed[j]?)) ∧
    ∀ (track : Option Track) (events : List Event) (targets others : Nat → Option Int),
      (∀ j ≤ i, targets j = others j) →
      let reached := history (.empty track) events
      ∀ j ≤ i, (reached.extend targets).1.trains[j]? = (reached.extend others).1.trains[j]? := by
  refine ⟨fun occupied requested others lengths agree => ⟨fun missing => ?_, fun enough => ?_⟩, ?_⟩
  · exact ⟨allocate?_eq_none missing, allocate?_eq_none (lengths ▸ missing)⟩
  · obtain ⟨allocated, answered, count⟩ := exists_allocate? enough
    obtain ⟨changed, also_answered, also_count⟩ := exists_allocate? (lengths ▸ enough)
    exact ⟨allocated, changed, answered, also_answered, count, also_count,
      allocate?_congr answered also_answered agree⟩
  · intro track events targets others agree reached
    have numbered : (empty track).Numbered := rfl
    exact (numbered.history events).extend_congr agree

/-- Whether the train from the other end asks for nearly all of the section or for nothing, the train
before it is granted the same, and on a railway goes equally far, also when the section is taken away
under it. -/
theorem priority_noninterference_facing :
    (∃ allocated changed, allocate? headOnOccupied headOnRequested = some allocated ∧
        allocate? headOnOccupied [[aheadWanted], []] = some changed ∧
        allocated[0]? = changed[0]? ∧ allocated.length = 2) ∧
      let reached := history (.empty (some (.single .line)))
        [.call (.add aheadRoute 0 2), .call (.add backRoute 0 4), .removeSection (some .line)]
      (reached.extend fun _ => some 9).1.trains[0]? =
        (reached.extend fun j => if j = 0 then some 9 else none).1.trains[0]? := by
  obtain ⟨requests, targets⟩ := priority_noninterference 0
  have same_request : ∀ j ≤ 0, headOnRequested[j]? = [[aheadWanted], []][j]? := by
    intro j first
    obtain rfl := Nat.le_zero.mp first
    rfl
  have same_target : ∀ j ≤ 0, some (9 : Int) = if j = 0 then some 9 else none :=
    fun j first => (if_pos (Nat.le_zero.mp first)).symm
  obtain ⟨-, answers⟩ :=
    requests headOnOccupied headOnRequested [[aheadWanted], []] rfl same_request
  obtain ⟨allocated, changed, answered, also_answered, count, -, agree⟩ := answers (Nat.le_refl 2)
  exact ⟨⟨allocated, changed, answered, also_answered, agree 0 (Nat.le_refl 0), count⟩,
    targets (some (.single .line)) _ _ _ same_target 0 (Nat.le_refl 0)⟩

end Railway

end Trackage
