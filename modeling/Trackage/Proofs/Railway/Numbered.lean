import Trackage.Proofs.Allocation.Dominance
import Trackage.Proofs.Outcome
import Trackage.Proofs.Railway.Registry

/-!
Identifiers of trains. They count the trains of every railway, also where the track under the trains
is edited or missing, and so the targets of a move come in the order of trains.
-/

namespace Trackage

namespace Railway

/-- What may happen to a railway: a call, or an edit of the track under the trains. -/
inductive Event where
  | call (call : Call)
  | addSection (s : Option Section)
  | removeSection (s : Option Section)

/-- The railway after an event. Where an edit fails it is the railway before. -/
def afterEvent (railway : Railway) : Event → Railway
  | .call call => railway.after call
  | .addSection s => (railway.addSection s).toOption.getD railway
  | .removeSection s => (railway.removeSection s).toOption.getD railway

/-- The railway after several events. -/
def history (railway : Railway) (events : List Event) : Railway := events.foldl afterEvent railway

variable {railway next : Railway}

theorem addSection_trains {s : Option Section} (edited : railway.addSection s = .ok next) :
    next.trains = railway.trains := by
  obtain ⟨track, -, rest⟩ := Outcome.bind_eq_ok_iff.mp edited
  split at rest <;> cases rest
  rfl

theorem removeSection_trains {s : Option Section} (edited : railway.removeSection s = .ok next) :
    next.trains = railway.trains := by
  obtain ⟨track, -, rest⟩ := Outcome.bind_eq_ok_iff.mp edited
  cases rest
  rfl

/-- A move answers every train, and those with a target move by what they are granted. -/
theorem exists_extend_eq (railway : Railway) (targets : Nat → Option Int) :
    ∃ granted, allocate? (railway.trains.map Train.allocation)
        (railway.trains.map fun t => advance t (targets t.identifier)) = some granted ∧
      granted.length = railway.trains.length ∧
      (railway.extend targets).1.trains = List.zipWith
        (fun t row => if (targets t.identifier).isSome then t.extended row else t)
        railway.trains granted := by
  have lengths : (railway.trains.map Train.allocation).length ≤
      (railway.trains.map fun t => advance t (targets t.identifier)).length := by simp
  obtain ⟨granted, answered, count⟩ := exists_allocate? lengths
  refine ⟨granted, answered, by simpa using count, ?_⟩
  simp only [extend, answered, Option.getD_some]
  rw [← List.map_uncurry_zip_eq_zipWith]
  exact List.map_congr_left fun _ _ => rfl

theorem extend_identifiers (railway : Railway) (targets : Nat → Option Int) :
    (railway.extend targets).1.trains.map Train.identifier =
      railway.trains.map Train.identifier := by
  obtain ⟨granted, -, count, moved⟩ := railway.exists_extend_eq targets
  have same (t : Train) (row : List Segment) :
      (if (targets t.identifier).isSome then t.extended row else t).identifier = t.identifier := by
    split <;> rfl
  calc (railway.extend targets).1.trains.map Train.identifier
      = List.zipWith (fun t _ => t.identifier) railway.trains granted := by
        simp only [moved, List.map_zipWith, same]
    _ = ((railway.trains.zip granted).map Prod.fst).map Train.identifier := by
        rw [← List.map_uncurry_zip_eq_zipWith, List.map_map]
        rfl
    _ = railway.trains.map Train.identifier := by rw [List.map_fst_zip (Nat.le_of_eq count.symm)]

theorem extend_length (railway : Railway) (targets : Nat → Option Int) :
    (railway.extend targets).1.trains.length = railway.trains.length := by
  simpa using congrArg List.length (railway.extend_identifiers targets)

namespace Numbered

theorem of_identifiers (numbered : railway.Numbered)
    (same : next.trains.map Train.identifier = railway.trains.map Train.identifier) :
    next.Numbered := by
  have count : next.trains.length = railway.trains.length := by
    simpa using congrArg List.length same
  rw [Numbered, same, count]
  exact numbered

theorem step (numbered : railway.Numbered) {call : Call} (stepped : Step railway call next) :
    next.Numbered := by
  cases stepped with
  | unchanged => exact numbered
  | added =>
    simp only [Numbered, List.map_append, List.length_append, List.length_singleton,
      List.range_succ, List.map_singleton]
    rw [numbered]
  | placed => exact numbered.of_identifiers (railway.place_identifiers _ _ _)
  | extended targets => exact numbered.of_identifiers (railway.extend_identifiers targets)

theorem afterEvent (numbered : railway.Numbered) (event : Event) :
    (railway.afterEvent event).Numbered := by
  cases event with
  | call call => exact numbered.step (railway.step_after call)
  | addSection s =>
    simp only [Railway.afterEvent]
    cases edited : railway.addSection s with
    | error fault => exact numbered
    | ok next => exact numbered.of_identifiers (congrArg _ (addSection_trains edited))
  | removeSection s =>
    simp only [Railway.afterEvent]
    cases edited : railway.removeSection s with
    | error fault => exact numbered
    | ok next => exact numbered.of_identifiers (congrArg _ (removeSection_trains edited))

theorem history (numbered : railway.Numbered) (events : List Event) :
    (railway.history events).Numbered := by
  induction events generalizing railway with
  | nil => exact numbered
  | cons event events ih => exact ih (numbered.afterEvent event)

/-- Where the targets of the first trains agree, these trains move alike. -/
theorem extend_congr (numbered : railway.Numbered) {targets others : Nat → Option Int} {i : Nat}
    (agree : ∀ j ≤ i, targets j = others j) :
    ∀ j ≤ i, (railway.extend targets).1.trains[j]? = (railway.extend others).1.trains[j]? := by
  obtain ⟨granted, answered, -, moved⟩ := railway.exists_extend_eq targets
  obtain ⟨changed, also_answered, -, also_moved⟩ := railway.exists_extend_eq others
  have target_at {j : Nat} (within : j ≤ i) {t : Train} (train_at : railway.trains[j]? = some t) :
      targets t.identifier = others t.identifier := by
    rw [numbered.identifier_eq train_at, agree j within]
  have requests_agree : ∀ j ≤ i,
      (railway.trains.map fun t => advance t (targets t.identifier))[j]? =
        (railway.trains.map fun t => advance t (others t.identifier))[j]? := by
    intro j within
    rw [List.getElem?_map, List.getElem?_map]
    cases train_at : railway.trains[j]? with
    | none => rfl
    | some t => rw [Option.map_some, Option.map_some, target_at within train_at]
  intro j within
  rw [moved, also_moved, List.getElem?_zipWith, List.getElem?_zipWith,
    allocate?_congr answered also_answered requests_agree j within]
  cases train_at : railway.trains[j]? with
  | none => rfl
  | some t =>
    cases changed[j]? with
    | none => rfl
    | some row => simp only [target_at within train_at]

end Numbered

end Railway

end Trackage
