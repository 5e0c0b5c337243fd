import Trackage.Proofs.Railway.Extension

/-!
Runs of a railway. Every railway that is reached from one without trains satisfies the invariant,
whatever routes, offsets and targets the calls name, and a call that fails changes nothing.
-/

namespace Trackage

namespace Railway

/-- A call that adds a train, moves one, or moves several forward at once. -/
inductive Call where
  | add (route : Route) (start stop : Int)
  | update (identifier start stop : Int)
  | extend (targets : Nat → Option Int)

/-- The operation that a call asks for. -/
def Call.operation : Call → Operation Railway RailwayError Unit
  | .add route start stop => do let _ ← (Railway.add route start stop).adaptExcept .rejected
  | .update identifier start stop => do let _ ← move identifier start stop
  | .extend targets => modify fun railway => (railway.extend targets).1

/-- What a call makes of a railway, or why it fails. -/
def perform (railway : Railway) (call : Call) : Except RailwayError Railway :=
  (call.operation.outcome railway).map Prod.fst

/-- The railway after a call, also where the call fails. -/
def after (railway : Railway) (call : Call) : Railway := call.operation.left railway

/-- The railway after several calls, some of which may fail. -/
def run (railway : Railway) (calls : List Call) : Railway := calls.foldl after railway

/-- All that a call can make of a railway. -/
inductive Step (railway : Railway) : Call → Railway → Prop
  | unchanged (call : Call) : Step railway call railway
  | added {route : Route} {start stop : Int}
    (accepted : railway.rejection? railway.trains.length route start stop = none) :
    Step railway (.add route start stop) ⟨railway.track,
      railway.trains ++ [⟨railway.trains.length, route, start.toNat, stop.toNat⟩]⟩
  | placed {start stop : Int} {t : Train} (identifier : Int) (t_in : t ∈ railway.trains)
    (accepted : railway.rejection? t.identifier t.route start stop = none) :
    Step railway (.update identifier start stop)
      (railway.place t.identifier start.toNat stop.toNat)
  | extended (targets : Nat → Option Int) :
    Step railway (.extend targets) (railway.extend targets).1

variable {railway next : Railway} {call : Call}

/-- A call takes a step, and where it fails it changes nothing. -/
theorem leads_operation (railway : Railway) (call : Call) :
    call.operation.Leads railway (fun _ next => Step railway call next)
      fun _ next => next = railway := by
  cases call with
  | add route start stop =>
    simp only [Call.operation, Operation.leads_bind, Operation.leads_adaptExcept,
      Operation.leads_pure, leads_add]
    exact ⟨.added, fun _ _ => trivial⟩
  | update identifier start stop =>
    simp only [Call.operation, Operation.leads_bind, Operation.leads_pure, leads_move]
    refine ⟨fun _ => trivial, fun t found => ?_⟩
    split
    next => exact .unchanged _
    next => exact ⟨.placed identifier (List.mem_of_find?_eq_some found), fun _ _ => trivial⟩
  | extend targets => exact .extended targets

theorem step_after (railway : Railway) (call : Call) : Step railway call (railway.after call) := by
  have leaves : call.operation.Leaves railway (Step railway call) := by
    refine (leads_operation railway call).imp (fun _ _ stepped => stepped) ?_
    rintro _ _ rfl
    exact .unchanged call
  exact leaves.left

theorem after_of_error {error : RailwayError} (failed : railway.perform call = .error error) :
    railway.after call = railway := by
  have atomic : call.operation.Atomic := fun railway =>
    (leads_operation railway call).imp (fun _ _ _ => trivial) fun _ _ same => same
  rw [after, atomic.left_eq]
  unfold perform at failed
  rw [failed]
  rfl

theorem after_add {route : Route} {start stop : Int}
    (accepted : railway.rejection? railway.trains.length route start stop = none) :
    railway.after (.add route start stop) = ⟨railway.track,
      railway.trains ++ [⟨railway.trains.length, route, start.toNat, stop.toNat⟩]⟩ := by
  have leaves : (Call.operation (.add route start stop)).Leaves railway (· = ⟨railway.track,
      railway.trains ++ [⟨railway.trains.length, route, start.toNat, stop.toNat⟩]⟩) := by
    simp only [Operation.Leaves, Call.operation, Operation.leads_bind,
      Operation.leads_adaptExcept, Operation.leads_pure, leads_add, accepted]
    refine ⟨fun _ => trivial, fun rejection refused => ?_⟩
    cases refused
  exact leaves.left

theorem perform_update (railway : Railway) (identifier start stop : Int) :
    railway.perform (.update identifier start stop) =
      (railway.updateTrain identifier start stop).map Prod.fst := by
  simp only [perform, updateTrain, Operation.outcome, Call.operation, bind, EStateM.bind]
  cases move identifier start stop railway <;> rfl

namespace Sound

variable {track : Track}

theorem step (sound : Sound track railway) (stepped : Step railway call next) :
    Sound track next := by
  cases stepped with
  | unchanged => exact sound
  | added accepted => exact sound.add accepted
  | placed _ t_in accepted => exact sound.place t_in accepted
  | extended targets => exact sound.extend targets

theorem after (sound : Sound track railway) (call : Call) : Sound track (railway.after call) :=
  sound.step (railway.step_after call)

theorem run (sound : Sound track railway) (calls : List Call) :
    Sound track (railway.run calls) := by
  -- Each call keeps the invariant, whether or not it is accepted.
  induction calls generalizing railway with
  | nil => exact sound
  | cons call calls ih => exact ih (sound.after call)

end Sound

/-- On a track every run of calls on a railway without trains reaches a sound railway. There what a
train holds is a part of its route, the allocator always answers, and a call that fails leaves the
trains as they are. -/
theorem reached_sound (track : Track) (calls : List Call) :
    let reached := run (.empty (some track)) calls
    Sound track reached ∧
      (∀ t ∈ reached.trains, ∃ held, t.route.part t.start t.stop = .ok held ∧
        held.segments = t.allocation) ∧
      (∀ targets : Nat → Option Int, ∃ granted, granted.length = reached.trains.length ∧
        allocate? (reached.trains.map Train.allocation)
          (reached.trains.map fun t => advance t (targets t.identifier)) = some granted) ∧
      ∀ call error, reached.perform call = .error error →
        (reached.after call).trains = reached.trains := by
  intro reached
  have sound : Sound track reached := (sound_empty track).run calls
  refine ⟨sound, fun t t_in => (sound.placed t t_in).part_eq_ok, ?_, ?_⟩
  · intro targets
    obtain ⟨granted, count, -, answered, -⟩ := sound.extend_served targets
    exact ⟨granted, count, answered⟩
  · intro call error failed
    rw [after_of_error failed]

/-- The routes of two trains that head for each other. -/
def aheadRoute : Route := ⟨[aheadHeld, aheadWanted], List.cons_ne_nil _ _, rfl⟩
def backRoute : Route := ⟨[backHeld, backWanted], List.cons_ne_nil _ _, rfl⟩

/-- Two trains at the two ends of a section are added, and a call for a third train fails. -/
theorem reached_sound_headOn :
    let reached := run (.empty (some (.single .line))) [.add aheadRoute 0 3, .add backRoute 0 3]
    reached.trains = [⟨0, aheadRoute, 0, 3⟩, ⟨1, backRoute, 0, 3⟩] ∧
      Sound (.single .line) reached ∧
      reached.perform (.update 2 0 3) = .error (.unknownTrain 2) ∧
      (reached.after (.update 2 0 3)).trains = reached.trains := by
  intro reached
  obtain ⟨ahead_on, back_on⟩ : aheadRoute.onTrack (.single .line) = true ∧
      backRoute.onTrack (.single .line) = true := by
    simpa [headOnOccupied, headOnRequested, LiesOn, Route.onTrack, aheadRoute, backRoute,
      and_and_and_comm] using headOn_liesOn
  have before := sound_empty (.single .line)
  have alone : ∀ u ∈ ([] : List Train), u.identifier ≠ 0 →
      ClearOf (Route.pieces aheadRoute.segments 0 3) u.allocation := by simp
  have first := after_add (before.rejection?_eq_none_iff.mpr ⟨ahead_on, by decide, alone⟩ :
    Railway.rejection? _ 0 aheadRoute 0 3 = none)
  have one := before.after (.add aheadRoute 0 3)
  rw [first] at one
  have clear : ∀ u ∈ [Train.mk 0 aheadRoute 0 3], u.identifier ≠ 1 →
      ClearOf (Route.pieces backRoute.segments 0 3) u.allocation := by
    intro u member _
    obtain rfl := List.mem_singleton.mp member
    unfold ClearOf
    decide
  have second := after_add (one.rejection?_eq_none_iff.mpr ⟨back_on, by decide, clear⟩ :
    Railway.rejection? _ 1 backRoute 0 3 = none)
  have trains : reached.trains = [⟨0, aheadRoute, 0, 3⟩, ⟨1, backRoute, 0, 3⟩] := by
    simp only [reached, run, List.foldl_cons, List.foldl_nil, first, second]
    rfl
  obtain ⟨sound, -, -, unchanged⟩ :=
    reached_sound (.single .line) [.add aheadRoute 0 3, .add backRoute 0 3]
  have unknown : reached.perform (.update 2 0 3) = .error (.unknownTrain 2) := by
    have none_found : reached.train? 2 = none := by simp [train?, trains]
    rw [perform_update, updateTrain_eq, none_found]
    rfl
  exact ⟨trains, sound, unknown, unchanged _ _ unknown⟩

end Railway

end Trackage
