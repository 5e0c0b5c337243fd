import Trackage.Proofs.Railway.Bookkeeping

/-!
Trains at rest. A move leaves every train at its target, at the end of its route, or where the next
stretch meets another train. So the same move made again changes nothing and grants nothing.
-/

namespace Trackage

namespace Railway

/-- No train holds more than the train of its identifier holds in another railway. -/
def Within (railway other : Railway) : Prop :=
  ∀ t ∈ railway.trains, ∃ u ∈ other.trains, u.identifier = t.identifier ∧
    ∀ l ∈ locationsOf t.allocation, l ∈ locationsOf u.allocation

section Within

variable {track : Track} {railway other : Railway} {targets : Nat → Option Int}

/-- What is accepted where trains hold more is accepted where they hold less. -/
theorem Sound.accepted_of_within (sound : Sound track railway) (also : Sound track other)
    (within : railway.Within other) {identifier : Nat} {route : Route} {start stop : Int}
    (accepted : other.rejection? identifier route start stop = none) :
    railway.rejection? identifier route start stop = none := by
  rw [also.rejection?_eq_none_iff] at accepted
  obtain ⟨route_on, offsets, clear⟩ := accepted
  refine sound.rejection?_eq_none_iff.mpr ⟨route_on, offsets, fun t t_in different => ?_⟩
  obtain ⟨u, u_in, same, covered⟩ := within t t_in
  exact (clear u u_in (same ▸ different)).subset (fun _ member => member) covered

theorem Sound.within_atTurn (sound : Sound track railway) (i : Nat) :
    railway.Within (railway.atTurn targets i) := by
  intro t t_in
  obtain ⟨granted, moved⟩ := sound.exists_movedBy targets
  obtain ⟨j, train_at⟩ := List.mem_iff_getElem?.mp t_in
  obtain ⟨row, granted_at⟩ := moved.exists_granted train_at
  refine ⟨_, List.mem_of_getElem? ((moved.atTurn_eq_some_iff sound).mpr
    ⟨t, row, train_at, granted_at, rfl⟩), ?_, ?_⟩
  · split <;> rfl
  · intro l member
    split
    · exact (moved.held_extended sound train_at granted_at).mpr (.inl member)
    · exact member

theorem Sound.atTurn_within (sound : Sound track railway) (i : Nat) :
    (railway.atTurn targets i).Within (railway.extend targets).1 := by
  intro v v_in
  obtain ⟨granted, moved⟩ := sound.exists_movedBy targets
  obtain ⟨j, v_at⟩ := List.mem_iff_getElem?.mp v_in
  exact moved.exists_covering sound v_at

end Within

namespace Sound

variable {track : Track} {railway : Railway} {targets : Nat → Option Int} {i : Nat} {u : Train}

/-- A stretch of a route on the track is refused on account of another train only. -/
theorem rejection?_eq_conflict (sound : Sound track railway) {identifier : Nat} {route : Route}
    {start stop : Int} (route_on : route.onTrack track = true)
    (offsets : 0 ≤ start ∧ start < stop ∧ stop ≤ route.length)
    (refused : railway.rejection? identifier route start stop ≠ none) :
    railway.rejection? identifier route start stop = some .conflict := by
  have carries : railway.carries route = true := by
    simp only [Railway.carries, sound.track_eq, Option.any_some, route_on]
  revert refused
  simp only [rejection?, carries, offsets, Bool.not_true, Bool.false_eq_true, and_self,
    not_true_eq_false, if_false]
  split <;> simp

/-- Once all trains have moved, no train is let go farther towards its target. -/
theorem rejection?_beyond (sound : Sound track railway)
    (train_at : (railway.extend targets).1.trains[i]? = some u) {stop : Int}
    (beyond : (u.stop : Int) < stop)
    (below : stop ≤ min ((targets i).getD u.stop) u.route.length) :
    (railway.extend targets).1.rejection? i u.route u.start stop ≠ none := by
  intro accepted
  obtain ⟨granted, moved⟩ := sound.exists_movedBy targets
  rw [moved.trains_eq, List.getElem?_zipWith_eq_some] at train_at
  obtain ⟨t, row, t_at, row_at, rfl⟩ := train_at
  -- At its own turn the others held no more, so that the train would have gone there then.
  have at_turn := (moved.sound_atTurn sound i).accepted_of_within (sound.extend targets)
    (sound.atTurn_within i) accepted
  have greatest := moved.isGreatest_stop sound t_at row_at
  rw [sound.identifier_eq t_at] at greatest
  simp only [Train.extended] at beyond below at_turn
  have farther : stop ≤ (t.stop + lengthOf row : Nat) := by
    refine greatest.2 ⟨by omega, ?_, at_turn⟩
    cases target : targets i with
    | none =>
      rw [target, Option.getD_none] at below
      omega
    | some aim =>
      rw [target, Option.getD_some] at below
      rw [Option.getD_some]
      omega
  omega

/-- The same move made again leaves each train where it is. -/
theorem extend_again (sound : Sound track railway) (i : Nat) :
    ((railway.extend targets).1.extend targets).1.trains[i]? =
      (railway.extend targets).1.trains[i]? := by
  have between := sound.extend targets
  obtain ⟨granted, moved⟩ := between.exists_movedBy targets
  cases train_at : (railway.extend targets).1.trains[i]? with
  | none => rw [moved.trains_eq, List.getElem?_zipWith, train_at]
  | some u =>
    obtain ⟨row, row_at⟩ := moved.exists_granted train_at
    obtain ⟨⟨-, bounded, accepted⟩, -⟩ := moved.isGreatest_stop between train_at row_at
    rw [between.identifier_eq train_at] at bounded
    -- What is let pass at the second turn is let pass before it, where nothing farther is.
    have still_accepted :=
      between.accepted_of_within (moved.sound_atTurn between i) (between.within_atTurn i) accepted
    have nothing : lengthOf row = 0 := by
      by_contra something
      exact sound.rejection?_beyond train_at (by omega) (by omega) still_accepted
    rw [moved.extended_at train_at row_at, Train.extended, nothing, Nat.add_zero]

theorem extend_extend (sound : Sound track railway) :
    (railway.extend targets).1.extend targets = ((railway.extend targets).1,
      ((railway.trains.map Train.identifier).filter fun i => (targets i).isSome).map
        fun i => (i, [])) := by
  have between := sound.extend targets
  have keys : ((railway.extend targets).1.extend targets).2.map Prod.fst =
      (railway.trains.map Train.identifier).filter fun i => (targets i).isSome := by
    rw [between.extend_keys, railway.extend_identifiers]
  refine Prod.ext (Railway.ext rfl (List.ext_getElem? sound.extend_again)) ?_
  have empty : ∀ answer ∈ ((railway.extend targets).1.extend targets).2, answer.2 = [] := by
    rintro ⟨i, row⟩ member
    have named := List.mem_map_of_mem (f := Prod.fst) member
    rw [between.extend_keys, List.mem_filter, List.mem_map] at named
    obtain ⟨⟨t, t_in, rfl⟩, -⟩ := named
    obtain ⟨k, train_at⟩ := List.mem_iff_getElem?.mp t_in
    have moved_at := (sound.extend_again k).trans train_at
    exact (between.extend_gained train_at moved_at member).still rfl
  rw [← keys, List.map_map]
  refine (List.map_id _).symm.trans (List.map_congr_left fun answer member => ?_)
  exact Prod.ext rfl (empty answer member)

/-- Where a train would have to go on to come nearer to its target, another train is in its way. -/
theorem updateTrain_beyond (sound : Sound track railway)
    (train_at : (railway.extend targets).1.trains[i]? = some u) {stop : Int}
    (beyond : (u.stop : Int) < stop)
    (below : stop ≤ min ((targets i).getD u.stop) u.route.length) :
    (railway.extend targets).1.updateTrain i u.start stop = .error (.rejected .conflict) := by
  have between := sound.extend targets
  have placed := between.placed u (List.mem_of_getElem? train_at)
  have ordered := placed.ordered
  have conflict := between.rejection?_eq_conflict placed.route_on (by omega)
    (sound.rejection?_beyond train_at beyond below)
  have renewed : stop ≠ u.stop := by omega
  rw [updateTrain_eq, between.train?_eq train_at]
  simp only [renewed, and_false, if_false, between.identifier_eq train_at, conflict]

end Sound

/-- In every railway that is reached on a track, the same move made twice ends where it ends when
made once. The second move has an answer as the first has, and grants nothing to each train with a
target. For a train that stops short of its target on its route, any farther stop meets another train. -/
theorem extend_idempotent (track : Track) (calls : List Call) (targets : Int → Option Int) :
    let reached := run (.empty (some track)) calls
    let named : Nat → Option Int := fun identifier => targets identifier
    let next := (reached.extend named).1
    reached.extendByParts named = .ok (reached.extend named) ∧
      next.extendByParts named = .ok (next.extend named) ∧
      next.extend named = (next,
        ((reached.trains.map Train.identifier).filter fun identifier =>
          (named identifier).isSome).map fun identifier => (identifier, [])) ∧
      ∀ t ∈ next.trains, ∀ stop : Int, (t.stop : Int) < stop →
        stop ≤ min ((named t.identifier).getD t.stop) t.route.length →
        next.updateTrain t.identifier t.start stop = .error (.rejected .conflict) := by
  intro reached named next
  have sound : Sound track reached := (sound_empty track).run calls
  have between : Sound track next := sound.extend named
  refine ⟨sound.extendByParts_eq_ok, between.extendByParts_eq_ok, sound.extend_extend, ?_⟩
  intro t t_in stop beyond below
  obtain ⟨i, train_at⟩ := List.mem_iff_getElem?.mp t_in
  obtain rfl := between.identifier_eq train_at
  exact sound.updateTrain_beyond train_at beyond below

/-- Two trains at the two ends of a section. -/
theorem facing_trains :
    (run (.empty (some (.single .line))) [.add aheadRoute 0 2, .add backRoute 0 4]).trains =
      [⟨0, aheadRoute, 0, 2⟩, ⟨1, backRoute, 0, 4⟩] := by
  obtain ⟨ahead_on, back_on⟩ : aheadRoute.onTrack (.single .line) = true ∧
      backRoute.onTrack (.single .line) = true := by
    simpa [headOnOccupied, headOnRequested, LiesOn, Route.onTrack, aheadRoute, backRoute,
      and_and_and_comm] using headOn_liesOn
  have first := (sound_empty (.single .line)).after_add_of_clear 0 2 ahead_on (by decide)
    (by simp [empty])
  have one := (sound_empty (.single .line)).after (.add aheadRoute 0 2)
  rw [first] at one
  have clear : ClearOf (Route.pieces backRoute.segments 0 4)
      (Train.mk 0 aheadRoute 0 2).allocation := by
    unfold ClearOf
    decide
  have second := one.after_add_of_clear 0 4 back_on (by decide) (by simpa [empty] using clear)
  simp only [run, List.foldl_cons, List.foldl_nil, first, second]
  rfl

/-- Both trains are sent twice to where the other one is. -/
theorem extend_idempotent_facing :
    let reached := run (.empty (some (.single .line))) [.add aheadRoute 0 2, .add backRoute 0 4]
    let next := (reached.extend fun _ => some 9).1
    reached.trains.length = 2 ∧ next.extend (fun _ => some 9) = (next, [(0, []), (1, [])]) := by
  intro reached next
  obtain ⟨-, -, again, -⟩ := extend_idempotent (.single .line)
    [.add aheadRoute 0 2, .add backRoute 0 4] fun _ => some 9
  rw [facing_trains] at again
  exact ⟨congrArg List.length facing_trains, again⟩

end Railway

end Trackage
