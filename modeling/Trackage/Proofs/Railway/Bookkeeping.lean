import Trackage.Proofs.Railway.Batch

/-!
The books of a move. Everything that a move cuts out of a route is there, so that a move always has an
answer. It changes nothing but the stops of the trains with a target, and the segments that such a
train is granted are the part of its route between its old and its new stop.
-/

namespace Trackage

/-- A train has gone forward, towards its target if it has one, and nothing else of it is new. -/
structure Train.Forwarded (target : Option Int) (t u : Train) : Prop where
  identifier_eq : u.identifier = t.identifier
  route_eq : u.route = t.route
  start_eq : u.start = t.start
  untargeted : target = none → u = t
  ahead : t.stop ≤ u.stop
  bounded : (u.stop : Int) ≤ max (t.stop : Int) (min (target.getD t.stop) t.route.length)

/-- Some segments are what a train has gained of its route. -/
structure Train.Gained (t u : Train) (row : List Segment) : Prop where
  still : u.stop = t.stop → row = []
  moved : t.stop < u.stop →
    ∃ part, t.route.part t.stop u.stop = .ok part ∧ row = part.segments
  length_eq : t.stop + lengthOf row = u.stop

theorem Train.gained {t u : Train} (ahead : t.stop ≤ u.stop) (within : u.stop ≤ t.route.length) :
    t.Gained u (Route.pieces t.route.segments t.stop u.stop) := by
  constructor
  · intro still
    exact Route.pieces_eq_nil _ (Nat.le_of_eq still)
  · intro forward
    obtain ⟨part, cut, segments_eq⟩ := t.route.part_eq_ok forward within
    exact ⟨part, cut, segments_eq.symm⟩
  · rw [Route.lengthOf_pieces ahead within]
    omega

namespace Railway

/-- What a train holds and what it requests, where the route may have no such parts. -/
def cutParts (targets : Nat → Option Int) (t : Train) :
    Except (Raised RouteError) (List Segment × List Segment) := do
  let held ← t.route.part t.start t.stop
  let target := min ((targets t.identifier).getD t.stop) t.route.length
  if (t.stop : Int) < target then
    let ahead ← t.route.part t.stop target
    return (held.segments, ahead.segments)
  else return (held.segments, [])

/-- The railway and the answer of a move once the trains are granted their segments. -/
def granting (railway : Railway) (targets : Nat → Option Int) (granted : List (List Segment)) :
    Railway × List (Nat × List Segment) :=
  let served := railway.trains.zip granted
  let moved := served.map fun (t, segments) =>
    if (targets t.identifier).isSome then t.extended segments else t
  let answers := served.filterMap fun (t, segments) =>
    (targets t.identifier).map fun _ => (t.identifier, segments)
  (⟨railway.track, moved⟩, answers)

/-- A move that fails when a route has no such part, or when the allocator has no answer. -/
def extendByParts (railway : Railway) (targets : Nat → Option Int) :
    Except Fault (Railway × List (Nat × List Segment)) := do
  let cut ← railway.trains.mapM fun t =>
    (cutParts targets t).mapError fun raised => .ofRaised (raised.map .route)
  match allocate? (cut.map Prod.fst) (cut.map Prod.snd) with
  | none => throw .indexOutOfRange
  | some granted => return railway.granting targets granted

section Move

variable {track : Track} {railway : Railway} {targets : Nat → Option Int} {i : Nat} {t : Train}

theorem extend_eq_granting (railway : Railway) (targets : Nat → Option Int) :
    railway.extend targets = railway.granting targets
      ((allocate? (railway.trains.map Train.allocation)
        (railway.trains.map fun t => advance t (targets t.identifier))).getD []) := rfl

theorem cutParts_eq_ok (placed : t.Placed track) :
    cutParts targets t = .ok (t.allocation, advance t (targets t.identifier)) := by
  obtain ⟨held, held_cut, held_eq⟩ := placed.part_eq_ok
  unfold cutParts advance
  rw [held_cut, ← held_eq]
  by_cases ahead : (t.stop : Int) < min ((targets t.identifier).getD t.stop) t.route.length
  · -- A target ahead lies behind the stop, which is within the route, and so is a distance.
    obtain ⟨stop, stop_eq⟩ := Int.eq_ofNat_of_zero_le
      (Int.le_trans (Int.natCast_nonneg t.stop) (Int.le_of_lt ahead))
    have forward : t.stop < stop := by omega
    have within : stop ≤ t.route.length := by omega
    obtain ⟨part, cut, segments_eq⟩ := t.route.part_eq_ok forward within
    rw [← stop_eq] at cut
    simp only [bind, Except.bind, cut, if_pos ahead]
    rw [stop_eq, Int.toNat_natCast, ← segments_eq]
    rfl
  · simp only [if_neg ahead]
    rfl

namespace Sound

/-- A move never fails. -/
theorem extendByParts_eq_ok (sound : Sound track railway) :
    railway.extendByParts targets = .ok (railway.extend targets) := by
  have cut : (railway.trains.mapM fun t =>
      (cutParts targets t).mapError fun raised => Fault.ofRaised (raised.map .route)) =
      .ok (railway.trains.map fun t => (t.allocation, advance t (targets t.identifier))) := by
    rw [Outcome.mapM_eq_ok_iff, List.forall₂_map_right_iff, List.forall₂_same]
    intro t t_in
    rw [cutParts_eq_ok (sound.placed t t_in)]
    rfl
  obtain ⟨granted, -, -, answered, -⟩ := sound.extend_served targets
  unfold extendByParts
  rw [cut, extend_eq_granting, answered]
  simp only [bind, Except.bind, List.map_map, Function.comp_def, answered]
  rfl

/-- The identifiers that a move answers are those of the trains with a target. -/
theorem extend_keys (sound : Sound track railway) :
    (railway.extend targets).2.map Prod.fst =
      (railway.trains.map Train.identifier).filter fun i => (targets i).isSome := by
  obtain ⟨granted, moved⟩ := sound.exists_movedBy targets
  rw [sound.extend_answers, sound.identifiers, List.map_filterMap, ← List.filterMap_eq_filter]
  apply List.filterMap_congr
  intro i member
  have train_at := List.getElem?_eq_getElem (List.mem_range.mp member)
  obtain ⟨row, row_at⟩ := moved.exists_granted train_at
  unfold grantAnswer
  rw [train_at, moved.extended_at train_at row_at]
  cases target : targets i with
  | none => simp [Option.guard, target]
  | some stop => simp [Option.guard, target]

theorem extend_forwarded (sound : Sound track railway) (train_at : railway.trains[i]? = some t) :
    ∃ u, (railway.extend targets).1.trains[i]? = some u ∧
      t.Forwarded (targets t.identifier) u := by
  obtain ⟨granted, moved⟩ := sound.exists_movedBy targets
  obtain ⟨row, row_at⟩ := moved.exists_granted train_at
  have moved_at := moved.extended_at train_at row_at
  obtain ⟨⟨ahead, bounded, -⟩, -⟩ := moved.isGreatest_stop sound train_at row_at
  refine ⟨t.extended row, moved_at, rfl, rfl, rfl, ?_, ?_, bounded⟩
  · intro untargeted
    rw [sound.identifier_eq train_at] at untargeted
    exact Option.some.inj (moved_at.symm.trans ((sound.unmoved untargeted).trans train_at))
  · exact Nat.le_add_right _ _

/-- What a train is answered lies between its stops. -/
theorem extend_gained (sound : Sound track railway) (train_at : railway.trains[i]? = some t)
    {u : Train} (moved_at : (railway.extend targets).1.trains[i]? = some u) {row : List Segment}
    (answered : (t.identifier, row) ∈ (railway.extend targets).2) : t.Gained u row := by
  have placed := sound.placed t (List.mem_of_getElem? train_at)
  have number := sound.identifier_eq train_at
  obtain ⟨v, v_at, forwarded⟩ : ∃ v, (railway.extend targets).1.trains[i]? = some v ∧
      t.Forwarded (targets t.identifier) v := sound.extend_forwarded train_at
  obtain rfl : v = u := Option.some.inj (v_at.symm.trans moved_at)
  have within : v.stop ≤ t.route.length := by
    have bounded := forwarded.bounded
    have short := placed.within
    omega
  rw [sound.extend_answers, List.mem_filterMap] at answered
  obtain ⟨j, -, answer⟩ := answered
  unfold grantAnswer at answer
  simp only [bind, Option.bind_eq_some_iff, Option.some.injEq, Prod.mk.injEq, pure] at answer
  -- The answer carries the number of the train that it is about.
  obtain ⟨w, w_at, x, x_at, -, -, rfl, rfl⟩ := answer
  rw [number] at w_at x_at
  obtain rfl : w = t := Option.some.inj (w_at.symm.trans train_at)
  obtain rfl : x = v := Option.some.inj (x_at.symm.trans moved_at)
  exact Train.gained forwarded.ahead within

end Sound

end Move

/-- In every railway that is reached on a track a move has an answer, whatever identifiers and
targets it names. It keeps the trains with their identifiers, routes and starts, moves no train
without a target, and moves the others forward up to their target or the end of their route. The
answer names the trains with a target, and grants each the part of its route that it has gained. -/
theorem extend_bookkeeping (track : Track) (calls : List Call) (targets : Int → Option Int) :
    let reached := run (.empty (some track)) calls
    let next := reached.extend fun identifier => targets identifier
    reached.extendByParts (fun identifier => targets identifier) = .ok next ∧
      next.1.track = reached.track ∧
      next.1.trains.length = reached.trains.length ∧
      next.2.map Prod.fst =
        (reached.trains.map Train.identifier).filter (fun identifier : Nat =>
          (targets identifier).isSome) ∧
      ∀ (i : Nat) (t : Train), reached.trains[i]? = some t →
        t.identifier = i ∧
        ∃ u, next.1.trains[i]? = some u ∧ t.Forwarded (targets i) u ∧
          ∀ row, (i, row) ∈ next.2 → t.Gained u row := by
  intro reached next
  have sound : Sound track reached := (sound_empty track).run calls
  refine ⟨sound.extendByParts_eq_ok, rfl, reached.extend_length _, sound.extend_keys, ?_⟩
  intro i t train_at
  obtain rfl := sound.identifier_eq train_at
  obtain ⟨u, moved_at, forwarded⟩ := sound.extend_forwarded train_at
  exact ⟨rfl, u, moved_at, forwarded, fun row => sound.extend_gained train_at moved_at⟩

/-- One train is sent beyond the end of its route, and so are two that are not there. -/
theorem extend_bookkeeping_ahead :
    let reached := run (.empty (some (.single .line))) [.add aheadRoute 0 2]
    let targets : Int → Option Int := fun identifier =>
      if identifier ∈ [-1, 0, 7] then some 9 else none
    let next := reached.extend fun identifier => targets identifier
    reached.trains[0]? = some ⟨0, aheadRoute, 0, 2⟩ ∧
      ∃ u row, next.1.trains[0]? = some u ∧ next.2 = [(0, row)] ∧ u.stop ≤ aheadRoute.length ∧
        2 + lengthOf row = u.stop := by
  intro reached targets next
  have ahead_on : aheadRoute.onTrack (.single .line) = true := by
    have both := headOn_liesOn
    simp only [headOnOccupied, headOnRequested, LiesOn, List.forall_mem_cons] at both
    simp [Route.onTrack, aheadRoute, both]
  have trains : reached.trains = [⟨0, aheadRoute, 0, 2⟩] := by
    have added := (sound_empty (.single .line)).after_add_of_clear 0 2 ahead_on (by decide)
      (by simp [empty])
    simp only [reached, run, List.foldl_cons, List.foldl_nil, added]
    rfl
  obtain ⟨-, -, -, keys, moves⟩ :=
    extend_bookkeeping (.single .line) [.add aheadRoute 0 2] targets
  have train_at : reached.trains[0]? = some ⟨0, aheadRoute, 0, 2⟩ := by rw [trains]; rfl
  obtain ⟨-, u, moved_at, forwarded, gains⟩ := moves 0 _ train_at
  -- Of the three identifiers the answer has only the one that there is.
  have answered : next.2.map Prod.fst = [0] := by
    rw [keys, trains]
    rfl
  obtain ⟨⟨key, row⟩, answer, rfl⟩ := List.map_eq_singleton_iff.mp answered
  have gained := gains row (by rw [answer]; exact List.mem_singleton_self _)
  have bounded := forwarded.bounded
  have longer : 2 ≤ aheadRoute.length := by decide
  refine ⟨train_at, u, row, moved_at, answer, ?_, gained.length_eq⟩
  simp only at bounded
  omega

end Railway

end Trackage
