import Mathlib.Order.Bounds.Defs
import Trackage.Proofs.Railway.Registry

/-!
How far a move takes each train. The trains are moved in the order of their identifiers, and each
goes exactly as far towards its target as the check of a single move would let it go at its turn:
the trains before it have moved then, and those after it have not.
-/

namespace Trackage

theorem ClearOf.subset {row wider other further : List Segment} (clear : ClearOf wider further)
    (covered : ∀ l ∈ locationsOf row, l ∈ locationsOf wider)
    (covered_other : ∀ l ∈ locationsOf other, l ∈ locationsOf further) : ClearOf row other :=
  fun l in_row m in_other => clear l (covered l in_row) m (covered_other m in_other)

namespace Railway

/-- A railway at the turn of a train: the trains of lesser identifiers are where the move takes
them, and the others are where they were. -/
def atTurn (railway : Railway) (targets : Nat → Option Int) (identifier : Nat) : Railway :=
  ⟨railway.track, List.zipWith (fun t moved => if t.identifier < identifier then moved else t)
    railway.trains (railway.extend targets).1.trains⟩

/-- What a train requests is the stretch of its route up to its target, as far as that lies ahead
and within the route. -/
theorem advance_eq_stretch (t : Train) (target : Option Int) :
    advance t target = Route.pieces t.route.segments t.stop
      (max (t.stop : Int) (min (target.getD t.stop) t.route.length)).toNat := by
  unfold advance
  by_cases ahead : (t.stop : Int) < min (target.getD t.stop) t.route.length
  · simp only [if_pos ahead]
    rw [Int.max_eq_right (Int.le_of_lt ahead)]
  · simp only [if_neg ahead]
    rw [Int.max_eq_left (Int.not_lt.mp ahead)]
    exact (Route.pieces_eq_nil _ (Nat.le_refl _)).symm

theorem Sound.train?_eq {track : Track} {railway : Railway} (sound : Sound track railway) {i : Nat}
    {t : Train} (train_at : railway.trains[i]? = some t) : railway.train? i = some t := by
  have t_in := List.mem_of_getElem? train_at
  have t_number := sound.identifier_eq train_at
  unfold train?
  cases found : railway.trains.find? fun u => (u.identifier : Int) == i with
  | none =>
    have absent := List.find?_eq_none.mp found t t_in
    simp [t_number] at absent
  | some u =>
    have u_number : (u.identifier : Int) = i := by simpa using List.find?_some found
    have same : u.identifier = t.identifier := by omega
    rw [sound.eq_of_identifier_eq (List.mem_of_find?_eq_some found) t_in same]

/-- The trains of a railway are moved by what they are granted. -/
structure MovedBy (railway : Railway) (targets : Nat → Option Int)
    (granted : List (List Segment)) : Prop where
  count : granted.length = railway.trains.length
  served : Served (railway.trains.map Train.allocation)
    (railway.trains.map fun t => advance t (targets t.identifier)) granted
  trains_eq : (railway.extend targets).1.trains = List.zipWith Train.extended railway.trains granted

namespace MovedBy

variable {track : Track} {railway : Railway} {targets : Nat → Option Int}
variable {granted : List (List Segment)} {identifier j : Nat} {t v : Train} {row : List Segment}

theorem greatest (moved : MovedBy railway targets granted) (train_at : railway.trains[j]? = some t)
    (granted_at : granted[j]? = some row) :
    GreatestClear (Barred (railway.trains.map Train.allocation) granted j)
      (advance t (targets t.identifier)) row := by
  have request_at : (railway.trains.map fun t => advance t (targets t.identifier))[j]? =
      some (advance t (targets t.identifier)) := by simp [train_at]
  exact moved.served.greatest j _ row request_at granted_at

theorem exists_granted (moved : MovedBy railway targets granted)
    (train_at : railway.trains[j]? = some t) : ∃ row, granted[j]? = some row := by
  have inside : j < granted.length := by
    rw [moved.count]
    exact (List.getElem?_eq_some_iff.mp train_at).1
  exact ⟨granted[j], List.getElem?_eq_getElem inside⟩

theorem extended_at (moved : MovedBy railway targets granted)
    (train_at : railway.trains[j]? = some t) (granted_at : granted[j]? = some row) :
    (railway.extend targets).1.trains[j]? = some (t.extended row) := by
  rw [moved.trains_eq, List.getElem?_zipWith_eq_some]
  exact ⟨t, row, train_at, granted_at, rfl⟩

variable (sound : Sound track railway) (moved : MovedBy railway targets granted)
include sound moved

/-- At a turn each train is the one that was there, with its grant if its own turn has been. -/
theorem atTurn_eq_some_iff :
    (railway.atTurn targets identifier).trains[j]? = some v ↔
      ∃ t row, railway.trains[j]? = some t ∧ granted[j]? = some row ∧
        v = if j < identifier then t.extended row else t := by
  simp only [atTurn, moved.trains_eq, List.getElem?_zipWith_eq_some]
  constructor
  · rintro ⟨t, -, train_at, ⟨u, row, same_at, granted_at, rfl⟩, rfl⟩
    obtain rfl : t = u := Option.some.inj (train_at.symm.trans same_at)
    exact ⟨t, row, train_at, granted_at, by rw [sound.identifier_eq train_at]⟩
  · rintro ⟨t, row, train_at, granted_at, rfl⟩
    exact ⟨t, t.extended row, train_at, ⟨t, row, train_at, granted_at, rfl⟩,
      by rw [sound.identifier_eq train_at]⟩

theorem held_extended (train_at : railway.trains[j]? = some t)
    (granted_at : granted[j]? = some row) {l : Location} :
    l ∈ locationsOf (t.extended row).allocation ↔
      l ∈ locationsOf t.allocation ∨ l ∈ locationsOf row := by
  have placed := sound.placed t (List.mem_of_getElem? train_at)
  rw [mem_extended_allocation placed (moved.greatest train_at granted_at).leading,
    locationsOf_append, List.mem_append]

/-- At no turn a train holds more than after the whole move. -/
theorem exists_covering (at_turn : (railway.atTurn targets identifier).trains[j]? = some v) :
    ∃ w ∈ (railway.extend targets).1.trains, w.identifier = v.identifier ∧
      ∀ l ∈ locationsOf v.allocation, l ∈ locationsOf w.allocation := by
  obtain ⟨t, row, train_at, granted_at, rfl⟩ := (moved.atTurn_eq_some_iff sound).mp at_turn
  refine ⟨_, List.mem_of_getElem? (moved.extended_at train_at granted_at), ?_, ?_⟩
  · split <;> rfl
  · intro l member
    split at member
    · exact member
    · exact (moved.held_extended sound train_at granted_at).mpr (.inl member)

/-- A railway is sound at every turn of a move. -/
theorem sound_atTurn (identifier : Nat) : Sound track (railway.atTurn targets identifier) := by
  refine ⟨sound.track_eq, ?_, ?_, ?_⟩
  · have count : (railway.atTurn targets identifier).trains.length = railway.trains.length := by
      simp [atTurn, moved.trains_eq, moved.count]
    rw [count, ← sound.identifiers]
    refine List.ext_getElem (by simp [count]) fun j first second => ?_
    simp only [atTurn, moved.trains_eq, List.getElem_map, List.getElem_zipWith]
    split <;> rfl
  · intro v member
    obtain ⟨j, found⟩ := List.mem_iff_getElem?.mp member
    obtain ⟨t, row, train_at, granted_at, rfl⟩ := (moved.atTurn_eq_some_iff sound).mp found
    have placed := sound.placed t (List.mem_of_getElem? train_at)
    split
    · exact extended_placed placed (moved.greatest train_at granted_at).leading
    · exact placed
  -- The whole move keeps the trains clear, so that they are clear on the way as well.
  · intro v v_in w w_in other
    obtain ⟨i, v_at⟩ := List.mem_iff_getElem?.mp v_in
    obtain ⟨j, w_at⟩ := List.mem_iff_getElem?.mp w_in
    obtain ⟨v', v'_in, v_same, v_within⟩ := moved.exists_covering sound v_at
    obtain ⟨w', w'_in, w_same, w_within⟩ := moved.exists_covering sound w_at
    have clear := (sound.extend targets).apart v' v'_in w' w'_in (by rwa [v_same, w_same])
    exact clear.subset v_within w_within

/-- What is barred to a train is what the other trains hold at its turn. -/
theorem barred_iff {l : Location} :
    Barred (railway.trains.map Train.allocation) granted j l ↔
      ∃ k v, (railway.atTurn targets j).trains[k]? = some v ∧ k ≠ j ∧ Touches v.allocation l := by
  constructor
  · rintro (⟨k, held, held_at, other, m, m_in, same⟩ | ⟨k, row, granted_at, before, m, m_in, same⟩)
    · rw [List.getElem?_map, Option.map_eq_some_iff] at held_at
      obtain ⟨t, train_at, rfl⟩ := held_at
      obtain ⟨row, granted_at⟩ := moved.exists_granted train_at
      refine ⟨k, _, (moved.atTurn_eq_some_iff sound).mpr ⟨t, row, train_at, granted_at, rfl⟩, other,
        m, ?_, same⟩
      split
      · exact (moved.held_extended sound train_at granted_at).mpr (.inl m_in)
      · exact m_in
    · have inside : k < railway.trains.length := by
        rw [← moved.count]
        exact (List.getElem?_eq_some_iff.mp granted_at).1
      have train_at := List.getElem?_eq_getElem inside
      refine ⟨k, _, (moved.atTurn_eq_some_iff sound).mpr ⟨_, row, train_at, granted_at, rfl⟩,
        Nat.ne_of_lt before, m, ?_, same⟩
      rw [if_pos before]
      exact (moved.held_extended sound train_at granted_at).mpr (.inr m_in)
  · rintro ⟨k, v, v_at, other, m, m_in, same⟩
    obtain ⟨t, row, train_at, granted_at, rfl⟩ := (moved.atTurn_eq_some_iff sound).mp v_at
    have held_at : (railway.trains.map Train.allocation)[k]? = some t.allocation := by
      simp [train_at]
    split at m_in
    -- A train whose turn has been holds its grant as well.
    next before =>
      rcases (moved.held_extended sound train_at granted_at).mp m_in with held | gained
      · exact .inl ⟨k, t.allocation, held_at, other, m, held, same⟩
      · exact .inr ⟨k, row, granted_at, before, m, gained, same⟩
    next => exact .inl ⟨k, t.allocation, held_at, other, m, m_in, same⟩

theorem itself_atTurn (train_at : railway.trains[j]? = some t) :
    (railway.atTurn targets j).trains[j]? = some t := by
  obtain ⟨row, granted_at⟩ := moved.exists_granted train_at
  exact (moved.atTurn_eq_some_iff sound).mpr
    ⟨t, row, train_at, granted_at, by rw [if_neg (Nat.lt_irrefl j)]⟩

/-- At its turn the check lets a train go exactly as far as nothing ahead is barred to it. -/
theorem rejection?_atTurn_iff (train_at : railway.trains[j]? = some t) {stop : Nat}
    (ahead : t.stop ≤ stop) (within : stop ≤ t.route.length) :
    (railway.atTurn targets j).rejection? j t.route t.start stop = none ↔
      ∀ l ∈ locationsOf (Route.pieces t.route.segments t.stop stop),
        ¬ Barred (railway.trains.map Train.allocation) granted j l := by
  have placed := sound.placed t (List.mem_of_getElem? train_at)
  have ordered := placed.ordered
  have at_turn := moved.sound_atTurn sound j
  -- The stretch to be checked is what the train holds with what lies ahead.
  have split {l : Location} : l ∈ locationsOf (Route.pieces t.route.segments t.start stop) ↔
      l ∈ locationsOf t.allocation ∨
        l ∈ locationsOf (Route.pieces t.route.segments t.stop stop) :=
    Route.mem_locationsOf_pieces_iff (Nat.le_of_lt ordered) ahead
  have offsets : (0 : Int) ≤ t.start ∧ (t.start : Int) < stop ∧ (stop : Int) ≤ t.route.length := by
    omega
  rw [at_turn.rejection?_eq_none_iff]
  simp only [placed.route_on, offsets, true_and, and_self, Int.toNat_natCast,
    moved.barred_iff sound]
  constructor
  · rintro clear l member ⟨k, v, v_at, other, m, m_in, same⟩
    have number := at_turn.identifier_eq v_at
    exact clear v (List.mem_of_getElem? v_at) (by rwa [number]) l (split.mpr (.inr member)) m m_in
      same.symm
  · intro free v v_in other l l_in m m_in same
    obtain ⟨k, v_at⟩ := List.mem_iff_getElem?.mp v_in
    have number := at_turn.identifier_eq v_at
    rcases split.mp l_in with own | beyond
    -- The train itself is where it was, and the railway is sound.
    · have itself := moved.itself_atTurn sound train_at
      have own_number := at_turn.identifier_eq itself
      exact at_turn.apart t (List.mem_of_getElem? itself) v v_in (by omega) l own m m_in same
    · exact free l beyond ⟨k, v, v_at, by omega, m, m_in, same.symm⟩

/-- A train goes to the greatest offset up to its target that the check accepts at its turn. -/
theorem isGreatest_stop (train_at : railway.trains[j]? = some t)
    (granted_at : granted[j]? = some row) :
    IsGreatest {stop : Int | t.stop ≤ stop ∧
        stop ≤ max (t.stop : Int) (min ((targets t.identifier).getD t.stop) t.route.length) ∧
        (railway.atTurn targets j).rejection? j t.route t.start stop = none}
      (t.stop + lengthOf row : Nat) := by
  have placed := sound.placed t (List.mem_of_getElem? train_at)
  have within := placed.within
  have great := moved.greatest train_at granted_at
  obtain ⟨granted_within, row_eq⟩ := granted_eq_pieces placed great.leading
  rw [advance_eq_stretch] at great
  let limit := max (t.stop : Int) (min ((targets t.identifier).getD t.stop) t.route.length)
  have limit_ahead : (t.stop : Int) ≤ limit := Int.le_max_left _ _
  have limit_within : limit ≤ t.route.length := by omega
  constructor
  · have shorter := great.leading.lengthOf_le
    rw [Route.lengthOf_pieces (by omega) (by unfold Route.length at *; omega)] at shorter
    refine ⟨by omega, by omega, ?_⟩
    rw [moved.rejection?_atTurn_iff sound train_at (Nat.le_add_right _ _) granted_within, ← row_eq]
    exact great.clear
  -- What the check accepts ahead is clear, so that the grant has at least this much.
  · rintro stop ⟨ahead, below, accepted⟩
    obtain ⟨stop, rfl⟩ := Int.eq_ofNat_of_zero_le (Int.le_trans (Int.natCast_nonneg _) ahead)
    rw [moved.rejection?_atTurn_iff sound train_at (by omega) (by omega)] at accepted
    have leads := great.greatest _ (Route.leadingPart_pieces t.route.segments (by omega)) accepted
    have longer := leads.lengthOf_le
    rw [Route.lengthOf_pieces (by omega) (by unfold Route.length at *; omega)] at longer
    omega

/-- At its turn a train may be moved to where the check accepts it, and nowhere else. -/
theorem updateTrain_atTurn_iff (train_at : railway.trains[j]? = some t) {stop : Int} :
    (∃ answer, (railway.atTurn targets j).updateTrain j t.start stop = .ok answer) ↔
      (railway.atTurn targets j).rejection? j t.route t.start stop = none := by
  have at_turn := moved.sound_atTurn sound j
  have itself := moved.itself_atTurn sound train_at
  have number := sound.identifier_eq train_at
  have placed := sound.placed t (List.mem_of_getElem? train_at)
  rw [updateTrain_eq, at_turn.train?_eq itself]
  by_cases unchanged : stop = t.stop
  -- The offsets that a train has are not checked, but the check would accept them.
  · subst unchanged
    have accepted : (railway.atTurn targets j).rejection? j t.route t.start t.stop = none := by
      rw [moved.rejection?_atTurn_iff sound train_at (Nat.le_refl _) placed.within,
        Route.pieces_eq_nil _ (Nat.le_refl _)]
      intro l absent
      cases absent
    simp [accepted]
  · simp only [unchanged, and_false, if_false, number]
    cases (railway.atTurn targets j).rejection? j t.route t.start stop <;> simp

end MovedBy

theorem Sound.exists_movedBy {track : Track} {railway : Railway} (sound : Sound track railway)
    (targets : Nat → Option Int) : ∃ granted, MovedBy railway targets granted := by
  obtain ⟨granted, count, served, -, trains_eq⟩ := sound.extend_served targets
  exact ⟨granted, count, served, trains_eq⟩

/-- In every railway that is reached on a track, a move takes each train to the greatest offset, not
behind its stop nor beyond its target or its route, that the check of a single move accepts at its
turn; a single move to there is accepted exactly when this check accepts it. -/
theorem extend_farthest (track : Track) (calls : List Call) (targets : Nat → Option Int) :
    let reached := run (.empty (some track)) calls
    (reached.extend targets).1.trains.length = reached.trains.length ∧
      ∀ (i : Nat) (t : Train), reached.trains[i]? = some t →
        ∃ moved, (reached.extend targets).1.trains[i]? = some moved ∧
          t.identifier = i ∧ moved.identifier = i ∧ moved.route = t.route ∧
          moved.start = t.start ∧
          IsGreatest {stop : Int | t.stop ≤ stop ∧
              stop ≤ max (t.stop : Int) (min ((targets i).getD t.stop) t.route.length) ∧
              (reached.atTurn targets i).rejection? i t.route t.start stop = none}
            moved.stop ∧
          ∀ stop : Int, (∃ answer, (reached.atTurn targets i).updateTrain i t.start stop =
              .ok answer) ↔
            (reached.atTurn targets i).rejection? i t.route t.start stop = none := by
  intro reached
  have sound : Sound track reached := (sound_empty track).run calls
  obtain ⟨granted, moved⟩ := sound.exists_movedBy targets
  refine ⟨by rw [moved.trains_eq, List.length_zipWith, moved.count, Nat.min_self], ?_⟩
  intro i t train_at
  obtain ⟨row, granted_at⟩ := moved.exists_granted train_at
  have number := sound.identifier_eq train_at
  have greatest := moved.isGreatest_stop sound train_at granted_at
  rw [number] at greatest
  exact ⟨t.extended row, moved.extended_at train_at granted_at, number, number, rfl, rfl, greatest,
    fun stop => moved.updateTrain_atTurn_iff sound train_at⟩

/-- A train is added wherever its stretch of a route on the track is clear of all other trains. -/
theorem Sound.after_add_of_clear {track : Track} {railway : Railway} (sound : Sound track railway)
    {route : Route} (start stop : Int) (route_on : route.onTrack track = true)
    (offsets : 0 ≤ start ∧ start < stop ∧ stop ≤ route.length)
    (clear : ∀ u ∈ railway.trains,
      ClearOf (Route.pieces route.segments start.toNat stop.toNat) u.allocation) :
    railway.after (.add route start stop) = ⟨railway.track,
      railway.trains ++ [⟨railway.trains.length, route, start.toNat, stop.toNat⟩]⟩ :=
  after_add (sound.rejection?_eq_none_iff.mpr ⟨route_on, offsets, fun u u_in _ => clear u u_in⟩)

/-- Two trains at the two ends of a section are both sent to where the other one is. -/
theorem extend_farthest_facing :
    let reached := run (.empty (some (.single .line))) [.add aheadRoute 0 2, .add backRoute 0 4]
    reached.trains[0]? = some ⟨0, aheadRoute, 0, 2⟩ ∧
      ∃ moved, (reached.extend fun _ => some 9).1.trains[0]? = some moved ∧
        moved.route = aheadRoute ∧
        IsGreatest {stop : Int | 2 ≤ stop ∧ stop ≤ max 2 (min 9 aheadRoute.length) ∧
            (reached.atTurn (fun _ => some 9) 0).rejection? 0 aheadRoute 0 stop = none}
          moved.stop := by
  intro reached
  obtain ⟨ahead_on, back_on⟩ : aheadRoute.onTrack (.single .line) = true ∧
      backRoute.onTrack (.single .line) = true := by
    simpa [headOnOccupied, headOnRequested, LiesOn, Route.onTrack, aheadRoute, backRoute,
      and_and_and_comm] using headOn_liesOn
  have before := sound_empty (.single .line)
  have first := before.after_add_of_clear 0 2 ahead_on (by decide) (by simp [empty])
  have one := before.after (.add aheadRoute 0 2)
  rw [first] at one
  have clear : ∀ u ∈ [Train.mk 0 aheadRoute 0 2],
      ClearOf (Route.pieces backRoute.segments 0 4) u.allocation := by
    intro u member
    obtain rfl := List.mem_singleton.mp member
    unfold ClearOf
    decide
  have second := one.after_add_of_clear 0 4 back_on (by decide) clear
  have train_at : reached.trains[0]? = some ⟨0, aheadRoute, 0, 2⟩ := by
    simp only [reached, run, List.foldl_cons, List.foldl_nil, first, second]
    rfl
  obtain ⟨-, farthest⟩ := extend_farthest (.single .line)
    [.add aheadRoute 0 2, .add backRoute 0 4] fun _ => some 9
  obtain ⟨moved, moved_at, -, -, route_eq, -, greatest, -⟩ := farthest 0 _ train_at
  exact ⟨train_at, moved, moved_at, route_eq, greatest⟩

end Railway

end Trackage
