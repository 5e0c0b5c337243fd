import Mathlib.Data.List.Nodup
import Trackage.Railway.Basic
import Trackage.Proofs.Operation
import Trackage.Proofs.Route.Pieces

/-!
The invariant of railways. Identifiers count the trains, and each train holds a stretch of a route
on the track that is clear of what the other trains hold. Where a train is added or moved, the check
that comes first asks for exactly what keeps this so.
-/

namespace Trackage

/-- A train holds a stretch of its route, which lies on the track. -/
structure Train.Placed (track : Track) (t : Train) : Prop where
  route_on : t.route.onTrack track = true
  ordered : t.start < t.stop
  within : t.stop ≤ t.route.length

namespace Train.Placed

variable {track : Track} {t : Train}

theorem allocation_on (placed : t.Placed track) : LiesOn t.allocation track :=
  Route.liesOn_pieces (Route.onTrack_iff.mp placed.route_on) t.start t.stop

/-- What the train holds is a route itself. -/
theorem part_eq_ok (placed : t.Placed track) :
    ∃ held, t.route.part t.start t.stop = .ok held ∧ held.segments = t.allocation :=
  t.route.part_eq_ok placed.ordered placed.within

end Train.Placed

namespace Railway

/-- The identifiers count the trains. -/
def Numbered (railway : Railway) : Prop :=
  railway.trains.map Train.identifier = List.range railway.trains.length

theorem Numbered.identifier_eq {railway : Railway} (numbered : railway.Numbered) {i : Nat}
    {t : Train} (found : railway.trains[i]? = some t) : t.identifier = i := by
  have entry := congrArg (·[i]?) numbered
  have inside := (List.getElem?_eq_some_iff.mp found).1
  simpa [found, List.getElem?_range inside] using entry

section Operations

open Operation (leads_bind leads_get leads_modify leads_pure)

variable {railway : Railway} {route : Route} {identifier start stop : Int}

@[simp] theorem leads_checkRoute {number : Nat} {answered : Unit → Railway → Prop}
    {failed : Rejection → Railway → Prop} :
    (checkRoute number route start stop).Leads railway answered failed ↔
      (railway.rejection? number route start stop = none → answered () railway) ∧
        ∀ rejection, railway.rejection? number route start stop = some rejection →
          failed rejection railway := by
  simp only [checkRoute, leads_bind, leads_get]
  cases railway.rejection? number route start stop <;> simp

/-- All that adding a train can come to. -/
theorem leads_add {answered : Train → Railway → Prop} {failed : Rejection → Railway → Prop} :
    (add route start stop).Leads railway answered failed ↔
      (railway.rejection? railway.trains.length route start stop = none →
        answered ⟨railway.trains.length, route, start.toNat, stop.toNat⟩ ⟨railway.track,
          railway.trains ++ [⟨railway.trains.length, route, start.toNat, stop.toNat⟩]⟩) ∧
        ∀ rejection, railway.rejection? railway.trains.length route start stop = some rejection →
          failed rejection railway := by
  simp only [add, leads_bind, leads_get, leads_checkRoute, leads_modify, leads_pure]

/-- All that moving a train can come to. -/
theorem leads_move {answered : Bool → Railway → Prop} {failed : RailwayError → Railway → Prop} :
    (move identifier start stop).Leads railway answered failed ↔
      (railway.train? identifier = none → failed (.unknownTrain identifier) railway) ∧
        ∀ t, railway.train? identifier = some t →
          if start = t.start ∧ stop = t.stop then answered false railway
          else (railway.rejection? t.identifier t.route start stop = none →
              answered true (railway.place t.identifier start.toNat stop.toNat)) ∧
            ∀ rejection, railway.rejection? t.identifier t.route start stop = some rejection →
              failed (.rejected rejection) railway := by
  simp only [move, leads_bind, leads_get]
  cases railway.train? identifier with
  | none => simp
  | some t =>
    by_cases same : start = t.start ∧ stop = t.stop <;> simp [same]

theorem updateTrain_eq : railway.updateTrain identifier start stop =
    match railway.train? identifier with
    | none => .error (.unknownTrain identifier)
    | some t =>
      if start = t.start ∧ stop = t.stop then .ok (railway, false)
      else
        match railway.rejection? t.identifier t.route start stop with
        | some rejection => .error (.rejected rejection)
        | none => .ok (railway.place t.identifier start.toNat stop.toNat, true) := by
  rw [updateTrain, Operation.outcome_eq_iff, leads_move]
  cases railway.train? identifier with
  | none => simp
  | some t =>
    refine ⟨nofun, fun u found => ?_⟩
    obtain rfl := Option.some.inj found
    dsimp only
    split
    next => rfl
    next => cases railway.rejection? t.identifier t.route start stop <;> simp

/-- A train is added after all checks. -/
theorem add_atomic (route : Route) (start stop : Int) : (add route start stop).Atomic :=
  fun _ => leads_add.mpr ⟨fun _ => trivial, fun _ _ => rfl⟩

/-- A train is moved after all checks. -/
theorem move_atomic (identifier start stop : Int) : (move identifier start stop).Atomic := by
  refine fun railway => leads_move.mpr ⟨fun _ => rfl, fun t _ => ?_⟩
  split
  next => trivial
  next => exact ⟨fun _ => trivial, fun _ _ => rfl⟩

end Operations

/-- What holds of every railway that is reached on a track. -/
structure Sound (track : Track) (railway : Railway) : Prop where
  track_eq : railway.track = some track
  identifiers : railway.trains.map Train.identifier = List.range railway.trains.length
  placed : ∀ t ∈ railway.trains, t.Placed track
  apart : ∀ t ∈ railway.trains, ∀ u ∈ railway.trains, t.identifier ≠ u.identifier →
    ClearOf t.allocation u.allocation

theorem sound_empty (track : Track) : Sound track (.empty (some track)) where
  track_eq := rfl
  identifiers := rfl
  placed := fun _ absent => absurd absent List.not_mem_nil
  apart := fun _ absent => absurd absent List.not_mem_nil

theorem place_length (railway : Railway) (identifier start stop : Nat) :
    (railway.place identifier start stop).trains.length = railway.trains.length :=
  List.length_map _

theorem place_identifiers (railway : Railway) (identifier start stop : Nat) :
    (railway.place identifier start stop).trains.map Train.identifier =
      railway.trains.map Train.identifier := by
  simp only [place, List.map_map]
  refine List.map_congr_left fun t _ => ?_
  simp only [Function.comp_apply]
  split <;> rfl

namespace Sound

variable {track : Track} {railway : Railway} {i : Nat} {t u : Train}

theorem numbered (sound : Sound track railway) : railway.Numbered := sound.identifiers

theorem identifier_eq (sound : Sound track railway) (found : railway.trains[i]? = some t) :
    t.identifier = i := sound.numbered.identifier_eq found

theorem nodup_identifiers (sound : Sound track railway) :
    (railway.trains.map Train.identifier).Nodup := by
  rw [sound.identifiers]
  exact List.nodup_range

theorem eq_of_identifier_eq (sound : Sound track railway) (t_in : t ∈ railway.trains)
    (u_in : u ∈ railway.trains) (same : t.identifier = u.identifier) : t = u :=
  List.inj_on_of_nodup_map sound.nodup_identifiers t_in u_in same

theorem pairwise_clearOf (sound : Sound track railway) :
    railway.trains.Pairwise fun t u => ClearOf t.allocation u.allocation :=
  (List.pairwise_map.mp sound.nodup_identifiers).imp_of_mem fun {t u} t_in u_in =>
    sound.apart t t_in u u_in

/-- The check accepts exactly the stretches of routes on the track that are clear of what all other
trains hold. -/
theorem rejection?_eq_none_iff (sound : Sound track railway) {identifier : Nat} {route : Route}
    {start stop : Int} :
    railway.rejection? identifier route start stop = none ↔
      route.onTrack track = true ∧ (0 ≤ start ∧ start < stop ∧ stop ≤ route.length) ∧
        ∀ u ∈ railway.trains, u.identifier ≠ identifier →
          ClearOf (Route.pieces route.segments start.toNat stop.toNat) u.allocation := by
  have carries : railway.carries route = route.onTrack track := by
    simp only [Railway.carries, sound.track_eq, Option.any_some]
  unfold rejection?
  rw [carries]
  by_cases on_track : route.onTrack track = true
  · by_cases offsets : 0 ≤ start ∧ start < stop ∧ stop ≤ route.length
    · have wanted_on := Route.liesOn_pieces (Route.onTrack_iff.mp on_track) start.toNat stop.toNat
      simp only [on_track, offsets, Bool.not_true, Bool.false_eq_true, not_true_eq_false, if_false,
        ite_eq_right_iff, reduceCtorEq, imp_false, true_and, and_self, Bool.not_eq_true,
        List.any_eq_false, Bool.and_eq_false_iff, bne_eq_false_iff_eq]
      refine forall₂_congr fun u u_in => ?_
      rw [haveCommonPoint_eq_false_iff wanted_on (sound.placed u u_in).allocation_on]
      exact or_iff_not_imp_left
    · simp [on_track, offsets]
  · simp [on_track]

/-- A railway in which one train is new or was moved to where the check accepts it. -/
theorem of_changed (sound : Sound track railway) {next : Railway} (changed : Train)
    (track_eq : next.track = railway.track)
    (identifiers : next.trains.map Train.identifier = List.range next.trains.length)
    (members : ∀ v ∈ next.trains, v = changed ∨ v ∈ railway.trains)
    (accepted : railway.rejection? changed.identifier changed.route changed.start changed.stop =
      none) : Sound track next := by
  obtain ⟨route_on, ⟨-, ordered, within⟩, clear⟩ := sound.rejection?_eq_none_iff.mp accepted
  -- Of two different trains at most one is the changed one, and the check kept that clear of the
  -- other.
  refine ⟨track_eq.trans sound.track_eq, identifiers, ?_, ?_⟩
  · intro v v_in
    rcases members v v_in with rfl | old
    · exact ⟨route_on, by omega, by omega⟩
    · exact sound.placed v old
  · intro v v_in w w_in other
    rcases members v v_in with rfl | v_old
    · rcases members w w_in with rfl | w_old
      · exact absurd rfl other
      · exact clear w w_old other.symm
    · rcases members w w_in with rfl | w_old
      · exact (clear v v_old other).symm
      · exact sound.apart v v_old w w_old other

theorem add (sound : Sound track railway) {route : Route} {start stop : Int}
    (accepted : railway.rejection? railway.trains.length route start stop = none) :
    Sound track ⟨railway.track,
      railway.trains ++ [⟨railway.trains.length, route, start.toNat, stop.toNat⟩]⟩ := by
  obtain ⟨-, ⟨from_start, forward, -⟩, -⟩ := sound.rejection?_eq_none_iff.mp accepted
  have from_stop : 0 ≤ stop := by omega
  refine sound.of_changed ⟨railway.trains.length, route, start.toNat, stop.toNat⟩ rfl ?_ ?_ ?_
  · simp [sound.identifiers, List.range_succ]
  · intro v member
    exact (List.mem_append.mp member).symm.imp_left List.mem_singleton.mp
  · simpa only [Int.toNat_of_nonneg from_start, Int.toNat_of_nonneg from_stop] using accepted

theorem place (sound : Sound track railway) (t_in : t ∈ railway.trains) {start stop : Int}
    (accepted : railway.rejection? t.identifier t.route start stop = none) :
    Sound track (railway.place t.identifier start.toNat stop.toNat) := by
  obtain ⟨-, ⟨from_start, forward, -⟩, -⟩ := sound.rejection?_eq_none_iff.mp accepted
  have from_stop : 0 ≤ stop := by omega
  refine sound.of_changed ⟨t.identifier, t.route, start.toNat, stop.toNat⟩ rfl ?_ ?_ ?_
  · rw [place_identifiers, place_length, sound.identifiers]
  -- No other train has the identifier of the one that moves.
  · intro v member
    obtain ⟨u, u_in, rfl⟩ := List.mem_map.mp member
    split
    next same => exact .inl (by rw [sound.eq_of_identifier_eq u_in t_in same])
    next => exact .inr u_in
  · simpa only [Int.toNat_of_nonneg from_start, Int.toNat_of_nonneg from_stop] using accepted

end Sound

end Railway

end Trackage
