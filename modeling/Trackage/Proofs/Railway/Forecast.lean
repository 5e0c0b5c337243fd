import Trackage.Proofs.Allocation.Lengths
import Trackage.Proofs.Railway.Extension
import Trackage.Proofs.Scenario.Gate

/-!
Forecasts of moves. What the trains of a railway hold, and what lies ahead of them on their routes, is
a scenario that the check lets through, and its allocation grants what a move of all trains to the
ends of their routes grants.
-/

namespace Trackage

namespace Railway

/-- To reach the end of its route, a train requests all that lies ahead. -/
theorem advance_route_length (t : Train) : advance t (some (t.route.length : Int)) = t.remaining := by
  unfold advance Train.remaining
  by_cases ahead : t.stop < t.route.length
  · rw [if_pos (by simpa using ahead)]
    simp
  · rw [if_neg (by simpa using ahead), Route.pieces_eq_nil _ (Nat.not_lt.mp ahead)]

namespace Sound

variable {track : Track} {railway : Railway}

/-- What the trains hold and what lies ahead of them is what the allocation expects. -/
theorem valid_remaining (sound : Sound track railway) :
    Scenario.Valid track (railway.trains.map Train.allocation)
      (railway.trains.map Train.remaining) where
  lengths := by simp
  on_track := by
    intro row member
    rcases List.mem_append.mp member with held | ahead
    · obtain ⟨t, t_in, rfl⟩ := List.mem_map.mp held
      exact (sound.placed t t_in).allocation_on
    · obtain ⟨t, t_in, rfl⟩ := List.mem_map.mp ahead
      exact Route.liesOn_pieces (Route.onTrack_iff.mp (sound.placed t t_in).route_on) _ _
  occupied_routes := by
    intro row member
    obtain ⟨t, t_in, rfl⟩ := List.mem_map.mp member
    obtain ⟨held, -, held_eq⟩ := (sound.placed t t_in).part_eq_ok
    exact held_eq ▸ ⟨held.nonempty, held, Route.build_eq_ok_iff.mpr rfl⟩
  requested_routes := by
    intro row member
    obtain ⟨t, t_in, rfl⟩ := List.mem_map.mp member
    rcases Nat.lt_or_ge t.stop t.route.length with ahead | at_end
    · obtain ⟨rest, -, rest_eq⟩ := t.route.part_eq_ok ahead (Nat.le_refl _)
      exact .inr ⟨rest, Route.build_eq_ok_iff.mpr rest_eq⟩
    · exact .inl (Route.pieces_eq_nil _ at_end)
  apart := List.pairwise_map.mpr sound.pairwise_clearOf

theorem lengthOf_remaining_le (sound : Sound track railway) :
    lengthOf (railway.trains.map Train.remaining).flatten ≤
      (railway.trains.map fun t => t.route.length).sum := by
  rw [lengthOf_flatten, List.map_map]
  refine List.sum_le_sum fun t t_in => ?_
  have placed := sound.placed t t_in
  calc lengthOf t.remaining = t.route.length - t.stop :=
        Route.lengthOf_pieces placed.within (Nat.le_refl _)
    _ ≤ t.route.length := Nat.sub_le _ _

/-- The allocation of the trains' remaining routes grants each train what a move of all trains to the
ends of their routes grants it. -/
theorem exists_forecast (sound : Sound track railway) {targets : Nat → Option Int}
    (ends : ∀ t ∈ railway.trains, targets t.identifier = some (t.route.length : Int)) :
    ∃ granted, granted.length = railway.trains.length ∧
      Scenario.run track (railway.trains.map Train.allocation)
        (railway.trains.map Train.remaining) = .ok granted ∧
      lengthOf granted.flatten ≤ lengthOf (railway.trains.map Train.remaining).flatten ∧
      (railway.extend targets).2 =
        (railway.trains.zip granted).map fun served => (served.1.identifier, served.2) := by
  obtain ⟨granted, answered, ran, served⟩ := sound.valid_remaining.exists_served
  have requests_eq : (railway.trains.map fun t => advance t (targets t.identifier)) =
      railway.trains.map Train.remaining :=
    List.map_congr_left fun t t_in => by rw [ends t t_in, advance_route_length]
  refine ⟨granted, by simpa using served.length_eq, ran, served.lengthOf_le, ?_⟩
  simp only [Railway.extend, requests_eq, answered, Option.getD_some]
  -- No train is without a target, so that none is left out of the answer.
  rw [← List.filterMap_eq_map]
  refine List.filterMap_congr fun served member => ?_
  rw [ends served.1 (List.of_mem_zip member).1]
  rfl

end Sound

end Railway

end Trackage
