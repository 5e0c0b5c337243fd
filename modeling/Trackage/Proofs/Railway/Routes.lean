import Trackage.Proofs.Railway.Registry

/-!
Routes of trains. A train keeps its route for as long as it is there, so that where every train is
added with a route over sections as the track has them, all routes run over such sections.
-/

namespace Trackage

/-- Every segment runs over a section of the track, written as the track has it. -/
def RunsOver (row : List Segment) (track : Track) : Prop := ∀ s ∈ row, s.on ∈ track.sections

theorem RunsOver.pieces {row : List Segment} {track : Track} (runs : RunsOver row track)
    (start stop : Nat) : RunsOver (Route.pieces row start stop) track := by
  induction row generalizing start stop with
  | nil => exact runs
  | cons s rest ih =>
    obtain ⟨first, others⟩ := List.forall_mem_cons.mp runs
    by_cases inside : start < min stop s.length
    · rw [Route.pieces_cons_of_lt rest inside]
      exact List.forall_mem_cons.mpr ⟨first, ih others _ _⟩
    · rw [Route.pieces_cons_of_le rest (Nat.not_lt.mp inside)]
      exact ih others _ _

namespace Railway

/-- A call that adds a train sends it over sections as the track has them. -/
def Call.Routed (track : Track) : Call → Prop
  | .add route _ _ => RunsOver route.segments track
  | .update .. | .extend _ => True

/-- All trains run over sections as the track has them. -/
def Routed (track : Track) (railway : Railway) : Prop :=
  ∀ t ∈ railway.trains, RunsOver t.route.segments track

variable {railway next : Railway}

/-- A call leaves the track as it is, and no train gets a route but the one that is added. -/
theorem Step.frame {call : Call} (stepped : Step railway call next) :
    next.track = railway.track ∧
      ∀ v ∈ next.trains, (∃ t ∈ railway.trains, v.route = t.route) ∨
        ∃ start stop, call = .add v.route start stop := by
  cases stepped with
  | unchanged => exact ⟨rfl, fun v v_in => .inl ⟨v, v_in, rfl⟩⟩
  | @added route start stop accepted =>
    refine ⟨rfl, fun v v_in => ?_⟩
    rcases List.mem_append.mp v_in with old | new
    · exact .inl ⟨v, old, rfl⟩
    · obtain rfl := List.mem_singleton.mp new
      exact .inr ⟨start, stop, rfl⟩
  -- The train that moves keeps its route, and the others stay as they are.
  | placed =>
    refine ⟨rfl, fun v v_in => .inl ?_⟩
    obtain ⟨t, t_in, rfl⟩ := List.mem_map.mp v_in
    exact ⟨t, t_in, by split <;> rfl⟩
  | extended targets =>
    refine ⟨rfl, fun v v_in => .inl ?_⟩
    obtain ⟨⟨t, row⟩, served, rfl⟩ := List.mem_map.mp v_in
    refine ⟨t, (List.of_mem_zip served).1, ?_⟩
    dsimp only
    split <;> rfl

theorem Routed.step {track : Track} {call : Call} (routed : railway.Routed track)
    (called : call.Routed track) (stepped : Step railway call next) : next.Routed track := by
  intro v v_in
  rcases stepped.frame.2 v v_in with ⟨t, t_in, same⟩ | ⟨start, stop, rfl⟩
  · exact same ▸ routed t t_in
  · exact called

/-- The trains run over such sections within any limits on their routes. -/
theorem Routed.pieces {track : Track} (routed : railway.Routed track) (start stop : Train → Nat) :
    ∀ row ∈ railway.trains.map fun t => Route.pieces t.route.segments (start t) (stop t),
      RunsOver row track := by
  intro row member
  obtain ⟨t, t_in, rfl⟩ := List.mem_map.mp member
  exact (routed t t_in).pieces _ _

end Railway

end Trackage
