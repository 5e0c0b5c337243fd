import Trackage.Proofs.Service.Coherence

/-!
Routes of the trains of a service. Each route was read on the track that is under the train now, so
that its segments run over sections as that track has them, and the number of the track is one that
the store can look up.
-/

namespace Trackage.Service

/-- The railways that are kept stand under numbers that can be looked up, and all their trains run
over sections as the track under them has them. -/
def Routed (service : Service) : Prop :=
  ∀ id railway, (id, railway) ∈ service.railways → Cell.fits id = true ∧
    ∀ track, railway.track = some track → railway.Routed track

theorem routed_start : Routed start := fun _ _ absent => absurd absent List.not_mem_nil

variable {service next : Service} {id : Int} {railway : Railway}

theorem fits_of_storedTrack? {track : Track} (stored : service.storedTrack? id = .ok (some track)) :
    Cell.fits id = true := by
  rw [storedTrack?_eq] at stored
  split at stored
  next fits => exact fits
  next => cases stored

namespace Routed

theorem forget (routed : Routed service) (id : Int) : Routed (service.forget id) :=
  fun other railway member => routed other railway (List.mem_filter.mp member).1

theorem keep (routed : Routed service) (fits : Cell.fits id = true)
    (railway_routed : ∀ track, railway.track = some track → railway.Routed track) :
    Routed (service.keep id railway) := by
  intro other known member
  rcases List.mem_cons.mp member with new | old
  · cases new
    exact ⟨fits, railway_routed⟩
  · exact routed.forget id other known old

theorem opened (routed : Routed service)
    (found : service.railway? id = .ok (some (next, railway))) :
    Routed next ∧ (id, railway) ∈ next.railways := by
  rcases railway?_eq_some found with ⟨rfl, member⟩ | ⟨track, -, stored, rfl, rfl⟩
  · exact ⟨routed, member⟩
  · have trainless (ground : Track) (_ : (Railway.empty (some track)).track = some ground) :
        (Railway.empty (some track)).Routed ground := fun t absent => absurd absent List.not_mem_nil
    exact ⟨routed.keep (fits_of_storedTrack? stored) trainless, List.mem_cons_self⟩

theorem moved (routed : Routed service) (found : service.railway? id = .ok (some (next, railway)))
    {call : Railway.Call} {changed : Railway} (stepped : Railway.Step railway call changed)
    (called : ∀ track, railway.track = some track → call.Routed track) :
    Routed (next.keep id changed) := by
  obtain ⟨next_routed, member⟩ := routed.opened found
  obtain ⟨fits, railway_routed⟩ := next_routed id railway member
  refine next_routed.keep fits fun track track_eq => ?_
  rw [stepped.frame.1] at track_eq
  exact (railway_routed track track_eq).step (called track track_eq) stepped

/-- Every step keeps the trains on the sections of the tracks under them. -/
theorem step {request : Request} (routed : Routed service) (stepped : Step service request next) :
    Routed next := by
  cases stepped with
  | unchanged | allocated | created | renamed | ran | runDeleted => exact routed
  | redefined | deleted => exact routed.forget _
  | opened asked found => exact (routed.opened found).1
  | moved asked found stepped called => exact routed.moved found stepped called
  | extended targets event found =>
    exact routed.moved found (.extended (targetOf targets)) fun _ _ => trivial

theorem run (routed : Routed service) (requests : List Request) : Routed (service.run requests) := by
  induction requests generalizing service with
  | nil => exact routed
  | cons request requests ih => exact ih (routed.step (service.step_after request))

end Routed

namespace Coherent

theorem railway?_of_kept (coherent : Coherent service) (kept : (id, railway) ∈ service.railways) :
    service.railway? id = .ok (some (service, railway)) := by
  have found := (find?_key_eq_some_iff coherent.single).mpr ⟨kept, rfl⟩
  unfold railway?
  rw [found]

/-- A railway that is kept stands on the track that is looked up under its number. -/
theorem storedTrack?_of_kept (coherent : Coherent service) (routed : Routed service)
    (kept : (id, railway) ∈ service.railways) :
    ∃ track, service.storedTrack? id = .ok (some track) ∧ Railway.Sound track railway ∧
      railway.Routed track := by
  obtain ⟨row, track, stored, read, sound⟩ := coherent.kept id railway kept
  obtain ⟨fits, running⟩ := routed id railway kept
  refine ⟨track, ?_, sound, running track sound.track_eq⟩
  rw [storedTrack?_eq, if_pos fits, stored]
  simp only [read]
  rfl

/-- On every track that is stored there is a railway when it is asked for. -/
theorem exists_railway? (coherent : Coherent service) (routed : Routed service) {track : Track}
    (stored : service.storedTrack? id = .ok (some track)) :
    ∃ next railway, service.railway? id = .ok (some (next, railway)) ∧
      Railway.Sound track railway ∧ railway.Routed track := by
  cases found : service.railways.find? (·.1 == id) with
  | some entry =>
    obtain ⟨member, rfl⟩ := (find?_key_eq_some_iff coherent.single).mp found
    obtain ⟨also, stored_also, sound, running⟩ := coherent.storedTrack?_of_kept routed member
    obtain rfl : track = also := by simpa using stored.symm.trans stored_also
    exact ⟨service, entry.2, coherent.railway?_of_kept member, sound, running⟩
  | none =>
    refine ⟨service.keep id (.empty (some track)), .empty (some track), ?_,
      Railway.sound_empty track, fun t absent => absurd absent List.not_mem_nil⟩
    unfold railway?
    rw [found, stored]
    rfl

end Coherent

end Trackage.Service
