import Trackage.Proofs.Service.Answers
import Trackage.Proofs.Service.Coherence

/-!
Numbers of tracks and runs. Every number that is answered for a new track or a new run is above all
that were answered before, and every run names a track that is stored. A new track therefore has no
runs and no trains, whatever stood under other numbers before.
-/

namespace Trackage

namespace Store

variable {store : Store} {id : Int}

theorem deleteTrack_lastIds (store : Store) (id : Int) :
    (store.deleteTrack (.integer id)).1.tracks.lastId = store.tracks.lastId ∧
      (store.deleteTrack (.integer id)).1.runs.lastId = store.runs.lastId := by
  simp only [deleteTrack, eraseAt_integer]
  exact ⟨rfl, rfl⟩

theorem mem_deleteTrack_runs {n : Nat} {run : StoredRun}
    (left : (n, run) ∈ (store.deleteTrack (.integer id)).1.runs.rows) :
    (n, run) ∈ store.runs.rows ∧ run.track ≠ .integer id := by
  obtain ⟨member, kept⟩ := List.mem_filter.mp left
  refine ⟨member, fun names => ?_⟩
  simp [names, Cell.isFoundBy_integer.mpr rfl] at kept

theorem deleteRun_integer :
    (store.deleteRun (.integer id)).1 = { store with runs := store.runs.erase id } := by
  rw [deleteRun, eraseAt_integer]

/-- Every run names a track that is stored. -/
def Rooted (store : Store) : Prop :=
  ∀ n run, (n, run) ∈ store.runs.rows →
    ∃ id row, run.track = .integer id ∧ store.tracks.get? id = some row

namespace Rooted

/-- Rows may change as long as the tracks that are named by the runs which stay are there. -/
theorem restore (rooted : store.Rooted) {next : Store}
    (stays : ∀ n run, (n, run) ∈ next.runs.rows → (n, run) ∈ store.runs.rows ∧
      ∀ id row, run.track = .integer id → store.tracks.get? id = some row →
        ∃ new, next.tracks.get? id = some new) : next.Rooted := by
  intro n run member
  obtain ⟨old, there⟩ := stays n run member
  obtain ⟨id, row, names, stored⟩ := rooted n run old
  obtain ⟨new, still_stored⟩ := there id row names stored
  exact ⟨id, new, names, still_stored⟩

theorem modify (rooted : store.Rooted) (id : Int) (new : StoredTrack) :
    Rooted { store with tracks := store.tracks.modify id fun _ => new } := by
  refine rooted.restore fun n run member => ⟨member, fun other row _ stored => ?_⟩
  rw [Table.get?_modify]
  split
  next same => exact ⟨new, by rw [← same, stored]; rfl⟩
  next => exact ⟨row, stored⟩

theorem deleteTrack (rooted : store.Rooted) (id : Int) :
    (store.deleteTrack (.integer id)).1.Rooted := by
  refine rooted.restore fun n run left => ?_
  obtain ⟨member, other_track⟩ := mem_deleteTrack_runs left
  refine ⟨member, fun other row names stored => ⟨row, ?_⟩⟩
  have different : other ≠ id := by
    rintro rfl
    exact other_track names
  rw [deleteTrack_tracks, Table.get?_erase, if_neg different, stored]

end Rooted

end Store

namespace Service

variable {service next : Service} {request : Request}

/-- Every step keeps the runs on stored tracks. -/
theorem Step.rooted (stepped : Step service request next) (rooted : service.store.Rooted) :
    next.store.Rooted := by
  cases stepped with
  | unchanged | allocated => exact rooted
  | created =>
    exact rooted.restore fun n run member =>
      ⟨member, fun id row _ stored => ⟨row, Table.get?_insert stored _⟩⟩
  | @renamed id => exact rooted.modify id _
  | @redefined id => exact rooted.modify id _
  | deleted id => exact rooted.deleteTrack id
  | @ran id track run _ _ _ _ stored names =>
    -- The run that is new names the track that was looked up for it.
    intro n other member
    rcases List.mem_cons.mp member with new | old
    · cases new
      obtain ⟨row, row_stored, -⟩ := storedTrack?_eq_some stored
      exact ⟨id, row, names, row_stored⟩
    · exact rooted n other old
  | runDeleted run =>
    rw [Store.deleteRun_integer]
    exact rooted.restore fun n other left =>
      ⟨(List.mem_filter.mp left).1, fun id row _ stored => ⟨row, stored⟩⟩
  | opened asked found | moved asked found | extended targets event found =>
    have store_eq := (railway?_frame found).1
    exact store_eq ▸ rooted

theorem rooted_run (rooted : service.store.Rooted) (requests : List Request) :
    (service.run requests).store.Rooted := by
  induction requests generalizing service with
  | nil => exact rooted
  | cons request requests ih => exact ih ((service.step_after request).rooted rooted)

/-- No step takes a number back. -/
theorem Step.lastIds_le (stepped : Step service request next) :
    service.store.tracks.lastId ≤ next.store.tracks.lastId ∧
      service.store.runs.lastId ≤ next.store.runs.lastId := by
  cases stepped with
  | unchanged | allocated | renamed | redefined => exact ⟨Nat.le_refl _, Nat.le_refl _⟩
  | created => exact ⟨Nat.le_succ _, Nat.le_refl _⟩
  | ran => exact ⟨Nat.le_refl _, Nat.le_succ _⟩
  | deleted id =>
    obtain ⟨tracks, runs⟩ := service.store.deleteTrack_lastIds id
    exact ⟨Nat.le_of_eq tracks.symm, Nat.le_of_eq runs.symm⟩
  | runDeleted run =>
    rw [Store.deleteRun_integer]
    exact ⟨Nat.le_refl _, Nat.le_refl _⟩
  | opened asked found | moved asked found | extended targets event found =>
    have store_eq := (railway?_frame found).1
    exact ⟨Nat.le_of_eq (congrArg (·.tracks.lastId) store_eq.symm),
      Nat.le_of_eq (congrArg (·.runs.lastId) store_eq.symm)⟩

/-- A request with what it is answered. -/
abbrev Exchange := Request × Except Fault Reply

def exchange (service : Service) (request : Request) : Exchange :=
  (request, (service.handle request).map Prod.snd)

/-- What several requests are answered, one after the other. -/
def exchanges (service : Service) : List Request → List Exchange
  | [] => []
  | request :: requests => service.exchange request :: (service.after request).exchanges requests

/-- The number that is answered for a new track. -/
def newTrack? : Exchange → Option Int
  | (.createTrack _ _, .ok (.data body)) => (body.get? "id").bind Json.int?
  | _ => none

def newRun? : Exchange → Option Int
  | (.allocateOnTrack _ _ _ _, .ok (.data body)) => (body.get? "run_id").bind Json.int?
  | _ => none

section Increasing

variable {last : Service → Nat} {new? : Exchange → Option Int}
  (grows : ∀ service request, last service ≤ last (after service request))
  (given : ∀ service request id, new? (exchange service request) = some id →
    (last service : Int) < id ∧ id ≤ last (after service request))

include grows given in
theorem lt_of_mem_newNumbers (service : Service) (requests : List Request) :
    ∀ id ∈ (service.exchanges requests).filterMap new?, (last service : Int) < id := by
  induction requests generalizing service with
  | nil => simp [exchanges]
  | cons request requests ih =>
    intro id member
    rw [exchanges, List.filterMap_cons] at member
    -- What is answered later is above the last number that is left by the first request.
    have later := ih (service.after request)
    have growth := grows service request
    split at member
    next => exact Int.lt_of_le_of_lt (Int.ofNat_le.mpr growth) (later id member)
    next first answered =>
      rcases List.mem_cons.mp member with rfl | behind
      · exact (given service request _ answered).1
      · exact Int.lt_of_le_of_lt (Int.ofNat_le.mpr growth) (later id behind)

include grows given in
/-- Where each new number is above the last one, all new numbers increase. -/
theorem newNumbers_increase (service : Service) (requests : List Request) :
    ((service.exchanges requests).filterMap new?).Pairwise (· < ·) := by
  induction requests generalizing service with
  | nil => exact .nil
  | cons request requests ih =>
    rw [exchanges, List.filterMap_cons]
    split
    next => exact ih _
    next first answered =>
      refine List.pairwise_cons.mpr ⟨fun id later => ?_, ih _⟩
      have above := lt_of_mem_newNumbers grows given (service.after request) requests id later
      exact Int.lt_of_le_of_lt (given service request first answered).2 above

end Increasing

/-- A number that is answered for a new track is the next one of the tracks. -/
theorem created_of_newTrack? {id : Int} (new : newTrack? (service.exchange request) = some id) :
    id = service.store.tracks.nextId ∧ ∃ (name : String) (track : Track),
      service.after request =
        { service with store := (service.store.saveTrack name track.text).1 } := by
  unfold newTrack? exchange at new
  split at new
  next name definition body exchanged =>
    obtain ⟨rfl, answered⟩ := Prod.mk.inj exchanged
    obtain ⟨⟨next, reply⟩, handled, rfl⟩ := Outcome.map_eq_ok_iff.mp answered
    obtain ⟨_, created, same⟩ := reply_eq_ok_iff.mp handled
    cases same
    rcases leads_createTrack.of_outcome created with ⟨track, -, rfl, rfl⟩ | ⟨-, fault, rfl⟩
    · exact ⟨(Option.some.inj new).symm, name, track, after_of_handle handled⟩
    · rw [errorBody_get? fault (by decide) (by decide)] at new
      cases new
  next => cases new

/-- A number that is answered for a new run is the next one of the runs. -/
theorem ran_of_newRun? {id : Int} (new : newRun? (service.exchange request) = some id) :
    id = service.store.runs.nextId ∧
      (service.after request).store.runs.lastId = service.store.runs.nextId := by
  unfold newRun? exchange at new
  split at new
  next track routes name comment body exchanged =>
    obtain ⟨rfl, answered⟩ := Prod.mk.inj exchanged
    obtain ⟨⟨next, reply⟩, handled, rfl⟩ := Outcome.map_eq_ok_iff.mp answered
    obtain ⟨_, ran, same⟩ := reply_eq_ok_iff.mp handled
    cases same
    rw [after_of_handle handled]
    rcases leads_allocateOnTrack.of_outcome ran with ⟨run, fields, event, rfl, rfl, -⟩ |
      ⟨-, rfl | ⟨fault, rfl⟩⟩
    · exact ⟨(Option.some.inj new).symm, rfl⟩
    · cases new
    · rw [errorBody_get? fault (by decide) (by decide)] at new
      cases new
  next => cases new

theorem newTracks_increase (service : Service) (requests : List Request) :
    ((service.exchanges requests).filterMap newTrack?).Pairwise (· < ·) := by
  refine newNumbers_increase (fun service request => (service.step_after request).lastIds_le.1) ?_
    service requests
  intro service request id new
  obtain ⟨rfl, name, track, after_eq⟩ := created_of_newTrack? new
  rw [after_eq]
  exact ⟨Int.ofNat_lt.mpr (Nat.lt_succ_self _), Int.le_refl _⟩

theorem newRuns_increase (service : Service) (requests : List Request) :
    ((service.exchanges requests).filterMap newRun?).Pairwise (· < ·) := by
  refine newNumbers_increase (fun service request => (service.step_after request).lastIds_le.2) ?_
    service requests
  intro service request id new
  obtain ⟨rfl, last_eq⟩ := ran_of_newRun? new
  rw [last_eq]
  exact ⟨Int.ofNat_lt.mpr (Nat.lt_succ_self _), Int.le_refl _⟩

/-- After any requests every run names a stored track, the numbers that were answered for new tracks
increase, and so do those for new runs. A track that is created next is stored under its number, where
no run and no railway waits for it. -/
theorem reached_numbered (requests : List Request) :
    let reached := start.run requests
    (∀ n run, (n, run) ∈ reached.store.runs.rows →
      ∃ id row, run.track = .integer id ∧ reached.store.tracks.get? id = some row) ∧
    ((start.exchanges requests).filterMap newTrack?).Pairwise (· < ·) ∧
    ((start.exchanges requests).filterMap newRun?).Pairwise (· < ·) ∧
    ∀ request id, newTrack? (reached.exchange request) = some id →
      (∃ row, (reached.after request).store.tracks.get? id = some row) ∧
      (∀ n run, (n, run) ∈ (reached.after request).store.runs.rows → run.track ≠ .integer id) ∧
      ∀ railway, (id, railway) ∉ (reached.after request).railways := by
  intro reached
  have rooted : reached.store.Rooted := rooted_run (fun _ _ absent => absurd absent List.not_mem_nil) requests
  refine ⟨rooted, newTracks_increase start requests, newRuns_increase start requests, ?_⟩
  intro request id new
  obtain ⟨rfl, name, track, after_eq⟩ := created_of_newTrack? new
  -- All that is named so far has a number that was given before.
  have above {row : StoredTrack}
      (stored : reached.store.tracks.get? reached.store.tracks.nextId = some row) : False :=
    absurd (Int.ofNat_le.mp (Table.le_lastId stored)) (Nat.not_succ_le_self _)
  rw [after_eq]
  refine ⟨⟨_, Table.get?_insert_nextId _⟩, ?_, ?_⟩
  · intro n run member names
    obtain ⟨other, row, other_names, stored⟩ := rooted n run member
    obtain rfl : other = reached.store.tracks.nextId :=
      Cell.integer.inj (other_names.symm.trans names)
    exact above stored
  · intro railway kept
    obtain ⟨row, -, stored, -⟩ := (coherent_start.run requests).kept _ railway kept
    exact above stored

/-- A track that is stored again after it was deleted has another number. -/
theorem reached_numbered_recreated :
    let reached := start.run [.createTrack "line" demoDefinition, .deleteTrack 1]
    let again := reached.after (.createTrack "line" demoDefinition)
    newTrack? (reached.exchange (.createTrack "line" demoDefinition)) = some 2 ∧
      (∃ row, again.store.tracks.get? 2 = some row) ∧
      (∀ n run, (n, run) ∈ again.store.runs.rows → run.track ≠ .integer 2) ∧
      ∀ railway, (2, railway) ∉ again.railways := by
  intro reached again
  have created := after_of_handle (start.handle_createTrack_demo)
  have number : reached.store.tracks.nextId = 2 := by
    simp only [reached, run, List.foldl_cons, List.foldl_nil, created]
    rfl
  have new : newTrack? (reached.exchange (.createTrack "line" demoDefinition)) = some 2 := by
    unfold exchange
    rw [reached.handle_createTrack_demo, number]
    rfl
  obtain ⟨-, -, -, blank⟩ :=
    reached_numbered [.createTrack "line" demoDefinition, .deleteTrack 1]
  exact ⟨new, blank _ 2 new⟩

end Service

end Trackage
