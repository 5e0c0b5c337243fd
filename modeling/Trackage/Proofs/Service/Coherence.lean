import Trackage.Proofs.Service.Step
import Trackage.Proofs.Track.RoundTrip

/-!
Coherence of the service. Stored definitions are what their tracks write, and each railway that is
kept is a sound one on the track that is stored under its number, whatever requests came before.
-/

namespace Trackage

/-- The definition of a row is the text of the track that it is read as. -/
def StoredTrack.Written (row : StoredTrack) : Prop :=
  ∃ track, Track.ofText row.definition = .ok track ∧ track.text = row.definition

/-- The text of a track that was read is one that its track writes. -/
theorem StoredTrack.written_text {definition : String} {track : Track}
    (read : Track.ofText definition = .ok track) (name : String) :
    StoredTrack.Written ⟨name, track.text⟩ := by
  have writable := Track.writable_of_ofText read
  obtain ⟨again, ok, sections_eq⟩ := Track.ofText_text writable
  exact ⟨again, ok, by rw [Track.text, Track.text, sections_eq]⟩

namespace Service

/-- What holds of every service that is reached. Stored definitions are those that their tracks write,
no track has two railways, and each railway is a sound one on the track that is stored for it. -/
structure Coherent (service : Service) : Prop where
  written : ∀ n row, (n, row) ∈ service.store.tracks.rows → row.Written
  single : (service.railways.map Prod.fst).Nodup
  kept : ∀ id railway, (id, railway) ∈ service.railways →
    ∃ row track, service.store.tracks.get? id = some row ∧
      Track.ofText row.definition = .ok track ∧ Railway.Sound track railway

theorem coherent_start : Coherent start where
  written := fun _ _ absent => absurd absent List.not_mem_nil
  single := .nil
  kept := fun _ _ absent => absurd absent List.not_mem_nil

variable {service next : Service} {id : Int} {railway : Railway}

theorem ne_of_mem_forget {other : Int} (member : (other, railway) ∈ (service.forget id).railways) :
    other ≠ id := by
  simpa using (List.mem_filter.mp member).2

namespace Coherent

theorem written_of_get? (coherent : Coherent service) {row : StoredTrack}
    (stored : service.store.tracks.get? id = some row) : row.Written := by
  obtain ⟨n, -, member⟩ := Table.get?_eq_some_iff.mp stored
  exact coherent.written n row member

/-- Looking a track up never comes upon a definition that cannot be read: it only fails for numbers
that no row can have. -/
theorem storedTrack?_error (coherent : Coherent service) {fault : Fault}
    (failed : service.storedTrack? id = .error fault) : fault = .overflow := by
  rw [storedTrack?_eq] at failed
  split at failed
  next =>
    split at failed
    next => cases failed
    next row stored =>
      obtain ⟨track, read, -⟩ := coherent.written_of_get? stored
      rw [read] at failed
      cases failed
  next => exact (Except.error.inj failed).symm

theorem forget (coherent : Coherent service) (id : Int) : Coherent (service.forget id) where
  written := coherent.written
  single := (List.filter_sublist.map _).nodup coherent.single
  kept := fun other railway member =>
    coherent.kept other railway (List.mem_filter.mp member).1

theorem keep (coherent : Coherent service) {row : StoredTrack} {track : Track}
    (stored : service.store.tracks.get? id = some row)
    (read : Track.ofText row.definition = .ok track) (sound : Railway.Sound track railway) :
    Coherent (service.keep id railway) where
  written := coherent.written
  single := by
    refine List.nodup_cons.mpr ⟨fun member => ?_, (coherent.forget id).single⟩
    obtain ⟨⟨other, _⟩, entry, same⟩ := List.mem_map.mp member
    exact ne_of_mem_forget entry same
  kept := by
    intro other known member
    rcases List.mem_cons.mp member with new | old
    · cases new
      exact ⟨row, track, stored, read, sound⟩
    · exact (coherent.forget id).kept other known old

/-- Rows may change in any way that leaves the definitions under the railways. -/
theorem restore (coherent : Coherent service) {store : Store}
    (written : ∀ n row, (n, row) ∈ store.tracks.rows → row.Written)
    (defined : ∀ id railway row, (id, railway) ∈ service.railways →
      service.store.tracks.get? id = some row →
      ∃ new, store.tracks.get? id = some new ∧ new.definition = row.definition) :
    Coherent { service with store } where
  written := written
  single := coherent.single
  kept := by
    intro id railway member
    obtain ⟨row, track, stored, read, sound⟩ := coherent.kept id railway member
    obtain ⟨new, new_stored, same⟩ := defined id railway row member stored
    exact ⟨new, track, new_stored, same ▸ read, sound⟩

theorem opened (coherent : Coherent service)
    (found : service.railway? id = .ok (some (next, railway))) :
    Coherent next ∧ (id, railway) ∈ next.railways := by
  rcases railway?_eq_some found with ⟨rfl, member⟩ | ⟨track, -, stored, rfl, rfl⟩
  · exact ⟨coherent, member⟩
  · obtain ⟨row, stored_row, read⟩ := storedTrack?_eq_some stored
    exact ⟨coherent.keep stored_row read (Railway.sound_empty track), List.mem_cons_self⟩

/-- A railway that is looked up may be changed by any of its calls. -/
theorem moved (coherent : Coherent service) (found : service.railway? id = .ok (some (next, railway)))
    {call : Railway.Call} {changed : Railway} (stepped : Railway.Step railway call changed) :
    Coherent (next.keep id changed) := by
  obtain ⟨next_coherent, member⟩ := coherent.opened found
  obtain ⟨row, track, stored, read, sound⟩ := next_coherent.kept id railway member
  exact next_coherent.keep stored read (sound.step stepped)

/-- A row may be changed to one whose definition is written, while no railway is kept for it or the
definition stays. -/
theorem rewritten (coherent : Coherent service) {row new : StoredTrack}
    (stored : service.store.tracks.get? id = some row) (written : new.Written)
    (same : (∃ railway, (id, railway) ∈ service.railways) → new.definition = row.definition) :
    Coherent { service with
      store := { service.store with tracks := service.store.tracks.modify id fun _ => new } } := by
  refine coherent.restore ?_ ?_
  · intro n changed member
    obtain ⟨⟨m, old⟩, old_member, made⟩ := List.mem_map.mp member
    cases made
    split
    · exact written
    · exact coherent.written m old old_member
  · intro other railway old kept old_stored
    rw [Table.get?_modify]
    split
    next itself =>
      subst itself
      obtain rfl := Option.some.inj (stored.symm.trans old_stored)
      exact ⟨new, by rw [stored]; rfl, same ⟨railway, kept⟩⟩
    next => exact ⟨old, old_stored, rfl⟩

/-- Every step keeps the service coherent. -/
theorem step {request : Request} (coherent : Coherent service) (stepped : Step service request next) :
    Coherent next := by
  cases stepped with
  | unchanged => exact coherent
  | allocated => exact { coherent with }
  | created name read =>
    refine coherent.restore ?_ fun _ _ row _ stored => ⟨row, Table.get?_insert stored _, rfl⟩
    intro n row member
    rcases List.mem_cons.mp member with new | old
    · cases new
      exact StoredTrack.written_text read name
    · exact coherent.written n row old
  | renamed name stored =>
    have written := coherent.written_of_get? stored
    exact coherent.rewritten stored written fun _ => rfl
  | @redefined id row definition track name stored read =>
    -- The railway is given up that was kept for the old definition.
    refine (coherent.forget id).rewritten stored (StoredTrack.written_text read _) ?_
    rintro ⟨railway, kept⟩
    exact absurd rfl (ne_of_mem_forget kept)
  | deleted id =>
    refine (coherent.forget id).restore ?_ ?_
    · rw [Store.deleteTrack_tracks]
      exact fun n row member => coherent.written n row (List.mem_filter.mp member).1
    · intro other railway row kept stored
      rw [Store.deleteTrack_tracks, Table.get?_erase, if_neg (ne_of_mem_forget kept)]
      exact ⟨row, stored, rfl⟩
  | ran | runDeleted => exact { coherent with }
  | opened asked found => exact (coherent.opened found).1
  | moved asked found stepped _ => exact coherent.moved found stepped
  | extended targets event found => exact { coherent.moved found (.extended (targetOf targets)) with }

theorem run (coherent : Coherent service) (requests : List Request) :
    Coherent (service.run requests) := by
  -- Each request keeps the service coherent, whether or not it is carried out.
  induction requests generalizing service with
  | nil => exact coherent
  | cons request requests ih => exact ih (coherent.step (service.step_after request))

end Coherent

/-- The definition of the demonstration is the text of the track that it is read as. -/
theorem exists_demo_track : ∃ track, Track.ofText demoDefinition = .ok track ∧
    track.sections = [.line] ∧ track.text = demoDefinition := by
  have ends : Section.line.ends = [⟨"j1", .facing⟩, ⟨"j2", .normal⟩] := rfl
  have writable : Section.line.Writable := by
    refine ⟨?_, by decide⟩
    rw [ends, List.forall_mem_cons, List.forall_mem_singleton]
    exact ⟨by decide, by decide⟩
  have text_eq : Section.line.text = demoDefinition := by decide
  exact text_eq ▸ Track.ofText_section writable

theorem handle_createTrack_demo (service : Service) :
    service.handle (.createTrack "line" demoDefinition) =
      .ok ({ service with store := (service.store.saveTrack "line" demoDefinition).1 },
        .data (.object [("id", .natural service.store.tracks.nextId),
          ("sections", .natural 1)])) := by
  obtain ⟨track, read, sections_eq, text_eq⟩ := exists_demo_track
  have created : (createTrack "line" demoDefinition).outcome service = _ :=
    createTrack_eq_ok read (by rw [text_eq]; decide)
  rw [text_eq, sections_eq] at created
  exact reply_eq_ok_iff.mpr ⟨_, created, rfl⟩

/-- A listing shows the trains of the railway that is found. -/
theorem handle_listTrains_found (found : service.railway? id = .ok (some (next, railway))) :
    service.handle (.listTrains id) =
      .ok (next, .data (.object [("items", .array (railway.trains.map trainJson))])) := by
  refine reply_eq_ok_iff.mpr ⟨_, ?_, rfl⟩
  rw [Operation.outcome_eq_iff, listTrains, leads_withRailway_found found]
  rfl

/-- Looking the railway of the demonstration up keeps one without trains. -/
theorem exists_railway?_demo : let reached := start.run [.createTrack "line" demoDefinition]
    ∃ track, track.sections = [.line] ∧ reached.railways = [] ∧
      reached.railway? 1 =
        .ok (some (reached.keep 1 (.empty (some track)), .empty (some track))) := by
  intro reached
  obtain ⟨track, read, sections_eq, -⟩ := exists_demo_track
  have reached_eq : reached =
      { start with store := (start.store.saveTrack "line" demoDefinition).1 } :=
    after_of_handle start.handle_createTrack_demo
  have stored : reached.storedTrack? 1 = .ok (some track) := by
    rw [storedTrack?_eq, if_pos (by decide), reached_eq]
    change ((Track.ofText demoDefinition).mapError Fault.ofDefinition).map some = _
    rw [read]
    rfl
  have none_kept : reached.railways = [] := by rw [reached_eq]; rfl
  refine ⟨track, sections_eq, none_kept, ?_⟩
  unfold railway?
  rw [none_kept, stored]
  rfl

/-- Whatever is called from the start is a run of requests, and every run of requests from the start
reaches a coherent service, in which no stored definition fails to be read. -/
theorem reached_coherent :
    (∀ calls : List Call, ∃ requests, start.serve calls = start.run requests) ∧
      ∀ requests : List Request, Coherent (start.run requests) ∧
        ∀ id fault, (start.run requests).storedTrack? id = .error fault → fault = .overflow := by
  refine ⟨start.exists_run_eq_serve, fun requests => ?_⟩
  have coherent := coherent_start.run requests
  exact ⟨coherent, fun id fault => coherent.storedTrack?_error⟩

/-- A track is stored, and a railway is kept for it once its trains are asked for. -/
theorem reached_coherent_listed :
    let reached := start.run [.createTrack "line" demoDefinition, .listTrains 1]
    (∃ track, track.sections = [.line] ∧ reached.railways = [(1, .empty (some track))]) ∧
      Coherent reached ∧
      ∃ fault, reached.storedTrack? Cell.wordLimit = .error fault ∧ fault = .overflow := by
  intro reached
  obtain ⟨coherent, loaded⟩ :=
    reached_coherent.2 [.createTrack "line" demoDefinition, .listTrains 1]
  obtain ⟨track, sections_eq, none_kept, opened⟩ := exists_railway?_demo
  have listed := after_of_handle (handle_listTrains_found opened)
  have railways : reached.railways = [(1, .empty (some track))] := by
    simp only [reached, run, List.foldl_cons, List.foldl_nil] at listed none_kept ⊢
    rw [listed, keep, forget, none_kept]
    rfl
  have failed : reached.storedTrack? Cell.wordLimit = .error .overflow := by
    rw [storedTrack?_eq, if_neg (by decide)]
  exact ⟨⟨track, sections_eq, railways⟩, coherent, _, failed, loaded _ _ failed⟩

end Service

end Trackage
