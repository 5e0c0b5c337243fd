import Trackage.Proofs.Scenario.Gate
import Trackage.Proofs.Service.Answers
import Trackage.Proofs.Service.Coherence
import Trackage.Proofs.Track.Grammar

/-!
One-shot allocations. Routes that are allocated on a definition at once, and routes that are allocated
on the track after the definition was stored, are answered alike: what is stored is read as the same
sections, and nothing else of a track is looked at. A definition is only stored if its names can be
put into bytes.
-/

namespace Trackage

section SameSections

variable {a b : Track} (same : a.sections = b.sections)
include same

theorem EndPoint.sectionOn_congr (e : EndPoint) : e.sectionOn (some a) = e.sectionOn (some b) := by
  simp only [sectionOn, Track.sectionAt?_congr same]

theorem Segment.ofJson_congr : Segment.ofJson a = Segment.ofJson b := by
  funext data
  simp only [Segment.ofJson, Segment.ofJsonOn, EndPoint.sectionOn_congr same]

theorem Scenario.run_congr (occupied requested : List (List Segment)) :
    run a occupied requested = run b occupied requested := by
  simp only [run, check, checkOnTrack, Segment.onTrack, Track.contains_congr same]

/-- Allocations look at nothing of a track but its sections. -/
theorem Service.allocateRoutes_congr (routes : RoutesRequest) :
    allocateRoutes a routes = allocateRoutes b routes := by
  simp only [allocateRoutes, routesOfJson, Segment.ofJson_congr same, Scenario.run_congr same]

end SameSections

/-- With numerals that are short enough, a definition is only refused for its format. -/
theorem Track.format_of_ofText_error {definition : String} {error : DefinitionError}
    (few : ∀ line ∈ Text.lines definition, FewDigits line)
    (failed : Track.ofText definition = .error error) : ∃ reason, error = .format reason := by
  rcases readLines_or_refused few empty 1 with ⟨_, _, read, -⟩ |
    ⟨_, _, _, _, _, _, -, -, -, -, refused⟩
  · cases read.symm.trans failed
  · exact ⟨_, (Except.error.inj (refused.symm.trans failed)).symm⟩

namespace Service

open Operation

/-- Routes of a safe length are only refused by the rules of the railway. -/
theorem domain_of_allocateRoutes_error {track : Track} {routes : RoutesRequest} {fault : Fault}
    (sections : ∀ s ∈ track.sections, s.Writable)
    (moderate : routes.requestedLength < Binary64.safeLength)
    (failed : allocateRoutes track routes = .error fault) : ∃ error, fault = .domain error := by
  rcases Outcome.bind_eq_error_iff.mp failed with unread | ⟨occupied, occupied_read, failed⟩
  · exact domain_of_routesOfJson_error unread
  rcases Outcome.bind_eq_error_iff.mp failed with unread | ⟨requested, read, failed⟩
  · exact domain_of_routesOfJson_error unread
  rcases Outcome.bind_eq_error_iff.mp failed with refused | ⟨granted, ran, failed⟩
  -- All segments run over sections of the track, and so they can be written.
  · have writable : ∀ row ∈ occupied ++ requested, ∀ s ∈ row, s.isWritable = true :=
      List.forall_mem_append.mpr
        ⟨fun row member s s_in =>
          (sections _ (on_mem_of_routesOfJson occupied_read row member s s_in)).isWritable,
        fun row member s s_in =>
          (sections _ (on_mem_of_routesOfJson read row member s s_in)).isWritable⟩
    obtain ⟨raised, ran, rfl⟩ := Outcome.mapError_eq_error_iff.mp refused
    obtain ⟨error, rfl⟩ := Scenario.exists_error_of_run writable ran
    exact ⟨error, rfl⟩
  -- What is allocated is always shown, as its length is a safe one.
  · obtain ⟨_, shown⟩ := Scenario.exists_allocationToJson sections
      (Outcome.mapError_eq_ok_iff.mp ran) ((lengthOf_of_routesOfJson read).trans_lt moderate)
    cases shown.symm.trans failed

variable {service : Service} {name definition : String} {routes : RoutesRequest}

/-- Routes that are allocated on a definition at once, and on the track that is stored for the
definition, are answered alike: the definition cannot be read, the routes are refused, or the same
allocation is shown. -/
inductive OneShotAgrees (service : Service) (name definition : String) (routes : RoutesRequest)
    (runName comment : Option String) : Prop
  | unread {body message : Json} (shown : body.get? "error" = some message)
    (once : service.handle (.allocate definition routes) = .ok (service, .data body))
    (created : service.handle (.createTrack name definition) = .ok (service, .data body))
  | refused {stored : Service} {id : Int} {sections body message : Json}
    (shown : body.get? "error" = some message)
    (once : service.handle (.allocate definition routes) = .ok (service, .data body))
    (created : service.handle (.createTrack name definition) =
      .ok (stored, .data (.object [("id", .int id), ("sections", sections)])))
    (run : stored.handle (.allocateOnTrack id routes runName comment) = .ok (stored, .data body))
  | allocated {next stored last : Service} {id : Int} {sections run_id : Json}
    {fields : List (String × Json)}
    (parts : fields.map Prod.fst = ["allocated", "kpis", "by_train"])
    (once : service.handle (.allocate definition routes) = .ok (next, .data (.object fields)))
    (created : service.handle (.createTrack name definition) =
      .ok (stored, .data (.object [("id", .int id), ("sections", sections)])))
    (run : stored.handle (.allocateOnTrack id routes runName comment) =
      .ok (last, .data (.object (("run_id", run_id) :: fields))))

theorem allocateOnTrack_eq_refused {id : Int} {track : Track} {error : DomainError}
    (stored : service.storedTrack? id = .ok (some track))
    (failed : allocateRoutes track routes = .error (.domain error)) (name comment : Option String) :
    (allocateOnTrack id routes name comment).outcome service =
      .ok (service, errorBody (.domain error)) := by
  rw [outcome_eq_iff]
  simp only [allocateOnTrack, leads_bind, leads_get, stored, check_ok, leads_pure, failed,
    check_error, leads_attempt, leads_throw]
  exact trivial

theorem allocate_eq_unread {error : FormatError}
    (unread : Track.ofText definition = .error (.format error)) :
    (allocate definition routes).outcome service =
      .ok (service, errorBody (.domain (.format error))) := by
  rw [outcome_eq_iff, allocate, unread]
  simp only [leads_attempt, leads_bind, Except.mapError, check_error, leads_throw]
  rfl

theorem createTrack_eq_unread {error : FormatError}
    (unread : Track.ofText definition = .error (.format error)) :
    (createTrack name definition).outcome service =
      .ok (service, errorBody (.domain (.format error))) := by
  rw [outcome_eq_iff, createTrack, unread]
  simp only [leads_attempt, Except.mapError, check_error, leads_throw]
  rfl

theorem allocate_eq_refused {track : Track} {error : DomainError}
    (read : Track.ofText definition = .ok track)
    (failed : allocateRoutes track routes = .error (.domain error)) :
    (allocate definition routes).outcome service = .ok (service, errorBody (.domain error)) := by
  rw [outcome_eq_iff, allocate, read]
  simp only [leads_attempt, leads_bind, Except.mapError, check_ok, leads_pure, failed, check_error,
    leads_throw]
  exact trivial

theorem allocate_eq_ok {track : Track} {fields : List (String × Json)}
    (read : Track.ofText definition = .ok track)
    (allocated : allocateRoutes track routes = .ok fields) :
    ∃ next, (allocate definition routes).outcome service = .ok (next, .object fields) := by
  refine ⟨?_, outcome_eq_iff.mpr ?_⟩
  rotate_left
  · rw [allocate, read]
    simp only [leads_attempt, leads_bind, Except.mapError, check_ok, leads_pure, allocated,
      leads_modify]
    rfl

/-- The track that was stored last is read as the track that it was stored from. -/
theorem exists_storedTrack?_saved {track : Track}
    (room : Cell.fits service.store.tracks.nextId = true)
    (read : Track.ofText definition = .ok track) (name : String) :
    ∃ again, again.sections = track.sections ∧
      storedTrack? { service with store := (service.store.saveTrack name track.text).1 }
        service.store.tracks.nextId = .ok (some again) := by
  have writable := Track.writable_of_ofText read
  obtain ⟨again, again_read, sections_eq⟩ := Track.ofText_text writable
  refine ⟨again, sections_eq, ?_⟩
  have row_stored : (service.store.tracks.insert ⟨name, track.text⟩).get?
      service.store.tracks.nextId = some ⟨name, track.text⟩ := Table.get?_insert_nextId _
  rw [storedTrack?_eq, if_pos room]
  simp only [Store.saveTrack, row_stored, again_read]
  rfl

/-- A definition whose names can be put into bytes is allocated alike at once and after it was
stored. -/
theorem oneShot_agrees {runName comment : Option String}
    (few : ∀ line ∈ Text.lines definition, FewDigits line)
    (moderate : routes.requestedLength < Binary64.safeLength)
    (room : Cell.fits service.store.tracks.nextId = true)
    (name_whole : Text.isWhole name = true)
    (run_whole : ∀ text ∈ runName.toList ++ comment.toList, Text.isWhole text = true)
    (encodable : ∀ track, Track.ofText definition = .ok track → Text.isWhole track.text = true) :
    OneShotAgrees service name definition routes runName comment := by
  -- Whether the definition is read, and whether its routes are allocated, is asked once for both ways.
  cases read : Track.ofText definition with
  | error error =>
    obtain ⟨reason, rfl⟩ := Track.format_of_ofText_error few read
    apply OneShotAgrees.unread (errorBody_error (.domain (.format reason)))
    · exact reply_eq_ok_iff.mpr ⟨_, allocate_eq_unread read, rfl⟩
    · exact reply_eq_ok_iff.mpr ⟨_, createTrack_eq_unread read, rfl⟩
  | ok track =>
    have whole : ∀ text ∈ [name, track.text], Text.isWhole text = true :=
      List.forall_mem_cons.mpr ⟨name_whole, List.forall_mem_singleton.mpr (encodable track read)⟩
    have created : (createTrack name definition).outcome service = _ :=
      createTrack_eq_ok read whole
    -- The track that is stored is read again, and is all that the routes are allocated on.
    obtain ⟨again, sections_eq, stored⟩ := exists_storedTrack?_saved room read name
    have same := allocateRoutes_congr sections_eq routes
    cases outcome : allocateRoutes track routes with
    | error fault =>
      obtain ⟨error, rfl⟩ :=
        domain_of_allocateRoutes_error (Track.writable_of_ofText read) moderate outcome
      have run := allocateOnTrack_eq_refused stored (same.trans outcome) runName comment
      apply OneShotAgrees.refused (errorBody_error (.domain error))
      · exact reply_eq_ok_iff.mpr ⟨_, allocate_eq_refused read outcome, rfl⟩
      · exact reply_eq_ok_iff.mpr ⟨_, created, rfl⟩
      · exact reply_eq_ok_iff.mpr ⟨_, run, rfl⟩
    | ok fields =>
      have parts : fields.map Prod.fst = ["allocated", "kpis", "by_train"] := by
        obtain ⟨_, _, _, -, rfl⟩ := allocateRoutes_eq_ok outcome
        rfl
      obtain ⟨next, once⟩ : ∃ next, (allocate definition routes).outcome service =
          .ok (next, .object fields) := allocate_eq_ok read outcome
      obtain ⟨last, run⟩ := allocateOnTrack_eq_ok room stored (same.trans outcome) run_whole
      apply OneShotAgrees.allocated parts
      · exact reply_eq_ok_iff.mpr ⟨_, once, rfl⟩
      · exact reply_eq_ok_iff.mpr ⟨_, created, rfl⟩
      · exact reply_eq_ok_iff.mpr ⟨_, run, rfl⟩

/-- The demonstration is allocated at once as it is after it was stored. -/
theorem oneShot_agrees_demo :
    (∃ track, Track.ofText demoDefinition = .ok track) ∧
      OneShotAgrees start "line" demoDefinition demoRoutes (some "night") none := by
  obtain ⟨track, read, -, text_eq⟩ := exists_demo_track
  have few : ∀ line ∈ Text.lines demoDefinition, FewDigits line := by
    have lines_eq : Text.lines demoDefinition = [demoDefinition] := by decide
    rw [lines_eq, List.forall_mem_singleton]
    unfold FewDigits
    decide
  have moderate : demoRoutes.requestedLength < Binary64.safeLength := by decide +kernel
  have encodable : ∀ other, Track.ofText demoDefinition = .ok other →
      Text.isWhole other.text = true := by
    intro other other_read
    obtain rfl : track = other := Except.ok.inj (read.symm.trans other_read)
    rw [text_eq]
    decide
  exact ⟨⟨track, read⟩,
    oneShot_agrees few moderate (by decide) (by decide) (by decide) encodable⟩

theorem createTrack_eq_notWhole {track : Track} (read : Track.ofText definition = .ok track)
    (name_whole : Text.isWhole name = true) (half : Text.isWhole track.text = false) :
    (createTrack name definition).outcome service = .error .notWhole := by
  have cells : [name, track.text].mapM Cell.ofText = .error .notWhole := by
    simp [Cell.ofText, name_whole, half, bind, Except.bind]
  rw [outcome_eq_iff, createTrack, read]
  simp only [leads_attempt, Except.mapError, check_ok, leads_pure, leads_bind, cells, check_error,
    leads_throw]

/-- A section whose first junction is named by half a pair. -/
def halfSection : Section :=
  { Section.line with
    first := ⟨Text.spell [.half Text.leastHalf], .facing⟩
    first_ne_second := by decide }

/-- Routes are allocated at once on a definition with half a pair in a name, which is not stored. -/
theorem not_oneShot_agrees_half :
    let definition := halfSection.text
    (∀ line ∈ Text.lines definition, FewDigits line) ∧
      RoutesRequest.requestedLength ⟨[], []⟩ < Binary64.safeLength ∧
      (∃ next body, start.handle (.allocate definition ⟨[], []⟩) = .ok (next, .data body) ∧
        body.get? "allocated" = some (.array [])) ∧
      start.handle (.createTrack "track" definition) = .error .notWhole ∧
      ¬ OneShotAgrees start "track" definition ⟨[], []⟩ none none := by
  intro definition
  have lines_eq : Text.lines definition = [definition] := by decide
  have few : ∀ line ∈ Text.lines definition, FewDigits line := by
    rw [lines_eq, List.forall_mem_singleton]
    unfold FewDigits
    decide
  have writable : halfSection.Writable := by
    refine ⟨?_, by decide⟩
    have ends : halfSection.ends = [halfSection.first, halfSection.second] := rfl
    rw [ends, List.forall_mem_cons, List.forall_mem_singleton]
    exact ⟨by decide, by decide⟩
  obtain ⟨track, read, -, text_eq⟩ : ∃ track, Track.ofText definition = .ok track ∧ _ :=
    Track.ofText_section writable
  have half : Text.isWhole track.text = false := by
    rw [text_eq]
    decide
  have created : start.handle (.createTrack "track" definition) = .error .notWhole :=
    reply_eq_error_iff.mpr (createTrack_eq_notWhole read (by decide) half)
  have allocated : allocateRoutes track ⟨[], []⟩ = .ok [("allocated", .array []),
      ("kpis", Indicators.none.toJson), ("by_train", .array [])] := by
    rfl
  obtain ⟨next, once⟩ : ∃ next, (allocate definition ⟨[], []⟩).outcome start = .ok (next, _) :=
    allocate_eq_ok read allocated
  have moderate : RoutesRequest.requestedLength ⟨[], []⟩ < Binary64.safeLength := by
    decide +kernel
  refine ⟨few, moderate, ⟨next, _, reply_eq_ok_iff.mpr ⟨_, once, rfl⟩, rfl⟩, created, ?_⟩
  intro agrees
  cases agrees with
  | unread _ _ stored | refused _ _ stored _ | allocated _ _ stored _ =>
    cases created.symm.trans stored

end Service

end Trackage
