import Trackage.Proofs.Allocation.Lengths
import Trackage.Proofs.Scenario.Gate
import Trackage.Proofs.Service.Step
import Trackage.Proofs.Track.RoundTrip

/-!
Answers of the service. What a request is answered tells whether it was carried out: an answer with an
error comes from a request that was not, and the answers of requests that were have fields of their own.
-/

namespace Trackage

theorem Json.get?_cons_of_ne {key other : String} (value : Json) (fields : List (String × Json))
    (different : other ≠ key) :
    (Json.object ((other, value) :: fields)).get? key = (Json.object fields).get? key := by
  simp only [get?, List.find?_cons, beq_eq_false_iff_ne.mpr different]

theorem Json.get?_of_mem {fields : List (String × Json)} {key : String} {value : Json}
    (distinct : (fields.map Prod.fst).Nodup) (member : (key, value) ∈ fields) :
    (Json.object fields).get? key = some value := by
  have found := (find?_key_eq_some_iff distinct).mpr ⟨member, rfl⟩
  simp only [get?, found, Option.map_some]

theorem allocationToJson_eq_ok {requested granted : List (List Segment)}
    {fields : List (String × Json)} (shown : allocationToJson requested granted = .ok fields) :
    ∃ indicators, Indicators.of? requested granted = some indicators ∧ fields = [
      ("allocated", .ofList Segment.rowToJson granted), ("kpis", indicators.toJson),
      ("by_train", .ofList TrainLengths.toJson (lengthsByTrain requested granted))] := by
  obtain ⟨allocated, rows_shown, rest⟩ := Outcome.bind_eq_ok_iff.mp shown
  obtain ⟨-, rfl⟩ := Segment.rowsShown_eq_ok_iff.mp rows_shown
  split at rest
  next => cases rest
  next indicators some_indicators =>
    cases rest
    exact ⟨indicators, some_indicators, rfl⟩

/-- What is allocated on a track that can be written is shown if the requested length is a safe one. -/
theorem Scenario.exists_allocationToJson {track : Track}
    {occupied requested granted : List (List Segment)}
    (sections : ∀ s ∈ track.sections, s.Writable)
    (ran : Scenario.run track occupied requested = .ok granted)
    (moderate : lengthOf requested.flatten < Binary64.safeLength) :
    ∃ indicators : Indicators, allocationToJson requested granted = .ok [
      ("allocated", .ofList Segment.rowToJson granted), ("kpis", indicators.toJson),
      ("by_train", .ofList TrainLengths.toJson (lengthsByTrain requested granted))] := by
  have valid := Scenario.check_eq_ok_iff_valid.mp (Scenario.run_eq_ok_iff.mp ran).1
  obtain ⟨allocated, -, also_ran, served⟩ := valid.exists_served
  obtain rfl : granted = allocated := Except.ok.inj (ran.symm.trans also_ran)
  -- Each train is granted a part of its request, which lies on the track.
  have granted_on : ∀ row ∈ granted, LiesOn row track :=
    served.liesOn fun row member => valid.on_track row (List.mem_append_right _ member)
  refine Trackage.exists_allocationToJson (fun row member s s_in => ?_) served.lengthOf_le moderate
  exact Segment.isWritable_of_onTrack (fun t t_in => (sections t t_in).isWritable)
    (granted_on row member s s_in)

namespace Service

variable {service next : Service} {id : Int} {body : Json}

theorem errorBody_error (fault : Fault) :
    (errorBody fault).get? "error" = some (.string (fault.message?.getD "")) := by
  unfold errorBody
  split <;> rfl

theorem errorBody_get? (fault : Fault) {key : String} (no_error : "error" ≠ key)
    (no_line : "line" ≠ key) : (errorBody fault).get? key = none := by
  unfold errorBody
  split
  · rw [Json.get?_cons_of_ne _ _ no_error, Json.get?_cons_of_ne _ _ no_line]
    rfl
  · rw [Json.get?_cons_of_ne _ _ no_error]
    rfl

/-- Allocated routes are answered in the parts of an allocation. -/
theorem allocateRoutes_eq_ok {track : Track} {routes : RoutesRequest}
    {fields : List (String × Json)} (allocated : allocateRoutes track routes = .ok fields) :
    ∃ requested granted indicators, Indicators.of? requested granted = some indicators ∧ fields = [
      ("allocated", .ofList Segment.rowToJson granted), ("kpis", indicators.toJson),
      ("by_train", .ofList TrainLengths.toJson (lengthsByTrain requested granted))] := by
  obtain ⟨occupied, -, rest⟩ := Outcome.bind_eq_ok_iff.mp allocated
  obtain ⟨requested, -, rest⟩ := Outcome.bind_eq_ok_iff.mp rest
  obtain ⟨granted, -, shown⟩ := Outcome.bind_eq_ok_iff.mp rest
  obtain ⟨indicators, some_indicators, rfl⟩ := allocationToJson_eq_ok shown
  exact ⟨requested, granted, indicators, some_indicators, rfl⟩

/-- All that creating a track can come to: it is answered with its number, or nothing is stored. -/
theorem leads_createTrack {name definition : String} :
    (createTrack name definition).Leads service
      (fun body next => (∃ track, Track.ofText definition = .ok track ∧
        next = { service with store := (service.store.saveTrack name track.text).1 } ∧
        body = .object [("id", .natural service.store.tracks.nextId),
          ("sections", .natural track.sections.length)]) ∨
        next = service ∧ ∃ fault, body = errorBody fault)
      fun _ next => next = service := by
  rw [createTrack, leads_attempt, Operation.leads_check]
  constructor
  · intro track read
    simp only [Operation.leads_bind, Operation.leads_check, leads_changeStore,
      Operation.leads_pure]
    exact ⟨fun _ _ => .inl ⟨track, Outcome.mapError_eq_ok_iff.mp read, rfl, rfl⟩,
      fun _ _ => trivial⟩
  · intro fault _
    split
    next => exact .inr ⟨rfl, fault, rfl⟩
    next => rfl

/-- Routes of segments over sections as the track has them are allocated as they are. -/
theorem allocateRoutes_requests {track : Track} {occupied requested granted : List (List Segment)}
    (occupied_stored : ∀ row ∈ occupied, RunsOver row track)
    (requested_stored : ∀ row ∈ requested, RunsOver row track)
    (sections : ∀ s ∈ track.sections, s.Writable)
    (ran : Scenario.run track occupied requested = .ok granted)
    (moderate : lengthOf requested.flatten < Binary64.safeLength) :
    ∃ indicators, allocateRoutes track
        ⟨occupied.map (·.map Segment.request), requested.map (·.map Segment.request)⟩ = .ok [
      ("allocated", .ofList Segment.rowToJson granted), ("kpis", indicators),
      ("by_train", .ofList TrainLengths.toJson (lengthsByTrain requested granted))] := by
  obtain ⟨indicators, shown⟩ := Scenario.exists_allocationToJson sections ran moderate
  refine ⟨indicators.toJson, ?_⟩
  apply Outcome.bind_eq_ok_iff.mpr ⟨occupied, routesOfJson_requests occupied_stored, ?_⟩
  apply Outcome.bind_eq_ok_iff.mpr ⟨requested, routesOfJson_requests requested_stored, ?_⟩
  exact Outcome.bind_eq_ok_iff.mpr ⟨granted, Outcome.mapError_eq_ok_iff.mpr ran, shown⟩

/-- All that allocating on a stored track can come to: the run that is stored is answered with its
number before the parts of the allocation, or nothing is stored. -/
theorem leads_allocateOnTrack {routes : RoutesRequest} {name comment : Option String} :
    (allocateOnTrack id routes name comment).Leads service
      (fun body next => (∃ run fields event, next =
          { service with store := (service.store.saveRun run).1 }.record event ∧
        body = .object (("run_id", .natural service.store.runs.nextId) :: fields) ∧
        run = ranOn id routes name comment fields ∧
        ∃ track, service.storedTrack? id = .ok (some track) ∧
          allocateRoutes track routes = .ok fields) ∨
        next = service ∧ (body = missing "track" ∨ ∃ fault, body = errorBody fault))
      fun _ next => next = service := by
  simp only [allocateOnTrack, Operation.leads_bind, Operation.leads_get, Operation.leads_check]
  refine ⟨fun found stored => ?_, fun _ _ => trivial⟩
  cases found with
  | none => exact .inr ⟨rfl, .inl rfl⟩
  | some track =>
    rw [leads_attempt, Operation.leads_check]
    constructor
    -- The texts and the number of the track are only checked when the routes are allocated.
    · intro fields allocated
      simp only [Operation.leads_bind, Operation.leads_check, leads_changeStore,
        Operation.leads_modify, Operation.leads_pure]
      exact ⟨fun _ _ => ⟨fun _ _ => .inl ⟨_, fields, _, rfl, rfl, rfl, track, stored, allocated⟩,
        fun _ _ => trivial⟩, fun _ _ => trivial⟩
    · intro fault _
      split
      next => exact .inr ⟨rfl, .inr ⟨fault, rfl⟩⟩
      next => rfl

theorem allocateOnTrack_eq_ok {track : Track} {routes : RoutesRequest} {name comment : Option String}
    {fields : List (String × Json)} (fits : Cell.fits id = true)
    (stored : service.storedTrack? id = .ok (some track))
    (allocated : allocateRoutes track routes = .ok fields)
    (whole : ∀ text ∈ name.toList ++ comment.toList, Text.isWhole text = true) :
    ∃ next, (allocateOnTrack id routes name comment).outcome service =
      .ok (next, .object (("run_id", .natural service.store.runs.nextId) :: fields)) := by
  have texts : (name.toList ++ comment.toList).mapM Cell.ofText =
      .ok ((name.toList ++ comment.toList).map Cell.text) := by
    rw [Outcome.mapM_eq_ok_iff, List.forall₂_map_right_iff, List.forall₂_same]
    exact fun text member => if_pos (whole text member)
  have key : Cell.ofInt id = .ok (.integer id) := Cell.ofInt_of_fits fits
  refine ⟨?_, Operation.outcome_eq_iff.mpr ?_⟩
  rotate_left
  · simp only [allocateOnTrack, Operation.leads_bind, Operation.leads_get, stored,
      Operation.check_ok, Operation.leads_pure, leads_attempt, allocated, key, texts,
      leads_changeStore, Operation.leads_modify]
    rfl

end Service

end Trackage
