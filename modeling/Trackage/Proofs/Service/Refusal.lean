import Trackage.Proofs.Service.Answers
import Trackage.Proofs.Service.Coherence

/-!
Refused requests. Requests check all that may be refused before they change what is stored, told or
held by trains. One that is answered with an error leaves the store and the trail as they were, and at
most a railway without trains that was looked up for it. No listing of trains shows that.
-/

namespace Trackage.Service

variable {service next left : Service} {id : Int} {body shown : Json} {railway : Railway} {α : Type}

/-- All that a request may leave that is answered with an error: nothing, or a railway that was
looked up and is kept as it was found. -/
def Opens (service next : Service) : Prop :=
  next = service ∨ ∃ id opened railway, service.railway? id = .ok (some (opened, railway)) ∧
    (next = opened ∨ next = opened.keep id railway)

theorem find?_of_opened {other : Int} (found : service.railway? other = .ok (some (next, railway)))
    (different : id ≠ other) :
    next.railways.find? (·.1 == id) = service.railways.find? (·.1 == id) := by
  rcases railway?_eq_some found with ⟨rfl, -⟩ | ⟨track, -, -, rfl, rfl⟩
  · rfl
  · exact find?_keep_of_ne different _

/-- A railway that was looked up is found again. -/
theorem railway?_again (found : service.railway? id = .ok (some (next, railway))) :
    next.railway? id = .ok (some (next, railway)) := by
  rcases railway?_eq_some found with ⟨rfl, -⟩ | ⟨track, -, -, rfl, rfl⟩
  · exact found
  · exact railway?_keep _ _ _

/-- Where the store and all other railways stay, and a railway is found as before, every railway is
found as before. -/
theorem railway?_congr (store_eq : left.store = service.store)
    (found : service.railway? id = .ok (some (next, railway)))
    (again : left.railway? id = .ok (some (left, railway)))
    (others : ∀ other ≠ id,
      left.railways.find? (·.1 == other) = service.railways.find? (·.1 == other)) (other : Int) :
    (left.railway? other).map (Option.map Prod.snd) =
      (service.railway? other).map (Option.map Prod.snd) := by
  by_cases same : other = id
  · subst same
    rw [found, again]
    rfl
  · have stored : left.storedTrack? other = service.storedTrack? other := by
      rw [storedTrack?_eq, storedTrack?_eq, store_eq]
    unfold railway?
    rw [others other same, stored]
    cases service.railways.find? (·.1 == other) with
    | some kept => rfl
    | none => rcases service.storedTrack? other with fault | (_ | track) <;> rfl

theorem handle_listTrains : (service.handle (.listTrains id)).map Prod.snd =
    ((service.railway? id).map (Option.map Prod.snd)).map fun found => Reply.data <|
      match found with
      | none => missing "track"
      | some railway => .object [("items", .ofList trainJson railway.trains)] := by
  have outcome (result : Except Fault (Service × Reply)) :
      service.handle (.listTrains id) = result ↔ (handler (.listTrains id)).Leads service
        (fun reply next => .ok (next, reply) = result) fun fault _ => .error fault = result :=
    Operation.outcome_eq_iff
  simp only [handler, leads_reply, listTrains, leads_withRailway, Operation.leads_pure] at outcome
  rcases found : service.railway? id with fault | (_ | ⟨opened, railway⟩)
  · rw [(outcome (.error fault)).mpr (by simp [found])]
    rfl
  · rw [(outcome (.ok (service, .data (missing "track")))).mpr (by simp [found])]
    rfl
  · rw [handle_listTrains_found found]
    rfl

theorem Opens.frame (opens : Opens service next) :
    next.store = service.store ∧ next.trail = service.trail ∧
      ∀ id, (next.handle (.listTrains id)).map Prod.snd =
        (service.handle (.listTrains id)).map Prod.snd := by
  rcases opens with rfl | ⟨id, opened, railway, found, kept⟩
  · exact ⟨rfl, rfl, fun _ => rfl⟩
  obtain ⟨store_eq, trail_eq⟩ := railway?_frame found
  rcases kept with rfl | rfl
  · refine ⟨store_eq, trail_eq, fun other => ?_⟩
    have same := railway?_congr store_eq found (railway?_again found)
      fun _ different => find?_of_opened found different
    rw [handle_listTrains, handle_listTrains, same]
  · refine ⟨store_eq, trail_eq, fun other => ?_⟩
    have kept_store : (opened.keep id railway).store = service.store := store_eq
    have same := railway?_congr kept_store found (railway?_keep opened id railway)
      fun _ different => (find?_keep_of_ne different _).trans (find?_of_opened found different)
    rw [handle_listTrains, handle_listTrains, same]

/-- An answer that tells no error. -/
def Fine (body : Json) : Prop := body.get? "error" = none

/-- Whatever is answered with an error leaves a state of which something holds. -/
def Spares (handler : Handler Json) (service : Service) (kept : Service → Prop) : Prop :=
  handler.Leads service (fun body next => Fine body ∨ kept next) fun _ _ => True

section Refusals

open Operation

variable {kept : Service → Prop}

/-- Where the steps of which faults are answered spare the state when they fail, and what follows
them is answered without an error, a request spares the state. -/
theorem spares_attempt {steps : Handler α} {following : α → Handler Json}
    (leads : steps.Leads service
      (fun value next => (following value).Leads next (fun body _ => Fine body) fun _ _ => True)
      fun _ left => kept left) : Spares (attempt steps following) service kept := by
  refine leads_attempt.mpr (leads.imp (fun value next fine => ?_) fun fault next spared => ?_)
  · exact fine.imp (fun _ _ told => .inl told) fun _ _ _ => trivial
  · split
    next => exact .inr spared
    next => trivial

theorem spares_withRailway {following : Railway → Handler Json}
    (spares : ∀ opened railway, service.railway? id = .ok (some (opened, railway)) →
      Spares (following railway) opened (Opens service)) :
    Spares (withRailway id following) service (Opens service) :=
  leads_withRailway.mpr ⟨fun _ _ => trivial, fun _ => .inr (.inl rfl), spares⟩

theorem allocateRoutes_fine {track : Track} {routes : RoutesRequest}
    {fields : List (String × Json)} (allocated : allocateRoutes track routes = .ok fields) :
    Fine (.object fields) := by
  obtain ⟨requested, granted, indicators, -, rfl⟩ := allocateRoutes_eq_ok allocated
  rfl

theorem allocate_spares {definition : String} {routes : RoutesRequest} :
    Spares (allocate definition routes) service (Opens service) := by
  apply spares_attempt
  simp only [leads_bind, leads_check, leads_modify, leads_pure]
  exact ⟨fun track _ => ⟨fun fields allocated => allocateRoutes_fine allocated,
    fun _ _ => .inl rfl⟩, fun _ _ => .inl rfl⟩

theorem compareLocations_spares {definition : String} {a b : LocationRequest} :
    Spares (compareLocations definition a b) service (Opens service) := by
  apply spares_attempt
  simp only [leads_bind, leads_check, leads_pure]
  exact ⟨fun _ _ => ⟨fun _ _ => ⟨fun _ _ => rfl, fun _ _ => .inl rfl⟩, fun _ _ => .inl rfl⟩,
    fun _ _ => .inl rfl⟩

theorem createTrack_spares {name definition : String} :
    Spares (createTrack name definition) service (Opens service) := by
  apply spares_attempt
  simp only [leads_bind, leads_check, leads_changeStore, leads_pure]
  exact ⟨fun _ _ => ⟨fun _ _ => rfl, fun _ _ => trivial⟩, fun _ _ => .inl rfl⟩

theorem updateTrack_spares {name definition : Option String} :
    Spares (updateTrack id name definition) service (Opens service) := by
  apply spares_attempt
  rw [leads_check]
  refine ⟨fun written _ => ?_, fun _ _ => .inl rfl⟩
  split
  next => rfl
  next =>
    simp only [leads_bind, leads_check, leads_get, leads_modify, leads_pure]
    exact ⟨fun _ _ => ⟨fun _ _ => ⟨fun _ _ => ⟨fun _ _ => rfl, fun _ _ => trivial⟩,
      fun _ _ => trivial⟩, fun _ _ => trivial⟩, fun _ _ => trivial⟩

theorem deleteTrack_spares : Spares (deleteTrack id) service (Opens service) := by
  simp only [Spares, deleteTrack, leads_bind, leads_check, leads_changeStore, leads_modify,
    leads_pure]
  exact ⟨fun _ _ => .inl rfl, fun _ _ => trivial⟩

theorem deleteRun_spares : Spares (deleteRun id) service (Opens service) := by
  simp only [Spares, deleteRun, leads_bind, leads_check, leads_changeStore, leads_pure]
  exact ⟨fun _ _ => .inl rfl, fun _ _ => trivial⟩

theorem allocateOnTrack_spares {routes : RoutesRequest} {name comment : Option String} :
    Spares (allocateOnTrack id routes name comment) service (Opens service) := by
  simp only [Spares, allocateOnTrack, leads_bind, leads_get, leads_check]
  refine ⟨fun found _ => ?_, fun _ _ => trivial⟩
  cases found with
  | none => exact .inr (.inl rfl)
  | some track =>
    apply spares_attempt
    simp only [leads_bind, leads_check, leads_changeStore, leads_modify, leads_pure]
    refine ⟨fun fields allocated => ⟨fun _ _ => ⟨fun _ _ => ?_, fun _ _ => trivial⟩,
      fun _ _ => trivial⟩, fun _ _ => .inl rfl⟩
    -- The number of the run is put in front of fields none of which is an error.
    exact (Json.get?_cons_of_ne _ _ (by decide)).trans (allocateRoutes_fine allocated)

/-- A train is refused before the railway that was looked up for it is changed. -/
theorem addTrain_spares {route : List SegmentRequest} {start stop : Int} :
    Spares (addTrain id route start stop) service (Opens service) := by
  apply spares_withRailway
  intro opened railway found
  apply spares_attempt
  simp only [leads_bind, leads_check, leads_onRailway, leads_adaptExcept, leads_pure]
  refine ⟨fun _ _ => ⟨fun built _ => ?_, fun _ _ => ?_⟩, fun _ _ => ?_⟩
  -- The railway is put back also where the train is refused, but then as it was found.
  · refine (Railway.add_atomic built start stop railway).imp (fun _ _ _ => rfl) ?_
    rintro _ _ rfl
    exact .inr ⟨id, opened, _, found, .inr rfl⟩
  all_goals exact .inr ⟨id, opened, railway, found, .inl rfl⟩

theorem listTrains_spares : Spares (listTrains id) service (Opens service) :=
  spares_withRailway fun _ _ _ => .inl rfl

/-- A train that cannot be moved is refused before it is moved. -/
theorem updateTrain_spares {identifier start stop : Int} :
    Spares (updateTrain id identifier start stop) service (Opens service) := by
  apply spares_withRailway
  intro opened railway found
  apply spares_attempt
  simp only [leads_bind, leads_onRailway, leads_adaptExcept, leads_get, leads_pure]
  -- Behind the move nothing fails any more, so that all depends on what a refused move leaves.
  refine (Railway.move_atomic identifier start stop railway).imp (fun _ _ _ => rfl) ?_
  rintro _ _ rfl
  exact .inr ⟨id, opened, _, found, .inr rfl⟩

theorem extendTrains_spares {targets : List (Int × Int)} :
    Spares (extendTrains id targets) service (Opens service) := by
  apply spares_withRailway
  intro opened railway found
  -- The trains move before the last check, but its fault is none that is answered.
  simp only [Spares, leads_bind, leads_modify, leads_check, leads_pure]
  exact ⟨fun _ _ => .inl rfl, fun _ _ => trivial⟩

/-- A request that is answered with an error leaves at most a railway behind. -/
theorem opens_of_refused {request : Request}
    (handled : service.handle request = .ok (next, .data body))
    (refused : body.get? "error" = some shown) : Opens service next := by
  -- Requests that only look write nothing; one lemma for each of the others.
  suffices leads : (handler request).Leads service
      (fun reply next => ∀ body, reply = .data body → Fine body ∨ Opens service next)
      fun _ _ => True by
    rcases leads.of_outcome handled body rfl with fine | opens
    · cases fine.symm.trans refused
    · exact opens
  have changed {answer : Handler Json} (spares : Spares answer service (Opens service)) :
      (reply answer).Leads service
        (fun reply next => ∀ body, reply = .data body → Fine body ∨ Opens service next)
        fun _ _ => True := by
    refine leads_reply.mpr (spares.imp ?_ fun _ _ _ => trivial)
    rintro _ _ spared _ ⟨⟩
    exact spared
  have looked {view : Service → Except Fault Json} : (look view).Leads service
      (fun reply next => ∀ body, reply = .data body → Fine body ∨ Opens service next)
      fun _ _ => True :=
    leads_look.mpr ⟨fun _ _ _ _ => .inr (.inl rfl), fun _ _ => trivial⟩
  cases request with
  | demo | listTracks | showTrack | listRuns | showRun => exact looked
  | runTable =>
    simp only [handler, leads_bind, leads_get, leads_check]
    exact ⟨fun _ _ _ _ => .inr (.inl rfl), fun _ _ => trivial⟩
  | allocate => exact changed allocate_spares
  | compareLocations => exact changed compareLocations_spares
  | createTrack => exact changed createTrack_spares
  | updateTrack => exact changed updateTrack_spares
  | deleteTrack => exact changed deleteTrack_spares
  | allocateOnTrack => exact changed allocateOnTrack_spares
  | deleteRun => exact changed deleteRun_spares
  | addTrain => exact changed addTrain_spares
  | listTrains => exact changed listTrains_spares
  | updateTrain => exact changed updateTrain_spares
  | extendTrains => exact changed extendTrains_spares

end Refusals

/-- A request that is answered with an error leaves the tracks, the runs, the trail and the trains of
every track as they were. -/
theorem refused_frame {request : Request}
    (handled : service.handle request = .ok (next, .data body))
    (refused : body.get? "error" = some shown) :
    next.store = service.store ∧ next.trail = service.trail ∧
      ∀ id, (next.handle (.listTrains id)).map Prod.snd =
        (service.handle (.listTrains id)).map Prod.snd :=
  (opens_of_refused handled refused).frame

/-- A train without a route is refused. All that is left of the request is a railway without trains,
which is listed as it was before. -/
theorem refused_frame_routeless :
    let reached := start.run [.createTrack "line" demoDefinition]
    ∃ next body shown, reached.handle (.addTrain 1 [] 0 1) = .ok (next, .data body) ∧
      body.get? "error" = some shown ∧ reached.railways.length < next.railways.length ∧
      next.store = reached.store ∧ next.trail = reached.trail ∧
      (next.handle (.listTrains 1)).map Prod.snd = (reached.handle (.listTrains 1)).map Prod.snd := by
  intro reached
  obtain ⟨track, -, no_railways, opened⟩ := exists_railway?_demo
  have handled : reached.handle (.addTrain 1 [] 0 1) =
      .ok (reached.keep 1 (.empty (some track)), .data (errorBody (.domain (.route .empty)))) := by
    refine reply_eq_ok_iff.mpr ⟨_, Operation.outcome_eq_iff.mpr ?_, rfl⟩
    rw [addTrain, leads_withRailway_found opened, leads_attempt]
    rfl
  have refused := errorBody_error (.domain (.route .empty))
  have grown : reached.railways.length <
      (reached.keep 1 (.empty (some track))).railways.length := by
    rw [keep, forget, no_railways]
    exact Nat.zero_lt_one
  obtain ⟨same_store, same_trail, same_trains⟩ := refused_frame handled refused
  exact ⟨_, _, _, handled, refused, grown, same_store, same_trail, same_trains 1⟩

end Trackage.Service
