import Trackage.Service.Http
import Trackage.Proofs.Operation
import Trackage.Proofs.Payload.RoundTrip
import Trackage.Proofs.Railway.Routes
import Trackage.Proofs.Store.Table

/-!
Steps of the service. Whatever a request or a call asks for, and whether or not it fails, what it
makes of the service is one of a few changes of the tracks, the runs or the railways.
-/

namespace Trackage

/-- The track whose trains a request is about. -/
def Request.trainsOf? : Request → Option Int
  | .addTrain track _ _ _ | .listTrains track | .updateTrain track _ _ _ | .extendTrains track _ =>
    some track
  | _ => none

namespace Service

/-- All that a request can make of a service. -/
inductive Step (service : Service) : Request → Service → Prop
  | unchanged (request : Request) : Step service request service
  | allocated (definition : String) (routes : RoutesRequest) (event : List (String × Json)) :
    Step service (.allocate definition routes) (service.record event)
  | created {definition : String} {track : Track} (name : String)
    (read : Track.ofText definition = .ok track) :
    Step service (.createTrack name definition)
      { service with store := (service.store.saveTrack name track.text).1 }
  | renamed {id : Int} {row : StoredTrack} (name : String)
    (stored : service.store.tracks.get? id = some row) :
    Step service (.updateTrack id (some name) none)
      { service with store := { service.store with
          tracks := service.store.tracks.modify id fun _ => Store.changedRow row name none } }
  | redefined {id : Int} {row : StoredTrack} {definition : String} {track : Track}
    (name : Option String) (stored : service.store.tracks.get? id = some row)
    (read : Track.ofText definition = .ok track) :
    Step service (.updateTrack id name (some definition))
      ({ service with store := { service.store with
          tracks := service.store.tracks.modify id fun _ =>
            Store.changedRow row name track.text } }.forget id)
  | deleted (id : Int) :
    Step service (.deleteTrack id)
      ({ service with store := (service.store.deleteTrack (.integer id)).1 }.forget id)
  | ran {id : Int} {track : Track} {run : StoredRun} (routes : RoutesRequest)
    (name comment : Option String) (event : List (String × Json))
    (stored : service.storedTrack? id = .ok (some track)) (names : run.track = .integer id) :
    Step service (.allocateOnTrack id routes name comment)
      ({ service with store := (service.store.saveRun run).1 }.record event)
  | runDeleted (run : Int) :
    Step service (.deleteRun run)
      { service with store := (service.store.deleteRun (.integer run)).1 }
  | opened {request : Request} {id : Int} {next : Service} {railway : Railway}
    (asked : request.trainsOf? = some id)
    (found : service.railway? id = .ok (some (next, railway))) : Step service request next
  | moved {request : Request} {id : Int} {next : Service} {railway changed : Railway}
    {call : Railway.Call} (asked : request.trainsOf? = some id)
    (found : service.railway? id = .ok (some (next, railway)))
    (stepped : Railway.Step railway call changed)
    (routed : ∀ track, railway.track = some track → call.Routed track) :
    Step service request (next.keep id changed)
  | extended {id : Int} {next : Service} {railway : Railway} (targets : List (Int × Int))
    (event : List (String × Json)) (found : service.railway? id = .ok (some (next, railway))) :
    Step service (.extendTrains id targets)
      ((next.keep id (railway.extend (targetOf targets)).1).record event)

variable {service next : Service} {id : Int} {body : Json} {α : Type}

/-- A route that was built without a fault. -/
theorem built_of_orFault {segments : List Segment} {route : Route}
    (built : orFault ((Route.build segments).mapError (.map .route)) = .ok route) :
    Route.build segments = .ok route :=
  Outcome.mapError_eq_ok_iff.mp (Outcome.mapError_eq_ok_iff.mp built)

section Handlers

open Operation

variable {answered : Json → Service → Prop} {failed : Fault → Service → Prop}

@[simp] theorem leads_attempt {steps : Handler α} {following : α → Handler Json} :
    (attempt steps following).Leads service answered failed ↔
      steps.Leads service (fun value next => (following value).Leads next answered failed)
        fun fault next =>
          if fault.isAnswered then answered (errorBody fault) next else failed fault next := by
  simp only [Leads, attempt]
  cases steps service with
  | ok value next => rfl
  | error fault next =>
    dsimp only
    split
    next shown => split at shown <;> simp_all
    next => split at * <;> simp_all

@[simp] theorem leads_changeStore {change : Store → Store × α} {answered : α → Service → Prop} :
    (changeStore change).Leads service answered failed ↔
      answered (change service.store).2
        { service with store := (change service.store).1 } := Iff.rfl

@[simp] theorem leads_onRailway {railway : Railway} {operation : Operation Railway Fault α}
    {answered : α → Service → Prop} :
    (onRailway id railway operation).Leads service answered failed ↔
      operation.Leads railway (fun value railway => answered value (service.keep id railway))
        fun fault railway => failed fault (service.keep id railway) :=
  leads_on

theorem leads_withRailway {following : Railway → Handler Json} :
    (withRailway id following).Leads service answered failed ↔
      (∀ fault, service.railway? id = .error fault → failed fault service) ∧
        (service.railway? id = .ok none → answered (missing "track") service) ∧
          ∀ opened railway, service.railway? id = .ok (some (opened, railway)) →
            (following railway).Leads opened answered failed := by
  simp only [withRailway, leads_bind, leads_get, leads_check]
  rcases service.railway? id with fault | (_ | ⟨opened, railway⟩) <;> simp

theorem leads_withRailway_found {following : Railway → Handler Json} {railway : Railway}
    (found : service.railway? id = .ok (some (next, railway))) :
    (withRailway id following).Leads service answered failed ↔
      (following railway).Leads next answered failed := by
  rw [leads_withRailway, found]
  simp

@[simp] theorem leads_reply {answer : Handler Json} {answered : Reply → Service → Prop} :
    (reply answer).Leads service answered failed ↔
      answer.Leads service (fun body => answered (.data body)) failed := by
  simp only [reply, leads_bind, leads_pure]

@[simp] theorem leads_look {view : Service → Except Fault Json}
    {answered : Reply → Service → Prop} :
    (look view).Leads service answered failed ↔
      (∀ body, view service = .ok body → answered (.data body) service) ∧
        ∀ fault, view service = .error fault → failed fault service := by
  simp only [look, leads_bind, leads_get, leads_check, leads_pure]

theorem look_outcome (view : Service → Except Fault Json) (service : Service) :
    (look view).outcome service = (view service).map fun body => (service, .data body) := by
  rw [outcome_eq_iff, leads_look]
  cases view service <;> simp [Except.map]

theorem handle_runTable (service : Service) (run : Int) :
    service.handle (.runTable run) = (service.runTable run).map fun reply => (service, reply) := by
  refine outcome_eq_iff.mpr ?_
  simp only [handler, leads_bind, leads_get, leads_check]
  cases service.runTable run <;> simp [Except.map]

theorem reply_eq_ok_iff {answer : Handler Json} {told : Reply} :
    (reply answer).outcome service = .ok (next, told) ↔
      ∃ body, answer.outcome service = .ok (next, body) ∧ told = .data body := by
  simp only [outcome_eq_iff, leads_reply]
  unfold Leads
  cases answer service with
  | ok body left => simp [eq_comm, and_comm]
  | error fault left => simp

theorem reply_eq_error_iff {answer : Handler Json} {fault : Fault} :
    (reply answer).outcome service = .error fault ↔ answer.outcome service = .error fault := by
  simp only [outcome_eq_iff, leads_reply]
  unfold Leads
  cases answer service <;> simp

end Handlers

theorem storedTrack?_eq : service.storedTrack? id =
    if Cell.fits id then
      match service.store.tracks.get? id with
      | none => .ok none
      | some row => ((Track.ofText row.definition).mapError Fault.ofDefinition).map some
    else .error .overflow := by
  unfold storedTrack? Cell.ofInt
  split
  next =>
    simp only [bind, Except.bind]
    rw [Store.getTrack, Store.rowAt?_integer]
    cases service.store.tracks.get? id with
    | none => rfl
    | some row => cases (Track.ofText row.definition).mapError Fault.ofDefinition <;> rfl
  next => rfl

/-- A track that is looked up is read from the definition stored under its number. -/
theorem storedTrack?_eq_some {track : Track}
    (stored : service.storedTrack? id = .ok (some track)) :
    ∃ row, service.store.tracks.get? id = some row ∧ Track.ofText row.definition = .ok track := by
  rw [storedTrack?_eq] at stored
  split at stored
  next =>
    split at stored
    next => cases stored
    next row found =>
      obtain ⟨read, ok, same⟩ := Outcome.map_eq_ok_iff.mp stored
      cases same
      exact ⟨row, found, Outcome.mapError_eq_ok_iff.mp ok⟩
  next => cases stored

theorem find?_keep_self (service : Service) (id : Int) (railway : Railway) :
    (service.keep id railway).railways.find? (·.1 == id) = some (id, railway) :=
  List.find?_cons_of_pos (beq_self_eq_true id)

theorem railway?_keep (service : Service) (id : Int) (railway : Railway) :
    (service.keep id railway).railway? id = .ok (some (service.keep id railway, railway)) := by
  unfold railway?
  rw [find?_keep_self]

/-- What is kept for one number does not touch what is kept for another. -/
theorem find?_forget_of_ne {other : Int} (different : other ≠ id) :
    (service.forget id).railways.find? (·.1 == other) =
      service.railways.find? (·.1 == other) := by
  rw [forget, List.find?_filter]
  refine congrArg (List.find? · service.railways) (funext fun kept => ?_)
  by_cases itself : kept.1 = other <;> simp [itself, different]

theorem find?_keep_of_ne {other : Int} (different : other ≠ id) (railway : Railway) :
    (service.keep id railway).railways.find? (·.1 == other) =
      service.railways.find? (·.1 == other) := by
  have passed_over : (id == other) = false := beq_eq_false_iff_ne.mpr different.symm
  simp only [keep, List.find?_cons, passed_over, find?_forget_of_ne different]

/-- A railway that is looked up is the one that is kept, or else one without trains on the stored track
that is kept from then on. -/
theorem railway?_eq_some {railway : Railway}
    (found : service.railway? id = .ok (some (next, railway))) :
    (next = service ∧ (id, railway) ∈ service.railways) ∨
      ∃ track, service.railways.find? (·.1 == id) = none ∧
        service.storedTrack? id = .ok (some track) ∧ railway = .empty (some track) ∧
        next = service.keep id railway := by
  unfold railway? at found
  split at found
  next key known kept =>
    cases found
    have same : key = id := by simpa using List.find?_some kept
    exact .inl ⟨rfl, same ▸ List.mem_of_find?_eq_some kept⟩
  next unknown =>
    obtain ⟨_, stored, same⟩ := Outcome.map_eq_ok_iff.mp found
    obtain ⟨track, rfl, made⟩ := Option.map_eq_some_iff.mp same
    cases made
    exact .inr ⟨track, unknown, stored, rfl, rfl⟩

/-- A railway that is looked up and kept leaves all else as it was. -/
theorem railway?_frame {railway : Railway}
    (found : service.railway? id = .ok (some (next, railway))) :
    next.store = service.store ∧ next.trail = service.trail := by
  rcases railway?_eq_some found with ⟨rfl, -⟩ | ⟨track, -, -, -, rfl⟩ <;> exact ⟨rfl, rfl⟩

section Steps

open Operation

variable {kept : Service → Prop}

/-- What holds before a fault is answered holds behind the answer. -/
theorem leaves_attempt {steps : Handler α} {following : α → Handler Json}
    (leads : steps.Leads service (fun value next => (following value).Leaves next kept)
      fun _ next => kept next) : (attempt steps following).Leaves service kept := by
  refine leads_attempt.mpr (leads.imp (fun _ _ leaves => leaves) fun fault _ holds => ?_)
  split <;> exact holds

/-- A request about trains looks the railway up and then goes on with it. -/
theorem leaves_withRailway {following : Railway → Handler Json} (unchanged : kept service)
    (leaves : ∀ opened railway, service.railway? id = .ok (some (opened, railway)) →
      (following railway).Leaves opened kept) : (withRailway id following).Leaves service kept :=
  leads_withRailway.mpr ⟨fun _ _ => unchanged, fun _ => unchanged, leaves⟩

theorem steps_allocate {definition : String} {routes : RoutesRequest} :
    (allocate definition routes).Leaves service (Step service (.allocate definition routes)) := by
  apply leaves_attempt
  simp only [Leaves, leads_bind, leads_check, leads_modify, leads_pure]
  exact ⟨fun _ _ => ⟨fun _ _ => .allocated _ _ _, fun _ _ => .unchanged _⟩, fun _ _ => .unchanged _⟩

theorem steps_compareLocations {definition : String} {a b : LocationRequest} :
    (compareLocations definition a b).Leaves service
      (Step service (.compareLocations definition a b)) := by
  have unchanged : Step service (.compareLocations definition a b) service := .unchanged _
  apply leaves_attempt
  simp [Leaves, unchanged]

theorem steps_createTrack {name definition : String} :
    (createTrack name definition).Leaves service (Step service (.createTrack name definition)) := by
  apply leaves_attempt
  simp only [Leaves, leads_bind, leads_check, leads_changeStore, leads_pure]
  refine ⟨fun track read => ⟨fun _ _ => ?_, fun _ _ => .unchanged _⟩, fun _ _ => .unchanged _⟩
  exact .created name (Outcome.mapError_eq_ok_iff.mp read)

/-- A definition that can be read is stored as its track writes it. -/
theorem createTrack_eq_ok {name definition : String} {track : Track}
    (read : Track.ofText definition = .ok track)
    (whole : ∀ text ∈ [name, track.text], Text.isWhole text = true) :
    (createTrack name definition).outcome service =
      .ok ({ service with store := (service.store.saveTrack name track.text).1 }, .object [
        ("id", .natural service.store.tracks.nextId),
        ("sections", .natural track.sections.length)]) := by
  rw [List.forall_mem_cons, List.forall_mem_singleton] at whole
  have cells : [name, track.text].mapM Cell.ofText = .ok [.text name, .text track.text] :=
    Outcome.mapM_eq_ok_iff.mpr (.cons (if_pos whole.1) (.cons (if_pos whole.2) .nil))
  rw [outcome_eq_iff, createTrack, read]
  simp only [Except.mapError, check_ok, leads_attempt, leads_pure, leads_bind, cells,
    leads_changeStore]
  rfl

/-- A definition that is given is written as the track that it is read as. -/
theorem written_eq_ok {definition written : Option String}
    (read : definition.mapM writtenDefinition = .ok written) :
    (definition = none ∧ written = none) ∨ ∃ text track, definition = some text ∧
      Track.ofText text = .ok track ∧ written = some track.text := by
  cases definition with
  | none => cases read; exact .inl ⟨rfl, rfl⟩
  | some text =>
    obtain ⟨one, first, last⟩ := Outcome.bind_eq_ok_iff.mp read
    obtain ⟨track, mapped, rfl⟩ := Outcome.map_eq_ok_iff.mp first
    cases last
    exact .inr ⟨text, track, rfl, Outcome.mapError_eq_ok_iff.mp mapped, rfl⟩

theorem steps_updateTrack {name definition : Option String} :
    (updateTrack id name definition).Leaves service
      (Step service (.updateTrack id name definition)) := by
  apply leaves_attempt
  rw [leads_check]
  refine ⟨fun written read => ?_, fun _ _ => .unchanged _⟩
  split
  next => exact .unchanged _
  next given =>
    simp only [Leaves, leads_bind, leads_check, leads_get, leads_modify, leads_pure]
    refine ⟨fun _ name_cell => ⟨fun _ written_cell => ⟨fun key key_eq => ⟨fun updated changed => ?_,
      fun _ _ => .unchanged _⟩, fun _ _ => .unchanged _⟩, fun _ _ => .unchanged _⟩,
      fun _ _ => .unchanged _⟩
    obtain rfl := Cell.mapM_ofText_eq_ok name_cell
    obtain rfl := Cell.mapM_ofText_eq_ok written_cell
    obtain ⟨rfl, -⟩ := Cell.ofInt_eq_ok key_eq
    rw [Store.updateTrack_integer] at changed
    cases stored : service.store.tracks.get? id with
    | none => rw [stored] at changed; cases changed; exact .unchanged _
    | some row =>
      rw [stored] at changed
      cases changed
      rcases written_eq_ok read with ⟨rfl, rfl⟩ | ⟨text, track, rfl, of_text, rfl⟩
      -- Where there is no definition, there is a name.
      · cases name with
        | none => exact absurd rfl given
        | some name => exact .renamed name stored
      · exact .redefined name stored of_text

theorem steps_deleteTrack : (deleteTrack id).Leaves service (Step service (.deleteTrack id)) := by
  simp only [Leaves, deleteTrack, leads_bind, leads_check, leads_changeStore, leads_modify,
    leads_pure]
  refine ⟨fun key key_eq => ?_, fun _ _ => .unchanged _⟩
  obtain ⟨rfl, -⟩ := Cell.ofInt_eq_ok key_eq
  exact .deleted id

theorem steps_deleteRun : (deleteRun id).Leaves service (Step service (.deleteRun id)) := by
  simp only [Leaves, deleteRun, leads_bind, leads_check, leads_changeStore, leads_pure]
  refine ⟨fun key key_eq => ?_, fun _ _ => .unchanged _⟩
  obtain ⟨rfl, -⟩ := Cell.ofInt_eq_ok key_eq
  exact .runDeleted id

theorem steps_allocateOnTrack {routes : RoutesRequest} {name comment : Option String} :
    (allocateOnTrack id routes name comment).Leaves service
      (Step service (.allocateOnTrack id routes name comment)) := by
  simp only [Leaves, allocateOnTrack, leads_bind, leads_get, leads_check]
  refine ⟨fun found stored => ?_, fun _ _ => .unchanged _⟩
  cases found with
  | none => exact .unchanged _
  | some track =>
    apply leaves_attempt
    simp only [Leaves, leads_bind, leads_check, leads_changeStore, leads_modify, leads_pure]
    exact ⟨fun fields _ => ⟨fun _ _ => ⟨fun _ _ => .ran routes name comment _ stored rfl,
      fun _ _ => .unchanged _⟩, fun _ _ => .unchanged _⟩, fun _ _ => .unchanged _⟩

theorem steps_addTrain {route : List SegmentRequest} {start stop : Int} :
    (addTrain id route start stop).Leaves service (Step service (.addTrain id route start stop)) := by
  apply leaves_withRailway (.unchanged _)
  intro opened railway found
  have spared : Step service (.addTrain id route start stop) opened := .opened rfl found
  apply leaves_attempt
  simp only [Leaves, leads_bind, leads_check, leads_onRailway, leads_adaptExcept, Railway.leads_add,
    leads_pure]
  refine ⟨fun segments read => ⟨fun built_route built => ?_, fun _ _ => spared⟩, fun _ _ => spared⟩
  -- Each segment of the route was read on the track under the railway.
  have routed : ∀ track, railway.track = some track →
      (Railway.Call.add built_route start stop).Routed track := by
    intro track track_eq s member
    rw [Route.build_eq_ok_iff.mp (built_of_orFault built)] at member
    obtain ⟨named, -, s_read⟩ := Outcome.exists_of_mem_mapM read member
    obtain ⟨t, t_eq, stored⟩ := Segment.on_mem_of_ofJsonOn s_read
    exact Option.some.inj (track_eq.symm.trans t_eq) ▸ stored
  exact ⟨fun accepted => .moved rfl found (.added accepted) routed,
    fun _ _ => .moved rfl found (.unchanged _) routed⟩

theorem steps_listTrains : (listTrains id).Leaves service (Step service (.listTrains id)) :=
  leaves_withRailway (.unchanged _) fun _ _ found => .opened rfl found

theorem steps_updateTrain {identifier start stop : Int} :
    (updateTrain id identifier start stop).Leaves service
      (Step service (.updateTrain id identifier start stop)) := by
  apply leaves_withRailway (.unchanged _)
  intro opened railway found
  have kept : Step service (.updateTrain id identifier start stop) (opened.keep id railway) :=
    .moved rfl found (.unchanged (.update identifier start stop)) fun _ _ => trivial
  apply leaves_attempt
  simp only [Leaves, leads_bind, leads_onRailway, leads_adaptExcept, Railway.leads_move, leads_get,
    leads_pure]
  refine ⟨fun _ => kept, fun t t_found => ?_⟩
  split
  next => exact kept
  next =>
    have t_in := List.mem_of_find?_eq_some t_found
    exact ⟨fun accepted => .moved rfl found (.placed identifier t_in accepted) fun _ _ => trivial,
      fun _ _ => kept⟩

theorem steps_extendTrains {targets : List (Int × Int)} :
    (extendTrains id targets).Leaves service (Step service (.extendTrains id targets)) := by
  apply leaves_withRailway (.unchanged _)
  intro opened railway found
  simp only [Leaves, leads_bind, leads_modify, leads_check, leads_pure]
  -- The trains have moved also where the trail is not told.
  exact ⟨fun _ _ => .extended targets _ found,
    fun _ _ => .moved rfl found (.extended (targetOf targets)) fun _ _ => trivial⟩

/-- Whatever a request is, it takes a step. -/
theorem steps_handler (service : Service) (request : Request) :
    (handler request).Leaves service (Step service request) := by
  have looked {view : Service → Except Fault Json} :
      (look view).Leaves service (Step service request) :=
    leads_look.mpr ⟨fun _ _ => .unchanged _, fun _ _ => .unchanged _⟩
  cases request with
  | demo | listTracks | showTrack | listRuns | showRun => exact looked
  | runTable =>
    simp only [Leaves, handler, leads_bind, leads_get, leads_check]
    exact ⟨fun _ _ => .unchanged _, fun _ _ => .unchanged _⟩
  | allocate => exact leads_reply.mpr steps_allocate
  | compareLocations => exact leads_reply.mpr steps_compareLocations
  | createTrack => exact leads_reply.mpr steps_createTrack
  | updateTrack => exact leads_reply.mpr steps_updateTrack
  | deleteTrack => exact leads_reply.mpr steps_deleteTrack
  | allocateOnTrack => exact leads_reply.mpr steps_allocateOnTrack
  | deleteRun => exact leads_reply.mpr steps_deleteRun
  | addTrain => exact leads_reply.mpr steps_addTrain
  | listTrains => exact leads_reply.mpr steps_listTrains
  | updateTrain => exact leads_reply.mpr steps_updateTrain
  | extendTrains => exact leads_reply.mpr steps_extendTrains

end Steps

/-- The service after several requests, some of which may fail. -/
def run (service : Service) (requests : List Request) : Service := requests.foldl after service

/-- The service after several calls. -/
def serve (service : Service) (calls : List Call) : Service :=
  calls.foldl (fun service call => (service.respond call).1) service

theorem after_of_handle {request : Request} {reply : Reply}
    (handled : service.handle request = .ok (next, reply)) : service.after request = next :=
  Operation.left_of_outcome handled

theorem step_after (service : Service) (request : Request) :
    Step service request (service.after request) :=
  (steps_handler service request).left

theorem perform_eq_after (service : Service) (action : Action) (values : List String) (call : Call) :
    (service.perform action values call).1 = service ∨
      ∃ request, (service.perform action values call).1 = service.after request := by
  unfold perform
  split
  next => exact .inl rfl
  next =>
    dsimp only
    split
    next => exact .inl rfl
    next request _ =>
      refine .inr ⟨request, ?_⟩
      unfold after Operation.left
      cases handler request service <;> rfl

/-- A call that is no request leaves the service as it was. -/
theorem respond_eq_after (service : Service) (call : Call) :
    (service.respond call).1 = service ∨ ∃ request, (service.respond call).1 = service.after request := by
  change (service.answer call).1 = service ∨ ∃ request, (service.answer call).1 = service.after request
  unfold answer
  split
  case h_5 => exact service.perform_eq_after _ _ _
  all_goals exact .inl rfl

/-- Where calls lead, the requests lead that they carry. -/
theorem exists_run_eq_serve (service : Service) (calls : List Call) :
    ∃ requests, service.serve calls = service.run requests := by
  induction calls generalizing service with
  | nil => exact ⟨[], rfl⟩
  | cons call calls ih =>
    obtain ⟨requests, later⟩ := ih (service.respond call).1
    rcases service.respond_eq_after call with same | ⟨request, carried⟩
    · exact ⟨requests, later.trans (by rw [same])⟩
    · exact ⟨request :: requests, later.trans (by rw [carried]; rfl)⟩

end Service

end Trackage
