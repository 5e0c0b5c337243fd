import Trackage.Proofs.Payload.Kept
import Trackage.Proofs.Railway.Forecast
import Trackage.Proofs.Service.Answers
import Trackage.Proofs.Service.Body
import Trackage.Proofs.Service.Routes

/-!
Runs as forecasts. A run that is stored from a listing of trains, in which each train holds what it
holds and requests what lies ahead of it, is allocated as the trains move when all of them are sent to
the ends of their routes. The run is read from data and checked on the stored track, and the move is
made on the railway that is kept.
-/

namespace Trackage.Service

/-- The body that asks to store a run from the items of a listing of trains. -/
def runBody (items : List Json) (name comment : Option String) : Json :=
  .object [
    ("occupied", .array (items.map (·.getD "allocation"))),
    ("requested", .array (items.map (·.getD "remaining"))),
    ("name", .ofOption .string name), ("comment", .ofOption .string comment)]

/-- The body that asks to send all trains of a listing to the ends of their routes. -/
def endsBody (items : List Json) : Json :=
  .object [("targets", .object (items.map fun item =>
    ((item.getD "identifier").compact, item.getD "route_length")))]

/-- What the trains hold and what lies ahead of them, as a request names it. -/
def routesAhead (railway : Railway) : RoutesRequest :=
  ⟨(railway.trains.map Train.allocation).map (·.map Segment.request),
    (railway.trains.map Train.remaining).map (·.map Segment.request)⟩

/-- The ends of the routes of all trains. -/
def routeEnds (railway : Railway) : List (Int × Int) :=
  railway.trains.map fun t => ((t.identifier : Int), (t.route.length : Int))

theorem optionalText?_ofOption {key : String} {data : Json} {text : Option String}
    (given : data.get? key = some (.ofOption .string text)) : optionalText? key data = some text := by
  unfold optionalText?
  rw [given]
  cases text <;> rfl

theorem routes?_runBody (railway : Railway) (name comment : Option String) :
    routes? (runBody (railway.trains.map trainJson) name comment) = some (routesAhead railway) := by
  have held : (railway.trains.map trainJson).map (·.getD "allocation") =
      (railway.trains.map Train.allocation).map Segment.rowToJson := by
    rw [List.map_map, List.map_map]
    rfl
  have ahead : (railway.trains.map trainJson).map (·.getD "remaining") =
      (railway.trains.map Train.remaining).map Segment.rowToJson := by
    rw [List.map_map, List.map_map]
    rfl
  have held_read := rows?_ofList (railway.trains.map Train.allocation)
  have ahead_read := rows?_ofList (railway.trains.map Train.remaining)
  unfold runBody
  rw [held, ahead]
  change (do
    let occupied ← row? (row? segment?) (.ofList Segment.rowToJson _)
    let requested ← row? (row? segment?) (.ofList Segment.rowToJson _)
    return (⟨occupied, requested⟩ : RoutesRequest)) = _
  rw [held_read, ahead_read]
  rfl

theorem request?_runBody (id : Int) (railway : Railway) (name comment : Option String) :
    request? .allocateOnTrack [id] [] (runBody (railway.trains.map trainJson) name comment) =
      some (.allocateOnTrack id (routesAhead railway) name comment) := by
  have name_given : (runBody (railway.trains.map trainJson) name comment).get? "name" =
      some (.ofOption .string name) := rfl
  have comment_given : (runBody (railway.trains.map trainJson) name comment).get? "comment" =
      some (.ofOption .string comment) := rfl
  unfold request?
  simp only [routes?_runBody, optionalText?_ofOption name_given,
    optionalText?_ofOption comment_given, Option.bind_eq_bind, Option.bind_some]
  rfl

theorem targets?_map {trains : List Train}
    (few : ∀ t ∈ trains, (Nat.toDigits 10 t.identifier).length ≤ Text.digitLimit) :
    targets? (.object (trains.map fun t =>
      (toString t.identifier, Json.natural t.route.length))) =
      some (trains.map fun t => ((t.identifier : Int), (t.route.length : Int))) := by
  apply mapM_write
  intro t t_in
  have identifier_read := textInt?_toString (few t t_in)
  have length_read : int? (.natural t.route.length) = some (t.route.length : Int) := rfl
  simp only [identifier_read, length_read, Option.bind_eq_bind, Option.bind_some, Option.pure_def]

theorem request?_endsBody (id : Int) {railway : Railway}
    (few : ∀ t ∈ railway.trains, (Nat.toDigits 10 t.identifier).length ≤ Text.digitLimit) :
    request? .extendTrains [id] [] (endsBody (railway.trains.map trainJson)) =
      some (.extendTrains id (routeEnds railway)) := by
  have items : (railway.trains.map trainJson).map
      (fun item => ((item.getD "identifier").compact, item.getD "route_length")) =
      railway.trains.map fun t => (toString t.identifier, Json.natural t.route.length) := by
    rw [List.map_map]
    rfl
  have read := targets?_map few
  unfold endsBody
  rw [items]
  change (targets? (.object _)).bind (fun targets => some (Request.extendTrains id targets)) = _
  rw [read]
  rfl

variable {track : Track} {railway : Railway}

theorem targetOf_routeEnds (sound : Railway.Sound track railway) :
    ∀ t ∈ railway.trains, targetOf (routeEnds railway) t.identifier = some (t.route.length : Int) := by
  intro t t_in
  -- Of two targets for a train the later one counts, but no train has two.
  have distinct : ((routeEnds railway).reverse.map Prod.fst).Nodup := by
    have keys : (routeEnds railway).map Prod.fst =
        (railway.trains.map Train.identifier).map Int.ofNat := by
      rw [routeEnds, List.map_map, List.map_map]
      rfl
    rw [List.map_reverse, List.nodup_reverse, keys, sound.identifiers]
    exact List.nodup_range.map fun m n same => Int.ofNat.inj same
  have member : ((t.identifier : Int), (t.route.length : Int)) ∈ (routeEnds railway).reverse :=
    List.mem_reverse.mpr (List.mem_map.mpr ⟨t, t_in, rfl⟩)
  unfold targetOf
  rw [(find?_key_eq_some_iff distinct).mpr ⟨member, rfl⟩]
  rfl

/-- There are no more trains than the lengths of their routes add up to, so that identifiers are
numerals that can be read. -/
theorem few_digits (sound : Railway.Sound track railway)
    (moderate : (railway.trains.map fun t => t.route.length).sum < Binary64.safeLength) :
    ∀ t ∈ railway.trains, (Nat.toDigits 10 t.identifier).length ≤ Text.digitLimit := by
  intro t t_in
  have numbered : t.identifier < railway.trains.length := by
    have listed : t.identifier ∈ railway.trains.map Train.identifier :=
      List.mem_map.mpr ⟨t, t_in, rfl⟩
    rwa [sound.identifiers, List.mem_range] at listed
  -- A train holds a part of its route, which is therefore not empty.
  have positive : ∀ length ∈ railway.trains.map fun t => t.route.length, 1 ≤ length := by
    intro length member
    obtain ⟨u, u_in, rfl⟩ := List.mem_map.mp member
    have placed := sound.placed u u_in
    exact Nat.lt_of_lt_of_le (Nat.zero_lt_of_lt placed.ordered) placed.within
  have count : railway.trains.length ≤ (railway.trains.map fun t => t.route.length).sum := by
    simpa using List.card_nsmul_le_sum _ 1 positive
  have safe : t.identifier < Binary64.safeLength :=
    Nat.lt_trans (Nat.lt_of_lt_of_le numbered count) moderate
  exact Binary64.length_toDigits_le safe (by decide) (by decide)

/-- A run that is stored from a listing, and the move of all trains to the ends of their routes: every
train is shown the same grant by both, and neither fails. -/
structure Forecast (service : Service) (id : Int) (name comment : Option String)
    (items allocated : List Json) (granted : Json) : Prop where
  listed : service.handle (.listTrains id) =
    .ok (service, .data (.object [("items", .array items)]))
  saved : ∃ request next answer,
    request? .allocateOnTrack [id] [] (runBody items name comment) = some request ∧
      service.handle request = .ok (next, .data answer) ∧
      answer.get? "error" = none ∧ answer.get? "allocated" = some (.array allocated)
  moved : ∃ request next answer,
    request? .extendTrains [id] [] (endsBody items) = some request ∧
      service.handle request = .ok (next, .data answer) ∧ answer.get? "granted" = some granted
  count : allocated.length = items.length
  agree : ∀ (i : Nat) (item row : Json), items[i]? = some item → allocated[i]? = some row →
    item.get? "identifier" = some (.natural i) ∧ granted.get? (toString i) = some row

/-- No more is granted to a train than to all of them. -/
theorem lengthOf_le_flatten {rows : List (List Segment)} {row : List Segment} (member : row ∈ rows) :
    lengthOf row ≤ lengthOf rows.flatten := by
  rw [lengthOf_flatten]
  exact List.single_le_sum (fun _ _ => Nat.zero_le _) _ (List.mem_map_of_mem member)

/-- A move is answered when all that is granted is short enough for the trail. -/
theorem handle_extendTrains_found {service next : Service} {id : Int}
    (found : service.railway? id = .ok (some (next, railway))) (targets : List (Int × Int))
    (told : ∀ answer ∈ (railway.extend (targetOf targets)).2,
      Text.isWritable (lengthOf answer.2) = true) :
    ∃ last items, service.handle (.extendTrains id targets) = .ok (last, .data (.object [
      ("granted", byTrain Segment.rowToJson (railway.extend (targetOf targets)).2),
      ("items", items)])) := by
  have lengths : (byTrain (fun segments => .natural (lengthOf segments))
      (railway.extend (targetOf targets)).2).isWritable = true := by
    refine Json.isWritable_object.mpr fun field member => ?_
    obtain ⟨answer, answered, rfl⟩ := List.mem_map.mp member
    exact told answer answered
  let moved := railway.extend (targetOf targets)
  refine ⟨(next.keep id moved.1).record [("type", .string "extend"), ("track_id", .int id),
      ("granted", byTrain (fun segments => .natural (lengthOf segments)) moved.2)],
    .ofList trainJson moved.1.trains,
    reply_eq_ok_iff.mpr ⟨_, Operation.outcome_eq_iff.mpr ?_, rfl⟩⟩
  rw [extendTrains, leads_withRailway_found found]
  simp only [lengths, if_true, Operation.check_ok, Operation.leads_bind, Operation.leads_modify,
    Operation.leads_pure]
  rfl

/-- What a move grants can be told of when all of it together is a safe length. -/
theorem isWritable_granted (trains : List Train) {granted : List (List Segment)}
    (safe : lengthOf granted.flatten < Binary64.safeLength) :
    ∀ answer ∈ (trains.zip granted).map fun served => (served.1.identifier, served.2),
      Text.isWritable (lengthOf answer.2) = true := by
  intro answer member
  obtain ⟨served, zipped, rfl⟩ := List.mem_map.mp member
  have short := Nat.lt_of_le_of_lt (lengthOf_le_flatten (List.of_mem_zip zipped).2) safe
  exact Text.isWritable_of_le short.le
    (by decide +kernel : Text.isWritable (Binary64.safeLength : Nat) = true)

theorem byTrain_get? (sound : Railway.Sound track railway) {granted : List (List Segment)}
    (count : granted.length = railway.trains.length) {i : Nat} {row : List Segment}
    (row_at : granted[i]? = some row) :
    (byTrain Segment.rowToJson ((railway.trains.zip granted).map fun served =>
      (served.1.identifier, served.2))).get? (toString i) = some (Segment.rowToJson row) := by
  have inside : i < railway.trains.length := count ▸ (List.getElem?_eq_some_iff.mp row_at).1
  have train_at := List.getElem?_eq_getElem inside
  have served : (railway.trains.zip granted)[i]? = some (railway.trains[i], row) :=
    List.getElem?_zip_eq_some.mpr ⟨train_at, row_at⟩
  have number := sound.identifier_eq train_at
  unfold byTrain
  apply Json.get?_of_mem
  · have keys : (((railway.trains.zip granted).map fun served =>
        (served.1.identifier, served.2)).map fun answer =>
        (toString answer.1, Segment.rowToJson answer.2)).map Prod.fst =
        (((railway.trains.zip granted).map Prod.fst).map Train.identifier).map toString := by
      rw [List.map_map, List.map_map, List.map_map, List.map_map]
      rfl
    rw [keys, List.map_fst_zip (Nat.le_of_eq count.symm), sound.identifiers]
    exact List.nodup_range.map fun m n same => Text.toString_natural_injective same
  · rw [List.map_map]
    exact List.mem_map.mpr
      ⟨_, List.mem_of_getElem? served, by simp only [Function.comp_apply, number]⟩

/-- Where the trains run over the sections of a coherent service, the stored run is a forecast of the
move. -/
theorem Coherent.exists_forecast {service : Service} (coherent : Coherent service)
    (routed : Routed service) {id : Int} (kept : (id, railway) ∈ service.railways)
    (moderate : (railway.trains.map fun t => t.route.length).sum < Binary64.safeLength)
    {name comment : Option String}
    (whole : ∀ text ∈ name.toList ++ comment.toList, Text.isWhole text = true) :
    ∃ items allocated granted, Forecast service id name comment items allocated granted := by
  obtain ⟨track, stored, sound, on_sections⟩ := coherent.storedTrack?_of_kept routed kept
  have found := coherent.railway?_of_kept kept
  obtain ⟨granted, count, ran, granted_le, answers⟩ :=
    sound.exists_forecast (targetOf_routeEnds sound)
  -- What the trains hold and request is read back from its data segment by segment.
  have held_stored : ∀ row ∈ railway.trains.map Train.allocation, RunsOver row track :=
    on_sections.pieces Train.start Train.stop
  have ahead_stored : ∀ row ∈ railway.trains.map Train.remaining, RunsOver row track :=
    on_sections.pieces Train.stop fun t => t.route.length
  obtain ⟨row, -, read⟩ := storedTrack?_eq_some stored
  have remaining_lt := Nat.lt_of_le_of_lt sound.lengthOf_remaining_le moderate
  obtain ⟨indicators, allocated⟩ := allocateRoutes_requests held_stored ahead_stored
    (Track.writable_of_ofText read) ran remaining_lt
  obtain ⟨next, saved⟩ := allocateOnTrack_eq_ok (fits_of_storedTrack? stored) stored allocated whole
  have told := isWritable_granted railway.trains (Nat.lt_of_le_of_lt granted_le remaining_lt)
  obtain ⟨moved, shown, extended⟩ := handle_extendTrains_found found (routeEnds railway)
    (answers ▸ told)
  refine ⟨railway.trains.map trainJson, granted.map Segment.rowToJson,
    byTrain Segment.rowToJson (railway.extend (targetOf (routeEnds railway))).2, ?_⟩
  constructor
  · exact handle_listTrains_found found
  · have carried : service.handle (.allocateOnTrack id (routesAhead railway) name comment) = _ :=
      reply_eq_ok_iff.mpr ⟨_, saved, rfl⟩
    exact ⟨_, next, _, request?_runBody id railway name comment, carried, rfl, rfl⟩
  · exact ⟨_, moved, _, request?_endsBody id (few_digits sound moderate), extended, rfl⟩
  · simp [count]
  -- Trains are listed in the order of their identifiers, in which the run grants as well.
  · intro i item shown item_at shown_at
    rw [List.getElem?_map, Option.map_eq_some_iff] at item_at shown_at
    obtain ⟨t, train_at, rfl⟩ := item_at
    obtain ⟨row, row_at, rfl⟩ := shown_at
    constructor
    · rw [← sound.identifier_eq train_at]
      rfl
    · rw [answers]
      exact byTrain_get? sound count row_at

/-- In every state that is reached, a run that is stored from the listing of a track's trains shows
what a move of these trains to the ends of their routes grants. -/
theorem reached_forecast (requests : List Request) {id : Int}
    (kept : (id, railway) ∈ (start.run requests).railways)
    (moderate : (railway.trains.map fun t => t.route.length).sum < Binary64.safeLength)
    (name comment : Option String)
    (whole : ∀ text ∈ name.toList ++ comment.toList, Text.isWhole text = true) :
    ∃ items allocated granted,
      Forecast (start.run requests) id name comment items allocated granted :=
  (coherent_start.run requests).exists_forecast (routed_start.run requests) kept moderate whole

/-- A train whose route is read as it is, and is accepted, is kept. -/
theorem handle_addTrain_found {service opened : Service} {id start stop : Int} {row : List Segment}
    {route : Route} (found : service.railway? id = .ok (some (opened, railway)))
    (track_eq : railway.track = some track) (stored : RunsOver row track)
    (built : Route.build row = .ok route)
    (accepted : railway.rejection? railway.trains.length route start stop = none) :
    let t : Train := ⟨railway.trains.length, route, start.toNat, stop.toNat⟩
    service.handle (.addTrain id (row.map Segment.request) start stop) =
      .ok (opened.keep id ⟨railway.track, railway.trains ++ [t]⟩,
        .data (.object [("train", trainJson t)])) := by
  have read : (row.map Segment.request).mapM
      (fun named => Segment.ofJsonOn railway.track named.toJson) = .ok row := by
    rw [track_eq, Outcome.mapM_eq_ok_iff, List.forall₂_map_left_iff, List.forall₂_same]
    exact fun s s_in => Segment.ofJson_request (stored s s_in)
  refine reply_eq_ok_iff.mpr ⟨_, Operation.outcome_eq_iff.mpr ?_, rfl⟩
  rw [addTrain, leads_withRailway_found found]
  simp only [leads_attempt, Operation.leads_bind, read, built, orFault, Except.mapError,
    Operation.check_ok, Operation.leads_pure, leads_onRailway, Operation.leads_adaptExcept,
    Railway.leads_add, accepted]
  refine ⟨fun _ => trivial, fun rejection refused => ?_⟩
  cases refused

/-- The route of the train that comes from the second end. -/
def homeRoute : Route := ⟨[homeHeld, homeWanted], List.cons_ne_nil _ _, rfl⟩

/-- Two trains that hold the two ends of the section, and want nearly all of the rest. -/
def aheadTrain : Train := ⟨0, Railway.aheadRoute, 0, 3⟩
def homeTrain : Train := ⟨1, homeRoute, 0, 3⟩

/-- Neither of the two is refused: the first train finds the track empty, and the second one is clear of
the first. -/
theorem headOn_accepted (line_stored : Section.line ∈ track.sections) :
    (Railway.empty (some track)).rejection? 0 Railway.aheadRoute 0 3 = none ∧
      Railway.rejection? ⟨some track, [aheadTrain]⟩ 1 homeRoute 0 3 = none := by
  have on_line : track.contains .line = true :=
    (track.contains_iff _).mpr ⟨.line, line_stored, .refl _⟩
  have ahead_on : Railway.aheadRoute.onTrack track = true :=
    Route.onTrack_iff.mpr (List.forall_mem_cons.mpr ⟨on_line, List.forall_mem_singleton.mpr on_line⟩)
  have home_on : homeRoute.onTrack track = true :=
    Route.onTrack_iff.mpr (List.forall_mem_cons.mpr ⟨on_line, List.forall_mem_singleton.mpr on_line⟩)
  have empty := Railway.sound_empty track
  have first : (Railway.empty (some track)).rejection? 0 Railway.aheadRoute 0 3 = none :=
    empty.rejection?_eq_none_iff.mpr
      ⟨ahead_on, by decide, fun u absent => absurd absent List.not_mem_nil⟩
  have one : Railway.Sound track ⟨some track, [aheadTrain]⟩ := empty.add first
  refine ⟨first, one.rejection?_eq_none_iff.mpr ⟨home_on, by decide, fun u member _ => ?_⟩⟩
  obtain rfl := List.mem_singleton.mp member
  unfold ClearOf
  decide

/-- The demonstration's track is stored, and the two trains are put on it. -/
def headOnRequests : List Request := [
  .createTrack "line" demoDefinition,
  .addTrain 1 [⟨"j1", "FACING", 0, 3⟩, ⟨"j1", "FACING", 3, 9⟩] 0 3,
  .addTrain 1 [⟨"j2", "NORMAL", 0, 3⟩, ⟨"j2", "NORMAL", 3, 9⟩] 0 3]

theorem exists_headOn : ∃ track : Track,
    (1, ⟨some track, [aheadTrain, homeTrain]⟩) ∈ (start.run headOnRequests).railways := by
  obtain ⟨track, sections_eq, -, opened⟩ := exists_railway?_demo
  have line_stored : Section.line ∈ track.sections := by simp [sections_eq]
  obtain ⟨first_accepted, second_accepted⟩ := headOn_accepted line_stored
  have ahead_stored : RunsOver [aheadHeld, aheadWanted] track :=
    List.forall_mem_cons.mpr ⟨line_stored, List.forall_mem_singleton.mpr line_stored⟩
  have home_stored : RunsOver [homeHeld, homeWanted] track :=
    List.forall_mem_cons.mpr ⟨line_stored, List.forall_mem_singleton.mpr line_stored⟩
  have ahead_built : Route.build [aheadHeld, aheadWanted] = .ok Railway.aheadRoute := rfl
  have home_built : Route.build [homeHeld, homeWanted] = .ok homeRoute := rfl
  let stored := (start.run [.createTrack "line" demoDefinition]).keep 1 (Railway.empty (some track))
  have first := after_of_handle
    (handle_addTrain_found opened rfl ahead_stored ahead_built first_accepted)
  have second := after_of_handle
    (handle_addTrain_found (railway?_keep stored 1 _) rfl home_stored home_built second_accepted)
  have reached : start.run headOnRequests =
      (stored.keep 1 ⟨some track, [aheadTrain]⟩).keep 1 ⟨some track, [aheadTrain, homeTrain]⟩ :=
    (congrArg (fun service => Service.after service _) first).trans second
  refine ⟨track, ?_⟩
  rw [reached]
  exact List.mem_cons_self

/-- Two trains want the same part of the section. The run grants to each of them what the move
grants. -/
theorem reached_forecast_headOn :
    ∃ railway, (1, railway) ∈ (start.run headOnRequests).railways ∧
      railway.trains = [aheadTrain, homeTrain] ∧
      ∃ items allocated granted,
        Forecast (start.run headOnRequests) 1 (some "night") none items allocated granted := by
  obtain ⟨track, kept⟩ := exists_headOn
  have moderate : ([aheadTrain, homeTrain].map fun t => t.route.length).sum <
      Binary64.safeLength := by decide +kernel
  exact ⟨_, kept, rfl, reached_forecast _ kept moderate (some "night") none (by decide)⟩

end Trackage.Service
