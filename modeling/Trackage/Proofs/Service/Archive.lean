import Trackage.Proofs.Payload.Kept
import Trackage.Proofs.Service.Isolation
import Trackage.Proofs.Service.OneShot

/-!
Stored runs. A run stays as it was stored until it or its track is deleted, whatever is asked for in
the meantime, and it is shown as the allocation was answered.
-/

namespace Trackage

theorem lengthsByTrain_trains (requested granted : List (List Segment)) :
    (lengthsByTrain requested granted).map TrainLengths.train =
      List.range (lengthsByTrain requested granted).length := by
  unfold lengthsByTrain
  rw [List.map_map, List.length_map, List.length_zipIdx, List.range_eq_range',
    ← List.zipIdx_map_snd]
  rfl

namespace Service

variable {service next : Service} {request : Request} {id number : Int} {run : StoredRun}

/-- No step changes a run, and only the deletions of the run and of its track take it away. -/
theorem Step.run_kept (stepped : Step service request next)
    (stored : service.store.runs.get? number = some run) (names : run.track = .integer id)
    (run_left : request ≠ .deleteRun number) (track_left : request ≠ .deleteTrack id) :
    next.store.runs.get? number = some run := by
  cases stepped with
  | unchanged | allocated | created | renamed | redefined => exact stored
  | deleted other =>
    obtain ⟨n, rfl, member⟩ := Table.get?_eq_some_iff.mp stored
    have different : id ≠ other := by
      rintro rfl
      exact track_left rfl
    refine Table.get?_eq_some_iff.mpr ⟨n, rfl, List.mem_filter.mpr ⟨member, ?_⟩⟩
    have not_found : run.track.isFoundBy (.integer other) = false := by
      rw [← Bool.not_eq_true, names, Cell.isFoundBy_integer]
      exact different
    simp [not_found]
  | ran => exact Table.get?_insert stored _
  | runDeleted other =>
    have different : number ≠ other := by
      rintro rfl
      exact run_left rfl
    rw [Store.deleteRun_integer, Table.get?_erase, if_neg different, stored]
  | opened asked found | moved asked found | extended targets event found =>
    have store_eq := (railway?_frame found).1
    exact store_eq ▸ stored

/-- A run is there until it or its track is deleted. -/
theorem run_kept (names : run.track = .integer id)
    (stored : service.store.runs.get? number = some run) (later : List Request)
    (run_left : .deleteRun number ∉ later) (track_left : .deleteTrack id ∉ later) :
    (service.run later).store.runs.get? number = some run := by
  induction later generalizing service with
  | nil => exact stored
  | cons request later ih =>
    rw [List.mem_cons, not_or] at run_left track_left
    apply ih _ run_left.2 track_left.2
    exact (service.step_after request).run_kept stored names (Ne.symm run_left.1)
      (Ne.symm track_left.1)

theorem handle_showRun_eq_ok (fits : Cell.fits number = true)
    (stored : service.store.runs.get? number = some run) :
    service.handle (.showRun number) =
      .ok (service, .data (.object [("run", run.toJson number)])) := by
  have key : Cell.ofInt number = .ok (.integer number) := Cell.ofInt_of_fits fits
  have shown : service.showRun number = .ok (.object [("run", run.toJson number)]) := by
    simp only [showRun, key, bind, Except.bind, Store.getRun, Store.rowAt?_integer, stored,
      Option.map_some]
    rfl
  change (look _).outcome service = _
  rw [look_outcome, shown]
  rfl

/-- The table of a run has a line for each of its rows. -/
theorem handle_runTable_eq_ok (fits : Cell.fits number = true)
    (stored : service.store.runs.get? number = some run) {rows : List TrainLengths}
    (by_train : run.indicators.getD "by_train" = .ofList TrainLengths.toJson rows) :
    service.handle (.runTable number) = .ok (service, .table
      (tableLine runColumns ++ String.join (rows.map fun row =>
        tableLine [toString row.train, toString row.requested, toString row.granted]))
      (some s!"run_{number}_allocation.csv")) := by
  have key : Cell.ofInt number = .ok (.integer number) := Cell.ofInt_of_fits fits
  have shown : service.runTable number = .ok (.table
      (tableLine runColumns ++ String.join (rows.map fun row =>
        tableLine [toString row.train, toString row.requested, toString row.granted]))
      (some s!"run_{number}_allocation.csv")) := by
    simp only [runTable, key, bind, Except.bind, Store.getRun, Store.rowAt?_integer, stored,
      Option.map_some, by_train, Json.ofList, Json.array?, Option.getD_some, List.map_map]
    rfl
  rw [handle_runTable, shown]
  rfl

/-- What an allocation stores, and what it is answered. -/
theorem exists_stored_of_run_id {routes : RoutesRequest} {name comment : Option String} {body : Json}
    (answered : service.handle (.allocateOnTrack id routes name comment) = .ok (next, .data body))
    (numbered : body.get? "run_id" = some (.int number)) :
    ∃ track fields, service.storedTrack? id = .ok (some track) ∧
      allocateRoutes track routes = .ok fields ∧
      body = .object (("run_id", .int number) :: fields) ∧
      next.store.runs.get? number = some (ranOn id routes name comment fields) := by
  obtain ⟨_, ran, same⟩ := reply_eq_ok_iff.mp answered
  cases same
  rcases leads_allocateOnTrack.of_outcome ran with
    ⟨run, fields, event, rfl, rfl, rfl, track, stored, allocated⟩ | ⟨-, rfl | ⟨fault, rfl⟩⟩
  · cases numbered
    exact ⟨track, fields, stored, allocated, rfl, Table.get?_insert_nextId _⟩
  · cases numbered
  · rw [errorBody_get? fault (by decide) (by decide)] at numbered
    cases numbered

/-- The run that is stored of an allocation is read back from its columns. -/
theorem run_toRow_ranOn {track : Track} {routes : RoutesRequest} {fields : List (String × Json)}
    (stored : service.storedTrack? id = .ok (some track))
    (allocated : allocateRoutes track routes = .ok fields)
    (writable : (Json.object fields).isWritable = true) (name comment : Option String) :
    (ranOn id routes name comment fields).toRow.run = .ok (ranOn id routes name comment fields) := by
  obtain ⟨row, -, read⟩ := storedTrack?_eq_some stored
  have sections := Track.writable_of_ofText read
  have routes_writable : ∀ row ∈ routes.occupied ++ routes.requested, ∀ named ∈ row,
      Text.isWritable named.start = true ∧ Text.isWritable named.stop = true := by
    obtain ⟨_, occupied_read, rest⟩ := Outcome.bind_eq_ok_iff.mp allocated
    obtain ⟨_, requested_read, -⟩ := Outcome.bind_eq_ok_iff.mp rest
    exact List.forall_mem_append.mpr ⟨writable_of_routesOfJson sections occupied_read,
      writable_of_routesOfJson sections requested_read⟩
  obtain ⟨requested, granted, indicators, some_indicators, rfl⟩ := allocateRoutes_eq_ok allocated
  simp only [Json.isWritable_object, List.forall_mem_cons] at writable
  obtain ⟨allocation, shares, by_train, -⟩ := writable
  apply StoredRun.run_toRow
  · exact RoutesRequest.keepable_toJson routes_writable
  · exact keepable_allocation allocation
  · exact keepable_indicators (isStandard_grantRatio some_indicators) shares by_train

/-- A train that holds three units of the section of the demonstration and requests the next six. -/
def aheadRoutes : RoutesRequest :=
  ⟨[[⟨"j1", "FACING", 0, 3⟩]], [[⟨"j1", "FACING", 3, 9⟩]]⟩

/-- The train is granted all that it requests. -/
def aheadFields : List (String × Json) := [
  ("allocated", .ofList Segment.rowToJson [[aheadWanted]]),
  ("kpis", Indicators.toJson ⟨1, 1, 0, 0, 6, 6, Binary64.ofNat 100⟩),
  ("by_train", .ofList TrainLengths.toJson [⟨0, 6, 6⟩])]

theorem allocateRoutes_ahead {track : Track} (sections_eq : track.sections = [.line]) :
    allocateRoutes track aheadRoutes = .ok aheadFields := by
  have line_stored : Section.line ∈ track.sections := by
    rw [sections_eq]
    exact List.mem_cons_self
  have on_line : track.contains .line = true :=
    (track.contains_iff _).mpr ⟨.line, line_stored, .refl _⟩
  have read (s : Segment) (on : s.on = .line) :
      routesOfJson track (rowsToJson ([[s]].map (·.map Segment.request))) = .ok [[s]] :=
    routesOfJson_requests (by simpa [on] using line_stored)
  have valid : Scenario.Valid track [[aheadHeld]] [[aheadWanted]] := by
    refine ⟨rfl, ?_, ?_, ?_, List.pairwise_singleton _ _⟩
    · simpa using ⟨on_line, on_line⟩
    · simpa using Route.exists_build_singleton aheadHeld
    · simpa using Route.exists_build_singleton aheadWanted
  have free : LocationSet.empty.isDisjoint aheadWanted.locations = true := by
    simp [LocationSet.isDisjoint_iff, LocationSet.contains_iff, LocationSet.empty]
  have granted : allocate? [[aheadHeld]] [[aheadWanted]] = some [[aheadWanted]] := by
    simp [allocate?, grantFrom?, forbiddenFor, grant, free]
  have ran : Scenario.run track [[aheadHeld]] [[aheadWanted]] = .ok [[aheadWanted]] := by
    rw [Scenario.run_eq_ok_iff, granted]
    exact ⟨Scenario.check_eq_ok_iff_valid.mpr valid, rfl⟩
  have indicators : Indicators.of? [[aheadWanted]] [[aheadWanted]] =
      some ⟨1, 1, 0, 0, 6, 6, Binary64.ofNat 100⟩ := by decide +kernel
  have shown : allocationToJson [[aheadWanted]] [[aheadWanted]] = .ok aheadFields := by
    have rows_shown := Segment.rowsShown_eq_ok_iff.mpr
      ⟨(by decide +kernel : ∀ row ∈ [[aheadWanted]], ∀ s ∈ row, s.isWritable = true), rfl⟩
    refine Outcome.bind_eq_ok_iff.mpr ⟨_, rows_shown, ?_⟩
    rw [indicators]
    rfl
  apply Outcome.bind_eq_ok_iff.mpr ⟨_, read aheadHeld rfl, ?_⟩
  apply Outcome.bind_eq_ok_iff.mpr ⟨_, read aheadWanted rfl, ?_⟩
  exact Outcome.bind_eq_ok_iff.mpr ⟨_, Outcome.mapError_eq_ok_iff.mpr ran, shown⟩

/-- An allocation that is answered with the number of a run can be looked at until the run or its
track is deleted, under every number that an integer column can hold. It is shown with the routes, the
name and the comment that were sent, the allocation that was answered, and the indicators that were
answered with the lengths train by train among them; the table of the run has a line for each train in
order. What is shown of an answer that can be written is what the columns of texts hold of the run. -/
theorem stored_run_shown (service : Service) {id : Int} {routes : RoutesRequest}
    {name comment : Option String} {next : Service} {body : Json} {number : Int}
    (answered : service.handle (.allocateOnTrack id routes name comment) = .ok (next, .data body))
    (numbered : body.get? "run_id" = some (.int number)) (fits : Cell.fits number = true)
    (later : List Request) (run_left : .deleteRun number ∉ later)
    (track_left : .deleteTrack id ∉ later) :
    let final := next.run later
    ∃ run allocation indicators rows,
      body = .object [("run_id", .int number), ("allocated", allocation),
        ("kpis", .object indicators), ("by_train", .ofList TrainLengths.toJson rows)] ∧
      final.store.runs.get? number = some run ∧
      (body.isWritable = true → run.toRow.run = .ok run) ∧
      run.toJson number = .object [
        ("id", .int number), ("track_id", .int id), ("name", .ofOption .string name),
        ("comment", .ofOption .string comment), ("input_payload", routes.toJson),
        ("allocation", allocation),
        ("kpis", .object (indicators ++ [("by_train", .ofList TrainLengths.toJson rows)]))] ∧
      final.handle (.showRun number) =
        .ok (final, .data (.object [("run", run.toJson number)])) ∧
      rows.map TrainLengths.train = List.range rows.length ∧
      final.handle (.runTable number) = .ok (final, .table
        (tableLine runColumns ++ String.join (rows.map fun row =>
          tableLine [toString row.train, toString row.requested, toString row.granted]))
        (some s!"run_{number}_allocation.csv")) := by
  intro final
  obtain ⟨track, fields, track_stored, allocated, rfl, stored⟩ :=
    exists_stored_of_run_id answered numbered
  have read_back (writable : (Json.object fields).isWritable = true) :=
    run_toRow_ranOn track_stored allocated writable name comment
  obtain ⟨requested, granted, indicators, -, rfl⟩ := allocateRoutes_eq_ok allocated
  have kept := run_kept rfl stored later run_left track_left
  refine ⟨_, _, _, lengthsByTrain requested granted, rfl, kept, fun writable => read_back ?_, rfl,
    handle_showRun_eq_ok fits kept, lengthsByTrain_trains requested granted,
    handle_runTable_eq_ok fits kept rfl⟩
  rw [Json.isWritable_object, List.forall_mem_cons] at writable
  exact Json.isWritable_object.mpr writable.2

/-- The run of the train is shown, and read back, after its track was renamed. -/
theorem stored_run_shown_renamed :
    let reached := start.run [.createTrack "line" demoDefinition]
    let later : List Request := [.updateTrack 1 (some "ring") none, .listTrains 1]
    let body := Json.object (("run_id", .int 1) :: aheadFields)
    ∃ (next : Service) (run : StoredRun),
      reached.handle (.allocateOnTrack 1 aheadRoutes (some "night") none) =
        .ok (next, .data body) ∧
      body.isWritable = true ∧ run.toRow.run = .ok run ∧
      (next.run later).handle (.showRun 1) =
        .ok (next.run later, .data (.object [("run", run.toJson 1)])) := by
  intro reached later body
  obtain ⟨track, read, sections_eq, text_eq⟩ := exists_demo_track
  have reached_eq : reached =
      { start with store := (start.store.saveTrack "line" demoDefinition).1 } :=
    after_of_handle start.handle_createTrack_demo
  have room : Cell.fits start.store.tracks.nextId = true := by decide
  obtain ⟨again, same, stored⟩ := exists_storedTrack?_saved room read "line"
  rw [text_eq, ← reached_eq] at stored
  have whole : ∀ text ∈ (some "night").toList ++ (none : Option String).toList,
      Text.isWhole text = true := by decide
  obtain ⟨next, ran⟩ := allocateOnTrack_eq_ok room stored
    (allocateRoutes_ahead (same.trans sections_eq)) whole
  have number : reached.store.runs.nextId = 1 := by
    rw [reached_eq]
    rfl
  rw [number] at ran
  have answered : reached.handle (.allocateOnTrack 1 aheadRoutes (some "night") none) =
      .ok (next, .data body) := reply_eq_ok_iff.mpr ⟨_, ran, rfl⟩
  have writable : body.isWritable = true := by decide +kernel
  obtain ⟨run, _, _, _, -, -, read_back, -, shown, -⟩ :=
    stored_run_shown reached answered rfl (by decide) later (by decide) (by decide)
  exact ⟨next, run, answered, writable, read_back writable, shown⟩

end Service

end Trackage
