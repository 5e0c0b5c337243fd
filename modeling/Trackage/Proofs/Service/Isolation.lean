import Trackage.Proofs.Service.Numbering
import Trackage.Proofs.Service.Refusal

/-!
Tracks are kept apart. A request that does not name a track in its address leaves the row of the
track, its runs and its trains as they are, unless it deletes one of these runs. All that shows them
is therefore answered as before.
-/

namespace Trackage

/-- The track that the address of a request names. -/
def Request.track? : Request → Option Int
  | .showTrack track | .updateTrack track _ _ | .deleteTrack track
  | .allocateOnTrack track _ _ _ | .listRuns track _ _ | .addTrain track _ _ _
  | .listTrains track | .updateTrain track _ _ _ | .extendTrains track _ => some track
  | .demo | .allocate .. | .compareLocations .. | .createTrack .. | .listTracks ..
  | .showRun _ | .deleteRun _ | .runTable _ => none

theorem Request.track?_of_trainsOf? {request : Request} {id : Int}
    (asked : request.trainsOf? = some id) : request.track? = some id := by
  cases request <;> first | exact asked | cases asked

/-- What is done with the cell of a number is done with the number itself. -/
theorem Cell.ofInt_bind_congr {α : Type} {id : Int} {f g : Cell → Except Fault α}
    (same : f (.integer id) = g (.integer id)) : (ofInt id >>= f) = (ofInt id >>= g) := by
  cases made : ofInt id with
  | error fault => rfl
  | ok key =>
    obtain ⟨rfl, -⟩ := ofInt_eq_ok made
    exact same

namespace Store

variable {store : Store} {id : Int}

/-- The runs of a track with their numbers, the newest first. -/
def runsOf (store : Store) (id : Int) : List (Nat × StoredRun) :=
  store.runs.rows.filter fun row => row.2.track.isFoundBy (.integer id)

/-- Where runs name tracks by number, the runs of a track are those that name it. -/
theorem Rooted.names_of_found (rooted : store.Rooted) {n : Nat} {run : StoredRun}
    (member : (n, run) ∈ store.runs.rows) (found : run.track.isFoundBy (.integer id) = true) :
    run.track = .integer id := by
  obtain ⟨other, row, names, -⟩ := rooted n run member
  rw [names] at found ⊢
  rw [Cell.isFoundBy_integer.mp found]

/-- Deleting another track takes no run of this one. -/
theorem Rooted.runsOf_deleteTrack (rooted : store.Rooted) {other : Int} (different : other ≠ id) :
    (store.deleteTrack (.integer other)).1.runsOf id = store.runsOf id := by
  unfold runsOf
  change (store.runs.rows.filter _).filter _ = _
  rw [List.filter_filter]
  apply List.filter_congr
  rintro ⟨n, run⟩ member
  cases found : run.track.isFoundBy (.integer id) with
  | false => rfl
  | true =>
    have names := rooted.names_of_found member found
    have kept : run.track.isFoundBy (.integer other) = false := by
      rw [← Bool.not_eq_true, names, Cell.isFoundBy_integer]
      exact different.symm
    simp [kept]

/-- Deleting a run of another track takes no run of this one. -/
theorem Rooted.runsOf_deleteRun (rooted : store.Rooted) {number : Int}
    (others : ∀ run, store.runs.get? number = some run → run.track ≠ .integer id) :
    (store.deleteRun (.integer number)).1.runsOf id = store.runsOf id := by
  rw [deleteRun_integer]
  unfold runsOf
  change (store.runs.rows.filter _).filter _ = _
  rw [List.filter_filter]
  apply List.filter_congr
  rintro ⟨n, run⟩ member
  cases found : run.track.isFoundBy (.integer id) with
  | false => rfl
  | true =>
    have names := rooted.names_of_found member found
    have kept : (n : Int) ≠ number := fun same =>
      others run (Table.get?_eq_some_iff.mpr ⟨n, same, member⟩) names
    simp [kept]

/-- A new run of another track is not among the runs of this one. -/
theorem runsOf_saveRun {run : StoredRun} {other : Int} (names : run.track = .integer other)
    (different : other ≠ id) : (store.saveRun run).1.runsOf id = store.runsOf id := by
  apply List.filter_cons_of_neg
  rw [names, Cell.isFoundBy_integer]
  exact different

theorem get?_of_mem_runsOf {n : Nat} {run : StoredRun} (member : (n, run) ∈ store.runsOf id) :
    store.runs.get? n = some run :=
  Table.get?_eq_some_iff.mpr ⟨n, rfl, (List.mem_filter.mp member).1⟩

end Store

namespace Service

variable {service next : Service} {id : Int}

/-- The row, the runs and the railway of a track are in the second service what they are in the
first. -/
structure Untouched (service next : Service) (id : Int) : Prop where
  row : next.store.tracks.get? id = service.store.tracks.get? id
  runs : next.store.runsOf id = service.store.runsOf id
  kept : next.railways.find? (·.1 == id) = service.railways.find? (·.1 == id)

/-- Whatever is kept of another railway that was looked up. -/
theorem untouched_of_opened {other : Int} {railway changed : Railway}
    (found : service.railway? other = .ok (some (next, railway))) (different : id ≠ other) :
    Untouched service (next.keep other changed) id := by
  have store_eq := (railway?_frame found).1
  constructor
  · change next.store.tracks.get? id = _
    rw [store_eq]
  · change next.store.runsOf id = _
    rw [store_eq]
  · rw [find?_keep_of_ne different, find?_of_opened found different]

/-- A step touches nothing of a track that its request does not name. -/
theorem Step.untouched {request : Request} (stepped : Step service request next)
    (rooted : service.store.Rooted) {row : StoredTrack}
    (stored : service.store.tracks.get? id = some row) (elsewhere : request.track? ≠ some id)
    (others : ∀ number run, request = .deleteRun number →
      service.store.runs.get? number = some run → run.track ≠ .integer id) :
    Untouched service next id := by
  have named {other : Int} (names : request.track? = some other) : other ≠ id := by
    rintro rfl
    exact elsewhere names
  cases stepped with
  | unchanged => exact ⟨rfl, rfl, rfl⟩
  | allocated => exact ⟨rfl, rfl, rfl⟩
  | created name read =>
    -- The new row stands under a number of its own.
    exact ⟨(Table.get?_insert stored _).trans stored.symm, rfl, rfl⟩
  | @renamed other =>
    have different := named rfl
    exact ⟨by rw [Table.get?_modify, if_neg different.symm], rfl, rfl⟩
  | @redefined other =>
    have different := named rfl
    refine ⟨?_, rfl, find?_forget_of_ne different.symm⟩
    change (service.store.tracks.modify _ _).get? id = _
    rw [Table.get?_modify, if_neg different.symm]
  | deleted other =>
    have different := named rfl
    refine ⟨?_, rooted.runsOf_deleteTrack different, find?_forget_of_ne different.symm⟩
    change (service.store.deleteTrack _).1.tracks.get? id = _
    rw [Store.deleteTrack_tracks, Table.get?_erase, if_neg different.symm]
  | ran routes name comment event found names =>
    exact ⟨rfl, Store.runsOf_saveRun names (named rfl), rfl⟩
  | runDeleted number =>
    refine ⟨?_, rooted.runsOf_deleteRun fun run => others number run rfl, rfl⟩
    rw [Store.deleteRun_integer]
  | opened asked found =>
    have different := named (Request.track?_of_trainsOf? asked)
    have store_eq := (railway?_frame found).1
    exact ⟨by rw [store_eq], by rw [store_eq], find?_of_opened found different.symm⟩
  | moved asked found =>
    have different := named (Request.track?_of_trainsOf? asked)
    exact untouched_of_opened found different.symm
  | extended targets event found =>
    obtain ⟨same_row, same_runs, same_railway⟩ := untouched_of_opened found (named rfl).symm
    exact ⟨same_row, same_runs, same_railway⟩

/-- The requests that show a track, its trains or its runs. -/
inductive Shows (service : Service) (id : Int) : Request → Prop
  | track : Shows service id (.showTrack id)
  | trains : Shows service id (.listTrains id)
  | runs (offset limit : Int) : Shows service id (.listRuns id offset limit)
  | run {n : Nat} {run : StoredRun} (member : (n, run) ∈ service.store.runsOf id) :
    Shows service id (.showRun n)
  | runTable {n : Nat} {run : StoredRun} (member : (n, run) ∈ service.store.runsOf id) :
    Shows service id (.runTable n)

theorem look_congr {view : Service → Except Fault Json} (same : view next = view service) :
    ((look view).outcome next).map Prod.snd = ((look view).outcome service).map Prod.snd := by
  rw [look_outcome, look_outcome, same]
  cases view service <;> rfl

/-- What a run is shown as depends on its row alone. -/
theorem showRun_congr {number : Int}
    (same : next.store.runs.get? number = service.store.runs.get? number) :
    next.showRun number = service.showRun number ∧ next.runTable number = service.runTable number := by
  constructor <;>
  · apply Cell.ofInt_bind_congr
    simp only [Store.getRun, Store.rowAt?_integer, same]

namespace Untouched

theorem storedTrack?_eq (untouched : Untouched service next id) :
    next.storedTrack? id = service.storedTrack? id := by
  rw [Service.storedTrack?_eq, Service.storedTrack?_eq, untouched.row]

theorem railway?_eq (untouched : Untouched service next id) :
    (next.railway? id).map (Option.map Prod.snd) =
      (service.railway? id).map (Option.map Prod.snd) := by
  unfold railway?
  rw [untouched.kept, untouched.storedTrack?_eq]
  cases service.railways.find? (·.1 == id) with
  | some kept => rfl
  | none => rcases service.storedTrack? id with fault | (_ | track) <;> rfl

theorem showTrack_eq (untouched : Untouched service next id) :
    next.showTrack id = service.showTrack id := by
  apply Cell.ofInt_bind_congr
  simp only [Store.getTrack, Store.rowAt?_integer, untouched.row]

theorem listRuns_eq (untouched : Untouched service next id) (offset limit : Int) :
    next.listRuns id offset limit = service.listRuns id offset limit := by
  have same (offset limit : Cell) : next.store.listRuns (.integer id) offset limit =
      service.store.listRuns (.integer id) offset limit := by
    change Store.page (next.store.runsOf id) offset limit =
      Store.page (service.store.runsOf id) offset limit
    rw [untouched.runs]
  apply Cell.ofInt_bind_congr
  simp only [same]

theorem run_eq (untouched : Untouched service next id) {n : Nat} {run : StoredRun}
    (member : (n, run) ∈ service.store.runsOf id) :
    next.store.runs.get? n = service.store.runs.get? n := by
  rw [Store.get?_of_mem_runsOf member]
  exact Store.get?_of_mem_runsOf (untouched.runs ▸ member)

/-- What shows a track is answered alike. -/
theorem reply_eq (untouched : Untouched service next id) {view : Request}
    (shows : Shows service id view) :
    (next.handle view).map Prod.snd = (service.handle view).map Prod.snd := by
  cases shows with
  | track => exact look_congr untouched.showTrack_eq
  | trains => rw [handle_listTrains, handle_listTrains, untouched.railway?_eq]
  | runs offset limit => exact look_congr (untouched.listRuns_eq offset limit)
  | run member => exact look_congr (showRun_congr (untouched.run_eq member)).1
  | @runTable n run member =>
    rw [handle_runTable, handle_runTable, (showRun_congr (untouched.run_eq member)).2]
    cases service.runTable n <;> rfl

end Untouched

/-- In every state that is reached, a request that does not name a stored track in its address, and
does not delete a run of it, leaves its row, its runs and its trains as they were, and so all that shows
them. -/
theorem other_track_untouched (requests : List Request) {request : Request} {id : Int}
    {row : StoredTrack} (stored : (start.run requests).store.tracks.get? id = some row)
    (elsewhere : request.track? ≠ some id)
    (others : ∀ number run, request = .deleteRun number →
      (start.run requests).store.runs.get? number = some run → run.track ≠ .integer id) :
    let reached := start.run requests
    let next := reached.after request
    next.store.tracks.get? id = some row ∧
      next.store.runsOf id = reached.store.runsOf id ∧
      (next.railway? id).map (Option.map Prod.snd) =
        (reached.railway? id).map (Option.map Prod.snd) ∧
      ∀ view, Shows reached id view →
        (next.handle view).map Prod.snd = (reached.handle view).map Prod.snd := by
  intro reached next
  have rooted : reached.store.Rooted :=
    rooted_run (fun _ _ absent => absurd absent List.not_mem_nil) requests
  have untouched := (reached.step_after request).untouched rooted stored elsewhere others
  exact ⟨untouched.row.trans stored, untouched.runs, untouched.railway?_eq,
    fun view shows => untouched.reply_eq shows⟩

/-- Of two tracks with the same definition one is deleted, and the other is shown as before. -/
theorem other_track_untouched_twin :
    let reached := start.run
      [.createTrack "line" demoDefinition, .createTrack "line" demoDefinition]
    let next := reached.after (.deleteTrack 2)
    reached.store.tracks.get? 1 = some ⟨"line", demoDefinition⟩ ∧
      next.store.tracks.get? 2 = none ∧
      next.store.tracks.get? 1 = some ⟨"line", demoDefinition⟩ ∧
      (next.handle (.listTrains 1)).map Prod.snd = (reached.handle (.listTrains 1)).map Prod.snd := by
  intro reached next
  have first := after_of_handle start.handle_createTrack_demo
  have second := after_of_handle
    (handle_createTrack_demo { start with store := (start.store.saveTrack "line" demoDefinition).1 })
  have stored : reached.store.tracks.get? 1 = some ⟨"line", demoDefinition⟩ := by
    simp only [reached, run, List.foldl_cons, List.foldl_nil, first, second]
    rfl
  have gone : next.store.tracks.get? 2 = none := by
    change (reached.store.deleteTrack (.integer 2)).1.tracks.get? 2 = none
    rw [Store.deleteTrack_tracks, Table.get?_erase, if_pos rfl]
  have elsewhere : (Request.deleteTrack 2).track? ≠ some 1 := by decide
  obtain ⟨row_left, -, -, shown⟩ := other_track_untouched
    [.createTrack "line" demoDefinition, .createTrack "line" demoDefinition]
    stored elsewhere (fun _ _ other => by cases other)
  exact ⟨stored, gone, row_left, shown _ .trains⟩

end Service

end Trackage
