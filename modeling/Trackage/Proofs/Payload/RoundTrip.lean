import Trackage.Payload.Shape
import Trackage.Service.Body
import Trackage.Proofs.Outcome
import Trackage.Proofs.Segment.Locations

/-!
Segments as data and back. What a track has connected at an end-point is found again by the
end-point alone, so that a segment which is written is read as itself, also by way of a request that
keeps only its end-point and its offsets.
-/

namespace Trackage

theorem Branch.ofText?_upper_text (b : Branch) : Branch.ofText? (Text.upper b.text) = some b := by
  cases b <;> decide

namespace EndPoint

/-- What is read of an end-point that has both its fields, as texts. -/
theorem ofJson_of_fields {data : Json} {junction branch : String}
    (junction_given : data.field "junction" = .ok (.string junction))
    (branch_given : data.field "branch" = .ok (.string branch)) :
    ofJson data =
      match Branch.ofText? (Text.upper branch) with
      | none => .error (.domain
          (.unknownBranch (Json.string branch).display (data.getD "junction").display))
      | some branch => .ok ⟨junction, branch⟩ := by
  unfold ofJson
  rw [branch_given, junction_given]
  change (match Branch.ofText? (Text.upper branch) with | none => _ | some branch => _) = _
  cases Branch.ofText? (Text.upper branch) <;> rfl

theorem ofJson_departingJson (junction branch : String) :
    ofJson (departingJson junction branch) =
      match Branch.ofText? (Text.upper branch) with
      | none => .error (.domain
          (.unknownBranch (Json.string branch).display (Json.string junction).display))
      | some branch => .ok ⟨junction, branch⟩ :=
  ofJson_of_fields rfl rfl

theorem ofJson_toJson (e : EndPoint) : ofJson e.toJson = .ok e := by
  change ofJson (departingJson e.junction e.branch.text) = _
  rw [ofJson_departingJson, Branch.ofText?_upper_text]

theorem sectionOn_eq_ok_iff {track : Option Track} {e : EndPoint} {s : Section} :
    e.sectionOn track = .ok s ↔ ∃ t, track = some t ∧ s ∈ t.sections ∧ e ∈ s.ends := by
  unfold sectionOn
  cases track with
  | none => simp
  | some track =>
    simp only [Option.some.injEq, exists_eq_left', ← track.sectionAt?_eq_some_iff]
    cases track.sectionAt? e <;> simp

theorem domain_of_departingJson_error {junction branch : String} {fault : Fault}
    (failed : ofJson (departingJson junction branch) = .error fault) :
    ∃ error, fault = .domain error := by
  rw [ofJson_departingJson] at failed
  split at failed <;> cases failed
  exact ⟨_, rfl⟩

theorem domain_of_sectionOn_error {track : Track} {e : EndPoint} {fault : Fault}
    (failed : e.sectionOn (some track) = .error fault) : ∃ error, fault = .domain error := by
  unfold sectionOn at failed
  dsimp only at failed
  split at failed <;> cases failed
  exact ⟨_, rfl⟩

end EndPoint

namespace Segment

/-- What is read of a segment whose offsets are whole numbers. -/
theorem ofJson_of_fields {track : Track} {data departing : Json} {start stop : Int}
    (departing_given : data.field "departing" = .ok departing)
    (start_given : data.field "start" = .ok (.int start))
    (stop_given : data.field "end" = .ok (.int stop)) :
    ofJson track data = (do
      let departing ← EndPoint.ofJson departing
      let on ← departing.sectionOn (some track)
      (build on departing start stop).mapError fun error => .domain (.segment error)) := by
  unfold ofJson ofJsonOn
  rw [departing_given, start_given, stop_given]
  rfl

/-- A segment that is read runs over a section of the track, as the track has it. -/
theorem on_mem_of_ofJsonOn {track : Option Track} {data : Json} {s : Segment}
    (read : ofJsonOn track data = .ok s) : ∃ t, track = some t ∧ s.on ∈ t.sections := by
  -- The section is looked up after the end-point is read, and before the offsets are.
  obtain ⟨_, -, rest⟩ := Outcome.bind_eq_ok_iff.mp read
  obtain ⟨departing, -, rest⟩ := Outcome.bind_eq_ok_iff.mp rest
  obtain ⟨on, found, rest⟩ := Outcome.bind_eq_ok_iff.mp rest
  obtain ⟨_, -, rest⟩ := Outcome.bind_eq_ok_iff.mp rest
  obtain ⟨_, -, rest⟩ := Outcome.bind_eq_ok_iff.mp rest
  obtain ⟨_, -, rest⟩ := Outcome.bind_eq_ok_iff.mp rest
  obtain ⟨_, -, built⟩ := Outcome.bind_eq_ok_iff.mp rest
  obtain ⟨t, track_eq, stored, -⟩ := EndPoint.sectionOn_eq_ok_iff.mp found
  obtain ⟨on_eq, -⟩ := build_eq_ok_iff.mp (Outcome.mapError_eq_ok_iff.mp built)
  exact ⟨t, track_eq, on_eq ▸ stored⟩

/-- A segment as a request names it. -/
def request (s : Segment) : SegmentRequest :=
  ⟨s.departing.junction, s.departing.branch.text, s.start, s.stop⟩

/-- A request keeps of a segment what names it, and passes over the rest of what is shown. -/
theorem segment?_toJson (s : Segment) : Service.segment? s.toJson = some s.request := rfl

/-- A segment over a section as the track has it is read as itself from the fields that name it. -/
theorem ofJson_eq_self {track : Track} {s : Segment} (stored : s.on ∈ track.sections) {data : Json}
    (departing_given : data.field "departing" = .ok s.departing.toJson)
    (start_given : data.field "start" = .ok (.natural s.start))
    (stop_given : data.field "end" = .ok (.natural s.stop)) : ofJson track data = .ok s := by
  rw [ofJson_of_fields departing_given start_given stop_given]
  refine Outcome.bind_eq_ok_iff.mpr ⟨s.departing, s.departing.ofJson_toJson, ?_⟩
  have found := EndPoint.sectionOn_eq_ok_iff.mpr ⟨track, rfl, stored, s.departing_mem⟩
  refine Outcome.bind_eq_ok_iff.mpr ⟨s.on, found, Outcome.mapError_eq_ok_iff.mpr ?_⟩
  exact build_eq_ok_iff.mpr ⟨rfl, rfl, rfl, rfl⟩

theorem ofJson_request {track : Track} {s : Segment} (stored : s.on ∈ track.sections) :
    ofJson track s.request.toJson = .ok s := ofJson_eq_self stored rfl rfl rfl

theorem ofJson_named (track : Track) (named : SegmentRequest) :
    ofJson track named.toJson = (do
      let departing ← EndPoint.ofJson (departingJson named.junction named.branch)
      let on ← departing.sectionOn (some track)
      (build on departing named.start named.stop).mapError fun error => .domain (.segment error)) :=
  ofJson_of_fields rfl rfl rfl

theorem length_of_ofJson {track : Track} {named : SegmentRequest} {s : Segment}
    (read : ofJson track named.toJson = .ok s) : s.length = (named.stop - named.start).toNat := by
  rw [ofJson_named] at read
  obtain ⟨departing, -, read⟩ := Outcome.bind_eq_ok_iff.mp read
  obtain ⟨on, -, read⟩ := Outcome.bind_eq_ok_iff.mp read
  obtain ⟨-, -, start_eq, stop_eq⟩ := build_eq_ok_iff.mp (Outcome.mapError_eq_ok_iff.mp read)
  rw [length, ← start_eq, ← stop_eq]
  omega

theorem domain_of_ofJson_error {track : Track} {named : SegmentRequest} {fault : Fault}
    (failed : ofJson track named.toJson = .error fault) : ∃ error, fault = .domain error := by
  rw [ofJson_named, Outcome.bind_eq_error_iff] at failed
  rcases failed with unread | ⟨departing, -, failed⟩
  · exact EndPoint.domain_of_departingJson_error unread
  rcases Outcome.bind_eq_error_iff.mp failed with unconnected | ⟨on, -, failed⟩
  · exact EndPoint.domain_of_sectionOn_error unconnected
  · obtain ⟨error, -, rfl⟩ := Outcome.mapError_eq_error_iff.mp failed
    exact ⟨_, rfl⟩

end Segment

theorem Json.eachGiven_array (items : List Json) : (Json.array items).eachGiven = .ok items := by
  cases items <;> rfl

/-- Rows of data are read segment by segment, whatever the data was written from. -/
theorem routesOfJson_ofList {α : Type} (track : Track) (write : α → Json) (rows : List (List α)) :
    routesOfJson track (.ofList (.ofList write) rows) =
      rows.mapM fun row => row.mapM fun value => Segment.ofJson track (write value) := by
  unfold routesOfJson Json.ofList
  rw [Json.eachGiven_array]
  change ((rows.map _).mapM _ : Except Fault _) = _
  rw [List.mapM_map]
  refine congrArg (List.mapM · rows) (funext fun row => ?_)
  change ((row.map write).mapM (Segment.ofJson track) : Except Fault _) = _
  rw [List.mapM_map]
  rfl

theorem routesOfJson_rowsToJson (track : Track) (rows : List (List SegmentRequest)) :
    routesOfJson track (rowsToJson rows) =
      rows.mapM fun row => row.mapM fun named => Segment.ofJson track named.toJson :=
  routesOfJson_ofList track SegmentRequest.toJson rows

/-- Segments over sections as the track has them are read as themselves from requests. -/
theorem routesOfJson_requests {track : Track} {rows : List (List Segment)}
    (stored : ∀ row ∈ rows, ∀ s ∈ row, s.on ∈ track.sections) :
    routesOfJson track (rowsToJson (rows.map (·.map Segment.request))) = .ok rows := by
  rw [routesOfJson_rowsToJson, Outcome.mapM_eq_ok_iff, List.forall₂_map_left_iff,
    List.forall₂_same]
  intro row member
  rw [Outcome.mapM_eq_ok_iff, List.forall₂_map_left_iff, List.forall₂_same]
  exact fun s on_row => Segment.ofJson_request (stored row member s on_row)

/-- All that is read of routes runs over sections as the track has them. -/
theorem on_mem_of_routesOfJson {track : Track} {rows : List (List SegmentRequest)}
    {routes : List (List Segment)} (read : routesOfJson track (rowsToJson rows) = .ok routes) :
    ∀ row ∈ routes, ∀ s ∈ row, s.on ∈ track.sections := by
  intro row member s s_in
  rw [routesOfJson_rowsToJson] at read
  obtain ⟨_, -, row_read⟩ := Outcome.exists_of_mem_mapM read member
  obtain ⟨_, -, s_read⟩ := Outcome.exists_of_mem_mapM row_read s_in
  obtain ⟨_, same, stored⟩ := Segment.on_mem_of_ofJsonOn s_read
  exact Option.some.inj same ▸ stored

namespace Segment

theorem shown_eq_ok_iff {s : Segment} {data : Json} :
    s.shown = .ok data ↔ s.isWritable = true ∧ s.toJson = data := by
  unfold shown
  split <;> simp_all

theorem rowShown_eq_ok_iff {row : List Segment} {data : Json} :
    rowShown row = .ok data ↔ (∀ s ∈ row, s.isWritable = true) ∧ rowToJson row = data := by
  rw [rowShown, Outcome.map_eq_ok_iff]
  simp only [Outcome.mapM_eq_ok_iff_of_check fun _ _ => shown_eq_ok_iff, and_assoc, exists_and_left,
    exists_eq_left']
  rfl

/-- Routes are shown where all their segments can be written. -/
theorem rowsShown_eq_ok_iff {rows : List (List Segment)} {data : Json} :
    rowsShown rows = .ok data ↔
      (∀ row ∈ rows, ∀ s ∈ row, s.isWritable = true) ∧ .ofList rowToJson rows = data := by
  rw [rowsShown, Outcome.map_eq_ok_iff]
  simp only [Outcome.mapM_eq_ok_iff_of_check fun _ _ => rowShown_eq_ok_iff, and_assoc,
    exists_and_left, exists_eq_left']
  rfl

end Segment

theorem domain_of_routesOfJson_error {track : Track} {rows : List (List SegmentRequest)}
    {fault : Fault} (failed : routesOfJson track (rowsToJson rows) = .error fault) :
    ∃ error, fault = .domain error := by
  rw [routesOfJson_rowsToJson] at failed
  obtain ⟨row, -, row_failed⟩ := Outcome.exists_of_mapM_eq_error failed
  obtain ⟨named, -, named_failed⟩ := Outcome.exists_of_mapM_eq_error row_failed
  exact Segment.domain_of_ofJson_error named_failed

end Trackage
