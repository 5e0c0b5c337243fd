import Trackage.Proofs.Track.Sections

/-!
Tracks as lists of sections. Whatever is added to a track and removed from it, it answers as a plain
list does that is searched from its start, and its index leads to exactly the sections in it.
-/

namespace Trackage

/-- A call that adds a section to a track or removes one. -/
inductive TrackCall where
  | add (s : Section)
  | remove (s : Section)

/-- The section that a call may add. -/
def TrackCall.added? : TrackCall → Option Section
  | .add s => some s
  | .remove _ => none

namespace Scan

/-- Whether a listed section has an end-point. -/
def taken (sections : List Section) (e : EndPoint) : Bool :=
  sections.any fun t => decide (e ∈ t.ends)

/-- Adds a section at the end of a list. One that is listed already changes nothing, and otherwise
the first of its end-points that a listed section has is an error. -/
def add (sections : List Section) (s : Section) : Except TrackError (List Section) :=
  if sections.any fun t => decide (t.Same s) then .ok sections
  else
    match s.ends.find? (taken sections) with
    | some e => .error (.endPointTaken e)
    | none => .ok (sections ++ [s])

/-- Removes the first section of a list that is the same as the given one. -/
def remove (sections : List Section) (s : Section) : List Section :=
  sections.eraseP fun t => decide (t.Same s)

def perform (sections : List Section) : TrackCall → Except TrackError (List Section)
  | .add s => add sections s
  | .remove s => .ok (remove sections s)

def after (sections : List Section) (call : TrackCall) : List Section :=
  match perform sections call with
  | .ok next => next
  | .error _ => sections

def run (sections : List Section) (calls : List TrackCall) : List Section :=
  calls.foldl after sections

end Scan

theorem Section.Apart.not_same {s t : Section} (apart : s.Apart t) : ¬ s.Same t :=
  fun same => apart s.first (by simp) ((same.mem_ends_iff _).mp (by simp))

namespace Track

/-- What a call makes of a track, or why it fails. -/
def perform (track : Track) : TrackCall → Except TrackError Track
  | .add s => track.add s
  | .remove s => .ok (track.remove s)

/-- The track after a call. Where the call fails it is the track before. -/
def after (track : Track) (call : TrackCall) : Track :=
  match track.perform call with
  | .ok next => next
  | .error _ => track

/-- The track after several calls, some of which may fail. -/
def run (track : Track) (calls : List TrackCall) : Track := calls.foldl after track

theorem any_same (track : Track) (s : Section) :
    track.sections.any (fun t => decide (t.Same s)) = track.contains s := by
  rw [Bool.eq_iff_iff, contains_iff]
  simp

theorem taken_eq (track : Track) (e : EndPoint) :
    Scan.taken track.sections e = (track.index[e]?).isSome := by
  rw [track.indexed, List.isSome_find?]
  rfl

theorem add_eq_scan (track : Track) (s : Section) :
    (track.add s).map sections = Scan.add track.sections s := by
  unfold add Scan.add
  rw [any_same]
  split
  · rfl
  · simp only [Section.ends, List.find?_cons, taken_eq]
    split
    next first => simp [first, Except.map]
    next first =>
      split
      next second => simp [first, second, Except.map]
      next second => simp [first, second, Except.map, append]

/-- Two sections of a list without shared end-points are not both the same as a third. -/
theorem filter_eq_eraseP {sections : List Section} (apart : sections.Pairwise Section.Apart)
    (s : Section) :
    sections.filter (fun t => !decide (t.Same s)) = sections.eraseP fun t => decide (t.Same s) := by
  induction apart with
  | nil => rfl
  | @cons t rest head_apart _ ih =>
    by_cases same : t.Same s
    · have others : ∀ u ∈ rest, ¬ u.Same s := fun u later u_same =>
        (head_apart u later).not_same (same.trans u_same.symm)
      rw [List.eraseP_cons_of_pos (by simpa using same),
        List.filter_cons_of_neg (by simpa using same), List.filter_eq_self]
      simpa using others
    · rw [List.eraseP_cons_of_neg (by simpa using same),
        List.filter_cons_of_pos (by simpa using same), ih]

theorem remove_eq_scan (track : Track) (s : Section) :
    (track.remove s).sections = Scan.remove track.sections s := by
  unfold remove Scan.remove
  split
  · exact filter_eq_eraseP track.apart s
  next absent =>
    refine (List.eraseP_of_forall_not fun t stored same => absent ?_).symm
    exact (track.contains_iff s).mpr ⟨t, stored, by simpa using same⟩

/-- Each call answers as it does on the plain list, and leaves the same sections. -/
theorem perform_eq_scan (track : Track) (call : TrackCall) :
    (track.perform call).map sections = Scan.perform track.sections call := by
  cases call with
  | add s => exact track.add_eq_scan s
  | remove s => exact congrArg Except.ok (track.remove_eq_scan s)

theorem after_sections (track : Track) (call : TrackCall) :
    (track.after call).sections = Scan.after track.sections call := by
  unfold after Scan.after
  rw [← perform_eq_scan]
  cases track.perform call <;> rfl

theorem run_sections (track : Track) (calls : List TrackCall) :
    (track.run calls).sections = Scan.run track.sections calls := by
  induction calls generalizing track with
  | nil => rfl
  | cons call calls ih =>
    have rest := ih (track.after call)
    rw [after_sections] at rest
    exact rest

theorem after_sublist (track : Track) (call : TrackCall) :
    (track.after call).sections.Sublist (track.sections ++ call.added?.toList) := by
  rw [after_sections]
  cases call with
  | add s =>
    simp only [Scan.after, Scan.perform, Scan.add, TrackCall.added?, Option.toList_some]
    split
    next next_sections done =>
      split at done
      · cases done
        exact List.sublist_append_left _ _
      · split at done <;> cases done
        exact .refl _
    next => exact List.sublist_append_left _ _
  | remove s =>
    simpa [Scan.after, Scan.perform, Scan.remove, TrackCall.added?] using List.eraseP_sublist

/-- The stored sections are ones that calls have added, in the order of these calls. -/
theorem run_sublist (track : Track) (calls : List TrackCall) :
    (track.run calls).sections.Sublist (track.sections ++ calls.filterMap TrackCall.added?) := by
  induction calls generalizing track with
  | nil => simp [run]
  | cons call calls ih =>
    have added : (call :: calls).filterMap TrackCall.added? =
        call.added?.toList ++ calls.filterMap TrackCall.added? := by
      cases call <;> rfl
    rw [added, ← List.append_assoc]
    exact (ih (track.after call)).trans ((track.after_sublist call).append (.refl _))

theorem mem_junctions {track : Track} {name : String} :
    name ∈ track.junctions ↔ ∃ s ∈ track.sections, ∃ e ∈ s.ends, e.junction = name := by
  simp only [junctions, sortedNames, List.mem_mergeSort, List.mem_eraseDups, List.mem_flatMap,
    Section.junctions, List.mem_map]

/-- On every run of calls a track answers as a plain list that is searched from its start. -/
theorem run_refines_scan (calls : List TrackCall) :
    let reached := run empty calls
    reached.sections = Scan.run [] calls ∧
      (∀ call, (reached.perform call).map sections = Scan.perform (Scan.run [] calls) call) ∧
      reached.sections.Sublist (calls.filterMap TrackCall.added?) ∧
      reached.sections.Pairwise (fun s t => ¬ s.Same t ∧ s.Apart t) ∧
      (∀ s, reached.contains s = true ↔ ∃ t ∈ reached.sections, t.Same s) ∧
      (∀ e s, reached.sectionAt? e = some s ↔ s ∈ reached.sections ∧ e ∈ s.ends) ∧
      ∀ name,
        (name ∈ reached.junctions ↔ ∃ s ∈ reached.sections, ∃ e ∈ s.ends, e.junction = name) ∧
        (name ∈ reached.junctions ↔
          ∃ branch, (reached.sectionAt? ⟨name, branch⟩).isSome = true) := by
  intro reached
  have sections_eq : reached.sections = Scan.run [] calls := run_sections empty calls
  refine ⟨sections_eq, fun call => ?_, run_sublist empty calls, ?_, reached.contains_iff,
    reached.sectionAt?_eq_some_iff, fun name => ⟨mem_junctions, ?_⟩⟩
  · rw [perform_eq_scan, sections_eq]
  · exact reached.apart.imp fun apart => ⟨apart.not_same, apart⟩
  · rw [mem_junctions]
    constructor
    · rintro ⟨s, stored, e, on_s, rfl⟩
      refine ⟨e.branch, ?_⟩
      rw [(reached.sectionAt?_eq_some_iff e s).mpr ⟨stored, on_s⟩, Option.isSome_some]
    · rintro ⟨branch, connected⟩
      obtain ⟨s, found⟩ := Option.isSome_iff_exists.mp connected
      obtain ⟨stored, on_s⟩ := (reached.sectionAt?_eq_some_iff _ s).mp found
      exact ⟨s, stored, _, on_s, rfl⟩

end Track

end Trackage
