import Std.Data.HashMap
import Trackage.Track.Section

/-!
Tracks. A track is a list of sections, in the order in which they were added, no two of which share
an end-point. An index from end-points to sections answers which section is connected where; it
always agrees with a search through the list.
-/

namespace Trackage

/-- A set of sections in which every end-point is used at most once. -/
structure Track where
  sections : List Section
  index : Std.HashMap EndPoint Section
  apart : sections.Pairwise Section.Apart
  indexed : ∀ e : EndPoint, index[e]? = sections.find? fun s => decide (e ∈ s.ends)

/-- Why a track refuses a section. -/
inductive TrackError where
  | missingSection
  | endPointTaken (endPoint : EndPoint)
deriving DecidableEq, Repr

def TrackError.message : TrackError → String
  | .missingSection => "section cannot be None"
  | .endPointTaken endPoint =>
    s!"The track already contains a section connected to end-point {endPoint.text}"

namespace Track

def empty : Track := ⟨[], ∅, .nil, by simp⟩

instance : Inhabited Track := ⟨empty⟩

/-- The section connected at an end-point. -/
def sectionAt? (track : Track) (e : EndPoint) : Option Section := track.index[e]?

/-- Whether the track has the same section. -/
def contains (track : Track) (s : Section) : Bool :=
  -- It can only be the one connected at the first end.
  (track.sectionAt? s.first).any fun t => decide (t.Same s)

theorem free_iff (track : Track) (e : EndPoint) :
    track.index[e]? = none ↔ ∀ s ∈ track.sections, e ∉ s.ends := by
  rw [track.indexed, List.find?_eq_none]
  simp

/-- Adds a section whose two end-points are free. -/
def append (track : Track) (s : Section) (first_free : track.index[s.first]? = none)
    (second_free : track.index[s.second]? = none) : Track where
  sections := track.sections ++ [s]
  index := (track.index.insert s.first s).insert s.second s
  apart := by
    refine List.pairwise_append.mpr ⟨track.apart, by simp, fun t stored u new e on_t on_u => ?_⟩
    obtain rfl : u = s := by simpa using new
    rcases Section.mem_ends.mp on_u with rfl | rfl
    · exact (track.free_iff _).mp first_free t stored on_t
    · exact (track.free_iff _).mp second_free t stored on_t
  indexed := by
    intro e
    rw [List.find?_append, ← track.indexed, Std.HashMap.getElem?_insert,
      Std.HashMap.getElem?_insert]
    by_cases at_second : s.second = e
    · subst at_second; simp [second_free]
    · by_cases at_first : s.first = e
      · subst at_first; simp [first_free]
      · simp [at_first, at_second, eq_comm (a := e)]

/-- Adds a section. One that shares an end-point with another is refused. -/
def add (track : Track) (s : Section) : Except TrackError Track :=
  -- A section that is there already changes nothing, in whichever order its ends are written.
  if track.contains s then .ok track
  else
    -- The first end-point is looked at first.
    match first_free : track.index[s.first]? with
    | some _ => .error (.endPointTaken s.first)
    | none =>
      match second_free : track.index[s.second]? with
      | some _ => .error (.endPointTaken s.second)
      | none => .ok (track.append s first_free second_free)

def addGiven (track : Track) : Option Section → Except TrackError Track
  | none => .error .missingSection
  | some s => track.add s

/-- A section that the track contains is the same as a stored one. -/
theorem stored_of_contains {track : Track} {s : Section} (contained : track.contains s = true) :
    ∃ t ∈ track.sections, t.Same s := by
  unfold contains sectionAt? at contained
  rw [track.indexed] at contained
  cases found : track.sections.find? fun t => decide (s.first ∈ t.ends) with
  | none => rw [found] at contained; cases contained
  | some t =>
    rw [found] at contained
    exact ⟨t, List.mem_of_find?_eq_some found, of_decide_eq_true contained⟩

private theorem eq_of_shared_end {sections : List Section} (apart : sections.Pairwise Section.Apart)
    {s t : Section} (s_mem : s ∈ sections) (t_mem : t ∈ sections) {e : EndPoint}
    (on_s : e ∈ s.ends) (on_t : e ∈ t.ends) : s = t := by
  induction apart with
  | nil => cases s_mem
  | cons head_apart _ ih =>
    rcases List.mem_cons.mp s_mem with rfl | s_later <;>
      rcases List.mem_cons.mp t_mem with t_first | t_later
    · exact t_first.symm
    · exact absurd on_t (head_apart t t_later e on_s)
    · exact absurd on_s (head_apart s s_later e (t_first ▸ on_t))
    · exact ih s_later t_later

/-- An end-point belongs to one stored section at most. -/
theorem eq_of_mem_ends (track : Track) {s t : Section} (s_mem : s ∈ track.sections)
    (t_mem : t ∈ track.sections) {e : EndPoint} (on_s : e ∈ s.ends) (on_t : e ∈ t.ends) : s = t :=
  eq_of_shared_end track.apart s_mem t_mem on_s on_t

/-- Removes a section that the track contains, and frees its end-points. -/
def erase (track : Track) (s : Section) (contained : track.contains s = true) : Track where
  sections := track.sections.filter fun t => !decide (t.Same s)
  index := (track.index.erase s.first).erase s.second
  apart := track.apart.filter _
  indexed := by
    intro e
    rw [Std.HashMap.getElem?_erase, Std.HashMap.getElem?_erase, List.find?_filter, track.indexed]
    by_cases on_s : e ∈ s.ends
    · obtain ⟨t, t_stored, same⟩ := stored_of_contains contained
      have on_t : e ∈ t.ends := (same.mem_ends_iff e).mpr on_s
      -- The section had its end-points to itself, so that nothing is found at them any more.
      have none_left : (track.sections.find? fun u =>
          decide ((!decide (u.Same s)) = true ∧ decide (e ∈ u.ends) = true)) = none := by
        rw [List.find?_eq_none]
        intro u stored other
        simp only [Bool.not_eq_true', decide_eq_false_iff_not, decide_eq_true_eq] at other
        exact other.1 (track.eq_of_mem_ends stored t_stored other.2 on_t ▸ same)
      rw [none_left]
      rcases Section.mem_ends.mp on_s with rfl | rfl <;> simp
    -- Elsewhere the search passes over the same sections as before.
    · have as_before (t : Section) : (¬ t.Same s ∧ e ∈ t.ends) = (e ∈ t.ends) :=
        propext ⟨And.right, fun on_t => ⟨fun same => on_s ((same.mem_ends_iff e).mp on_t), on_t⟩⟩
      simp only [Bool.not_eq_true', decide_eq_false_iff_not, decide_eq_true_eq, as_before]
      simp only [Section.mem_ends, not_or] at on_s
      simp [on_s, eq_comm (b := e)]

def remove (track : Track) (s : Section) : Track :=
  if contained : track.contains s = true then track.erase s contained else track

/-- The junctions that the sections of the track touch, in order. -/
def junctions (track : Track) : List String :=
  sortedNames (track.sections.flatMap Section.junctions)

/-- The sections one a line. -/
def text (track : Track) : String :=
  "\n".intercalate (track.sections.map Section.text)

end Track

end Trackage
