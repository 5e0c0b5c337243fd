import Trackage.Track.EndPoint

/-!
Sections of track. A section has a positive length and two different end-points; which of the two
is written first has no meaning for the track, but is kept for writing the section out.
-/

namespace Trackage

/-- A stretch of track between two end-points. -/
structure Section where
  length : Nat
  first : EndPoint
  second : EndPoint
  length_pos : 0 < length
  first_ne_second : first ≠ second
deriving DecidableEq, Repr

/-- Why no section can be built. -/
inductive SectionError where
  | missingEndPoint
  | lengthNotPositive (length : Int)
  | equalEndPoints (endPoint : EndPoint)
deriving DecidableEq, Repr

def SectionError.message : SectionError → String
  | .missingEndPoint => "end-points cannot be None"
  | .lengthNotPositive length => s!"length must be positive, got {length}"
  | .equalEndPoints endPoint => s!"end-points cannot be equal: {endPoint.text}"

namespace Section

def build (length : Int) (first second : EndPoint) : Except SectionError Section :=
  -- The length is looked at before the end-points are compared.
  if positive : 0 < length then
    if different : first ≠ second then
      .ok ⟨length.toNat, first, second, by omega, different⟩
    else .error (.equalEndPoints first)
  else .error (.lengthNotPositive length)

def buildFrom (length : Int) (first second : Option EndPoint) : Except SectionError Section :=
  match first, second with
  | some first, some second => build length first second
  | _, _ => .error .missingEndPoint

/-- The section as its definition writes it. Whoever may meet a length that is too long to be written
asks for that first. -/
def text (s : Section) : String :=
  toString s.length ++ " " ++ s.first.text ++ " " ++ s.second.text

def ends (s : Section) : List EndPoint := [s.first, s.second]

@[simp] theorem mem_ends {s : Section} {e : EndPoint} : e ∈ s.ends ↔ e = s.first ∨ e = s.second := by
  simp [ends]

/-- The junctions of the two ends, equal ones on a loop. -/
def junctions (s : Section) : List String := s.ends.map (·.junction)

/-- The two end-points in their order. -/
def sortedEnds (s : Section) : List EndPoint :=
  if s.first.le s.second then [s.first, s.second] else [s.second, s.first]

/-- The end-point at the far end, seen from an end-point of the section. -/
def opposite (s : Section) (e : EndPoint) : EndPoint := if e = s.first then s.second else s.first

theorem opposite_mem_ends (s : Section) (e : EndPoint) : s.opposite e ∈ s.ends := by
  unfold opposite; split <;> simp

/-- The far end, or nothing when the given end-point is none of the section's. -/
def opposite? (s : Section) (e : EndPoint) : Option EndPoint :=
  if e ∈ s.ends then some (s.opposite e) else none

/-- The same section: equal lengths between the same two end-points, in either order. -/
def Same (s t : Section) : Prop :=
  s.length = t.length ∧
    ((s.first = t.first ∧ s.second = t.second) ∨ (s.first = t.second ∧ s.second = t.first))

instance (s t : Section) : Decidable (s.Same t) := by unfold Same; infer_instance

/-- What sections are looked up by: the residue of the length, and the end-points in their order. -/
structure Key where
  length : Nat
  ends : List EndPoint
deriving DecidableEq, Repr

def key (s : Section) : Key := ⟨residue s.length, s.sortedEnds⟩

def Apart (s t : Section) : Prop := ∀ e ∈ s.ends, e ∉ t.ends

theorem Same.refl (s : Section) : s.Same s := ⟨rfl, .inl ⟨rfl, rfl⟩⟩

theorem Same.symm {s t : Section} (same : s.Same t) : t.Same s := by
  obtain ⟨lengths, direct | crossed⟩ := same
  · exact ⟨lengths.symm, .inl ⟨direct.1.symm, direct.2.symm⟩⟩
  · exact ⟨lengths.symm, .inr ⟨crossed.2.symm, crossed.1.symm⟩⟩

theorem Same.mem_ends_iff {s t : Section} (same : s.Same t) (e : EndPoint) :
    e ∈ s.ends ↔ e ∈ t.ends := by
  obtain ⟨-, direct | crossed⟩ := same
  · simp [direct]
  · simp [crossed, or_comm]

end Section

end Trackage
