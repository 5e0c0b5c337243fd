import Trackage.Track.Section

/-!
Locations. A location is a distance along a section, measured from one of its ends. The same point
of the track has several such descriptions: from either end of its section, and at a junction from
every branch. The canonical form is the description from the nearer end.
-/

namespace Trackage

/-- A point of the track, described from an end of a section. -/
structure Location where
  on : Section
  endPoint : EndPoint
  offset : Nat
  endPoint_mem : endPoint ∈ on.ends
  offset_lt : offset < on.length

/-- Why no location can be built. -/
inductive LocationError where
  | missingSection
  | missingEndPoint
  | negativeOffset (offset : Int)
  | offsetTooLarge (offset : Int) (length : Nat)
  | notAnEndPoint (endPoint : EndPoint) (on : Section)
deriving DecidableEq, Repr

def LocationError.message : LocationError → String
  | .missingSection => "section cannot be None"
  | .missingEndPoint => "endpoint cannot be None"
  | .negativeOffset offset => s!"offset cannot be negative, got {offset}"
  | .offsetTooLarge offset length =>
    s!"offset {offset} must be less than the section length {length}"
  | .notAnEndPoint endPoint on => s!"{endPoint.text} is not an end-point of section {on.text}"

namespace Location

def build (on : Section) (endPoint : EndPoint) (offset : Int) : Except LocationError Location :=
  -- The offset is looked at before the end-point.
  if negative : offset < 0 then .error (.negativeOffset offset)
  else if large : (on.length : Int) ≤ offset then .error (.offsetTooLarge offset on.length)
  else if member : endPoint ∈ on.ends then .ok ⟨on, endPoint, offset.toNat, member, by omega⟩
  else .error (.notAnEndPoint endPoint on)

def buildFrom (on : Option Section) (endPoint : Option EndPoint) (offset : Int) :
    Except LocationError Location :=
  match on, endPoint with
  | none, _ => .error .missingSection
  | some _, none => .error .missingEndPoint
  | some on, some endPoint => build on endPoint offset

def atJunction (l : Location) : Bool := l.offset == 0

/-- Whether the location lies on a section. -/
def onSection (l : Location) (s : Section) : Bool :=
  -- A junction lies on every section that touches it, any other point on its own section alone.
  if l.atJunction then s.junctions.contains l.endPoint.junction else decide (s.Same l.on)

/-- Two descriptions of one point: both are the same junction, or they are measured from one
end-point by equal offsets, or from the two ends of one section by offsets that fill it. -/
def Equivalent (a b : Location) : Prop :=
  if a.offset = 0 ∧ b.offset = 0 then a.endPoint.junction = b.endPoint.junction
  else if a.endPoint = b.endPoint then a.offset = b.offset
  else a.on.Same b.on ∧ a.offset + b.offset = a.on.length

instance (a b : Location) : Decidable (a.Equivalent b) := by unfold Equivalent; infer_instance

/-- A point described from the nearer end of its section, a junction by its name. -/
inductive Canonical where
  | junction (name : String)
  | along (endPoint : EndPoint) (offset : Nat)
deriving DecidableEq, Repr

/-- The description from the nearer end. -/
def canonical (l : Location) : Canonical :=
  if l.offset = 0 then .junction l.endPoint.junction
  else
    let far := l.on.opposite l.endPoint
    let farOffset := l.on.length - l.offset
    if l.offset < farOffset then .along l.endPoint l.offset
    else if farOffset < l.offset then .along far farOffset
    -- Halfway between the ends it is the end that comes first in the order of end-points.
    else .along (if l.endPoint.le far then l.endPoint else far) l.offset

/-- What sets of locations look members up by: a junction, and the distance to it for a location that
is none. -/
inductive Key where
  | junction (name : String)
  | along (junction : String) (distance : Nat)
deriving DecidableEq, Repr, Hashable

/-- The key of a location leaves the branch of its canonical form out, and takes the distance by its
residue. -/
def key (l : Location) : Key :=
  match l.canonical with
  | .junction name => .junction name
  | .along endPoint offset => .along endPoint.junction (residue offset)

/-- One member of a set: found under the same key, and the same point. -/
def SameMember (a b : Location) : Prop := a.key = b.key ∧ a.Equivalent b

instance (a b : Location) : Decidable (a.SameMember b) := by unfold SameMember; infer_instance

def text (l : Location) : String :=
  if l.atJunction then l.endPoint.junction
  else
    s!"Distance {l.offset} from {l.endPoint.junction} along the {l.endPoint.branch.text} branch"

def fullText (l : Location) : String :=
  s!"Location({l.on.text}, {l.endPoint.text}, {l.offset})"

end Location

end Trackage
