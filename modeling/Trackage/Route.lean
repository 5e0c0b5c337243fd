import Trackage.Segment

/-!
Routes. A route is a non-empty row of segments in which each starts where the one before it stops,
and which never turns round on a section.
-/

namespace Trackage

/-- Why segments form no route, or a route has no such part. -/
inductive RouteError where
  | empty
  | notContinuous (before after : Segment)
  | turnsBack (before after : Segment)
  | noSuchPart (start stop : Int) (length : Nat)

namespace RouteError

def message : RouteError → String
  | .empty => "a route needs at least one segment"
  | .notContinuous before after =>
    s!"segments are not continuous: '{before.text}' then '{after.text}'"
  | .turnsBack before after =>
    s!"route turns back on its section: '{before.text}' then '{after.text}'"
  | .noSuchPart start stop length =>
    s!"invalid sub-route [{start}, {stop}] for a route of length {length}"

/-- Whether the numbers in the message can be written. -/
def isWritable : RouteError → Bool
  | .empty => true
  | .notContinuous before after | .turnsBack before after => before.isWritable && after.isWritable
  | .noSuchPart start stop length =>
    Text.isWritable start && Text.isWritable stop && Text.isWritable length

def raised (error : RouteError) : Raised RouteError := .of error.isWritable error

end RouteError

/-- What is wrong with the joint between two segments: it has a gap, or the second segment goes
back along the section of the first. -/
def jointError? (before after : Segment) : Option RouteError :=
  if ¬ before.lastLocation.Equivalent after.firstLocation then some (.notContinuous before after)
  else if before.on.Same after.on ∧ before.departing ≠ after.departing then
    some (.turnsBack before after)
  else none

/-- What is wrong with the first bad joint of a row of segments. -/
def firstJointError? : List Segment → Option RouteError
  | before :: after :: rest =>
    match jointError? before after with
    | some error => some error
    | none => firstJointError? (after :: rest)
  | _ => none

/-- A continuous row of segments. -/
structure Route where
  segments : List Segment
  nonempty : segments ≠ []
  joined : firstJointError? segments = none

namespace Route

def build (segments : List Segment) : Except (Raised RouteError) Route :=
  if nonempty : segments ≠ [] then
    match joined : firstJointError? segments with
    | some error => .error error.raised
    | none => .ok ⟨segments, nonempty, joined⟩
  else .error RouteError.empty.raised

def length (r : Route) : Nat := lengthOf r.segments

def locations (r : Route) : List Location := locationsOf r.segments

def intersects (r t : Route) : Bool := haveCommonPoint r.locations t.locations

def onTrack (r : Route) (track : Track) : Bool := r.segments.all (·.onTrack track)

def same (r t : Route) : Bool := sameSegments r.segments t.segments

/-- What routes are looked up by: the keys of their segments. -/
def key (r : Route) : List Segment.Key := r.segments.map Segment.key

/-- The pieces of a row of segments between two distances from its start. -/
def pieces : List Segment → Nat → Nat → List Segment
  | [], _, _ => []
  | s :: rest, start, stop =>
    -- A distance that lies within this segment is the very start of those after it.
    let later := pieces rest (start - s.length) (stop - s.length)
    if ordered : start < min stop s.length then
      s.piece start (min stop s.length) ordered (by omega) :: later
    else later

/-- The part of a route between two distances from its start. -/
def part (r : Route) (start stop : Int) : Except (Raised RouteError) Route :=
  if 0 ≤ start ∧ start < stop ∧ stop ≤ r.length then
    build (pieces r.segments start.toNat stop.toNat)
  else .error (RouteError.noSuchPart start stop r.length).raised

def segmentAt? (r : Route) (index : Int) : Option Segment :=
  -- A negative index counts from the end.
  if 0 ≤ index then r.segments[index.toNat]?
  else if -(r.segments.length : Int) ≤ index then
    r.segments[(r.segments.length + index).toNat]?
  else none

def text (r : Route) : String := "\n".intercalate (r.segments.map Segment.text)

end Route

end Trackage
