import Trackage.Location.Set
import Trackage.Text.Numeral
import Trackage.Track.Basic

/-!
Segments. A segment is the stretch of a section that a train covers in one go: it departs from one
end-point of the section, and runs from a start offset to a greater stop offset, both measured from
there. It covers the locations at both offsets and all between.
-/

namespace Trackage

/-- A stretch of a section with a direction of travel. -/
structure Segment where
  on : Section
  departing : EndPoint
  start : Nat
  stop : Nat
  departing_mem : departing ∈ on.ends
  start_lt_stop : start < stop
  stop_le_length : stop ≤ on.length

/-- Why there is no such segment. -/
inductive SegmentError where
  | missingSection
  | notAnEndPoint (endPoint : Option EndPoint) (on : Section)
  | badOffsets (length : Nat) (start stop : Int)
  | nothingConnected (endPoint : EndPoint)
  | offTrack (segment : String)
deriving DecidableEq, Repr

/-- The message of an error. Offsets come from numerals that were read, and are no longer than these. -/
def SegmentError.message : SegmentError → String
  | .missingSection => "section cannot be None"
  | .notAnEndPoint endPoint on =>
    s!"{EndPoint.optionText endPoint} is not an end-point of section {on.text}"
  | .badOffsets length start stop =>
    s!"offsets must satisfy 0 <= start < end <= {length}, got [{start}, {stop}]"
  | .nothingConnected endPoint =>
    s!"No section of the track is connected at {endPoint.text}"
  | .offTrack segment => s!"Segment {segment} is not on the track"

namespace Segment

def build (on : Section) (departing : EndPoint) (start stop : Int) :
    Except SegmentError Segment :=
  -- The end-point is looked at before the offsets.
  if member : departing ∈ on.ends then
    if ordered : 0 ≤ start ∧ start < stop ∧ stop ≤ on.length then
      .ok ⟨on, departing, start.toNat, stop.toNat, member, by omega, by omega⟩
    else .error (.badOffsets on.length start stop)
  else .error (.notAnEndPoint departing on)

def buildFrom (on : Option Section) (departing : Option EndPoint) (start stop : Int) :
    Except SegmentError Segment :=
  match on, departing with
  | none, _ => .error .missingSection
  | some on, none => .error (.notAnEndPoint none on)
  | some on, some departing => build on departing start stop

def length (s : Segment) : Nat := s.stop - s.start

theorem length_pos (s : Segment) : 0 < s.length := Nat.sub_pos_of_lt s.start_lt_stop

/-- The end-point that the segment travels towards. -/
def arriving (s : Segment) : EndPoint := s.on.opposite s.departing

/-- The same segment: the same section, and equal end-points and offsets. -/
def Same (s t : Segment) : Prop :=
  s.on.Same t.on ∧ s.departing = t.departing ∧ s.start = t.start ∧ s.stop = t.stop

instance (s t : Segment) : Decidable (s.Same t) := by unfold Same; infer_instance

/-- What segments are looked up by. -/
structure Key where
  on : Section.Key
  departing : EndPoint
  start : Nat
  stop : Nat
deriving DecidableEq, Repr

def key (s : Segment) : Key := ⟨s.on.key, s.departing, residue s.start, residue s.stop⟩

/-- The location at an offset before the stop. -/
def locationAt (s : Segment) (offset : Nat) (before : offset < s.stop) : Location :=
  ⟨s.on, s.departing, offset, s.departing_mem, Nat.lt_of_lt_of_le before s.stop_le_length⟩

def firstLocation (s : Segment) : Location := s.locationAt s.start s.start_lt_stop

/-- The location at the stop. -/
def lastLocation (s : Segment) : Location :=
  -- An offset is less than the length, so that the far end has to be described as the junction there.
  if within : s.stop < s.on.length then ⟨s.on, s.departing, s.stop, s.departing_mem, within⟩
  else ⟨s.on, s.arriving, 0, s.on.opposite_mem_ends _, s.on.length_pos⟩

/-- All locations in the order of travel. -/
def locations (s : Segment) : List Location :=
  List.ofFn (fun i : Fin s.length => s.locationAt (s.start + i) (by
    have := i.isLt; unfold length at this; omega)) ++ [s.lastLocation]

@[simp] theorem length_locations (s : Segment) : s.locations.length = s.length + 1 := by
  simp [locations]

def withStop (s : Segment) (stop : Int) : Except SegmentError Segment :=
  build s.on s.departing s.start stop

/-- The piece of a segment between two distances from its start. -/
def piece (s : Segment) (start stop : Nat) (ordered : start < stop) (within : stop ≤ s.length) :
    Segment :=
  ⟨s.on, s.departing, s.start + start, s.start + stop, s.departing_mem, by omega, by
    have := s.stop_le_length; unfold length at within; omega⟩

/-- The leading piece of a length; there is none of length zero, and none longer than the
segment. -/
def leading? (s : Segment) (length : Nat) : Option Segment :=
  if fits : 0 < length ∧ length ≤ s.length then some (s.piece 0 length fits.1 fits.2) else none

/-- The longest leading piece that stops before the first forbidden location: the segment itself
when no location is forbidden, and nothing when fewer than two come before the forbidden one. -/
def longestFree (s : Segment) (forbidden : LocationSet) : Option Segment :=
  match s.locations.findIdx? forbidden.contains with
  | none => some s
  | some index => s.leading? (index - 1)

def intersects (s t : Segment) : Bool := haveCommonPoint s.locations t.locations

def onTrack (s : Segment) (track : Track) : Bool := track.contains s.on

def text (s : Segment) : String :=
  s!"{s.on.text} {s.departing.text} {s.start} {s.stop}"

/-- Whether the segment can be written. Its offsets are no greater than the length of its section. -/
def isWritable (s : Segment) : Bool := Text.isWritable s.on.length

end Segment

/-- The locations of several segments, one segment after the other. -/
def locationsOf (segments : List Segment) : List Location := segments.flatMap Segment.locations

/-- The length of several segments together. -/
def lengthOf : List Segment → Nat
  | [] => 0
  | s :: segments => s.length + lengthOf segments

/-- The same segments in the same order. -/
def sameSegments (a b : List Segment) : Bool :=
  a.length == b.length && (a.zip b).all fun pair => decide (pair.1.Same pair.2)

end Trackage
