import Trackage.Allocation.Basic
import Trackage.Fault
import Trackage.Operation

/-!
Railways. Trains follow routes on one track, and each holds a stretch of its route. A train is added
or moved only where it meets no other train, and it is told what is left also where that is refused.
Requests to move several trains forward at once are served by priority.
-/

namespace Trackage

/-- A train that holds its route from a start offset to a stop offset. -/
structure Train where
  identifier : Nat
  route : Route
  start : Nat
  stop : Nat

namespace Train

/-- The stretch of the route that the train holds. -/
def allocation (t : Train) : List Segment := Route.pieces t.route.segments t.start t.stop

/-- The rest of the route ahead of what the train holds. -/
def remaining (t : Train) : List Segment := Route.pieces t.route.segments t.stop t.route.length

def text (t : Train) : String :=
  s!"Identifier: {t.identifier}\nStart Offset: {t.start}\nEnd Offset: {t.stop}\n" ++
    s!"Following Route: \n{t.route.text}"

end Train

/-- A track, which may be missing, and the trains on it in the order of their identifiers. -/
structure Railway where
  track : Option Track
  trains : List Train

/-- Why there is no such train, or it cannot be moved. -/
inductive RailwayError where
  | unknownTrain (identifier : Int)
  | rejected (rejection : Rejection)
deriving DecidableEq, Repr

def RailwayError.fault : RailwayError → Fault
  | .unknownTrain identifier =>
    if Text.isWritable identifier then .missingKey s!"Train {identifier} not found"
    else .ofNumeral .unwritable
  | .rejected rejection => .domain (.rejected rejection)

namespace Railway

def empty (track : Option Track) : Railway := ⟨track, []⟩

def train? (railway : Railway) (identifier : Int) : Option Train :=
  railway.trains.find? fun t => (t.identifier : Int) == identifier

def lastTrain? (railway : Railway) : Option Train := railway.trains.getLast?

def carries (railway : Railway) (route : Route) : Bool := railway.track.any route.onTrack

/-- Why a train cannot hold a stretch of a route, if it cannot: the route leaves the track, there is
no such stretch, or another train holds a point of it. -/
def rejection? (railway : Railway) (identifier : Nat) (route : Route) (start stop : Int) :
    Option Rejection :=
  if !railway.carries route then some .offTrack
  else if ¬ (0 ≤ start ∧ start < stop ∧ stop ≤ route.length) then some .badOffsets
  else
    let wanted := Route.pieces route.segments start.toNat stop.toNat
    let meets (other : Train) : Bool :=
      other.identifier != identifier &&
        haveCommonPoint (locationsOf wanted) (locationsOf other.allocation)
    if railway.trains.any meets then some .conflict else none

/-- Refuses a stretch of a route that a train cannot hold. -/
def checkRoute (identifier : Nat) (route : Route) (start stop : Int) :
    Operation Railway Rejection Unit := do
  match (← get).rejection? identifier route start stop with
  | some rejection => throw rejection
  | none => return

/-- Adds a train. -/
def add (route : Route) (start stop : Int) : Operation Railway Rejection Train := do
  -- Trains are never taken away, so that this identifier is free.
  let identifier := (← get).trains.length
  checkRoute identifier route start stop
  let train : Train := ⟨identifier, route, start.toNat, stop.toNat⟩
  modify fun railway => ⟨railway.track, railway.trains ++ [train]⟩
  return train

/-- Gives the train of an identifier other offsets. -/
def place (railway : Railway) (identifier start stop : Nat) : Railway :=
  ⟨railway.track, railway.trains.map fun t =>
    if t.identifier = identifier then ⟨t.identifier, t.route, start, stop⟩ else t⟩

/-- Moves a train. The answer says whether its offsets are new. -/
def move (identifier start stop : Int) : Operation Railway RailwayError Bool := do
  match (← get).train? identifier with
  | none => throw (.unknownTrain identifier)
  | some t =>
    -- Offsets that it has already are accepted unchecked.
    if start = t.start ∧ stop = t.stop then return false
    else
      (checkRoute t.identifier t.route start stop).adaptExcept .rejected
      modify fun railway => railway.place t.identifier start.toNat stop.toNat
      return true

/-- What adding a train comes to. -/
def addTrain (railway : Railway) (route : Route) (start stop : Int) :
    Except Rejection (Railway × Train) :=
  (add route start stop).outcome railway

/-- What moving a train comes to. -/
def updateTrain (railway : Railway) (identifier start stop : Int) :
    Except RailwayError (Railway × Bool) :=
  (move identifier start stop).outcome railway

/-- What a train requests to reach a stop offset: the part of its route from where it stops now, but
no farther than the route goes. -/
def advance (t : Train) (target : Option Int) : List Segment :=
  let target := min (target.getD t.stop) t.route.length
  if (t.stop : Int) < target then Route.pieces t.route.segments t.stop target.toNat else []

/-- Moves the stops of trains forward, each as far towards its target as it can be granted, the
lowest identifier first. The answer holds what each train with a target was granted. -/
def extend (railway : Railway) (targets : Nat → Option Int) :
    Railway × List (Nat × List Segment) :=
  let occupied := railway.trains.map Train.allocation
  let requested := railway.trains.map fun t => advance t (targets t.identifier)
  let granted := (allocate? occupied requested).getD []
  let served := railway.trains.zip granted
  let moved := served.map fun (t, segments) =>
    -- A train without a target takes part as an obstacle only.
    if (targets t.identifier).isSome then
      ⟨t.identifier, t.route, t.start, t.stop + lengthOf segments⟩
    else t
  let answers := served.filterMap fun (t, segments) =>
    (targets t.identifier).map fun _ => (t.identifier, segments)
  (⟨railway.track, moved⟩, answers)

/-- The track under the trains, which has to be there. -/
def ground (railway : Railway) : Except Fault Track :=
  match railway.track with
  | none => .error .noMember
  | some track => .ok track

/-- Removes a section from the track under the trains. -/
def removeSection (railway : Railway) (s : Option Section) : Except Fault Railway := do
  let track ← railway.ground
  -- Where no section is given, there is nothing to remove.
  return ⟨some (s.elim track track.remove), railway.trains⟩

def addSection (railway : Railway) (s : Option Section) : Except Fault Railway := do
  let track ← railway.ground
  match track.addGiven s with
  | .ok track => return ⟨some track, railway.trains⟩
  | .error error => throw (.domain (.track error))

end Railway

end Trackage
