import Trackage.Decimal.Shortest
import Trackage.Segment

/-!
Allocation by priority. Trains are served in order, and an earlier one always wins. No train gets a
location that another train occupies or that an earlier train has just been granted. Of a request
the leading part that stays clear of those locations is granted, and the rest of it is dropped. The
indicators of an allocation tell how many trains got all, part or nothing of their requests, and which
share of the requested length was granted.
-/

namespace Trackage

/-- The leading part of a request that is clear of the forbidden locations. -/
def grant (forbidden : LocationSet) : List Segment → List Segment
  | [] => []
  | s :: rest =>
    if forbidden.isDisjoint s.locations then s :: grant forbidden rest
    else (s.longestFree forbidden).toList

/-- The locations that a train may not touch: those granted so far, and those that trains before
and after it occupy. -/
def forbiddenFor (granted : LocationSet) (before after : List LocationSet) : LocationSet :=
  after.foldl LocationSet.union (before.foldl LocationSet.union granted)

/-- Serves the trains from one on. The sets of the trains before it come in the order of trains.
There is no answer when a train has no request. -/
def grantFrom? (granted : LocationSet) (before : List LocationSet) :
    List LocationSet → List (List Segment) → Option (List (List Segment))
  | [], _ => some []
  | _ :: _, [] => none
  | own :: after, request :: requests =>
    let granting := grant (forbiddenFor granted before after) request
    -- Later trains may not touch what this one has just been granted.
    let granted := granted.union (.ofList (locationsOf granting))
    (grantFrom? granted (before ++ [own]) after requests).map (granting :: ·)

/-- What each train is granted, given what each occupies and requests. Requests beyond the last
train are not looked at; with fewer requests than trains there is no answer. -/
def allocate? (occupied requested : List (List Segment)) : Option (List (List Segment)) :=
  grantFrom? .empty [] (occupied.map fun route => .ofList (locationsOf route)) requested

/-- Whether a train got all of its request, part of it, or nothing. -/
inductive Outcome where
  | full
  | truncated
  | blocked
deriving DecidableEq, Repr

/-- The outcome for one train. An empty request is granted in full. -/
def outcome (request granting : List Segment) : Outcome :=
  if sameSegments granting request then .full
  else if granting.isEmpty then .blocked
  else .truncated

/-- The indicators of an allocation. -/
structure Indicators where
  totalTrains : Nat
  fullyGranted : Nat
  truncated : Nat
  blocked : Nat
  requestedLength : Nat
  allocatedLength : Nat
  /-- The granted share of the requested length, in percent with two places. -/
  grantRatio : Binary64
deriving DecidableEq, Repr

/-- The percentage of one length in another, rounded to two places. There is none when one of the
lengths is beyond the range of double-precision numbers; of a zero length the share is zero. -/
def percentage? (part whole : Nat) : Option Binary64 :=
  if whole = 0 then some .zero
  else do
    let part ← Binary64.ofInt? part
    let whole ← Binary64.ofInt? whole
    some (((Binary64.ofNat 100).mul part |>.div whole).roundPlaces 2)

namespace Indicators

/-- The indicators without any train. -/
def none : Indicators := ⟨0, 0, 0, 0, 0, 0, .zero⟩

/-- The indicators of what was requested and what was granted. Outcomes are counted for the trains
that have both; the lengths are those of all. -/
def of? (requested granted : List (List Segment)) : Option Indicators :=
  if requested.isEmpty then some none
  else
    let outcomes := (requested.zip granted).map fun (request, granting) => outcome request granting
    let requestedLength := lengthOf requested.flatten
    let allocatedLength := lengthOf granted.flatten
    (percentage? allocatedLength requestedLength).map fun ratio =>
      { totalTrains := requested.length
        fullyGranted := outcomes.count .full
        truncated := outcomes.count .truncated
        blocked := outcomes.count .blocked
        requestedLength
        allocatedLength
        grantRatio := ratio }

end Indicators

/-- The lengths that one train requested and was granted. -/
structure TrainLengths where
  train : Nat
  requested : Nat
  granted : Nat
deriving DecidableEq, Repr

/-- The lengths train by train. -/
def lengthsByTrain (requested granted : List (List Segment)) : List TrainLengths :=
  (requested.zip granted).zipIdx.map fun ((request, granting), train) =>
    ⟨train, lengthOf request, lengthOf granting⟩

end Trackage
