import Trackage.Allocation.Basic
import Trackage.Fault

/-!
Scenarios: the routes that trains occupy and the routes that they request, checked before the track
is allocated.
-/

namespace Trackage.Scenario

/-- Refuses the first segment that is not on the track. -/
def checkOnTrack (track : Track) (segments : List Segment) : Except (Raised DomainError) Unit :=
  match segments.find? fun s => !s.onTrack track with
  | some s => .error (.of s.isWritable (.segment (.offTrack s.text)))
  | none => .ok ()

def routes (rows : List (List Segment)) : Except (Raised DomainError) (List Route) :=
  rows.mapM fun row => (Route.build row).mapError (.map .route)

/-- The first two routes of a list that have a point in common, counted from an index on. -/
def firstIntersection? (index : Nat) : List Route → Option (Nat × Nat)
  | [] => none
  | route :: rest =>
    match rest.findIdx? route.intersects with
    | some later => some (index, index + 1 + later)
    | none => firstIntersection? (index + 1) rest

/-- Refuses routes that the allocation does not expect. -/
def check (track : Track) (occupied requested : List (List Segment)) :
    Except (Raised DomainError) Unit := do
  if occupied.length ≠ requested.length then
    throw (.error (.scenario (.countsDiffer occupied.length requested.length)))
  checkOnTrack track (occupied ++ requested).flatten
  let held ← routes occupied
  -- A train may request nothing at all.
  let _ ← routes (requested.filter fun row => !row.isEmpty)
  match firstIntersection? 0 held with
  | some (first, second) => throw (.error (.scenario (.occupiedIntersect first second)))
  | none => return ()

/-- Checks the routes and allocates the track. -/
def run (track : Track) (occupied requested : List (List Segment)) :
    Except (Raised DomainError) (List (List Segment)) := do
  check track occupied requested
  -- After the check every train has a request, so that there is always an answer.
  return (allocate? occupied requested).getD []

end Trackage.Scenario
