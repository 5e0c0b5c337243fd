import Trackage.Fault
import Trackage.Json.Value
import Trackage.Text.Basic

/-!
Generated scenarios on a chain of junctions. Every section leads from the normal branch of one
junction to the facing branch of the next; every train occupies a short stretch of one section and
requests the rest of it and some whole sections beyond. What is random comes from a row of numbers that
is walked round and round: each draw takes the next number modulo the count of what there is to choose
from.
-/

namespace Trackage

/-- A row of numbers and how many of them were taken. -/
structure Draws where
  numbers : List Int
  taken : Nat

namespace Draws

/-- A number below a count. -/
def next (draws : Draws) (count : Nat) : Nat × Draws :=
  let number := draws.numbers.getD (draws.taken % draws.numbers.length) 0
  ((number % (count : Int)).toNat, { draws with taken := draws.taken + 1 })

/-- A whole number between two others, both included. -/
def between (draws : Draws) (least greatest : Int) : Except Fault (Int × Draws) :=
  if greatest < least then .error (.value .emptyRange)
  else
    let (step, draws) := draws.next (greatest - least + 1).toNat
    .ok (least + step, draws)

/-- So many members of a list, each taken out of it as it is chosen. -/
def sample (draws : Draws) (pool : List α) : Nat → List α × Draws
  | 0 => ([], draws)
  | count + 1 =>
    let (place, draws) := draws.next pool.length
    let (others, draws) := sample draws (pool.eraseIdx place) count
    (pool[place]?.toList ++ others, draws)

end Draws

end Trackage

namespace Trackage.Chain

/-- The definition line of a section of the chain. -/
def sectionLine (place : Nat) (length : Int) : String :=
  s!"{length} J{place} NORMAL J{place + 1} FACING"

/-- A number that may have been left out; that is found out only where it is needed. -/
def needed : Option Int → Except Fault Int
  | some number => .ok number
  | none => .error .wrongKind

/-- Draws the lengths of sections from a place of the chain on. -/
def drawLines (draws : Draws) (least greatest : Option Int) (place : Nat) :
    Nat → Except Fault (List String × Draws)
  | 0 => .ok ([], draws)
  | count + 1 => do
    let (length, draws) ← draws.between (← needed least) (← needed greatest)
    -- The line has the length in it and, of the numbers of its junctions, this greater one.
    unless Text.isWritable length && Text.isWritable (place + 1) do throw (.ofNumeral .unwritable)
    let (lines, draws) ← drawLines draws least greatest (place + 1) count
    return (sectionLine place length :: lines, draws)

/-- The definition of a chain of so many sections. -/
def lines (draws : Draws) (sections least greatest : Option Int) :
    Except Fault (List String × Draws) := do
  drawLines draws least greatest 0 (← needed sections).toNat

/-- The length at the start of a definition line. -/
def lineLength (line : String) : Except Fault Int :=
  (Text.readNumeral ((Text.words line).headD "")).mapError .ofNumeral

/-- A stretch of a section of the chain, measured from the section's start. -/
structure Stretch where
  place : Nat
  start : Int
  stop : Int
deriving DecidableEq, Repr

def Stretch.toJson (s : Stretch) : Json :=
  .object [
    ("departing", .object [("junction", .string s!"J{s.place}"), ("branch", .string "NORMAL")]),
    ("start", .int s.start), ("end", .int s.stop)]

/-- What trains occupy and what they request. -/
structure Trains where
  occupied : List (List Stretch)
  requested : List (List Stretch)
deriving DecidableEq, Repr

def Trains.toJson (trains : Trains) : Json :=
  .object [
    ("occupied", .ofList (.ofList Stretch.toJson) trains.occupied),
    ("requested", .ofList (.ofList Stretch.toJson) trains.requested)]

/-- The most that a train's stop lies beyond its start. -/
def longestStep : Int := 5

/-- Draws the stretch that a train occupies on a section; nothing on a section that is too short. -/
def drawStretch (draws : Draws) (place : Nat) (length : Int) :
    Except Fault (Option Stretch × Draws) := do
  let (start, draws) ← draws.between 1 (max 1 (length / 2))
  let (step, draws) ← draws.between 1 longestStep
  let stop := min (length - 1) (start + step)
  return (if stop ≤ start then none else some ⟨place, start, stop⟩, draws)

/-- The sections beyond one, whole, as far as a train reaches. -/
def reached (lengths : List Int) (place : Nat) (reach : Int) : List Stretch :=
  ((lengths.zipIdx.drop (place + 1)).take reach.toNat).map fun (length, place) => ⟨place, 0, length⟩

/-- Draws the trains on chosen sections. -/
def drawTrains (draws : Draws) (lengths : List Int) (reach : Option Int) :
    List Nat → Except Fault (Trains × Draws)
  | [] => .ok (⟨[], []⟩, draws)
  | place :: places => do
    let length := lengths.getD place 0
    let (stretch, draws) ← drawStretch draws place length
    let (trains, draws) ← drawTrains draws lengths reach places
    match stretch with
    | none => return (trains, draws)
    | some stretch =>
      let beyond := reached lengths place (← needed reach)
      let request := ⟨place, stretch.stop, length⟩ :: beyond
      return (⟨[stretch] :: trains.occupied, request :: trains.requested⟩, draws)

/-- Puts so many trains on a chain of sections of these lengths, one on a section at most. -/
def trains (draws : Draws) (count : Option Int) (lengths : List Int) (reach : Option Int) :
    Except Fault (Trains × Draws) := do
  let count ← needed count
  let (places, draws) := draws.sample (List.range lengths.length) (min count lengths.length).toNat
  drawTrains draws lengths reach places

end Trackage.Chain
