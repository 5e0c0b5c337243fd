import Trackage.Decimal.Binary64

/-!
Sums of double-precision numbers that round only once. A running sum is an expansion: a row of
numbers, the least first, whose exact sum is the value. It keeps what each addition rounds off.
-/

namespace Trackage

/-- Why numbers have no sum. -/
inductive SumError where
  /-- A running sum of finite numbers is out of range. -/
  | overflow
  /-- Infinities of both signs are among them. -/
  | oppositeInfinities
deriving DecidableEq, Repr

namespace Expansion

/-- The sum of two numbers, and what it has been rounded by; the first one may not be less in
magnitude. -/
def addExactly (x y : Binary64) : Binary64 × Binary64 :=
  let high := x.add y
  (high, y.sub (high.sub x))

/-- Adds a number to an expansion: what is left of the parts, and their greatest one, which may be
out of range. -/
def grow (x : Binary64) : List Binary64 → List Binary64 × Binary64
  | [] => ([], x)
  | part :: parts =>
    let (high, low) :=
      if x.magnitude.lt part.magnitude then addExactly part x else addExactly x part
    let (kept, top) := grow high parts
    (if low.isZero then kept else low :: kept, top)

/-- A sum of which some numbers have been added up: the finite ones since the last infinity, and
which infinities there were. -/
structure Running where
  parts : List Binary64
  above : Bool
  below : Bool

def Running.empty : Running := ⟨[], false, false⟩

/-- Adds a number to a running sum. -/
def Running.add (sum : Running) (x : Binary64) : Except SumError Running :=
  match x with
  | .infinite negative => .ok ⟨[], sum.above || !negative, sum.below || negative⟩
  | x =>
    let (kept, top) := grow x sum.parts
    if !top.isFinite then .error .overflow
    else .ok { sum with parts := if top.isZero then kept else kept ++ [top] }

/-- What a running sum comes to. -/
def Running.total (sum : Running) : Except SumError Binary64 :=
  match sum.above, sum.below with
  | true, true => .error .oppositeInfinities
  | true, false => .ok (.infinite false)
  | false, true => .ok (.infinite true)
  | false, false => .ok (Binary64.sum sum.parts)

end Expansion

/-- The sum of numbers of which each is one, rounded only once. -/
def Binary64.sum? (numbers : List Binary64) : Except SumError Binary64 := do
  (← numbers.foldlM Expansion.Running.add .empty).total

end Trackage
