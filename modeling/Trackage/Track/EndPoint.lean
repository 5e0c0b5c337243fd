import Trackage.Text.Half

/-!
Junctions and the branches by which track leaves them. An end-point is one branch of one junction;
every end of a section is such an end-point.
-/

namespace Trackage

/-- The three branches of a junction. -/
inductive Branch where
  | facing
  | normal
  | reverse
deriving DecidableEq, Repr, Hashable

namespace Branch

def text : Branch → String
  | .facing => "FACING"
  | .normal => "NORMAL"
  | .reverse => "REVERSE"

/-- The branch of a name, which has to be written in capitals. -/
def ofText? (name : String) : Option Branch :=
  [facing, normal, reverse].find? (·.text == name)

def rank : Branch → Nat
  | .facing => 0
  | .normal => 1
  | .reverse => 2

end Branch

/-- A branch of a junction. -/
structure EndPoint where
  junction : String
  branch : Branch
deriving DecidableEq, Repr, Hashable

namespace EndPoint

def text (endPoint : EndPoint) : String :=
  endPoint.junction ++ " " ++ endPoint.branch.text

/-- The order of end-points: by the name of the junction, then by branch. -/
def le (a b : EndPoint) : Bool :=
  decide (Text.orderKey a.junction < Text.orderKey b.junction) ||
    (a.junction == b.junction && decide (a.branch.rank ≤ b.branch.rank))

/-- What stands in a message for an end-point that may be missing. -/
def optionText : Option EndPoint → String
  | none => "None"
  | some endPoint => endPoint.text

end EndPoint

/-- The names among the given ones, each once and in order. -/
def sortedNames (names : List String) : List String :=
  names.eraseDups.mergeSort fun a b => !decide (Text.orderKey b < Text.orderKey a)

/-- What look-ups take distances modulo: a prime of sixty-one bits. -/
def residueModulus : Nat := 2305843009213693951

/-- What a look-up keeps of a distance. -/
def residue (distance : Nat) : Nat := distance % residueModulus

end Trackage
