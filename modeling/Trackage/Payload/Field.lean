import Trackage.Fault

/-!
Parts of untyped data: the field of an object, the items of a row, and the number that a value stands
for. Whole numbers stay whole under arithmetic, a fraction makes the result one, and a truth value
counts as one or zero. Comparisons are exact whatever the kinds of the two.
-/

namespace Trackage.Json

/-- The value of a field that has to be there. -/
def field (data : Json) (key : String) : Except Fault Json :=
  match data with
  | .object _ =>
    match data.get? key with
    | some found => .ok found
    | none => .error (.missingKey key)
  | _ => .error .wrongKind

/-- The value of a field of an object, which may be missing. -/
def member? (data : Json) (key : String) : Except Fault (Option Json) :=
  match data with
  | .object _ => .ok (data.get? key)
  | _ => .error .noMember

/-- What a value is run through. -/
def each (value : Json) : Except Fault (List Json) :=
  match value.items? with
  | some items => .ok items
  | none => .error .wrongKind

/-- What a value is run through, nothing if the value is not given. -/
def eachGiven (value : Json) : Except Fault (List Json) :=
  if value.truthy then value.each else .ok []

/-- The whole number that a value stands for: a fraction loses its places, a truth value is one or
zero, and a text is read. -/
def whole : Json → Except Fault Int
  | .int value => .ok value
  | .bool value => .ok (if value then 1 else 0)
  | .float .notANumber => .error (.value .notANumber)
  | .float (.infinite _) => .error .overflow
  | .float value => .ok (value.truncate?.getD 0)
  | .string value => (Text.readNumeral value).mapError .ofNumeral
  | .null | .array _ | .object _ => .error .wrongKind

end Trackage.Json

namespace Trackage

/-- A number: whole, or with a fraction. -/
inductive Number where
  | whole (value : Int)
  | fraction (value : Binary64)
deriving DecidableEq, Repr

namespace Number

def toJson : Number → Json
  | .whole value => .int value
  | .fraction value => .float value

/-- The value of a number without any rounding, for comparison alone. -/
def exact : Number → Binary64
  | .whole value => .finite (value < 0) value.natAbs 0
  | .fraction value => value

def lt (x y : Number) : Bool := x.exact.lt y.exact

def eqv (x y : Number) : Bool := x.exact.eqv y.exact

/-- A number as an operand of double-precision arithmetic. -/
def rounded : Number → Except Fault Binary64
  | .fraction value => .ok value
  | .whole value =>
    match Binary64.ofInt? value with
    | some value => .ok value
    | none => .error .overflow

/-- Combines two numbers: as whole ones if both are, in double precision otherwise. -/
def combine (whole : Int → Int → Int) (fraction : Binary64 → Binary64 → Binary64)
    (x y : Number) : Except Fault Number :=
  match x, y with
  | .whole x, .whole y => .ok (.whole (whole x y))
  | x, y => do
    let x ← x.rounded
    let y ← y.rounded
    return .fraction (fraction x y)

end Number

namespace Json

/-- The number that a value is; a text is none. -/
def number : Json → Except Fault Number
  | .int value => .ok (.whole value)
  | .bool value => .ok (.whole (if value then 1 else 0))
  | .float value => .ok (.fraction value)
  | .null | .string _ | .array _ | .object _ => .error .wrongKind

def plus (a b : Json) : Except Fault Json := do
  return (← (← a.number).combine (· + ·) Binary64.add (← b.number)).toJson

def minus (a b : Json) : Except Fault Json := do
  return (← (← a.number).combine (· - ·) Binary64.sub (← b.number)).toJson

/-- Whether a number is greater than another one. -/
def exceeds (a b : Json) : Except Fault Bool := do
  let a ← a.number
  let b ← b.number
  return b.lt a

mutual

/-- Whether two values are equal. Numbers are equal by value, and the order of fields is of no
account. -/
def alike : Json → Json → Bool
  | .null, .null => true
  | .string a, .string b => a == b
  | .array a, .array b => alikeItems a b
  | .object a, .object b => a.length == b.length && alikeFields a b
  | a, b =>
    match a.number, b.number with
    | .ok a, .ok b => a.eqv b
    | _, _ => false

def alikeItems : List Json → List Json → Bool
  | [], [] => true
  | a :: items, b :: others => alike a b && alikeItems items others
  | _, _ => false

/-- Whether each field has a field of the same name and an equal value among others. -/
def alikeFields : List (String × Json) → List (String × Json) → Bool
  | [], _ => true
  | (key, value) :: fields, others =>
    (match others.find? (·.1 == key) with
      | some (_, other) => alike value other
      | none => false) && alikeFields fields others

end

end Json

end Trackage
