import Trackage.Decimal.Shortest

/-!
Numbers without a sign whose significand has sixty-four bits, and decimals that are read and written
through them. A decimal is scaled by one factor after the other and every step rounds, so the result
may miss the nearest number by a little; `Binary64.ofDecimal` and `Binary64.shortest` never do.
-/

namespace Trackage

/-- A number that stands for its significand times two to its exponent. -/
structure Extended where
  significand : Nat
  exponent : Int
deriving DecidableEq, Repr

namespace Extended

open Binary64 (Fraction)

def precision : Nat := 64

/-- The number nearest to a fraction. -/
def nearest (value : Fraction) : Extended :=
  if value.numerator = 0 then ⟨0, 0⟩
  else
    let exponent := Binary64.fillingExponent precision value
    ⟨Binary64.significandAt value exponent, exponent⟩

/-- What a number stands for. -/
def fraction (x : Extended) : Fraction := Binary64.scaled x.significand x.exponent

def ofNat (value : Nat) : Extended := nearest ⟨value, 1⟩

/-- A finite double-precision number without its sign. -/
def ofBinary64 : Binary64 → Extended
  | .finite _ significand exponent => ⟨significand, exponent⟩
  | _ => ⟨0, 0⟩

/-- The double-precision number nearest to a power of ten. -/
def doubleTenTo (power : Int) : Binary64 := .ofDecimal false 1 power

def toBinary64 (negative : Bool) (x : Extended) : Binary64 := .nearest negative x.fraction

def mul (x y : Extended) : Extended :=
  nearest (Binary64.scaled (x.significand * y.significand) (x.exponent + y.exponent))

def div (x y : Extended) : Extended :=
  let x := x.fraction
  let y := y.fraction
  nearest ⟨x.numerator * y.denominator, x.denominator * y.numerator⟩

def add (x y : Extended) : Extended :=
  let x := x.fraction
  let y := y.fraction
  nearest ⟨x.numerator * y.denominator + y.numerator * x.denominator, x.denominator * y.denominator⟩

def lt (x y : Extended) : Bool :=
  let x := x.fraction
  let y := y.fraction
  x.numerator * y.denominator < y.numerator * x.denominator

/-- The whole part of a number. -/
def whole (x : Extended) : Nat := x.fraction.numerator / x.fraction.denominator

/-- What is left of a number without its whole part. -/
def rest (x : Extended) : Extended :=
  nearest ⟨x.fraction.numerator % x.fraction.denominator, x.fraction.denominator⟩

def ten : Extended := ofNat 10

/-- Multiplies a result by a power, which is squared for each binary place of the exponent. -/
def timesPower (square result : Extended) (power : Nat) : Extended :=
  if power = 0 then result
  else
    timesPower (square.mul square) (if power % 2 = 1 then result.mul square else result)
      (power / 2)
termination_by power
decreasing_by omega

/-- A power of ten. -/
def tenTo (power : Nat) : Extended := timesPower ten (ofNat 1) power

/-! ### Reading -/

/-- A significand takes no more digits once it is this great: it has to fit into sixty-four bits
with a sign. -/
def digitBound : Nat := 922337203685477579

/-- A significand is not multiplied any more once it is this great. -/
def raiseBound : Nat := 922337203685477580

/-- Puts digits behind a significand as long as there is room, and counts those that are left. -/
def takeDigits (significand : Nat) : List Nat → Nat × Nat
  | [] => (significand, 0)
  | digit :: digits =>
    if significand < digitBound then takeDigits (10 * significand + digit) digits
    else (significand, digits.length + 1)

/-- Moves powers of ten into a significand as long as there is room. -/
def raise (significand : Nat) : Nat → Nat × Nat
  | 0 => (significand, 0)
  | power + 1 =>
    if significand < raiseBound then raise (10 * significand) power else (significand, power + 1)

/-- Cancels powers of ten as long as a significand ends in a zero. -/
def cancel (significand : Nat) : Nat → Nat × Nat
  | 0 => (significand, 0)
  | power + 1 =>
    if significand % 10 = 0 then cancel (significand / 10) power else (significand, power + 1)

/-- An exponent of more than five digits counts as this one. -/
def farExponent : Int := 10000

/-- An exponent as it is taken into account. -/
def bounded (exponent : Int) : Int :=
  if exponent.natAbs < 100000 then exponent else exponent.sign * farExponent

/-- The greatest power of ten that is a factor of its own. -/
def singlePower : Nat := 307

/-- The least power of ten that takes every significand out of range. -/
def endPower : Nat := 342

/-- A significand times a power of ten, or divided by one. A power that is no factor of its own is
split, with the second part rounded as a double-precision number. -/
def scale (negative up : Bool) (significand power : Nat) : Binary64 :=
  let scaled (power : Nat) : Binary64 :=
    let factor := tenTo power
    ((if up then (ofNat significand).mul factor else (ofNat significand).div factor)).toBinary64
      negative
  let split := singlePower + 1
  if power = 0 then .nearest negative ⟨significand, 1⟩
  else if power ≤ singlePower then scaled power
  else if power < endPower then
    let part := scaled (power - split)
    if up then part.mul (doubleTenTo split) else part.div (doubleTenTo split)
  else if up then .infinite negative
  else .finite negative 0 0

/-- The number that digits in front of a point and behind it, with an exponent, come to. -/
def ofDigits (negative : Bool) (digits places : List Nat) (exponent : Int) : Binary64 :=
  let (significand, dropped) := takeDigits 0 digits
  let (significand, unused) := takeDigits significand places
  let power := bounded exponent + dropped - (places.length - unused : Nat)
  if significand = 0 then .finite negative 0 0
  else
    let up := decide (0 ≤ power)
    let (significand, power) := (if up then raise else cancel) significand power.natAbs
    scale negative up significand power

/-! ### Writing -/

/-- The greatest of the multiples of a scale by a step that a number reaches, with the power of ten
that it is for. The steps are counted down, and a number needs no more than ten of a kind. -/
def climb (x step : Extended) (places : Int) : Nat → Extended × Int → Extended × Int
  | 0, reached => reached
  | tries + 1, (scale, power) =>
    let next := step.mul scale
    if x.lt next then (scale, power) else climb x step places tries (next, power + places)

/-- Multiplies a number until it is not below a bound, with the power of ten that takes it back. The
steps are counted down, and a number needs no more than forty-two of a kind. -/
def lift (bound step : Extended) (places : Int) : Nat → Extended × Int → Extended × Int
  | 0, reached => reached
  | tries + 1, (x, power) =>
    if x.lt bound then lift bound step places tries (x.mul step, power - places) else (x, power)

/-- A positive number as one between one and ten, with its power of ten. -/
def normalize (x : Extended) : Extended × Int :=
  let reached := climb x (ofBinary64 (doubleTenTo 100)) 100 10 (ofNat 1, 0)
  let reached := climb x (ofBinary64 (doubleTenTo 10)) 10 10 reached
  let (scale, power) := climb x ten 1 10 reached
  let lifted := lift (ofBinary64 (doubleTenTo (-8))) (ofNat 100000000) 8 42 (x.div scale, power)
  lift (ofNat 1) ten 1 42 lifted

/-- Half a unit of the last digit that is written. -/
def half : Extended := ofBinary64 ((Binary64.ofDecimal false 5 (-5)).mul (doubleTenTo (-10)))

/-- How many digits are written. -/
def digitCount : Nat := 15

/-- Puts so many digits of a number behind a row of digits. -/
def row : Nat → Extended → Nat → Nat
  | 0, _, digits => digits
  | count + 1, x, digits => row count (x.rest.mul ten) (10 * digits + x.whole)

/-- The digits of a positive number, rounded upwards from a half, and their power of ten. -/
def significant (x : Extended) : Nat × Int :=
  let (x, power) := x.normalize
  let x := x.add half
  let (x, power) :=
    if x.lt ten then (x, power) else (x.mul (ofBinary64 (doubleTenTo (-1))), power + 1)
  (row digitCount x 0, power + 1 - digitCount)

end Extended

end Trackage
