/-!
Double-precision numbers with exact arithmetic: a finite number is a sign, a significand and a
power of two, and every operation rounds the exact result to the nearest such number, a tie to the
even significand.
-/

namespace Trackage

/-- A double-precision number. A finite one stands for the significand times two to the exponent;
the two zeros differ in their sign. -/
inductive Binary64 where
  | finite (negative : Bool) (significand : Nat) (exponent : Int)
  | infinite (negative : Bool)
  | notANumber
deriving DecidableEq, Repr

namespace Binary64

def precision : Nat := 53
def minExponent : Int := -1074
def maxExponent : Int := 971

/-- Two to a power. -/
def twoTo (power : Nat) : Nat := Nat.pow 2 power

/-- Ten to a power. -/
def tenTo (power : Nat) : Nat := Nat.pow 10 power

/-- A number without its sign: the fraction of two naturals. -/
structure Fraction where
  numerator : Nat
  denominator : Nat

/-- The fraction that a significand and an exponent stand for. -/
def scaled (significand : Nat) (exponent : Int) : Fraction :=
  if 0 ≤ exponent then ⟨significand * twoTo exponent.toNat, 1⟩
  else ⟨significand, twoTo (-exponent).toNat⟩

/-- The quotient of two naturals, rounded to the nearest, a tie to the even one. -/
def roundQuotient (numerator denominator : Nat) : Nat :=
  let quotient := numerator / denominator
  let double := 2 * (numerator % denominator)
  if denominator < double ∨ (double = denominator ∧ quotient % 2 = 1) then quotient + 1
  else quotient

/-- The fraction divided by two to the exponent, rounded to a natural. -/
def significandAt (value : Fraction) (exponent : Int) : Nat :=
  if 0 ≤ exponent then roundQuotient value.numerator (value.denominator * twoTo exponent.toNat)
  else roundQuotient (value.numerator * twoTo (-exponent).toNat) value.denominator

/-- The exponent at which the significand of a positive fraction fills so many bits. -/
def fillingExponent (bits : Nat) (value : Fraction) : Int :=
  -- The binary logarithms leave two exponents to choose from; a comparison decides between them.
  let estimate : Int := (Nat.log2 value.numerator : Int) - Nat.log2 value.denominator - bits
  let shifted := scaled 1 (estimate + bits)
  let fits := value.numerator * shifted.denominator < value.denominator * shifted.numerator
  if fits then estimate else estimate + 1

/-- The exponent at which the significand of a positive fraction fills the precision, but no less
than the least exponent. -/
def exponentFor (value : Fraction) : Int := max (fillingExponent precision value) minExponent

/-- The double-precision number nearest to a fraction. -/
def nearest (negative : Bool) (value : Fraction) : Binary64 :=
  if value.numerator = 0 then .finite negative 0 0
  else
    let exponent := exponentFor value
    let significand := significandAt value exponent
    let (significand, exponent) :=
      -- A significand that is rounded up to the next power of two moves to the next exponent.
      if significand = twoTo precision then (twoTo (precision - 1), exponent + 1)
      else (significand, exponent)
    if significand = 0 then .finite negative 0 0
    else if maxExponent < exponent then .infinite negative
    else .finite negative significand exponent

/-- The number nearest to a signed multiple of a power of two. -/
def ofScaled (value : Int) (exponent : Int) : Binary64 :=
  nearest (value < 0) (scaled value.natAbs exponent)

/-- The number nearest to an integer, or nothing when the integer is out of range. -/
def ofInt? (value : Int) : Option Binary64 :=
  match nearest (value < 0) ⟨value.natAbs, 1⟩ with
  | .finite negative significand exponent => some (.finite negative significand exponent)
  | _ => none

def ofNat (value : Nat) : Binary64 := nearest false ⟨value, 1⟩

def zero : Binary64 := .finite false 0 0

def negate : Binary64 → Binary64
  | .finite negative significand exponent => .finite (!negative) significand exponent
  | .infinite negative => .infinite (!negative)
  | .notANumber => .notANumber

/-- A finite number over a common scale: its signed significand. -/
def signedSignificand (negative : Bool) (significand : Nat) : Int :=
  if negative then -(significand : Int) else significand

def add : Binary64 → Binary64 → Binary64
  | .finite n₁ s₁ e₁, .finite n₂ s₂ e₂ =>
    let exponent := min e₁ e₂
    let total := signedSignificand n₁ s₁ * twoTo (e₁ - exponent).toNat +
      signedSignificand n₂ s₂ * twoTo (e₂ - exponent).toNat
    if total = 0 then .finite (n₁ && n₂) 0 0 else ofScaled total exponent
  | .notANumber, _ | _, .notANumber => .notANumber
  | .infinite n₁, .infinite n₂ => if n₁ = n₂ then .infinite n₁ else .notANumber
  | .infinite n, _ | _, .infinite n => .infinite n

def sub (x y : Binary64) : Binary64 := x.add y.negate

/-- A finite number as a multiple of the least power of two. -/
def leastUnits : Binary64 → Int
  | .finite negative significand exponent =>
    signedSignificand negative significand * twoTo (exponent - minExponent).toNat
  | _ => 0

/-- The sum of finite numbers, rounded only once. -/
def sum (numbers : List Binary64) : Binary64 :=
  ofScaled (numbers.foldl (fun total x => total + x.leastUnits) 0) minExponent

def mul : Binary64 → Binary64 → Binary64
  | .finite n₁ s₁ e₁, .finite n₂ s₂ e₂ => nearest (n₁ != n₂) (scaled (s₁ * s₂) (e₁ + e₂))
  | .infinite n₁, .infinite n₂ => .infinite (n₁ != n₂)
  | .infinite n₁, .finite n₂ s _ | .finite n₂ s _, .infinite n₁ =>
    if s = 0 then .notANumber else .infinite (n₁ != n₂)
  | _, _ => .notANumber

/-- The quotient of two numbers; a finite dividend over zero is no case of this program and counts
as not a number. -/
def div : Binary64 → Binary64 → Binary64
  | .finite n₁ s₁ e₁, .finite n₂ s₂ e₂ =>
    if s₂ = 0 then .notANumber
    else
      let x := scaled s₁ e₁
      let y := scaled s₂ e₂
      nearest (n₁ != n₂) ⟨x.numerator * y.denominator, x.denominator * y.numerator⟩
  | .infinite n₁, .finite n₂ _ _ => .infinite (n₁ != n₂)
  | .finite n₁ _ _, .infinite n₂ => .finite (n₁ != n₂) 0 0
  | _, _ => .notANumber

/-- Whether one number is less than another; nothing is less or greater than what is no number. -/
def lt : Binary64 → Binary64 → Bool
  | .finite n₁ s₁ e₁, .finite n₂ s₂ e₂ =>
    let exponent := min e₁ e₂
    signedSignificand n₁ s₁ * twoTo (e₁ - exponent).toNat <
      signedSignificand n₂ s₂ * twoTo (e₂ - exponent).toNat
  | .infinite n, .finite .. => n
  | .finite .., .infinite n => !n
  | .infinite n₁, .infinite n₂ => n₁ && !n₂
  | _, _ => false

def isFinite : Binary64 → Bool
  | .finite .. => true
  | _ => false

def isZero : Binary64 → Bool
  | .finite _ significand _ => significand == 0
  | _ => false

/-- A number without its sign. -/
def magnitude : Binary64 → Binary64
  | .finite _ significand exponent => .finite false significand exponent
  | .infinite _ => .infinite false
  | .notANumber => .notANumber

/-- The same value; the two zeros are equal. -/
def eqv : Binary64 → Binary64 → Bool
  | .notANumber, _ | _, .notANumber => false
  | x, y => !x.lt y && !y.lt x

/-- The integer part of a finite number. -/
def truncate? : Binary64 → Option Int
  | .finite negative significand exponent =>
    let value := scaled significand exponent
    some (signedSignificand negative (value.numerator / value.denominator))
  | _ => none

/-- The integer that a number equals, if there is one. -/
def toInt? (x : Binary64) : Option Int :=
  match x with
  | .finite negative significand exponent =>
    let value := scaled significand exponent
    if value.numerator % value.denominator = 0 then
      some (signedSignificand negative (value.numerator / value.denominator))
    else none
  | _ => none

/-- A finite number as a whole number of units of a negative power of ten, a tie to the even one. -/
def inPlaces (places significand : Nat) (exponent : Int) : Nat :=
  let value := scaled significand exponent
  roundQuotient (value.numerator * tenTo places) value.denominator

/-- The number nearest to the decimal of so many places that is nearest to a number. -/
def roundPlaces (places : Nat) : Binary64 → Binary64
  | .finite negative significand exponent =>
    nearest negative ⟨inPlaces places significand exponent, tenTo places⟩
  | x => x

/-- Most decimal magnitudes a double can have; beyond it a decimal is zero or infinite. -/
def decimalReach : Int := 400

/-- The number nearest to a decimal: digits times a power of ten. -/
def ofDecimal (negative : Bool) (digits : Nat) (exponent : Int) : Binary64 :=
  -- The digits number about three tenths of the bits, between a quarter of them and a third.
  let magnitude : Int := exponent + (Nat.log2 digits : Int) / 3
  if digits = 0 then .finite negative 0 0
  else if decimalReach < exponent + (Nat.log2 digits : Int) / 4 then .infinite negative
  else if magnitude < -decimalReach then .finite negative 0 0
  else if 0 ≤ exponent then nearest negative ⟨digits * tenTo exponent.toNat, 1⟩
  else nearest negative ⟨digits, tenTo (-exponent).toNat⟩

end Binary64

end Trackage
