import Trackage.Decimal.Binary64

/-!
Decimal text of double-precision numbers: the fewest digits that read back as the same number,
nearest to it among those, and a fixed number of places.
-/

namespace Trackage.Binary64

/-- The decimal magnitude of a positive fraction: the least power of ten above it has this
exponent. The search starts from an estimate by powers of two. -/
def decimalMagnitude (value : Fraction) : Int :=
  let bits : Int := (Nat.log2 value.numerator : Int) - Nat.log2 value.denominator
  -- The factor is the decimal logarithm of two, so that the estimate falls short by little.
  let estimate := (bits - 1) * 30103 / 100000 - 1
  let below (exponent : Int) : Bool :=
    if 0 ≤ exponent then value.numerator < value.denominator * tenTo exponent.toNat
    else value.numerator * tenTo (-exponent).toNat < value.denominator
  match [0, 1, 2, 3].find? fun step => below (estimate + step) with
  | some step => estimate + step
  | none => estimate + 4

/-- The digits and the power of ten of the decimals next to a fraction on the grid of a power of
ten: the one below, the one above, and whether the one above is nearer. -/
def neighbours (value : Fraction) (exponent : Int) : Nat × Nat × Bool :=
  let (top, bottom) :=
    if 0 ≤ exponent then (value.numerator, value.denominator * tenTo exponent.toNat)
    else (value.numerator * tenTo (-exponent).toNat, value.denominator)
  let low := top / bottom
  let double := 2 * (top % bottom)
  (low, low + 1, decide (bottom < double ∨ (double = bottom ∧ low % 2 = 1)))

/-- The digits of the shortest decimal that reads back as a positive number, tried with one digit,
two, and so on; seventeen digits always suffice. -/
def shortestFrom (significand : Nat) (exponent : Int) (value : Fraction) (size : Int) :
    Nat → Nat → Nat × Int
  | 0, count => ((neighbours value (size - count)).1, size - count)
  | tries + 1, count =>
    let grid := size - count
    let (low, high, upward) := neighbours value grid
    let same (digits : Nat) : Bool := ofDecimal false digits grid = .finite false significand exponent
    let (first, second) := if upward then (high, low) else (low, high)
    if same first then (first, grid)
    else if same second then (second, grid)
    else shortestFrom significand exponent value size tries (count + 1)

/-- The shortest decimal of a positive finite number: digits and power of ten. -/
def shortest (significand : Nat) (exponent : Int) : Nat × Int :=
  let value := scaled significand exponent
  shortestFrom significand exponent value (decimalMagnitude value) 17 1

/-- Drops the zeros at the end of a digit row, raising the power of ten for each. -/
def dropZeros : Nat → Nat → Int → Nat × Int
  | 0, digits, exponent => (digits, exponent)
  | fuel + 1, digits, exponent =>
    if digits ≠ 0 ∧ digits % 10 = 0 then dropZeros fuel (digits / 10) (exponent + 1)
    else (digits, exponent)

/-- How numbers are written: the decimal exponents that use positional form, the least number of
digits of a written exponent, and whether a single digit in front of one has a fraction too. -/
structure Layout where
  leastPositional : Int
  firstScientific : Int
  exponentDigits : Nat
  fractionAlways : Bool

/-- Numbers from a ten-thousandth up to ten to the sixteenth are written in positional form with a
fraction, others with an exponent of two digits or more. -/
def plainLayout : Layout := ⟨-4, 16, 2, false⟩

def fill (width : Nat) (text : List Char) : List Char :=
  List.replicate (width - text.length) '0' ++ text

/-- Writes a digit row with a point or with an exponent. -/
def layOut (layout : Layout) (digits : Nat) (exponent : Int) : List Char :=
  let row := Nat.toDigits 10 digits
  let leading : Int := exponent + row.length - 1
  if layout.leastPositional ≤ leading ∧ leading < layout.firstScientific then
    if 0 ≤ exponent then row ++ List.replicate exponent.toNat '0' ++ ['.', '0']
    else if 0 ≤ leading then
      let whole := leading.toNat + 1
      row.take whole ++ '.' :: row.drop whole
    else '0' :: '.' :: List.replicate (-leading - 1).toNat '0' ++ row
  else
    let mantissa := match row with
      | [] => []
      | [digit] => if layout.fractionAlways then [digit, '.', '0'] else [digit]
      | digit :: more => digit :: '.' :: more
    mantissa ++ 'e' :: (if leading < 0 then '-' else '+') ::
      fill layout.exponentDigits (Nat.toDigits 10 leading.natAbs)

def withSign (negative : Bool) (text : List Char) : String :=
  String.ofList (if negative then '-' :: text else text)

/-- The text of a number. -/
def text : Binary64 → String
  | .notANumber => "nan"
  | .infinite negative => withSign negative "inf".toList
  | .finite negative significand exponent =>
    if significand = 0 then withSign negative "0.0".toList
    else
      let (digits, scale) := shortest significand exponent
      let (digits, scale) := dropZeros 17 digits scale
      withSign negative (layOut plainLayout digits scale)

/-- The text of a number with a fixed number of places, at least one. -/
def fixedText (places : Nat) : Binary64 → String
  | .notANumber => "nan"
  | .infinite negative => withSign negative "inf".toList
  | .finite negative significand exponent =>
    let row := fill (places + 1) (Nat.toDigits 10 (inPlaces places significand exponent))
    let whole := row.length - places
    withSign negative (row.take whole ++ '.' :: row.drop whole)

end Trackage.Binary64
