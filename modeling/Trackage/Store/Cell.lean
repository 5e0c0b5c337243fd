import Trackage.Decimal.Extended
import Trackage.Fault

/-!
Cells of stored rows. A cell is nothing, a number of sixty-four bits, a fraction or a text. Where
numbers are kept, a text that stands for a number becomes one; where texts are kept, a number becomes
its text. A cell is found by another one that stands for the same number.
-/

namespace Trackage

/-- What a column of a row holds. -/
inductive Cell where
  | null
  | integer (value : Int)
  | real (value : Binary64)
  | text (value : String)
deriving DecidableEq, Repr

namespace Cell

/-- The least number that is too great for sixty-four bits with a sign. -/
def wordLimit : Int := 9223372036854775808

/-- Whether a number fits into sixty-four bits with a sign. -/
def fits (value : Int) : Bool := decide (-wordLimit ≤ value ∧ value < wordLimit)

/-- The cell of a number, which has to fit. -/
def ofInt (value : Int) : Except Fault Cell :=
  if fits value then .ok (.integer value) else .error .overflow

/-- The cell of a text, which may hold no half of a pair. -/
def ofText (value : String) : Except Fault Cell :=
  if Text.isWhole value then .ok (.text value) else .error .notWhole

/-- The cell of a value at a place among those that are stored together. What is not a number at all
counts as nothing. -/
def ofJson (place : Nat) : Json → Except Fault Cell
  | .null | .float .notANumber => .ok .null
  | .bool value => .ok (.integer (if value then 1 else 0))
  | .int value => ofInt value
  | .float value => .ok (.real value)
  | .string value => ofText value
  | .array _ => .error (.notStorable place .array)
  | .object _ => .error (.notStorable place .object)

def toJson : Cell → Json
  | .null => .null
  | .integer value => .int value
  | .real value => .float value
  | .text value => .string value

def isNull : Cell → Bool
  | .null => true
  | _ => false

/-- The blanks that may surround a number in a text. -/
def isPadding (c : Char) : Bool := c == ' ' || (9 ≤ c.toNat && c.toNat ≤ 13)

/-- The number that a text stands for: digits with a sign, a fraction and an exponent, of which only
the digits have to be there. -/
def number? (text : String) : Option Cell :=
  let body := ((text.toList.dropWhile isPadding).reverse.dropWhile isPadding).reverse
  let (negative, digits) := Text.splitSign body
  let (whole, rest) := Json.leadingDigits digits
  let (fraction, pointed, rest) := match rest with
    | '.' :: rest =>
      let (fraction, rest) := Json.leadingDigits rest
      (fraction, true, rest)
    | rest => ([], false, rest)
  let (exponent, rest) := Json.exponentPart rest
  if (whole.isEmpty && fraction.isEmpty) || !rest.isEmpty then none
  else if !pointed && exponent.isNone && fits (Text.signed negative whole) then
    some (.integer (Text.signed negative whole))
  else
    some (.real (Extended.ofDigits negative whole fraction (exponent.getD 0)))

/-- A fraction without places as the number that it is; the two ends of the range stay fractions. -/
def narrow : Cell → Cell
  | .real value =>
    match value.toInt? with
    | some number =>
      if -wordLimit < number ∧ number < wordLimit then .integer number else .real value
    | none => .real value
  | cell => cell

/-- A cell as a column of numbers keeps it. -/
def asNumber : Cell → Cell
  | .text value => ((number? value).map narrow).getD (.text value)
  | cell => cell.narrow

/-- Fractions kept as texts have fifteen digits at most, and an exponent from the fifteenth power of
ten on. -/
def textLayout : Binary64.Layout := ⟨-4, 15, 2, true⟩

/-- The text that a fraction is kept as. -/
def realText : Binary64 → String
  | .notANumber => ""
  | .infinite negative => if negative then "-Inf" else "Inf"
  | .finite negative significand exponent =>
    if significand = 0 then "0.0"
    else
      let (digits, scale) := Extended.significant ⟨significand, exponent⟩
      let (digits, scale) := Binary64.dropZeros (Extended.digitCount + 1) digits scale
      Binary64.withSign negative (Binary64.layOut textLayout digits scale)

/-- The text that a column of texts keeps of a cell, nothing for one that holds nothing. -/
def text? : Cell → Option String
  | .null => none
  | .integer value => some (toString value)
  | .real value => some (realText value)
  | .text value => some value

/-- A number without any rounding, for comparison alone. -/
def numeric? : Cell → Option Binary64
  | .integer value => some (.finite (value < 0) value.natAbs 0)
  | .real value => some value
  | .null | .text _ => none

/-- Whether a kept number is found by a cell: they are the same number, or the same text. What holds
nothing is not found at all. -/
def isFoundBy (kept key : Cell) : Bool :=
  match kept.numeric?, key.asNumber.numeric? with
  | some x, some y => x.eqv y
  | none, none =>
    match kept, key with
    | .text x, .text y => x == y
    | _, _ => false
  | _, _ => false

/-- The number that a cell has to be where rows are counted or looked up. -/
def index? (cell : Cell) : Option Int :=
  match cell.asNumber with
  | .integer value => some value
  | _ => none

end Cell

end Trackage
