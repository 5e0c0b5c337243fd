import Trackage.Text.Basic
import Trackage.Text.Quoted

/-!
Whole numbers written in decimal. A free numeral may stand between blanks, use the digits of any
script and single underscores between digits; a strict one is an optional sign and ASCII digits.
Either is refused when it has more digits than the limit, and so is a number that would need more of
them to be written.
-/

namespace Trackage.Text

/-- Why a text is no whole number, or a number has no text. -/
inductive NumeralError where
  | notANumeral (text : String)
  | tooManyDigits (digits : Nat)
  | unwritable
deriving DecidableEq, Repr

/-- The most digits a numeral may have, leading zeros included. -/
def digitLimit : Nat := 4300

/-- The most characters of a refused numeral that a message shows. -/
def shownNumeral : Nat := 200

def NumeralError.message : NumeralError → String
  | .notANumeral text =>
    "invalid literal for int() with base 10: " ++
      String.ofList ((quoted text).toList.take shownNumeral)
  | .tooManyDigits digits =>
    s!"Exceeds the limit ({digitLimit} digits) for integer string conversion: value has {digits} " ++
      "digits; use sys.set_int_max_str_digits() to increase the limit"
  | .unwritable =>
    s!"Exceeds the limit ({digitLimit} digits) for integer string conversion; " ++
      "use sys.set_int_max_str_digits() to increase the limit"

/-- The least number that has more digits than a numeral may have. -/
def numeralBound : Nat := Nat.pow 10 digitLimit

/-- Whether a number can be written. -/
def isWritable (value : Int) : Bool := decide (value.natAbs < numeralBound)

/-- The number that a row of decimal digits stands for. -/
def ofDigits (digits : List Nat) : Nat :=
  digits.foldl (fun value digit => 10 * value + digit) 0

/-- The number of a row of digits with a sign in front of it. -/
def signed (negative : Bool) (digits : List Nat) : Int :=
  if negative then -(ofDigits digits : Int) else ofDigits digits

/-- Takes a sign off a text; true stands for minus. -/
def splitSign : List Char → Bool × List Char
  | '-' :: rest => (true, rest)
  | '+' :: rest => (false, rest)
  | text => (false, text)

/-- Brings the digits and blanks of every script to ASCII. A text that is ASCII already stays as it
is, so that in it the separators from file to unit do not count as blanks. -/
def plainNumeral (text : List Char) : List Char :=
  if text.all (·.toNat < 128) then text
  else text.map fun c =>
    if c.toNat < 127 then c
    else if isBlank c then ' '
    else match digitValue? c with
      | some digit => Char.ofNat ('0'.toNat + digit)
      | none => '?'

/-- The blanks that may surround a plain numeral. -/
def isNumeralBlank (c : Char) : Bool :=
  c == ' ' || (9 ≤ c.toNat && c.toNat ≤ 13)

/-- Whether each underscore of a row stands between two digits. -/
def wellSpaced : List Char → Bool
  | [] => true
  | '_' :: _ => false
  | [_] => true
  | _ :: '_' :: rest => !rest.isEmpty && wellSpaced rest
  | _ :: rest => wellSpaced rest

/-- Reads a free numeral. -/
def readNumeral (text : String) : Except NumeralError Int :=
  let plain := (plainNumeral text.toList).dropWhile isNumeralBlank
  let (negative, body) := splitSign plain
  let inRow (c : Char) : Bool := (asciiDigit? c).isSome || c == '_'
  let row := body.takeWhile inRow
  let digits := row.filterMap asciiDigit?
  if digits.isEmpty || !wellSpaced row then .error (.notANumeral text)
  else if digitLimit < digits.length then .error (.tooManyDigits digits.length)
  else if (body.dropWhile inRow).all isNumeralBlank then .ok (signed negative digits)
  else .error (.notANumeral text)

/-- The digits of a strict numeral and whether it is negative, or nothing for any other text. -/
def strictNumeral? (text : List Char) : Option (Bool × List Nat) :=
  let (negative, body) := splitSign text
  if body.isEmpty then none
  else (body.mapM asciiDigit?).map (negative, ·)

/-- The value of the digits of a strict numeral, within the limit. -/
def strictValue (negative : Bool) (digits : List Nat) : Except NumeralError Int :=
  if digitLimit < digits.length then .error (.tooManyDigits digits.length)
  else .ok (signed negative digits)

end Trackage.Text

namespace Trackage

/-- What leaves an operation that is refused. An error is raised with its message, and where a number
in that cannot be written, the failure to write it leaves in place of the error. -/
inductive Raised (ε : Type) where
  | error (cause : ε)
  | unwritable

namespace Raised

def of (writable : Bool) (cause : ε) : Raised ε := if writable then .error cause else .unwritable

def map (f : ε → δ) : Raised ε → Raised δ
  | .error cause => .error (f cause)
  | .unwritable => .unwritable

end Raised

end Trackage
