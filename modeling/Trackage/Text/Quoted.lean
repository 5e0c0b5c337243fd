import Trackage.Text.Half
import Trackage.Text.Printable

/-!
Quoted texts in messages. A text stands between single quotes, or between double quotes when it
holds a single quote and no double one; what cannot be shown is escaped.
-/

namespace Trackage.Text

/-- The mark that encloses a text. -/
def quoteMark (text : List Char) : Char :=
  if text.contains '\'' && !text.contains '"' then '"' else '\''

/-- The hexadecimal digits of a code point, filled with zeros to a width. -/
def hexDigits (width n : Nat) : List Char :=
  let digits := Nat.toDigits 16 n
  List.replicate (width - digits.length) '0' ++ digits

/-- The escape of a code point by four hexadecimal digits. -/
def unitEscape (unit : Nat) : List Char := '\\' :: 'u' :: hexDigits 4 unit

/-- One character of a quoted text. -/
def escapeChar (mark c : Char) : List Char :=
  if c = mark ∨ c = '\\' then ['\\', c]
  else if c = '\n' then ['\\', 'n']
  else if c = '\r' then ['\\', 'r']
  else if c = '\t' then ['\\', 't']
  else if isPrintable c then [c]
  else if c.toNat < 0x100 then '\\' :: 'x' :: hexDigits 2 c.toNat
  else if c.toNat < 0x10000 then unitEscape c.toNat
  else '\\' :: 'U' :: hexDigits 8 c.toNat

/-- One symbol of a quoted text. -/
def escapeSymbol (mark : Char) : Symbol → List Char
  | .char c => escapeChar mark c
  | .half unit => unitEscape unit

/-- A text between its marks. -/
def quoted (text : String) : String :=
  let mark := quoteMark text.toList
  String.ofList (mark :: (symbols text.toList).flatMap (escapeSymbol mark) ++ [mark])

end Trackage.Text
