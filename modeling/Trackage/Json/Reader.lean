import Trackage.Json.Value
import Trackage.Text.Half
import Trackage.Text.Numeral

/-!
Reading untyped data. The grammar is the strict one: one value, double-quoted texts without control
characters, no comma at the end of a row, and the words NaN and Infinity as numbers. A whole number
may have no more digits than any other numeral, and arrays and objects may only be nested so deep.
-/

namespace Trackage

/-- What holds other values. -/
inductive Container where
  | array
  | object
deriving DecidableEq, Repr

/-- Why a text holds no value. -/
inductive JsonError where
  | malformed
  | numeral (error : Text.NumeralError)
  /-- There is one container too many inside the others. -/
  | tooDeep (container : Container)
deriving DecidableEq, Repr

/-- What is said about a container too many. -/
def Container.tooDeepText (container : Container) : String :=
  let name := match container with
    | .array => "array"
    | .object => "object"
  s!"maximum recursion depth exceeded while decoding a JSON {name} from a unicode string"

namespace Json

/-- The blanks that may stand between the parts of a value. -/
def isGap (c : Char) : Bool := c == ' ' || c == '\t' || c == '\n' || c == '\r'

def skipGap (text : List Char) : List Char := text.dropWhile isGap

/-- The value of a hexadecimal digit. -/
def hexValue? (c : Char) : Option Nat :=
  if '0' ≤ c ∧ c ≤ '9' then some (c.toNat - '0'.toNat)
  else if 'a' ≤ c ∧ c ≤ 'f' then some (c.toNat - 'a'.toNat + 10)
  else if 'A' ≤ c ∧ c ≤ 'F' then some (c.toNat - 'A'.toNat + 10)
  else none

/-- The number that four hexadecimal digits stand for. -/
def hexUnit? : List Char → Option (Nat × List Char)
  | a :: b :: c :: d :: rest => do
    let a ← hexValue? a
    let b ← hexValue? b
    let c ← hexValue? c
    let d ← hexValue? d
    some (((a * 16 + b) * 16 + c) * 16 + d, rest)
  | _ => none

/-- The second half of a pair of units that together stand for one character. -/
def lowHalf? : List Char → Option (Nat × List Char)
  | '\\' :: 'u' :: rest => do
    let (unit, rest) ← hexUnit? rest
    if 0xdc00 ≤ unit ∧ unit < 0xe000 then some (unit - 0xdc00, rest) else none
  | _ => none

/-- The symbol of an escaped unit, joined with the unit after it when the two are a pair. Half a pair
that stands alone is kept as such. -/
def unitSymbol (unit : Nat) (rest : List Char) : Text.Symbol × List Char :=
  if 0xd800 ≤ unit ∧ unit < 0xdc00 then
    match lowHalf? rest with
    | some (low, after) => (.char (Char.ofNat (0x10000 + (unit - 0xd800) * 0x400 + low)), after)
    | none => (.half unit, rest)
  else (.ofUnit unit, rest)

/-- The character that an escape of one letter stands for. -/
def letterEscape? : Char → Option Char
  | '"' => some '"'
  | '\\' => some '\\'
  | '/' => some '/'
  | 'b' => some '\x08'
  | 'f' => some '\x0c'
  | 'n' => some '\n'
  | 'r' => some '\r'
  | 't' => some '\t'
  | _ => none

/-- Reads the characters of a text up to its closing quote. -/
def readChars : Nat → List Char → Option (List Char × List Char)
  | _, '"' :: rest => some ([], rest)
  | fuel + 1, '\\' :: 'u' :: rest => do
    let (unit, rest) ← hexUnit? rest
    let (symbol, rest) := unitSymbol unit rest
    let (chars, rest) ← readChars fuel rest
    some (symbol.spelling ++ chars, rest)
  | fuel + 1, '\\' :: c :: rest => do
    let c ← letterEscape? c
    let (chars, rest) ← readChars fuel rest
    some (c :: chars, rest)
  | fuel + 1, c :: rest =>
    if c.toNat < 32 ∨ c = '\\' then none
    else do
      let (chars, rest) ← readChars fuel rest
      some (c :: chars, rest)
  | _, _ => none

/-- Reads a text whose opening quote is taken already. -/
def readText (text : List Char) : Except JsonError (String × List Char) :=
  match readChars text.length text with
  | some (chars, rest) => .ok (String.ofList chars, rest)
  | none => .error .malformed

/-- The digits that a text starts with. -/
def leadingDigits (text : List Char) : List Nat × List Char :=
  ((text.takeWhile fun c => (Text.asciiDigit? c).isSome).filterMap Text.asciiDigit?,
    text.dropWhile fun c => (Text.asciiDigit? c).isSome)

/-- The whole part of a number: one zero, or digits that start with another digit. -/
def wholePart? (text : List Char) : Option (List Nat × List Char) :=
  match text with
  | '0' :: rest => some ([0], rest)
  | _ =>
    let (digits, rest) := leadingDigits text
    if digits.isEmpty then none else some (digits, rest)

/-- The digits after a point; a point without digits is not taken. -/
def fractionPart (text : List Char) : List Nat × List Char :=
  match text with
  | '.' :: rest =>
    let (digits, after) := leadingDigits rest
    if digits.isEmpty then ([], text) else (digits, after)
  | _ => ([], text)

/-- The exponent of a number; a mark without digits is not taken. -/
def exponentPart (text : List Char) : Option Int × List Char :=
  match text with
  | c :: rest =>
    if c = 'e' ∨ c = 'E' then
      let (negative, body) := Text.splitSign rest
      let (digits, after) := leadingDigits body
      if digits.isEmpty then (none, text) else (some (Text.signed negative digits), after)
    else (none, text)
  | [] => (none, text)

/-- Reads a number whose sign is taken already. -/
def readNumber (negative : Bool) (text : List Char) : Except JsonError (Json × List Char) :=
  match wholePart? text with
  | none => .error .malformed
  | some (whole, rest) =>
    let (fraction, rest) := fractionPart rest
    let (exponent, rest) := exponentPart rest
    if fraction.isEmpty ∧ exponent.isNone then
      match Text.strictValue negative whole with
      | .ok value => .ok (.int value, rest)
      | .error error => .error (.numeral error)
    else
      let scale : Int := exponent.getD 0 - fraction.length
      .ok (.float (Binary64.ofDecimal negative (Text.ofDigits (whole ++ fraction)) scale), rest)

/-- The words that stand for values. -/
def wordValues : List (List Char × Json) := [
  ("null".toList, .null), ("true".toList, .bool true), ("false".toList, .bool false),
  ("NaN".toList, .float .notANumber), ("Infinity".toList, .float (.infinite false)),
  ("-Infinity".toList, .float (.infinite true))]

/-- Reads one of the words. -/
def readWord? (text : List Char) : Option (Json × List Char) :=
  (wordValues.find? fun word => word.1.isPrefixOf text).map fun word =>
    (word.2, text.drop word.1.length)

/-- Reads a value that is neither a text, nor an array, nor an object. -/
def readPlain (text : List Char) : Except JsonError (Json × List Char) :=
  match readWord? text with
  | some found => .ok found
  | none =>
    match text with
    | '-' :: rest => readNumber true rest
    | _ => readNumber false text

/-- How deep containers may be nested. -/
def deepestNesting : Nat := 950

mutual

/-- Reads a value inside so many containers. -/
def readValue (depth : Nat) : Nat → List Char → Except JsonError (Json × List Char)
  | 0, _ => .error .malformed
  | _ + 1, '"' :: rest => do
    let (text, rest) ← readText rest
    return (.string text, rest)
  | fuel + 1, '[' :: rest =>
    if deepestNesting ≤ depth then .error (.tooDeep .array)
    else
      match skipGap rest with
      | ']' :: rest => .ok (.array [], rest)
      | rest => do
        let (items, rest) ← readItems (depth + 1) fuel rest
        return (.array items, rest)
  | fuel + 1, '\x7b' :: rest =>
    if deepestNesting ≤ depth then .error (.tooDeep .object)
    else
      match skipGap rest with
      | '\x7d' :: rest => .ok (.object [], rest)
      | rest => do
        let (fields, rest) ← readFields (depth + 1) fuel rest
        return (ofFields fields, rest)
  | _ + 1, text => readPlain text

/-- Reads the items of an array, at least one, and its end. -/
def readItems (depth : Nat) : Nat → List Char → Except JsonError (List Json × List Char)
  | 0, _ => .error .malformed
  | fuel + 1, text => do
    let (item, rest) ← readValue depth fuel text
    match skipGap rest with
    | ']' :: rest => return ([item], rest)
    | ',' :: rest =>
      let (items, rest) ← readItems depth fuel (skipGap rest)
      return (item :: items, rest)
    | _ => .error .malformed

/-- Reads the fields of an object, at least one, and its end. -/
def readFields (depth : Nat) :
    Nat → List Char → Except JsonError (List (String × Json) × List Char)
  | 0, _ => .error .malformed
  | fuel + 1, '"' :: text => do
    let (key, rest) ← readText text
    match skipGap rest with
    | ':' :: rest =>
      let (value, rest) ← readValue depth fuel (skipGap rest)
      match skipGap rest with
      | '\x7d' :: rest => return ([(key, value)], rest)
      | ',' :: rest =>
        let (fields, rest) ← readFields depth fuel (skipGap rest)
        return ((key, value) :: fields, rest)
      | _ => .error .malformed
    | _ => .error .malformed
  | _ + 1, _ => .error .malformed

end

/-- Reads a text that holds one value and nothing else. -/
def read (text : String) : Except JsonError Json := do
  let chars := text.toList
  -- No character is reached by more than two calls after the one before it.
  let (value, rest) ← readValue 0 (2 * chars.length + 2) (skipGap chars)
  if (skipGap rest).isEmpty then return value else .error .malformed

end Json

end Trackage
