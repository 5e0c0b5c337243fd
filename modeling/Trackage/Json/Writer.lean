import Trackage.Decimal.Shortest
import Trackage.Json.Value
import Trackage.Text.Quoted

/-!
Written forms of untyped data: the compact one, the spaced one, the indented one, the display form that
messages show, and the form in which data is kept in columns of texts. All but the display form are
read back as the same value; the first three use ASCII alone, and the kept form leaves every character
as it is that need not be escaped.
-/

namespace Trackage.Json

/-- One character of a written text. -/
def writtenChar (c : Char) : List Char :=
  if c = '"' then ['\\', '"']
  else if c = '\\' then ['\\', '\\']
  else if c = '\n' then ['\\', 'n']
  else if c = '\r' then ['\\', 'r']
  else if c = '\t' then ['\\', 't']
  else if c = '\x08' then ['\\', 'b']
  else if c = '\x0c' then ['\\', 'f']
  else if 32 ≤ c.toNat ∧ c.toNat < 127 then [c]
  else if c.toNat < 0x10000 then Text.unitEscape c.toNat
  else
    let above := c.toNat - 0x10000
    Text.unitEscape (0xd800 + above / 0x400) ++ Text.unitEscape (0xdc00 + above % 0x400)

/-- One symbol of a written text. -/
def writtenSymbol : Text.Symbol → List Char
  | .char c => writtenChar c
  | .half unit => Text.unitEscape unit

/-- A text between double quotes. -/
def writtenText (text : String) : String :=
  String.ofList ('"' :: (Text.symbols text.toList).flatMap writtenSymbol ++ ['"'])

/-- The written form of a fraction. -/
def writtenFloat : Binary64 → String
  | .notANumber => "NaN"
  | .infinite negative => if negative then "-Infinity" else "Infinity"
  | value => value.text

/-- How the parts of a value are set apart. -/
structure Spacing where
  /-- The step of an indented form, or nothing when all stands on one line. -/
  step : Option Nat
  betweenItems : String
  afterKey : String

def compactSpacing : Spacing := ⟨none, ",", ":"⟩
def spacedSpacing : Spacing := ⟨none, ", ", ": "⟩
def indentedSpacing : Spacing := ⟨some 2, ",", ": "⟩

/-- The line break in front of a part at a depth. -/
def Spacing.lineAt (spacing : Spacing) (depth : Nat) : String :=
  match spacing.step with
  | none => ""
  | some step => String.ofList ('\n' :: List.replicate (step * depth) ' ')

mutual

/-- The written form of a value at a depth. -/
def writtenAt (spacing : Spacing) (depth : Nat) : Json → String
  | .null => "null"
  | .bool value => if value then "true" else "false"
  | .int value => toString value
  | .float value => writtenFloat value
  | .string value => writtenText value
  | .array [] => "[]"
  | .array (item :: items) =>
    let line := spacing.lineAt (depth + 1)
    "[" ++ line ++ writtenAt spacing (depth + 1) item ++
      writtenItems spacing (depth + 1) (spacing.betweenItems ++ line) items ++
      spacing.lineAt depth ++ "]"
  | .object [] => "\x7b\x7d"
  | .object ((key, value) :: fields) =>
    let line := spacing.lineAt (depth + 1)
    "\x7b" ++ line ++ writtenText key ++ spacing.afterKey ++ writtenAt spacing (depth + 1) value ++
      writtenFields spacing (depth + 1) (spacing.betweenItems ++ line) fields ++
      spacing.lineAt depth ++ "\x7d"

/-- The items after the first, each with the break in front of it. -/
def writtenItems (spacing : Spacing) (depth : Nat) (gap : String) : List Json → String
  | [] => ""
  | item :: items => gap ++ writtenAt spacing depth item ++ writtenItems spacing depth gap items

/-- The fields after the first, each with the break in front of it. -/
def writtenFields (spacing : Spacing) (depth : Nat) (gap : String) :
    List (String × Json) → String
  | [] => ""
  | (key, value) :: fields =>
    gap ++ writtenText key ++ spacing.afterKey ++ writtenAt spacing depth value ++
      writtenFields spacing depth gap fields

end

/-- The value on one line. -/
def compact (value : Json) : String := writtenAt compactSpacing 0 value

/-- The value on one line, with a space after every separator. -/
def spaced (value : Json) : String := writtenAt spacedSpacing 0 value

/-- The value with every item and field on a line of its own. -/
def indented (value : Json) : String := writtenAt indentedSpacing 0 value

mutual

/-- The display form of a value inside a message. -/
def display : Json → String
  | .null => "None"
  | .bool value => if value then "True" else "False"
  | .int value => toString value
  | .float value => value.text
  | .string value => Text.quoted value
  | .array [] => "[]"
  | .array (item :: items) => "[" ++ display item ++ displayItems items ++ "]"
  | .object [] => "\x7b\x7d"
  | .object ((key, value) :: fields) =>
    "\x7b" ++ Text.quoted key ++ ": " ++ display value ++ displayFields fields ++ "\x7d"

def displayItems : List Json → String
  | [] => ""
  | item :: items => ", " ++ display item ++ displayItems items

def displayFields : List (String × Json) → String
  | [] => ""
  | (key, value) :: fields =>
    ", " ++ Text.quoted key ++ ": " ++ display value ++ displayFields fields

end

/-- The display form of a value that stands on its own: a text without quotes. -/
def plain : Json → String
  | .string value => value
  | value => value.display

/-- One character of a kept text. -/
def keptChar (c : Char) : List Char :=
  if c = '"' then ['\\', '"']
  else if c = '\\' then ['\\', '\\']
  else if c = '\n' then ['\\', 'n']
  else if c = '\r' then ['\\', 'r']
  else if c = '\t' then ['\\', 't']
  else if c = '\x08' then ['\\', 'b']
  else if c = '\x0c' then ['\\', 'f']
  else if c.toNat < 32 then Text.unitEscape c.toNat
  else [c]

/-- The characters of a text and its closing quote. -/
def keptText (text : String) : List Char := text.toList.flatMap keptChar ++ ['"']

mutual

def keptChars : Json → List Char
  | .null => "null".toList
  | .bool value => if value then "true".toList else "false".toList
  | .int value => (toString value).toList
  | .float value => (writtenFloat value).toList
  | .string value => '"' :: keptText value
  | .array [] => ['[', ']']
  | .array (item :: items) => '[' :: (keptChars item ++ keptItems items)
  | .object [] => ['\x7b', '\x7d']
  | .object ((key, value) :: fields) =>
    '\x7b' :: '"' :: (keptText key ++ ':' :: ' ' :: (keptChars value ++ keptFields fields))

/-- The items after the first, each behind its separator, and the end of the array. -/
def keptItems : List Json → List Char
  | [] => [']']
  | item :: items => ',' :: ' ' :: (keptChars item ++ keptItems items)

/-- The fields after the first, each behind its separator, and the end of the object. -/
def keptFields : List (String × Json) → List Char
  | [] => ['\x7d']
  | (key, value) :: fields =>
    ',' :: ' ' :: '"' :: (keptText key ++ ':' :: ' ' :: (keptChars value ++ keptFields fields))

end

def kept (value : Json) : String := String.ofList (keptChars value)

end Trackage.Json
