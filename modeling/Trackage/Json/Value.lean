import Trackage.Decimal.Binary64
import Trackage.Text.Half
import Trackage.Text.Numeral

/-!
Untyped data: what a request body, a scenario file or a stored run holds before it is given a
meaning. Whole numbers and fractions are kept apart, and the fields of an object keep the order in
which they were first written.
-/

namespace Trackage

/-- A value of untyped data. -/
inductive Json where
  | null
  | bool (value : Bool)
  | int (value : Int)
  | float (value : Binary64)
  | string (value : String)
  | array (items : List Json)
  | object (fields : List (String × Json))
deriving Inhabited

namespace Json

/-- Writes a field: a known key keeps its place, a new one goes to the end. -/
def putField (key : String) (value : Json) : List (String × Json) → List (String × Json)
  | [] => [(key, value)]
  | (other, old) :: fields =>
    if other = key then (key, value) :: fields else (other, old) :: putField key value fields

/-- An object of fields in which each key stands once, with the value written last. -/
def ofFields (fields : List (String × Json)) : Json :=
  .object (fields.foldl (fun known field => putField field.1 field.2 known) [])

def natural (value : Nat) : Json := .int value

def ofOption (write : α → Json) : Option α → Json
  | none => .null
  | some value => write value

def ofList (write : α → Json) (values : List α) : Json := .array (values.map write)

/-- The value of a field; nothing for a missing field, and for what is no object. -/
def get? (data : Json) (key : String) : Option Json :=
  match data with
  | .object fields => (fields.find? (·.1 == key)).map (·.2)
  | _ => none

/-- The object with a field written; what is no object stays as it is. -/
def put (data : Json) (key : String) (value : Json) : Json :=
  match data with
  | .object fields => .object (putField key value fields)
  | other => other

/-- The value of a field that may be missing. -/
def getD (data : Json) (key : String) : Json := (data.get? key).getD .null

def isNull : Json → Bool
  | .null => true
  | _ => false

def isObject : Json → Bool
  | .object _ => true
  | _ => false

def int? : Json → Option Int
  | .int value => some value
  | _ => none

def string? : Json → Option String
  | .string value => some value
  | _ => none

def array? : Json → Option (List Json)
  | .array items => some items
  | _ => none

/-- What a value is run through item by item: the items of an array, the keys of an object, the
characters of a text, and nothing of any other value. -/
def items? : Json → Option (List Json)
  | .array items => some items
  | .object fields => some (fields.map fun field => .string field.1)
  | .string text => some ((Text.symbols text.toList).map fun symbol => .string (Text.spell [symbol]))
  | _ => none

/-- Whether a value counts as given: neither nothing, nor zero, nor empty. -/
def truthy : Json → Bool
  | .null => false
  | .bool value => value
  | .int value => value != 0
  | .float value => !value.eqv Binary64.zero
  | .string text => text != ""
  | .array items => !items.isEmpty
  | .object fields => !fields.isEmpty

mutual

/-- Whether no text of a value holds half of a pair. -/
def isWhole : Json → Bool
  | .string text => Text.isWhole text
  | .array items => areWhole items
  | .object fields => fieldsAreWhole fields
  | .null | .bool _ | .int _ | .float _ => true

def areWhole : List Json → Bool
  | [] => true
  | item :: items => isWhole item && areWhole items

def fieldsAreWhole : List (String × Json) → Bool
  | [] => true
  | (key, value) :: fields => Text.isWhole key && isWhole value && fieldsAreWhole fields

end

mutual

/-- Whether all numbers of a value are finite. -/
def isFinite : Json → Bool
  | .float (.finite ..) => true
  | .float _ => false
  | .array items => areFinite items
  | .object fields => fieldsAreFinite fields
  | .null | .bool _ | .int _ | .string _ => true

def areFinite : List Json → Bool
  | [] => true
  | item :: items => isFinite item && areFinite items

def fieldsAreFinite : List (String × Json) → Bool
  | [] => true
  | (_, value) :: fields => isFinite value && fieldsAreFinite fields

end

mutual

/-- Whether all whole numbers of a value can be written: none has more digits than a numeral may. -/
def isWritable : Json → Bool
  | .int value => Text.isWritable value
  | .array items => areWritable items
  | .object fields => fieldsAreWritable fields
  | .null | .bool _ | .float _ | .string _ => true

def areWritable : List Json → Bool
  | [] => true
  | item :: items => isWritable item && areWritable items

def fieldsAreWritable : List (String × Json) → Bool
  | [] => true
  | (_, value) :: fields => isWritable value && fieldsAreWritable fields

end

end Json

end Trackage
