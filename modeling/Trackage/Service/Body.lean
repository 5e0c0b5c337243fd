import Trackage.Json.Reader
import Trackage.Service.Request
import Trackage.Text.Basic

/-!
Parts of request bodies, checked for kind. A whole number may come as a fraction without places, as
a truth value, or as a decimal text; a text has to be one. Fields that are not asked for are passed
over.
-/

namespace Trackage.Service

/-- The blanks around a number in a request: all but the four separators among the controls. -/
def isRequestBlank (c : Char) : Bool := Text.isBlank c && !(28 ≤ c.toNat && c.toNat ≤ 31)

/-- Drops a point with zeros after it, at least one and nothing else. -/
def dropZeroPlaces (text : List Char) : List Char :=
  let whole := text.takeWhile (· != '.')
  let places := text.drop (whole.length + 1)
  if !places.isEmpty && places.all (· == '0') then whole else text

/-- What is left of a text behind leading zeros and the underscores among them. In front of a point,
and at the end, the last of them stays. -/
def afterZeros (last : Char) : List Char → Option (List Char)
  | [] => some [last]
  | c :: rest =>
    if c = '0' ∨ c = '_' then afterZeros c rest
    else if ('1' ≤ c ∧ c ≤ '9') ∨ c = '-' then some (c :: rest)
    else if c = '.' then some (last :: c :: rest)
    else none

/-- Drops leading zeros; nothing for a text that does not start like a number. -/
def dropLeadingZeros? : List Char → Option (List Char)
  | [] => none
  | '0' :: rest => afterZeros '0' rest
  | c :: rest => if ('1' ≤ c ∧ c ≤ '9') ∨ c = '-' then some (c :: rest) else none

/-- Drops a plus sign, and the leading zeros behind a sign. A plus sign may not stand in front of a
minus sign. -/
def dropPlusAndZeros? : List Char → Option (List Char)
  | '+' :: '-' :: _ => none
  | '+' :: rest => dropLeadingZeros? rest
  | '-' :: rest => (dropLeadingZeros? rest).map ('-' :: ·)
  | text => dropLeadingZeros? text

/-- Reads a minus sign at most, and digits without a leading zero, as many as a numeral may have. -/
def plainInt? (text : List Char) : Option Int :=
  let (negative, row) := match text with
    | '-' :: rest => (true, rest)
    | _ => (false, text)
  let fewEnough := row.length ≤ Text.digitLimit
  match row with
  | [] => none
  | '0' :: _ :: _ => none
  | _ => if fewEnough then (row.mapM Text.asciiDigit?).map (Text.signed negative) else none

/-- Reads the whole number in a text between blanks: a sign, ASCII digits with single underscores
between them, and a fraction of zeros at most. -/
def textInt? (text : String) : Option Int :=
  let trimmed :=
    ((text.toList.dropWhile isRequestBlank).reverse.dropWhile isRequestBlank).reverse
  (plainInt? trimmed).or <| do
    let row := dropZeroPlaces (← dropPlusAndZeros? trimmed)
    plainInt? (if Text.wellSpaced row then row.filter (· != '_') else row)

/-- The least whole number that a fraction may not stand for. -/
def fractionLimit : Int := 9223372036854775808

/-- Reads a whole number. -/
def int? : Json → Option Int
  | .int value => some value
  | .bool value => some (if value then 1 else 0)
  | .float value =>
    value.toInt?.filter fun number => decide (-fractionLimit < number ∧ number < fractionLimit)
  | .string text => textInt? text
  | _ => none

def text? (data : Json) : Option String := data.string?

/-- A field that has to be there. -/
def part? (read : Json → Option α) (key : String) (data : Json) : Option α :=
  (data.get? key).bind read

/-- A text that may be left out or be nothing. -/
def optionalText? (key : String) (data : Json) : Option (Option String) :=
  match data.get? key with
  | none | some .null => some none
  | some (.string text) => some (some text)
  | some _ => none

/-- A text that may be left out, but not be nothing. -/
def textOr? (usual key : String) (data : Json) : Option String :=
  match data.get? key with
  | none => some usual
  | some value => text? value

def row? (read : Json → Option α) : Json → Option (List α)
  | .array items => items.mapM read
  | _ => none

/-- A departing end-point: a junction and a branch. -/
def departing? (data : Json) : Option (String × String) := do
  let junction ← part? text? "junction" data
  let branch ← part? text? "branch" data
  return (junction, branch)

def segment? (data : Json) : Option SegmentRequest := do
  let (junction, branch) ← part? departing? "departing" data
  let start ← part? int? "start" data
  let stop ← part? int? "end" data
  return ⟨junction, branch, start, stop⟩

def location? (data : Json) : Option LocationRequest := do
  let (junction, branch) ← part? departing? "departing" data
  let offset ← part? int? "offset" data
  return ⟨junction, branch, offset⟩

def routes? (data : Json) : Option RoutesRequest := do
  let occupied ← part? (row? (row? segment?)) "occupied" data
  let requested ← part? (row? (row? segment?)) "requested" data
  return ⟨occupied, requested⟩

/-- An object from whole numbers to whole numbers. -/
def targets? : Json → Option (List (Int × Int))
  | .object fields => fields.mapM fun (key, value) => do
    let key ← textInt? key
    let value ← int? value
    return (key, value)
  | _ => none

end Trackage.Service
