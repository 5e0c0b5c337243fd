import Trackage.Payload.Field

/-!
Columns of tables. The values of a column are given one kind together: whole numbers with gaps among
them become fractions, and so do all numbers of a table in which some column has fractions. Values
that have no kind in common stay what they are.
-/

namespace Trackage.Console

/-- What has come up among the values of a column. -/
structure Seen where
  nothing : Bool := false
  notANumber : Bool := false
  truth : Bool := false
  fraction : Bool := false
  whole : Bool := false
  /-- A whole number that needs all sixty-four bits without a sign. -/
  large : Bool := false
  negative : Bool := false
  /-- Values that have no kind in common. -/
  mixed : Bool := false
deriving DecidableEq, Repr

/-- The least whole numbers that are too great for sixty-four bits, with a sign and without. -/
def signedLimit : Int := 9223372036854775808
def unsignedLimit : Int := 18446744073709551616

/-- Adds a whole number. One that does not go into sixty-four bits, with the others or on its own,
leaves the column without a kind. -/
def Seen.addWhole (seen : Seen) (value : Int) : Seen :=
  let large := seen.large || decide (signedLimit ≤ value)
  let negative := seen.negative || decide (value < 0)
  let mixed := (large && negative) || decide (unsignedLimit ≤ value ∨ value < -signedLimit)
  { seen with whole := true, large, negative, mixed }

/-- Adds a value. -/
def Seen.add (seen : Seen) (value : Json) : Seen :=
  if seen.mixed then seen
  else
    match value with
    | .null => { seen with nothing := true }
    | .bool _ => { seen with truth := true }
    | .float .notANumber => { seen with notANumber := true }
    | .float _ => { seen with fraction := true }
    | .int value => seen.addWhole value
    | .string _ | .array _ | .object _ => { seen with mixed := true }

/-- What the values of a column are taken for. -/
inductive ColumnKind where
  | truths
  | integers
  | naturals
  | fractions
  | texts
  | mixed
deriving DecidableEq, Repr

/-- The kind of a column of which all values were seen. -/
def Seen.kind (seen : Seen) : ColumnKind :=
  let gap := seen.nothing || seen.notANumber
  let number := seen.fraction || seen.whole
  if seen.mixed then .mixed
  else if seen.truth then if gap || number then .mixed else .truths
  else if seen.fraction || seen.notANumber || (seen.nothing && number) then .fractions
  else if seen.whole then if seen.large then .naturals else .integers
  else .mixed

/-- Whether values are texts with gaps among them. -/
def areTexts (values : List Json) : Bool :=
  values.any (·.string?.isSome) && values.all fun value =>
    match value with
    | .string _ | .null | .float .notANumber => true
    | _ => false

/-- The kind of the values of a column. -/
def kindOf (values : List Json) : ColumnKind :=
  let kind := (values.foldl Seen.add {}).kind
  if kind = .mixed && areTexts values then .texts else kind

/-- A value as a fraction; a gap is what is no number. -/
def asFraction : Json → Json
  | .int value => .float ((Binary64.ofInt? value).getD .notANumber)
  | .null => .float .notANumber
  | value => value

/-- A value in a column of a kind. -/
def ColumnKind.convert (kind : ColumnKind) (value : Json) : Json :=
  match kind with
  | .fractions | .texts => asFraction value
  | _ => value

def ColumnKind.isNumeric : ColumnKind → Bool
  | .integers | .naturals | .fractions => true
  | .truths | .texts | .mixed => false

/-- The kinds of columns that stand in one table: numbers of different kinds all become fractions. -/
def unify (kinds : List ColumnKind) : List ColumnKind :=
  let alike := kinds.all (some · == kinds.head?)
  if !alike && kinds.all ColumnKind.isNumeric then kinds.map fun _ => .fractions else kinds

/-- The rows of a table of so many columns, with each value as its column has it. -/
def tableRows (width : Nat) (rows : List (List Json)) : List (List Json) :=
  let columns := (List.range width).map fun index => rows.map fun row => row.getD index .null
  let kinds := unify (columns.map kindOf)
  rows.map fun row => (kinds.zip row).map fun (kind, value) => kind.convert value

end Trackage.Console
