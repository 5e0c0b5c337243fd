import Trackage.Console.Column
import Trackage.Json.Value
import Trackage.Payload.Field

/-!
What a page of the console is made of, from top to bottom, and the panels that only show data: the
indicators of an allocation and the table of the trains.
-/

namespace Trackage.Console

/-- How a text stands on a page. -/
inductive TextStyle where
  | title
  | header
  | subheader
  | markdown
  | info
  | warning
  | error
  | plain
  | caption
deriving DecidableEq, Repr

/-- A part of a page. What an operator can change is shown with the value that it has. -/
inductive Element where
  | page (title layout : String)
  | text (style : TextStyle) (content : Json)
  /-- Columns of equal width. -/
  | columns (count : Nat)
  /-- Columns whose widths are in proportion to weights. -/
  | weightedColumns (weights : List Nat)
  | textArea (label : String) (value : Json)
  | textInput (label : String) (value : Json)
  | numberInput (key : String) (value : Json) (label : String) (least : Int) (greatest : Option Int)
  | choice (label : String) (value : Json) (options : List String)
  | button (label : String) (primary disabled : Bool)
  | metric (label : String) (value : Json)
  | data (value : Json)
  | table (columns : List String) (rows : List (List Json))
  | chart (title : String) (height traces : Nat)

/-- The indicators that have a place of their own, with the names that they are shown under. -/
def keyIndicators : List (String × String) := [
  ("Fully granted", "fully_granted"), ("Truncated", "truncated"), ("Blocked", "blocked"),
  ("Grant ratio (%)", "grant_ratio")]

/-- Shows indicators, whatever they are; only an object holds any. -/
def indicatorPanel (indicators : Json) : List Element :=
  if indicators.isObject then
    let metrics := keyIndicators.filterMap fun (label, key) =>
      (indicators.get? key).map fun value => Element.metric label value
    .columns keyIndicators.length :: metrics ++ [.data indicators]
  else [.text .warning (.string "KPIs unavailable")]

def trainColumns : List String := ["train", "start_offset", "end_offset", "route_length", "allocated"]

/-- The line of a train in the table. -/
def trainRow (train : Json) : Except Fault (List Json) := do
  let identifier ← train.member? "identifier"
  let length (key : String) : Json := (train.get? key).getD (.int 0)
  let allocated ← (length "end_offset").minus (length "start_offset")
  return [
    identifier.getD .null, train.getD "start_offset", train.getD "end_offset",
    train.getD "route_length", allocated]

/-- Shows trains in a table. -/
def trainPanel (trains : Json) : Except Fault (List Element) := do
  if trains.truthy then
    let rows ← (← trains.each).mapM trainRow
    return [.table trainColumns (tableRows trainColumns.length rows)]
  else return [.text .info (.string "No trains added yet.")]

end Trackage.Console
