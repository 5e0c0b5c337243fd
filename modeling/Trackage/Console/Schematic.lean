import Trackage.Json.Writer
import Trackage.Payload.Field

/-!
The schematic of a track: a row for every section, with the allocations of the trains drawn over it.
Positions on a row are measured from the first end-point of its section.
-/

namespace Trackage

/-- A line on a row, with what is written at its ends and shown about it. -/
structure Trace where
  start : Json
  stop : Json
  row : Nat
  color : String
  width : Nat
  name : Option String
  ends : Option (String × String)
  group : Option String
  legend : Bool
  hover : String

/-- A drawing. Every row has the text that stands before it. -/
structure Schematic where
  title : String
  height : Nat
  rows : List (String × Nat)
  traces : List Trace

namespace Schematic

/-- An end-point as data shows it. -/
structure ShownEnd where
  junction : Json
  branch : Json

/-- A section as data shows it. -/
structure ShownSection where
  length : Json
  first : ShownEnd
  second : ShownEnd

def ShownEnd.ofJson (data : Json) : Except Fault ShownEnd := do
  let junction ← data.field "junction"
  let branch ← data.field "branch"
  return ⟨junction, branch⟩

def ShownSection.ofJson (data : Json) : Except Fault ShownSection := do
  match ← (← data.field "endpoints").each with
  | [first, second] =>
    let length ← data.field "length"
    let first ← ShownEnd.ofJson first
    let second ← ShownEnd.ofJson second
    return ⟨length, first, second⟩
  | [] => throw (.value (.tooFewEnds 0))
  | [_] => throw (.value (.tooFewEnds 1))
  | _ => throw (.value .tooManyEnds)

/-- The text of a section, by which segments name it. -/
def ShownSection.text (s : ShownSection) : String :=
  s!"{s.length.plain} {s.first.junction.plain} {s.first.branch.plain} " ++
    s!"{s.second.junction.plain} {s.second.branch.plain}"

/-- What is written at an end of a section. -/
def ShownEnd.label (e : ShownEnd) : String := s!"{e.junction.plain}/{e.branch.plain}"

/-- A section on its row. -/
structure Row where
  index : Nat
  on : ShownSection

/-- Adds a row. One for the same section gives way to it. -/
def addRow (row : Row) : List Row → List Row
  | [] => [row]
  | other :: rows =>
    if other.on.text = row.on.text then row :: rows else other :: addRow row rows

/-- The rows of sections in their order. -/
def rowsOf (sections : List ShownSection) : List Row :=
  sections.zipIdx.foldl (fun rows (s, index) => addRow ⟨index, s⟩ rows) []

def sectionColor : String := "#95a5a6"
def sectionWidth : Nat := 6
def trainWidth : Nat := 12

/-- The colors of the trains, taken round and round. -/
def trainColors : List String := [
  "#636EFA", "#EF553B", "#00CC96", "#AB63FA", "#FFA15A", "#19D3F3", "#FF6692", "#B6E880", "#FF97FF",
  "#FECB52"]

def trainColor (index : Nat) : String :=
  trainColors.getD (index % trainColors.length) sectionColor

/-- What ends every text that is shown about a line. -/
def hoverEnd : String := "<extra></extra>"

/-- The line of a section. -/
def Row.trace (row : Row) : Trace where
  start := .int 0
  stop := row.on.length
  row := row.index
  color := sectionColor
  width := sectionWidth
  name := none
  ends := some (row.on.first.label, row.on.second.label)
  group := none
  legend := false
  hover := s!"Section={row.on.text}{hoverEnd}"

/-- The row that a segment names; a segment may name none. -/
def rowAt? (rows : List Row) : Json → Except Fault (Option Row)
  | .string text => .ok (rows.find? fun row => row.on.text == text)
  | .array _ | .object _ => .error .wrongKind
  | .null | .bool _ | .int _ | .float _ => .ok none

/-- Whether an end-point is the one that data names. The branch is looked at only where the junction
agrees. -/
def ShownEnd.isNamedBy (e : ShownEnd) (data : Json) : Except Fault Bool := do
  let junction ← data.field "junction"
  if junction.alike e.junction then return (← data.field "branch").alike e.branch
  else return false

/-- From where to where a segment lies on the row of its section. -/
def ShownSection.span (on : ShownSection) (segment : Json) : Except Fault (Json × Json) := do
  let departing ← segment.field "departing"
  if ← on.first.isNamedBy departing then
    return (← segment.field "start", ← segment.field "end")
  else
    -- Seen from the other end of the section, the stretch is turned round.
    let start ← on.length.minus (← segment.field "end")
    let stop ← on.length.minus (← segment.field "start")
    return (start, stop)

/-- Lines with the length that they come to. -/
structure Drawing where
  total : Json
  traces : List Trace

/-- Draws a segment of a train if its section has a row. -/
def Drawing.addSegment (rows : List Row) (color : String) (train : Json) (legend : Bool)
    (drawing : Drawing) (segment : Json) : Except Fault (Option Drawing) := do
  match ← rowAt? rows ((← segment.member? "section").getD .null) with
  | none => return none
  | some row =>
    let (start, stop) ← row.on.span segment
    let total ← drawing.total.plus ((segment.get? "length").getD (.int 0))
    let identifier := (train.getD "identifier").plain
    let fromText := (segment.getD "from").plain
    let toText := (segment.getD "to").plain
    let trace : Trace := {
      start, stop, color, legend
      row := row.index
      width := trainWidth
      name := some s!"Train {identifier}"
      ends := none
      group := some s!"train-{identifier}"
      hover := s!"Train {identifier}<br>{fromText} -> {toText}{hoverEnd}" }
    return some ⟨total, drawing.traces ++ [trace]⟩

/-- Draws segments of a train. The first one that is drawn stands for the train in the legend. -/
def Drawing.addSegments (rows : List Row) (color : String) (train : Json) (legend : Bool)
    (drawing : Drawing) : List Json → Except Fault Drawing
  | [] => .ok drawing
  | segment :: segments => do
    match ← drawing.addSegment rows color train legend segment with
    | none => addSegments rows color train legend drawing segments
    | some drawing => addSegments rows color train false drawing segments

/-- Draws trains, numbered from a first number. -/
def Drawing.addTrains (rows : List Row) (index : Nat) (drawing : Drawing) :
    List Json → Except Fault Drawing
  | [] => .ok drawing
  | train :: trains => do
    let segments ← ((← train.member? "allocation").getD (.array [])).each
    let drawing ← drawing.addSegments rows (trainColor index) train true segments
    addTrains rows (index + 1) drawing trains

/-- The height of a drawing with rows for so many sections. -/
def heightFor (sections : Nat) : Nat := 120 + 60 * max 1 sections

/-- Draws a track with the allocations of trains on it. -/
def draw (track trains : Json) : Except Fault Schematic := do
  let sections ← ((← track.member? "sections").getD (.array [])).each
  let rows := rowsOf (← sections.mapM ShownSection.ofJson)
  let trains ← trains.each
  let drawing ← Drawing.addTrains rows 0 ⟨.int 0, rows.map Row.trace⟩ trains
  unless drawing.total.isWritable do throw (.ofNumeral .unwritable)
  return {
    title := s!"Track Schematic – {trains.length} trains, {drawing.total.plain} m allocated"
    height := heightFor sections.length
    rows := rows.map fun row => (row.on.text, row.index)
    traces := drawing.traces }

end Schematic

end Trackage
