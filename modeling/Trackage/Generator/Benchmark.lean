import Trackage.CommandLine.Allocate
import Trackage.Decimal.Expansion
import Trackage.Generator.Chain

/-!
Generating scenarios and measuring their allocation. The clock is a row of ticks of 1/1024 second
that is walked round and round; every reading advances it by one tick.
-/

namespace Trackage.Benchmark

open CommandLine

/-- What one measured allocation came to. -/
structure Row where
  trains : Nat
  truncated : Nat
  blocked : Nat
  grantRatio : Binary64
deriving DecidableEq, Repr

def Row.toJson (row : Row) : Json :=
  .object [
    ("n_trains", .natural row.trains), ("truncated", .natural row.truncated),
    ("blocked", .natural row.blocked), ("grant_ratio", .float row.grantRatio)]

/-- Allocates the requests of so many trains on a chain. -/
def runOnce (draws : Draws) (trains : Int) (lines : List String) (reach : Option Int) :
    Except Fault (Row × Draws) := do
  let track ← (Track.ofLines lines).mapError Fault.ofDefinition
  let lengths ← lines.mapM Chain.lineLength
  let (trains, draws) ← Chain.trains draws (some trains) lengths reach
  let data := trains.toJson
  let occupied ← routesOfJson track (data.getD "occupied")
  let requested ← routesOfJson track (data.getD "requested")
  let granted ← orFault (Scenario.run track occupied requested)
  match Indicators.of? requested granted with
  | none => throw .overflow
  | some indicators =>
    return (⟨occupied.length, indicators.truncated, indicators.blocked, indicators.grantRatio⟩,
      draws)

/-- The whole numbers from a first one by equal steps, up or down to before a last one. -/
def steps (first last step : Int) : Except Fault (List Int) :=
  if step = 0 then .error (.value .zeroStep)
  else
    -- Rounded up: a last step that would go beyond the bound still has its start before it.
    let count := if 0 < step then (last - first + step - 1) / step
      else (first - last - step - 1) / (-step)
    .ok ((List.range count.toNat).map fun (index : Nat) => first + index * step)

def benchmarkOptions : List OptionSpec := [
  ⟨"-Min", .integer⟩, ⟨"-Max", .integer⟩, ⟨"-Step", .integer⟩, ⟨"-Sections", .integer⟩,
  ⟨"-Reach", .integer⟩, ⟨"-Repeats", .integer⟩, ⟨"-Json", .flag⟩]

/-- The least and the greatest length of a measured section. -/
def sectionLengths : Int × Int := (10, 60)

/-- How many powers of two a second is divided into. -/
def tickExponent : Int := -10

/-- The sum of the first ticks. -/
def tickSum (ticks : List Int) (count : Nat) : Int :=
  let total (ticks : List Int) : Int := ticks.foldl (· + ·) 0
  total ticks * (count / ticks.length : Nat) + total (ticks.take (count % ticks.length))

/-- What the clock shows, in seconds, when it is read for the given time. -/
def reading (ticks : List Int) (count : Nat) : Except Fault Binary64 :=
  let shown := Binary64.ofScaled (tickSum ticks count) tickExponent
  if shown.isFinite then .ok shown else .error .overflow

/-- The seconds that a measurement takes: the difference of two readings. -/
def elapsed (ticks : List Int) (index : Nat) : Except Fault Binary64 := do
  let start ← reading ticks (2 * index + 1)
  let stop ← reading ticks (2 * index + 2)
  return stop.sub start

/-- A measurement with the seconds that it took. -/
structure Timed where
  row : Row
  seconds : Binary64
deriving DecidableEq, Repr

/-- Runs the measurements one after the other, of which so many are done. -/
def runAll (draws : Draws) (ticks : List Int) (lines : List String) (reach : Option Int)
    (done : Nat) : List Int → Except Fault (List Timed)
  | [] => .ok []
  | trains :: rest => do
    let (row, draws) ← runOnce draws trains lines reach
    let seconds ← elapsed ticks done
    return ⟨row, seconds⟩ :: (← runAll draws ticks lines reach (done + 1) rest)

/-- All rows of a benchmark. How often a measurement is repeated is only asked once there is one. -/
def rows (draws : Draws) (ticks : List Int) (given : List (String × OptionValue)) :
    Except Fault (List Timed) := do
  let (least, greatest) := sectionLengths
  let (lines, draws) ← Chain.lines draws (integerOption? given "-Sections" 60) (some least)
    (some greatest)
  let counts ← steps (← Chain.needed (integerOption? given "-Min" 5))
    ((← Chain.needed (integerOption? given "-Max" 40)) + 1)
    (← Chain.needed (integerOption? given "-Step" 5))
  if counts.isEmpty then return []
  let repeats := (← Chain.needed (integerOption? given "-Repeats" 3)).toNat
  runAll draws ticks lines (integerOption? given "-Reach" 2) 0
    (counts.flatMap (List.replicate repeats))

def padLeft (width : Nat) (text : String) : String :=
  String.ofList (List.replicate (width - text.length) ' ') ++ text

def padRight (width : Nat) (text : String) : String :=
  text ++ String.ofList (List.replicate (width - text.length) ' ')

/-- Seconds in thousandths, with two places. -/
def milliseconds (seconds : Binary64) : String :=
  padLeft 7 ((seconds.mul (.ofNat 1000)).fixedText 2)

/-- The line on one measurement. -/
def Timed.line (timed : Timed) : String :=
  let row := timed.row
  s!"Trains={padRight 3 (toString row.trains)} elapsed={milliseconds timed.seconds} ms " ++
    s!"truncated={padRight 3 (toString row.truncated)} " ++
    s!"blocked={padRight 3 (toString row.blocked)} granted={row.grantRatio.text}%\n"

/-- The mean time of measurements. -/
def mean (times : List Binary64) : Except Fault Binary64 :=
  match Binary64.sum? times with
  | .ok total => .ok (total.div (.ofNat times.length))
  | .error .overflow => .error .overflow
  | .error .oppositeInfinities => .error (.value .oppositeInfinities)

/-- The lines on the mean times, by the number of trains. -/
def summary (rows : List Timed) : Except Fault String := do
  let counts := ((rows.map (·.row.trains)).eraseDups).mergeSort
  let line (count : Nat) : Except Fault String := do
    let own ← mean ((rows.filter (·.row.trains == count)).map (·.seconds))
    return s!"  {padLeft 3 (toString count)}: {milliseconds own} ms\n"
  return "\nSummary (mean ms per train count)\n" ++ String.join (← counts.mapM line)

/-- The line on one measurement as data. -/
def Timed.dataLine (timed : Timed) : String :=
  let row := timed.row
  (Json.object [
    ("n_trains", .natural row.trains), ("elapsed_s", .float timed.seconds),
    ("truncated", .natural row.truncated), ("blocked", .natural row.blocked),
    ("grant_ratio", .float row.grantRatio)]).spaced ++ "\n"

/-- The rows of a benchmark, and whether they are to be printed as data. -/
structure Measured where
  rows : List Timed
  asData : Bool

/-- What a benchmark prints: a line on each measurement, and a summary unless the lines are data. -/
def Measured.report (measured : Measured) : Except Fault String :=
  if measured.asData then .ok (String.join (measured.rows.map Timed.dataLine))
  else do
    return String.join (measured.rows.map Timed.line) ++ (← summary measured.rows)

/-- Runs a benchmark of a command line by a clock: what it measured, or the exit code of a line that
is refused or only asks for help. -/
def run (words : List String) (draws : Draws) (ticks : List Int) :
    Except Fault (Except Nat Measured) :=
  match readWords benchmarkOptions words with
  | .refused => .ok (.error 2)
  | .help => .ok (.error 0)
  | .options given =>
    (rows draws ticks given).map fun rows => .ok ⟨rows, flagOption given "-Json"⟩

def generateOptions : List OptionSpec := [
  ⟨"-Trains", .integer⟩, ⟨"-Sections", .integer⟩, ⟨"-MinLen", .integer⟩, ⟨"-MaxLen", .integer⟩,
  ⟨"-Reach", .integer⟩, ⟨"-Seed", .integer⟩, ⟨"-Out", .text⟩]

/-- What files are called whose name was left out. -/
def noName : String := "[]"

/-- What the generator wrote and printed. -/
structure Generated where
  printed : String
  files : Files
  exit : Option Nat

/-- Generates a scenario into two files, one for the track and one for the routes. -/
def generate (words : List String) (draws : Draws) : Except Fault Generated :=
  match readWords generateOptions words with
  | .refused => .ok ⟨"", [], some 2⟩
  | .help => .ok ⟨"", [], some 0⟩
  | .options given => do
    let (lines, draws) ← Chain.lines draws (integerOption? given "-Sections" 40)
      (integerOption? given "-MinLen" 10) (integerOption? given "-MaxLen" 60)
    let lengths ← lines.mapM Chain.lineLength
    let (trains, _) ← Chain.trains draws (integerOption? given "-Trains" 20) lengths
      (integerOption? given "-Reach" 2)
    let out := (textOption? given "-Out" "large_scenario").getD noName
    let trackFile := out ++ ".txt"
    let scenarioFile := out ++ ".json"
    let files ← Files.write [] trackFile ("\n".intercalate lines ++ "\n")
    let files ← files.write scenarioFile trains.toJson.indented
    return {
      printed := s!"Wrote {lines.length} sections -> {trackFile} & " ++
        s!"{trains.occupied.length} trains -> {scenarioFile}\n"
      files
      exit := none }

end Trackage.Benchmark
