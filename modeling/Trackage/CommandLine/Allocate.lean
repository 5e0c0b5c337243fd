import Trackage.CommandLine.Files
import Trackage.CommandLine.Options
import Trackage.Json.Writer
import Trackage.Payload.Shape
import Trackage.Scenario

/-!
The program that allocates track to the trains of a scenario. It prints the track, then what each
train is granted and the indicators; without a scenario it prints the junctions instead.
-/

namespace Trackage.CommandLine

/-- What a program did: what it printed, its exit code unless it ran to its end, and the fault that
stopped it if it was not prepared for it. -/
structure Outcome where
  printed : String
  complaint : Option String
  exit : Option Nat
  fault : Option Fault

/-- The program ran to its end. -/
def Outcome.finished (printed : String) : Outcome := ⟨printed, some "", none, none⟩

/-- The program stopped with a message. -/
def Outcome.stopped (printed message : String) : Outcome :=
  ⟨printed, some (message ++ "\n"), some 1, none⟩

/-- The program was stopped by a fault. -/
def Outcome.broken (printed : String) (fault : Fault) : Outcome :=
  ⟨printed, some "", none, some fault⟩

def allocateOptions : List OptionSpec :=
  [⟨"--track", .text⟩, ⟨"--scenario", .text⟩, ⟨"--log-level", .text⟩]

/-- Reads the track of a file; a file that is not there is named in the message. -/
def readTrackFile (path : String) (content : FileContent) : Except (Fault ⊕ String) Track :=
  match content with
  | .badPath => .error (.inl (.value .nulInPath))
  | .failed _ => .error (.inr s!"Cannot read file: {path}")
  | .notText => .error (.inl .notText)
  | .text text =>
    match Track.ofText (String.ofList (Text.unifyNewlines text.toList)) with
    | .ok track => .ok track
    | .error (.format error) => .error (.inr error.message)
    | .error error => .error (.inl (.ofDefinition error))

/-- The occupied and the requested routes of a scenario file. -/
def readScenario (track : Track) (path : String) (content : FileContent) :
    Except Fault (List (List Segment) × List (List Segment)) := do
  match content with
  | .badPath => throw (.value .nulInPath)
  | .failed problem => throw (.file ⟨problem, plainPath path⟩)
  | .notText => throw .notText
  | .text text =>
    let data ← (Json.read (String.ofList (Text.unifyNewlines text.toList))).mapError
      Fault.ofJsonError
    let occupied ← routesOfJson track ((← data.member? "occupied").getD .null)
    let requested ← routesOfJson track ((← data.member? "requested").getD .null)
    return (occupied, requested)

/-- Whether the program is prepared for a fault of a scenario. -/
def isExpected : Fault → Bool
  | .file _ => true
  | fault => fault.isAnswered

/-- The lines on what one train is granted. -/
def trainLines (train : Nat) (granting : List Segment) : String :=
  let segmentLine (s : Segment) : String :=
    s!"  {s.firstLocation.text} -> {s.lastLocation.text} ({s.length})\n"
  s!"Train {train}:\n" ++
    (if granting.isEmpty then "  (nothing allocated)\n" else "") ++
    String.join (granting.map segmentLine)

/-- Allocates the routes of a scenario, after the track was printed. -/
def runScenario (track : Track) (printed path : String) (content : FileContent) : Outcome :=
  let allocated : Except Fault (List (List Segment) × List (List Segment)) := do
    let (occupied, requested) ← readScenario track path content
    let granted ← orFault (Scenario.run track occupied requested)
    return (requested, granted)
  match allocated with
  | .error fault =>
    if isExpected fault then .stopped printed (fault.message?.getD "")
    else .broken printed fault
  | .ok (requested, granted) =>
    let lines := granted.zipIdx.map fun (granting, train) => trainLines train granting
    let printed := printed ++ String.join lines
    match Indicators.of? requested granted with
    | none => .broken printed .overflow
    | some indicators => .finished (printed ++ s!"KPIs: {indicators.toJson.display}\n")

/-- The files that the program works on; the name of the scenario is empty where there is none. -/
structure FileNames where
  track : String
  scenario : String
deriving DecidableEq, Repr

/-- The files that given options name. An option without its value is found out where the value is
first needed; a scenario without a value is none. -/
def fileNames (settings : Settings) (given : List (String × OptionValue)) :
    Except Fault FileNames := do
  if (textOption? given "--log-level" settings.logLevel).isNone then throw .noMember
  match textOption? given "--track" settings.trackFile with
  | none => throw .wrongKind
  | some track => return ⟨track, (textOption? given "--scenario" "").getD ""⟩

/-- The files that the program may read on a command line. -/
def filesOf (settings : Settings) (words : List String) : List String :=
  match readWords allocateOptions words with
  | .refused | .help => []
  | .options given =>
    match fileNames settings given with
    | .ok names => [names.track, names.scenario]
    | .error _ => []

/-- Runs the program on files that were named to it. -/
def allocateFiles (read : String → FileContent) (names : FileNames) : Outcome :=
  match readTrackFile names.track (read names.track) with
  | .error (.inr message) => .stopped "" message
  | .error (.inl fault) => .broken "" fault
  | .ok track =>
    let printed := s!"Track:\n{track.text}\n"
    if names.scenario = "" then
      let junctions := ", ".intercalate track.junctions
      .finished (printed ++ s!"Junctions: {junctions}\n")
    else runScenario track printed names.scenario (read names.scenario)

/-- Runs the program on a command line, with a way to read files. -/
def allocate (settings : Settings) (read : String → FileContent) (words : List String) : Outcome :=
  match readWords allocateOptions words with
  | .refused => ⟨"", none, some 2, none⟩
  | .help => ⟨"", some "", some 0, none⟩
  | .options given =>
    match fileNames settings given with
    | .ok names => allocateFiles read names
    | .error fault => .broken "" fault

end Trackage.CommandLine
