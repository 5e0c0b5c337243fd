import Trackage.Text.Basic
import Trackage.Text.Half
import Trackage.Text.Numeral
import Trackage.Track.Basic

/-!
Written tracks. A definition has one section a line: its length, then the junction and the branch
of each end, set apart by blanks. Reading stops at the first line that is no section of the track
and says which line that is and what is wrong with it.
-/

namespace Trackage

/-- What can be wrong with a line of a definition. -/
inductive FormatReason where
  | length
  | itemCount
  | firstBranch
  | secondBranch
  | badSection (error : SectionError)
  | duplicate
  | collision (error : TrackError)
deriving DecidableEq, Repr

def FormatReason.message : FormatReason → String
  | .length => "Wrong length format."
  | .itemCount => "Wrong number of items."
  | .firstBranch => "Wrong format for the first branch type."
  | .secondBranch => "Wrong format for the second branch type."
  | .badSection error => error.message
  | .duplicate => "Duplicate sections detected."
  | .collision error => error.message

/-- A line that cannot be read, with its number when it has one. -/
structure FormatError where
  line : Option Int
  reason : FormatReason
deriving DecidableEq, Repr

def FormatError.message (error : FormatError) : String :=
  match error.line with
  | none => "Format error: " ++ error.reason.message
  | some line => s!"Format error in line {line}: {error.reason.message}"

/-- Why a definition cannot be read: a line has the wrong form, or its length has the form of a
number but more digits than are read. -/
inductive DefinitionError where
  | format (error : FormatError)
  | numeral (error : Text.NumeralError)
deriving DecidableEq, Repr

namespace Section

/-- Reads the items of a line after its length. -/
def ofItems (length : Int) : List String → Except FormatReason Section
  | [junction₁, branch₁, junction₂, branch₂] =>
    match Branch.ofText? branch₁, Branch.ofText? branch₂ with
    | none, _ => .error .firstBranch
    | _, none => .error .secondBranch
    | some branch₁, some branch₂ =>
      (build length ⟨junction₁, branch₁⟩ ⟨junction₂, branch₂⟩).mapError .badSection
  | _ => .error .itemCount

/-- Reads one line. -/
def ofLine (number : Option Int) (line : String) : Except DefinitionError Section :=
  let refuse (reason : FormatReason) : DefinitionError := .format ⟨number, reason⟩
  match Text.words line with
  | [] => .error (refuse .length)
  | first :: items =>
    match Text.strictNumeral? first.toList with
    | none => .error (refuse .length)
    | some (negative, digits) =>
      match Text.strictValue negative digits with
      | .error error => .error (.numeral error)
      | .ok length => (ofItems length items).mapError refuse

end Section

namespace Track

/-- Adds a section that a definition writes out. Writing the same section twice is an error of its
own. -/
def addWritten (track : Track) (s : Section) : Except FormatReason Track :=
  if track.contains s then .error .duplicate else (track.add s).mapError .collision

/-- Reads lines into a track; the number is that of the first of them. -/
def readLines (track : Track) (number : Nat) : List String → Except DefinitionError Track
  | [] => .ok track
  | line :: lines =>
    match Section.ofLine (some number) line with
    | .error error => .error error
    | .ok s =>
      match track.addWritten s with
      | .error reason => .error (.format ⟨some number, reason⟩)
      | .ok track => readLines track (number + 1) lines

/-- Reads the lines of a definition. -/
def ofLines (lines : List String) : Except DefinitionError Track := readLines empty 1 lines

/-- Reads the text of a definition. -/
def ofText (text : String) : Except DefinitionError Track := ofLines (Text.lines text)

/-- Reads a file that holds a definition; nothing when its bytes are no text. -/
def ofFile? (bytes : ByteArray) : Option (Except DefinitionError Track) :=
  (String.fromUTF8? bytes).map fun text =>
    ofText (Text.ofCharacters (Text.unifyNewlines text.toList))

/-- What a file of the track holds: a line for each section, nothing for a track without any. -/
def fileText (track : Track) : String :=
  if track.text = "" then "" else track.text ++ "\n"

end Track

end Trackage
