import Trackage.Fault
import Trackage.Text.Octets

/-!
Files as a program finds them, and the parts of a path. A path is taken part by part; a step up is
only taken from a directory that is there.
-/

namespace Trackage.CommandLine

/-- What reading a file comes to. -/
inductive FileContent where
  | text (content : String)
  | notText
  | failed (problem : FileProblem)
  /-- The path holds a character that no path can hold. -/
  | badPath
deriving DecidableEq, Repr

/-- The texts between the slashes of a path, without those that stand for nothing. -/
def pathParts (path : String) : List String :=
  (path.splitOn "/").filter fun part => part != "" && part != "."

/-- The slashes in front of a path that starts at the top: two of them stay two, more become one. -/
def topOf (path : String) : String :=
  if path.startsWith "//" && !path.startsWith "///" then "//"
  else if path.startsWith "/" then "/"
  else ""

/-- A path in its plain form. -/
def plainPath (path : String) : String :=
  let plain := topOf path ++ "/".intercalate (pathParts path)
  if plain = "" then "." else plain

/-- Whether a path can be one at all. -/
def isPath (path : String) : Bool := !path.toList.contains '\x00'

/-- How many bytes a name has. -/
def nameBytes (name : String) : Nat := (Text.octets name).length

/-- The most bytes of a name. -/
def longestName : Nat := 255

/-- The most bytes of a path. -/
def longestPath : Nat := 4095

/-- A place that a path leads to: one below the directory that files are looked up in, by its parts,
or a directory above it. -/
inductive Place where
  | below (parts : List String)
  | above
deriving DecidableEq, Repr

/-- The place where a path starts. -/
def startOf (path : String) : Place := if path.startsWith "/" then .above else .below []

/-- The files below a directory: their paths and contents. -/
abbrev Files := List (String × String)

namespace Files

/-- The content of the file at exactly this place. -/
def fileAt? (files : Files) (place : List String) : Option String :=
  (files.find? fun file => pathParts file.1 == place).map (·.2)

/-- Whether some file lies below a place. -/
def isDirectory (files : Files) (place : List String) : Bool :=
  place.isEmpty || files.any fun file =>
    place.isPrefixOf (pathParts file.1) && place.length < (pathParts file.1).length

/-- Takes one part of a path from a place, which has to be a directory. Nothing is known of what lies
above but that it is there. -/
def step (files : Files) (place : Place) (part : String) : Except FileProblem Place :=
  match place with
  | .above =>
    if longestName < nameBytes part then .error .nameTooLong
    else if part = ".." then .ok .above
    else .error .noSuchFile
  | .below parts =>
    if !files.isDirectory parts then
      .error (if (files.fileAt? parts).isSome then .notADirectory else .noSuchFile)
    else if longestName < nameBytes part then .error .nameTooLong
    else if part = ".." then .ok (if parts.isEmpty then .above else .below parts.dropLast)
    else .ok (.below (parts ++ [part]))

/-- Follows a path from its start. -/
def follow (files : Files) (path : String) (parts : List String) : Except FileProblem Place :=
  if longestPath < nameBytes path then .error .nameTooLong
  else parts.foldlM files.step (startOf path)

/-- Reads the file of a path. -/
def read (files : Files) (path : String) : FileContent :=
  if !isPath path then .badPath
  else
    match files.follow (plainPath path) (pathParts path) with
    | .error problem => .failed problem
    | .ok .above => .failed .isDirectory
    | .ok (.below parts) =>
      match files.fileAt? parts with
      | some content => .text content
      | none => .failed (if files.isDirectory parts then .isDirectory else .noSuchFile)

/-- Writes a file, whose name is the last part of the path. What is written above the directory is out
of sight. -/
def write (files : Files) (path content : String) : Except Fault Files :=
  let refuse (problem : FileProblem) : Except Fault Files := .error (.file ⟨problem, path⟩)
  if !isPath path then .error (.value .nulInPath)
  else
    let parts := pathParts path
    let name := parts.getLastD ".."
    match files.follow path parts.dropLast with
    | .error problem => refuse problem
    | .ok place =>
      let tooLong := longestName < nameBytes name
      match place with
      | .above => if tooLong then refuse .nameTooLong else .ok files
      | .below parts =>
        let target := parts ++ [name]
        if !files.isDirectory parts then refuse .noSuchFile
        else if tooLong then refuse .nameTooLong
        else if name = ".." ∨ files.isDirectory target then refuse .isDirectory
        else .ok (files.filter (pathParts ·.1 != target) ++ [("/".intercalate target, content)])

end Files

end Trackage.CommandLine
