import Trackage.CommandLine.Allocate

/-!
The program on a real machine: its settings come from the environment, and its files from the file
system.
-/

namespace Trackage.CommandLine

/-- A text as the machine takes it. -/
def asWritten (text : String) : String := String.ofList (Text.characters text)

/-- Reads a file of the machine. -/
def readFile (path : String) : IO FileContent := do
  try
    match String.fromUTF8? (← IO.FS.readBinFile (asWritten path)) with
    | some content => return .text (Text.ofCharacters content.toList)
    | none => return .notText
  catch
    | .noFileOrDirectory .. => return .failed .noSuchFile
    | .inappropriateType .. => return .failed .isDirectory
    | _ => return .failed .notADirectory

/-- The settings of the machine. -/
def readSettings : IO Settings := do
  let names := ["DB_PATH", "AUDIT_DIR", "TRACK_FILE", "LOG_LEVEL"].map (settingPrefix ++ ·)
  let values ← names.mapM fun name => return (name, ← IO.getEnv name)
  return .ofEnvironment fun name => (values.lookup name).join

end Trackage.CommandLine

open Trackage Trackage.CommandLine

/-- Allocates the routes of a scenario, as the command line says. -/
def main (words : List String) : IO UInt32 := do
  let settings ← readSettings
  let words := words.map fun word => Text.ofCharacters word.toList
  let contents ← (filesOf settings words).mapM fun path => return (path, ← readFile path)
  let read (path : String) : FileContent := (contents.lookup path).getD (.failed .noSuchFile)
  let outcome := allocate settings read words
  IO.print (asWritten outcome.printed)
  IO.eprint (asWritten (outcome.complaint.getD ""))
  match outcome.fault with
  | none => return ((outcome.exit.getD 0).toUInt32)
  | some fault =>
    IO.eprintln (asWritten (fault.message?.getD ""))
    return 1
