import Karel.Application
import Karel.Console.Typing
import Std.Time.Format

/-!
# The program

Finds out what a call needs of the world outside, lets `Application.run` say what the call does, and
does it. Keys are read from the standard input up to its end before the call begins, and the size of
the terminal from the variables `COLUMNS` and `LINES`.
-/

namespace Karel.Application

/-- Looks at a location of the file system and adds what is there. -/
def survey (storage : Storage) (location : Location) : IO Storage := do
  match ← (IO.FS.readFile location.path).toBaseIO with
  | .ok text => return { storage with files := storage.files.insert location text }
  | .error (.inappropriateType ..) =>
    return { storage with directories := location :: storage.directories }
  | .error _ => return storage

/-- The files that the options name, with the directories on the way to them. -/
def gather (options : CommandLine.Options) : IO Storage := do
  let locations := options.paths.flatMap fun path =>
    (Storage.start path).route (Storage.parts path)
  (locations.filter fun location => !location.isAround).eraseDups.foldlM survey .empty

/-- The number a variable of the environment is set to. -/
def variableNumber (name : String) (usual : UInt16) : IO UInt16 := do
  let value ← IO.getEnv name
  return ((value.bind fun text => Text.Numeral.natural? text.toList).map UInt16.ofNat).getD usual

/-- The time now, as it stands before each line of a log. -/
def timeStamp : IO String := do
  let now := Std.Time.DateTime.ofTimestamp (← Std.Time.Timestamp.now) .UTC
  return now.format "uuuu-MM-dd'T'HH:mm:ss.SSSSSS'Z'"

/-- Finds out what a call needs. -/
def surroundings (options : CommandLine.Options) : IO Surroundings := do
  let storage ← gather options
  let columns ← variableNumber "COLUMNS" 80
  let rows ← variableNumber "LINES" 24
  let keys ← (← IO.getStdin).readToEnd
  let filter ← IO.getEnv "RUST_LOG"
  return ⟨storage, ⟨columns, rows⟩, Console.typed keys, filter, ← timeStamp⟩

/-- Writes the files that are not as they were. -/
def writeBack (before after : Storage) : IO Unit := do
  for (location, text) in after.files.toList do
    unless before.files[location]? = some text do
      IO.FS.writeFile location.path text

end Karel.Application

open Karel in
/-- The program. -/
def main (arguments : List String) : IO UInt32 := do
  let surroundings ← match CommandLine.read arguments with
    | .ok options => Application.surroundings options
    | .error _ => pure ⟨.empty, ⟨80, 24⟩, [], none, ""⟩
  let outcome := Application.run arguments surroundings
  IO.print outcome.output
  IO.eprint outcome.errors
  Application.writeBack surroundings.storage outcome.storage
  return outcome.exitCode
