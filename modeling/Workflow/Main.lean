import Workflow.Command.Execution
import Workflow.Command.Stamp
import Workflow.Command.Variables

/-!
# The program

Reads the command line, the environment and the files that the command names, carries the command
out and puts out what comes of it. A failed command ends with the code 1, a command line that is not
understood with the code 2.
-/

namespace Workflow.Command

/-- The text of a file, if it can be read. -/
def readFile? (path : String) : IO (Option String) := do
  try
    return some (← IO.FS.readFile path)
  catch _ =>
    return none

/-- The variables of the environment and of the file `.env` in the current folder. -/
def readVariables : IO (Dict String) := do
  let file := (← readFile? ".env").getD ""
  let mut environment : Dict String := .empty
  for name in Settings.names ++ mentionedNames file do
    if let some value ← IO.getEnv name then
      environment := environment.insert name value
  return loadVariables environment file

/-- The texts of those files that can be read. -/
def readFiles (paths : List String) : IO (Dict String) := do
  let mut files : Dict String := .empty
  for path in paths do
    if let some text ← readFile? path then
      files := files.insert path text
  return files

/-- The time, which is read off a new file. -/
def readClock : IO String := do
  let (_, path) ← IO.FS.createTempFile
  let time := (← path.metadata).modified
  IO.FS.removeFile path
  return timeText time.sec.toNat time.nsec.toNat

/-- A random number of 122 bits. -/
def randomBits : IO Nat := do
  let bytes ← IO.getRandomBytes 16
  return bytes.foldl (fun n byte => 256 * n + byte.toNat) 0 % Nat.pow 2 122

/-- What surrounds an order. There is no connection to the service of the model. -/
def readSurroundings (order : Order) : IO Surroundings := do
  let environment ← readVariables
  let files ← readFiles (namedFiles environment.get? order)
  let bits ← randomBits
  return {
    environment := environment.get?
    file? := files.get?
    exchange := fun request => .error ("no connection to " ++ request.endpoint.text)
    newId := fun n => randomId ((bits + n) % Nat.pow 2 122)
    now := ← readClock }

/-- Writes a file. -/
def writeFile (file : NewFile) : IO Unit := do
  if let some folder := file.folder then
    IO.FS.createDirAll folder
  IO.FS.writeFile file.path file.text

/-- Puts out what comes of a command. -/
def putOutcome (outcome : Outcome) : IO UInt32 := do
  IO.print outcome.printed
  let result ←
    try
      for file in outcome.files do
        writeFile file
      pure outcome.conclusion
    catch e =>
      pure (.error (outcome.unwritten (toString e)))
  match result with
  | .ok text =>
      IO.print text
      return 0
  | .error message =>
      IO.eprintln ("Error: " ++ message)
      return 1

end Workflow.Command

open Workflow.Command in
/-- Carries out the command that the arguments describe. -/
def main (arguments : List String) : IO UInt32 :=
  match Request.read arguments with
  | .print text => do
      IO.print text
      return 0
  | .mistake => do
      IO.eprint ("error: the arguments are not understood\n\n" ++ programHelp)
      return 2
  | .perform order => do
      putOutcome (perform (← readSurroundings order) order)
