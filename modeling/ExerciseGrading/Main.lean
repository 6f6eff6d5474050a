/-
  THE PROGRAM: the command line on the files of the disk.

  Everything is decided elsewhere; here files are read and answers are written.
-/
import ExerciseGrading.CommandLine.Arguments
import ExerciseGrading.CommandLine.Run

namespace ExerciseGrading.Main

/-- The result of an action that may fail. -/
def attempt {α : Type} (action : IO α) : IO (Option α) := do
  match ← action.toBaseIO with
  | .ok a => return some a
  | .error _ => return none

/-- A path on the disk. -/
def entry (path : String) : IO.FS.DirEntry := ⟨path, ""⟩

def isFolder (path : String) : IO Bool := (entry path).root.isDir

def isFile (path : String) : IO Bool := do
  return (← (entry path).root.pathExists) && !(← isFolder path)

/-- The files at a path or below it, in order. -/
partial def filesBelow (path : String) : IO (List String) := do
  if ← isFolder path then
    let names := (← (entry path).root.readDir).toList.map (·.fileName)
    let ordered := names.mergeSort fun a b => decide (a ≤ b)
    return (← ordered.mapM fun name => filesBelow (Storage.joined path name)).flatten
  else return [path]

/-- The files of the disk, and what is piped in. -/
def disk : Storage IO where
  read? path := attempt (IO.FS.readFile path)
  isFile := isFile
  filesBelow? path := do
    if ← (entry path).root.pathExists then attempt (filesBelow path) else return none
  input? := attempt do (← IO.getStdin).readToEnd

/-- The text for a question about usage. -/
def usageText : Usage → String
  | .version => "exercise-grading 0.1.0"
  | _ =>
    "usage: exercise-grading [--config FILE] COMMAND\n\n" ++
    "  validate EXERCISE --code FILE [--failures N] [--lang LANG] [--json]\n" ++
    "  exec EXERCISE --code FILE [--lang LANG] [--json] COMMAND...\n" ++
    "  check CHECK --code FILE\n" ++
    "  lint [PATH]"

def writeNote (out : IO.FS.Stream) : Note → IO Unit
  | .line text => out.putStrLn text
  | .failure f => do
    out.putStrLn f.display
    for line in f.details do out.putStrLn line

def run (args : List String) : IO Nat := do
  match Invocation.ofArguments args with
  | .error usage =>
    let out ← if usage.exitCode = 0 then IO.getStdout else IO.getStderr
    out.putStrLn (usageText usage)
    return usage.exitCode
  | .ok invocation =>
    let report ← invocation.report disk
    let out ← IO.getStdout
    out.putStr report.output
    out.flush
    for note in report.notes do writeNote (← IO.getStderr) note
    return report.exitCode

end ExerciseGrading.Main

def main (args : List String) : IO UInt32 := do
  return (← ExerciseGrading.Main.run args).toUInt32
