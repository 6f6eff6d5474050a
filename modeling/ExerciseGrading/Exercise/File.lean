/-
  RECORDS IN FILES: exercises, checks and configurations.

  1. A file that ends in `.json` holds JSON, any other YAML.
  2. An exercise with an id is looked for in one folder under the id with each known ending; an id
     that could lead out of the folder, or to a hidden file, is never looked for.
  3. What cannot be read, and what cannot be understood, are failures that name the file.
-/
import ExerciseGrading.Config
import ExerciseGrading.Exercise.Record
import ExerciseGrading.Storage
import ExerciseGrading.Text.Search

namespace ExerciseGrading

/-- The notation of a file. -/
def Notation.ofPath (path : String) : Notation :=
  if Storage.suffix? path = some "json" then .json else .yaml

/-- The endings of files with exercises, the first one first. -/
def Exercise.suffixes : List String := ["json", "yaml", "yml"]

namespace Storage

variable {m : Type → Type} [Monad m]

/-- The text of a file that has to be there; `reading` says what is done. -/
def text (s : Storage m) (reading path : String) : ExceptT Failure m String := do
  match ← s.read? path with
  | some text => return text
  | none => throw (.io (reading ++ " " ++ path))

/-- The exercise in a file. -/
def exercise (s : Storage m) (path : String) : ExceptT Failure m Exercise := do
  let text ← s.text "cannot read" path
  match (Record.ofText? (.ofPath path) text).bind Exercise.ofRecord? with
  | some e => return e
  | none => throw (.badRecord path)

/-- The check in a file, which is always YAML. -/
def check (s : Storage m) (path : String) : ExceptT Failure m Check := do
  let text ← s.text "cannot read" path
  match (Record.ofText? .yaml text).bind Check.ofRecord? with
  | some c => return c
  | none => throw (.badRecord path)

/-- The configuration in a file. -/
def config (s : Storage m) (path : String) : ExceptT Failure m Config := do
  let text ← s.text "cannot read config" path
  match Config.ofText text with
  | .ok c => return c
  | .error _ => throw (.badConfig (some path))

/-- The first of some paths at which there is a file. -/
def firstFile? (s : Storage m) : List String → m (Option String)
  | [] => return none
  | path :: rest => do if ← s.isFile path then return some path else firstFile? s rest

/-- Whether an id may name a file: it is not hidden and has no way into another folder. -/
def isSafeId (id : String) : Bool :=
  let cs := id.toList
  cs ≠ [] && cs.head? ≠ some '.' && !cs.contains '/' && !cs.contains '\\' &&
    !Text.occurs ['.', '.'] cs

/-- The files in which an exercise may stand. -/
def candidates (folder id : String) : List String :=
  if isSafeId id then
    Exercise.suffixes.map fun suffix => joined folder (id ++ "." ++ suffix)
  else []

/-- The exercise with an id in a folder; none if there is no file for it or the file is unusable. -/
def exercise? (s : Storage m) (folder id : String) : m (Option Exercise) := do
  match ← s.firstFile? (candidates folder id) with
  | none => return none
  | some path => return (← (s.exercise path).run).toOption

end Storage

end ExerciseGrading
