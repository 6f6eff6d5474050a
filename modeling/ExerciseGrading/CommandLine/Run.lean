/-
  RUNS: commands carried out on a storage.

  1. The configuration is read first, then the submission, then the exercise or check; the first
     failure is the report.
  2. An exercise is named by a file, or else by an id in the folder of the configuration.
  3. A look through files goes on after a file that is unusable, and counts it as one problem.
-/
import ExerciseGrading.Check.Explain
import ExerciseGrading.Check.Lint
import ExerciseGrading.CommandLine.Report
import ExerciseGrading.Engine
import ExerciseGrading.Exercise.File

namespace ExerciseGrading

/-- What is found in one file. -/
structure FileFindings where
  problems : Nat
  notes : List Note

namespace FileFindings

/-- The findings about the exercise of a file. -/
def ofExercise (path : String) (e : Exercise) : FileFindings :=
  let findings := e.lint
  ⟨findings.length,
    findings.flatMap fun f => [.line (path ++ ": " ++ f.location), .failure f.failure]⟩

/-- The findings about a file. -/
def ofResult (path : String) : Except Failure Exercise → FileFindings
  | .ok e => ofExercise path e
  | .error f => ⟨1, [.failure f]⟩

end FileFindings

namespace Report

/-- The report on files. -/
def ofFindings (findings : List FileFindings) : Report :=
  ofProblems findings.length (findings.foldl (fun n f => n + f.problems) 0)
    (findings.flatMap (·.notes))

end Report

namespace Storage

variable {m : Type → Type} [Monad m]

/-- The submission in a file; a dash is the input. -/
def submission (s : Storage m) (path : String) : ExceptT Failure m Submission := do
  if path = "-" then
    match ← s.input? with
    | some text => return .ofText text
    | none => throw (.io "cannot read code from stdin")
  else return .ofText (← s.text "cannot read" path)

/-- The exercise of a name: a file, or an id in the folder of the configuration. -/
def exerciseNamed? (s : Storage m) (config : Config) (name : String) :
    ExceptT Failure m (Option Exercise) := do
  if ← s.isFile name then return some (← s.exercise name)
  else
    match config.exerciseDir? with
    | some folder => s.exercise? folder name
    | none => return none

/-- Whether a file is one for exercises. -/
def holdsExercise (path : String) : Bool :=
  match suffix? path with
  | some suffix => Exercise.suffixes.contains suffix
  | none => false

/-- What is found in a file. -/
def findings (s : Storage m) (path : String) : m FileFindings :=
  (fun result => .ofResult path result) <$> (s.exercise path).run

/-- The report on all exercises at a path or below it. -/
def lint (s : Storage m) (path : String) : ExceptT Failure m Report := do
  match ← s.filesBelow? path with
  | none => throw (.io ("cannot walk " ++ path))
  | some files =>
    return .ofFindings (← ((files.filter holdsExercise).mapM s.findings : m _))

end Storage

namespace Command

variable {m : Type → Type} [Monad m]

/-- The report of a command. -/
def report (s : Storage m) (config : Config) : Command → ExceptT Failure m Report
  | .validate name code failures lang? json => do
    let submission ← s.submission code
    let e ← s.exerciseNamed? config name
    return .ofVerdict (config.locales.verdict lang? e submission failures) json
  | .exec name code lang? json words => do
    let submission ← s.submission code
    let e ← s.exerciseNamed? config name
    return .ofResponse (config.locales.response lang? e (" ".intercalate words) submission) json
  | .check path code => do
    let submission ← s.submission code
    let check ← s.check path
    if ← liftExcept (check.evaluate submission) then return .passed
    else return .failed (← liftExcept (check.explain submission))
  | .lint path => s.lint path
where
  /-- A result that needs no storage. -/
  liftExcept {α : Type} (r : Except Failure α) : ExceptT Failure m α := ExceptT.mk (pure r)

end Command

namespace Invocation

variable {m : Type → Type} [Monad m]

/-- The configuration of an invocation. -/
def configuration (s : Storage m) (i : Invocation) : ExceptT Failure m Config :=
  match i.config? with
  | some path => s.config path
  | none => return .standard

/-- The report of an invocation. -/
def report (s : Storage m) (i : Invocation) : m Report := do
  let result ← (do i.command.report s (← i.configuration s) : ExceptT Failure m Report).run
  match result with
  | .ok report => return report
  | .error f => return .ofFailure f

end Invocation

end ExerciseGrading
