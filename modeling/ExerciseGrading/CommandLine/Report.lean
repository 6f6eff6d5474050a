/-
  REPORTS: what a run shows.

  1. `Report` holds what is printed, what is noted beside it, and the exit code.
  2. A verdict, a response and the result of a check have a text for people; a verdict and a
     response also are records.
-/
import ExerciseGrading.CommandLine
import ExerciseGrading.Exercise.Terminal
import ExerciseGrading.Exercise.Verdict

namespace ExerciseGrading

/-- Something said beside the output. -/
inductive Note where
  | line (text : String)
  | failure (f : Failure)
deriving Repr, DecidableEq

/-- What a run leaves behind. -/
structure Report where
  output : String
  notes : List Note
  exitCode : Nat
deriving Repr, DecidableEq

namespace Report

/-- A run that went wrong. -/
def ofFailure (f : Failure) : Report := ⟨"", [.failure f], Usage.errorCode⟩

/-- The exit code of a grade. -/
def gradeCode (passed : Bool) : Nat := if passed then 0 else 1

/-- The exit code nearest to that of a simulated command. -/
def codeNear (code : Int) : Nat := min code.toNat 255

/-- A text with an end of line. -/
def line (s : String) : String := s ++ "\n"

end Report

namespace Failure

/-- The lines that a diagnostic has below its message. -/
def details (f : Failure) : List String :=
  (match f.label? with
    | some span =>
      ["  at " ++ Number.intText span.start ++ "+" ++ Number.intText span.labelLength]
    | none => []) ++
  match f.help? with
  | some text => ["  help: " ++ text]
  | none => []

end Failure

namespace RuleResult

def text (r : RuleResult) : String :=
  if r.passed then "✓ " ++ r.kind.name else "✗ " ++ r.kind.name ++ ": " ++ r.message

end RuleResult

namespace Verdict

/-- The hint with its number. -/
def hintLines (v : Verdict) : List String :=
  match v.hint? with
  | some hint => ["", "Hint " ++ Number.intText v.hintsUsed ++ ": " ++ hint]
  | none => []

/-- The lines for people: rules, summary, hint, with an empty line between them. -/
def lines (v : Verdict) : List String :=
  (match v.results with
    | [] => []
    | results => results.map RuleResult.text ++ [""]) ++
  [v.summary] ++ v.hintLines

def text (v : Verdict) : String := String.join (v.lines.map Report.line)

end Verdict

namespace Response

/-- What a terminal receives: a sequence that clears the screen, then the output. -/
def shown (r : Response) : String :=
  (if r.clear then "\x1b[2J\x1b[H" else "") ++
    if r.output = "" then "" else Report.line r.output

end Response

namespace Report

/-- A verdict, as a record or for people. -/
def ofVerdict (v : Verdict) (json : Bool) : Report :=
  ⟨if json then line v.toJson.pretty else v.text, [], gradeCode v.passed⟩

/-- A response, as a record or as the terminal shows it. -/
def ofResponse (r : Response) (json : Bool) : Report :=
  ⟨if json then line r.toJson.pretty else r.shown, [], codeNear r.exitCode⟩

/-- The result of a check that passes. -/
def passed : Report := ⟨line "pass", [], gradeCode true⟩

/-- The result of a check that fails. -/
def failed (reason? : Option String) : Report :=
  let text := match reason? with
    | some reason => "fail: " ++ reason
    | none => "fail"
  ⟨line text, [], gradeCode false⟩

/-- What a look through files found: how many files there are, how many problems, and notes. -/
def ofProblems (files problems : Nat) (notes : List Note) : Report :=
  ⟨line (Number.intText files ++ " exercise file(s) checked, " ++ Number.intText problems ++
      " problem(s) found"),
    notes, gradeCode (problems == 0)⟩

end Report

end ExerciseGrading
