/-
  OUTCOMES: what a snippet says about a submission.

  1. A snippet is screened, then parsed; one that is refused has no outcome.
  2. An object with the key `passed` is a verdict, which may come with a message.  Every other
     value passes if it counts as true.
  3. A snippet that stops while it runs is a verdict that fails and says why.
-/
import ExerciseGrading.Snippet.Evaluate
import ExerciseGrading.Snippet.Grammar
import ExerciseGrading.Snippet.Screen

namespace ExerciseGrading.Snippet

/-- Screens and parses a snippet. -/
def compile (snippet : String) : Except Failure Program := do
  screen snippet
  parse snippet

/-- The names that a snippet sees when it looks at a submission. -/
def submissionEnv (code : String) : Env := ("code", .string code) :: globals

/-- What a snippet says about a submission. -/
inductive Outcome where
  | flag (passed : Bool)
  | verdict (passed : Bool) (message : Option String)
deriving Repr, DecidableEq

namespace Outcome

def passed : Outcome → Bool
  | .flag p => p
  | .verdict p _ => p

def message? : Outcome → Option String
  | .flag _ => none
  | .verdict _ m => m

/-- The message of an object, unless it is nullish. -/
def messageOf (members : List (String × Value)) : Option String :=
  match Keyed.find? "errorMessage" members with
  | some v => if v.isNullish then none else some v.text
  | none => none

def ofValue : Value → Outcome
  | .bool b => .flag b
  | .object members =>
    match Keyed.find? "passed" members with
    | some p => .verdict p.truthy (messageOf members)
    | none => .flag true
  | v => .flag v.truthy

/-- What is said of a snippet that stopped. -/
def ofFailure (f : Failure) : Outcome :=
  .verdict false (some ("custom check failed: " ++ f.message))

/-- Runs a program on a submission. -/
def ofProgram (p : Program) (code : String) (limits : Limits) : Outcome :=
  match run p (submissionEnv code) limits with
  | .ok v => ofValue v
  | .error f => ofFailure f

end Outcome

/-- Runs a snippet on a submission. -/
def judge (snippet code : String) (limits : Limits) : Except Failure Outcome := do
  return Outcome.ofProgram (← compile snippet) code limits

end ExerciseGrading.Snippet
