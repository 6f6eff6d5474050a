/-
  EXERCISES: what a learner is asked for, and how a submission is judged.

  1. Rules, each with a check, a label for its author and a message for the learner.
  2. Commands of a simulated terminal, in an order that counts, each with its possible answers.
  3. Hints, and a message for success.
-/
import ExerciseGrading.Check

namespace ExerciseGrading

inductive RuleKind where
  | syntactic
  | semantic
  | intention
deriving Repr, DecidableEq, Inhabited

namespace RuleKind

def name : RuleKind → String
  | .syntactic => "syntax"
  | .semantic => "semantic"
  | .intention => "intention"

end RuleKind

/-- A rule that submissions have to keep. -/
structure Rule where
  kind : RuleKind
  check : Check
  /-- What diagnostics call the rule. -/
  label : String
  /-- What the learner is told when the check fails. -/
  failMessage : String
deriving Inhabited

/-- A possible answer to a command; one without a condition always applies. -/
structure Reply where
  condition? : Option Check
  output : String
  exitCode : Int
deriving Inhabited

structure Exercise where
  id : String
  rules : List Rule
  /-- Command patterns with their replies; each pattern once, in the order that counts. -/
  commands : List (String × List Reply)
  hints : List String
  successMessage : String
deriving Inhabited

namespace Exercise

/-- The command patterns in order. -/
def patterns (e : Exercise) : List String := e.commands.map (·.1)

end Exercise

end ExerciseGrading
