/-
  LINT: what is wrong with checks whatever is submitted.

  Patterns that are none, snippets that are refused, and lists of items without a field to look
  for.  An exercise is looked through rule by rule, then command by command.
-/
import ExerciseGrading.Check.Evaluate
import ExerciseGrading.Exercise

namespace ExerciseGrading

/-- The failure of a result. -/
def failureOf {α : Type} : Except Failure α → List Failure
  | .ok _ => []
  | .error f => [f]

namespace Check

mutual
/-- All that is wrong with a check, in the order of the tree. -/
def lint : Check → List Failure
  | .pattern source | .noPattern source => failureOf (compilePattern source)
  | .snippet source => failureOf (Snippet.compile source)
  | .itemsHave _ [] => [.noFields]
  | .all checks | .any checks => lintAll checks
  | .not check => lint check
  | _ => []
def lintAll : List Check → List Failure
  | [] => []
  | c :: rest => lint c ++ lintAll rest
end

end Check

/-- What is wrong, and where in the exercise. -/
structure Finding where
  location : String
  failure : Failure
deriving Repr, DecidableEq

namespace Exercise

/-- A place in a list, as locations show it. -/
def indexText (i : Nat) : String := "[" ++ Number.intText i ++ "]"

def lintRule (i : Nat) (r : Rule) : List Finding :=
  r.check.lint.map fun f => ⟨"validations" ++ indexText i ++ " (" ++ r.label ++ ")", f⟩

def lintReply (pattern : String) (i : Nat) (r : Reply) : List Finding :=
  match r.condition? with
  | some c =>
    c.lint.map fun f =>
      ⟨"terminalCommands[" ++ Text.quoted pattern ++ "]" ++ indexText i ++ ".when", f⟩
  | none => []

/-- All that is wrong with an exercise. -/
def lint (e : Exercise) : List Finding :=
  (e.rules.mapIdx lintRule).flatten ++
  e.commands.flatMap fun (pattern, replies) => (replies.mapIdx (lintReply pattern)).flatten

end Exercise

end ExerciseGrading
