/-
  REASONS: why a submission fails a check.

  The reason is the first check that fails; of `any`, all alternatives; of `not`, what should have
  failed and did not.  A submission that passes has none.
-/
import ExerciseGrading.Check.Evaluate

namespace ExerciseGrading.Check

/-- The description of a check that failed; it mentions a submission that is no document to a
    check that asks for one. -/
def failedText (s : Submission) (c : Check) : String :=
  if c.asksDocument && s.document?.isNone then
    c.describe ++ " (submission is not a YAML document)"
  else c.describe

/-- The reason of a check that has no checks inside. -/
def leafReason (s : Submission) (c : Check) (reason : String) : Except Failure (Option String) := do
  return if ← evaluate s c then none else some reason

/-- What is said when none of the alternatives holds. -/
def noneText (reasons : List String) : String :=
  match reasons with
  | [] => "any: no alternatives to satisfy"
  | _ => "any: none passed (" ++ "; ".intercalate reasons ++ ")"

mutual
/-- Why a submission fails a check; none if it passes. -/
def explain (s : Submission) : Check → Except Failure (Option String)
  | .all checks => explainAll s checks
  | .any checks => do return (← explainAny s checks).map noneText
  | .not check => do
    return if ← evaluate s check then some (describe (.not check) ++ " passed") else none
  | .snippet source => do
    let outcome ← Snippet.judge source s.text {}
    if outcome.passed then return none
    else return some <| match outcome.message? with
      | some message => "custom: " ++ message
      | none => "custom: returned false"
  | .isDocument => leafReason s .isDocument "yamlValid: submission is not a YAML document"
  | c => leafReason s c (failedText s c)
/-- The first reason among checks that all have to hold. -/
def explainAll (s : Submission) : List Check → Except Failure (Option String)
  | [] => .ok none
  | c :: rest => do
    match ← explain s c with
    | some reason => return some reason
    | none => explainAll s rest
/-- The reasons of all alternatives; none if one of them holds. -/
def explainAny (s : Submission) : List Check → Except Failure (Option (List String))
  | [] => .ok (some [])
  | c :: rest => do
    match ← explain s c with
    | none => return none
    | some reason => return (← explainAny s rest).map (reason :: ·)
end

end ExerciseGrading.Check
