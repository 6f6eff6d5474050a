/-
  VERDICTS: a submission judged by the rules of an exercise.

  1. All rules run, in their order, also after one fails.  A rule whose check is a snippet alone
     takes over what the snippet says; every other rule tells the learner its own message.
  2. A rule that is at fault itself counts as failed, with a message that names it.
  3. The summary is the message for success, or that of the first rule that failed.
  4. After two failed attempts a failed one shows a hint: a later one every second attempt, and in
     the end always the last.
-/
import ExerciseGrading.Check.Evaluate
import ExerciseGrading.Exercise

namespace ExerciseGrading

/-- What a rule says about a submission. -/
structure RuleOutcome where
  passed : Bool
  message? : Option String
deriving Repr, DecidableEq

namespace RuleOutcome

def pass : RuleOutcome := ⟨true, none⟩

def fail (message : String) : RuleOutcome := ⟨false, some message⟩

end RuleOutcome

namespace Rule

/-- What a snippet says, with the message of the rule if it fails and gives none. -/
def outcomeOf (r : Rule) (o : Snippet.Outcome) : RuleOutcome :=
  match o.message? with
  | some m => ⟨o.passed, some m⟩
  | none => if o.passed then .pass else .fail r.failMessage

/-- What a rule says about a submission. -/
def judge (r : Rule) (s : Submission) : Except Failure RuleOutcome :=
  match r.check with
  | .snippet source => do return r.outcomeOf (← Snippet.judge source s.text {})
  | check => do return if ← check.evaluate s then .pass else .fail r.failMessage

/-- The message for a rule that is at fault itself. -/
def faultMessage (r : Rule) : String := "internal validation error: " ++ r.label

end Rule

/-- One rule's line in a verdict. -/
structure RuleResult where
  kind : RuleKind
  passed : Bool
  message? : Option String
deriving Repr, DecidableEq

namespace RuleResult

def ofRule (r : Rule) (s : Submission) : RuleResult :=
  match r.judge s with
  | .ok o => ⟨r.kind, o.passed, o.message?⟩
  | .error _ => ⟨r.kind, false, some r.faultMessage⟩

def message (r : RuleResult) : String := r.message?.getD ""

end RuleResult

/-- What a learner is told about an attempt. -/
structure Verdict where
  passed : Bool
  results : List RuleResult
  summary : String
  /-- The number of the hint shown, from one; zero if there is none. -/
  hintsUsed : Nat
  hint? : Option String
deriving Repr, DecidableEq

/-! ## Hints -/

/-- The place of the hint to show after so many failed attempts. -/
def revealHint (hintCount : Nat) (passed : Bool) (failures : Nat) : Option Nat :=
  if passed ∨ failures < 2 ∨ hintCount = 0 then none
  else some (min (failures / 2) (hintCount - 1))

theorem revealHint_lt {hintCount failures i : Nat} {passed : Bool}
    (h : revealHint hintCount passed failures = some i) : i < hintCount := by
  simp only [revealHint] at h
  split at h
  · simp at h
  · rename_i hc
    simp only [Option.some.injEq] at h
    omega

namespace Verdict

/-- The verdict when there is no such exercise. -/
def notFound (message : String) : Verdict := ⟨false, [], message, 0, none⟩

def failed (v : Verdict) : List RuleResult := v.results.filter fun r => !r.passed

/-- What sums up the rules that failed. -/
def summaryOf (success : String) : List RuleResult → String
  | [] => success
  | [r] => r.message
  | r :: rest =>
    r.message ++ "\n\n(" ++ Number.intText rest.length ++ " more error(s))"

end Verdict

namespace Exercise

/-- The verdict on a submission after so many failed attempts. -/
def validate (e : Exercise) (s : Submission) (failures : Nat) : Verdict :=
  let results := e.rules.map fun r => RuleResult.ofRule r s
  let failed := results.filter fun r => !r.passed
  let passed := failed.isEmpty
  let summary := Verdict.summaryOf e.successMessage failed
  match revealHint e.hints.length passed failures with
  | some i => ⟨passed, results, summary, i + 1, e.hints[i]?⟩
  | none => ⟨passed, results, summary, 0, none⟩

end Exercise

namespace Verdict

def resultJson (r : RuleResult) : Json :=
  .object <| [("type", .string r.kind.name), ("passed", .bool r.passed)] ++
    match r.message? with
    | some m => [("errorMessage", .string m)]
    | none => []

/-- A verdict as a record. -/
def toJson (v : Verdict) : Json :=
  .object <|
    [("passed", .bool v.passed), ("results", .array (v.results.map resultJson)),
     ("summary", .string v.summary), ("hintsUsed", .number (.whole v.hintsUsed))] ++
    match v.hint? with
    | some h => [("nextHint", .string h)]
    | none => []

end Verdict

end ExerciseGrading
