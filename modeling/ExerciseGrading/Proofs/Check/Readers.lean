/-
  READERS of a check: they agree on what passes, what fails and what is at fault.

  A check is read four times over: evaluation wants an answer, explanation a reason, a rule a
  message, and a condition only whether it holds.  Each goes through the tree by itself, and a rule
  and a condition ask a snippet on their own; so that they agree has to be proved for each pair.

  1. `Tells` — a yes or no, beside something that is there just if the answer is no.
  2. `explain_tells` — reasons are there just for what fails, and evaluation and explanation come to
     the same fault.  The induction goes through `all` and `any` child by child, as far as the
     two readers go; neither looks behind the child that decides.
  3. `judge_eq_evaluate` and `holds_iff_evaluate` — a rule and a condition say what evaluation says,
     also where they ask a snippet themselves.
  4. `readers_agree` — everything together, with the message of a rule.
-/
import ExerciseGrading.Check.Explain
import ExerciseGrading.Exercise.Verdict
import ExerciseGrading.Proofs.Snippet.Denylist

namespace ExerciseGrading

/-- A result that has a value as an option has that value. -/
theorem eq_ok_of_toOption {ε α : Type} {r : Except ε α} {a : α} (h : r.toOption = some a) :
    r = .ok a := by
  cases r with
  | error e => cases h
  | ok b => exact congrArg Except.ok (Option.some.inj h)

/-- An answer, and something that is there just if the answer is no; or one fault. -/
inductive Tells {α : Type} : Except Failure Bool → Except Failure (Option α) → Prop
  | passed : Tells (.ok true) (.ok none)
  | failed (reason : α) : Tells (.ok false) (.ok (some reason))
  | fault (f : Failure) : Tells (.error f) (.error f)

namespace Tells

variable {α : Type} {answer : Except Failure Bool} {told : Except Failure (Option α)}

/-- A yes is where there is nothing to tell. -/
theorem ok_true_iff (h : Tells answer told) : answer = .ok true ↔ told = .ok none := by
  cases h <;> simp

/-- A no is where there is something to tell. -/
theorem ok_false_iff (h : Tells answer told) :
    answer = .ok false ↔ ∃ reason, told = .ok (some reason) := by
  cases h <;> simp

/-- A fault is the same on both sides. -/
theorem error_iff (h : Tells answer told) (f : Failure) : answer = .error f ↔ told = .error f := by
  cases h <;> simp

/-- A reason that depends on nothing but the answer. -/
theorem of_answer (answer : Except Failure Bool) (reason : α) :
    Tells answer (do return if ← answer then none else some reason) := by
  rcases answer with f | _ | _
  · exact .fault f
  · exact .failed reason
  · exact .passed

end Tells

namespace Check

variable (s : Submission)

/-! ## Reasons

  Both readers go through a list of children until one decides.  The induction on the list has
  three cases for the child, as `Tells` has three constructors, and in each of them both readers
  go on or both stop. -/

/-- The reason of a leaf is fixed: only whether it is given depends on the submission. -/
theorem leafReason_tells (c : Check) (reason : String) :
    Tells (evaluate s c) (leafReason s c reason) :=
  .of_answer (evaluate s c) reason

/-- A snippet that fails is its own reason. -/
theorem explain_snippet_tells (source : String) :
    Tells (evaluate s (.snippet source)) (explain s (.snippet source)) := by
  simp only [evaluate, explain]
  rcases Snippet.judge source s.text {} with f | outcome
  · exact .fault f
  · show Tells (.ok outcome.passed) (if outcome.passed then _ else _)
    cases outcome.passed with
    | true => exact .passed
    | false => exact .failed _

/-- The reason for `not` is that the check inside passed. -/
theorem explain_not_tells (c : Check) : Tells (evaluate s (.not c)) (explain s (.not c)) := by
  simp only [evaluate, explain]
  rcases evaluate s c with f | _ | _
  · exact .fault f
  · exact .passed
  · exact .failed _

mutual
/-- **What evaluation says and what explanation says are one answer.** -/
theorem explain_tells : ∀ c : Check, Tells (evaluate s c) (explain s c)
  | .all checks => by
    simp only [evaluate, explain]
    exact explainAll_tells checks
  | .any checks => by
    simp only [evaluate, explain]
    have h := explainAny_tells checks
    -- what the two readers say of the children is all that counts now
    generalize evaluateAny s checks = answer at h ⊢
    generalize explainAny s checks = told at h ⊢
    cases h with
    | passed => exact .passed
    | failed reasons => exact .failed (noneText reasons)
    | fault f => exact .fault f
  | .not c => explain_not_tells s c
  | .snippet source => explain_snippet_tells s source
  | .isDocument => by
    simp only [explain]
    exact leafReason_tells s _ _
  | .contains _ | .lacks _ | .pattern _ | .noPattern _ | .hasPath _ | .lacksPath _ | .isList _
  | .equals .. | .itemsHave .. => by
    simp only [explain]
    exact leafReason_tells s _ _
/-- Checks that all have to pass: the reason is that of the first that fails. -/
theorem explainAll_tells : ∀ checks : List Check,
    Tells (evaluateAll s checks) (explainAll s checks)
  | [] => by
    simp only [evaluateAll, explainAll]
    exact .passed
  | c :: rest => by
    simp only [evaluateAll, explainAll]
    have h := explain_tells c
    generalize evaluate s c = answer at h ⊢
    generalize explain s c = told at h ⊢
    cases h with
    | passed => exact explainAll_tells rest
    | failed reason => exact .failed reason
    | fault f => exact .fault f
/-- Checks of which one has to pass: the reasons of all of them, if none does. -/
theorem explainAny_tells : ∀ checks : List Check,
    Tells (evaluateAny s checks) (explainAny s checks)
  | [] => by
    simp only [evaluateAny, explainAny]
    exact .failed []
  | c :: rest => by
    simp only [evaluateAny, explainAny]
    have h := explain_tells c
    generalize evaluate s c = answer at h ⊢
    generalize explain s c = told at h ⊢
    cases h with
    | passed => exact .passed
    | fault f => exact .fault f
    | failed reason =>
      -- the reason stands in front of those of the alternatives that follow
      show Tells (evaluateAny s rest)
        (explainAny s rest >>= fun reasons => pure (reasons.map (reason :: ·)))
      have hrest := explainAny_tells rest
      generalize evaluateAny s rest = answer at hrest ⊢
      generalize explainAny s rest = told at hrest ⊢
      cases hrest with
      | passed => exact .passed
      | failed reasons => exact .failed (reason :: reasons)
      | fault f => exact .fault f
end

/-! ## Conditions

  A condition has no room for a fault: it holds, or it does not.  So it forgets which of the
  other two results there was, and keeps only the yes. -/

/-- Evaluation keeps only the yes or no of a verdict. -/
theorem evaluate_snippet (source : String) :
    evaluate s (.snippet source) = (Snippet.judge source s.text {}).map (·.passed) := by
  rw [evaluate]
  rfl

/-- A condition asks a snippet itself. -/
theorem holds_snippet (source : String) :
    holds s (.snippet source) =
      match (Snippet.judge source s.text {}).map (·.passed) with
      | .ok b => b
      | .error _ => false :=
  rfl

/-- A condition holds if evaluation says so. -/
theorem holds_iff_evaluate (c : Check) : holds s c = true ↔ evaluate s c = .ok true := by
  cases c with
  | snippet source =>
    rw [holds_snippet, evaluate_snippet]
    rcases Snippet.judge source s.text {} with f | outcome
    · refine iff_of_false Bool.false_ne_true fun h => ?_
      cases h
    · exact ⟨congrArg Except.ok, Except.ok.inj⟩
  | _ =>
    unfold holds
    dsimp only
    split <;> simp [*]

/-- The message that a check gives itself: that of a snippet alone. -/
def ownMessage? : Check → Option String
  | .snippet source =>
    match Snippet.judge source s.text {} with
    | .ok outcome => outcome.message?
    | .error _ => none
  | _ => none

end Check

/-! ## Rules

  A rule treats a check that is a snippet alone in another way than evaluation does, since it
  wants the message.  That its answer is the same all the same is one case; every other check is
  evaluated. -/

namespace Rule

/-- The message of a rule for a submission that passes its check or fails it. -/
def messageFor (r : Rule) (s : Submission) (passed : Bool) : Option String :=
  match r.check.ownMessage? s with
  | some m => some m
  | none => if passed then none else some r.failMessage

/-- A rule asks a snippet itself. -/
theorem judge_snippet (r : Rule) {source : String} (h : r.check = .snippet source)
    (s : Submission) : r.judge s = (Snippet.judge source s.text {}).map r.outcomeOf := by
  rw [judge, h]
  rfl

/-- **A rule says what evaluation says**, with its message. -/
theorem judge_eq_evaluate (r : Rule) (s : Submission) :
    r.judge s = (r.check.evaluate s).map fun passed => ⟨passed, r.messageFor s passed⟩ := by
  obtain ⟨kind, check, label, failMessage⟩ := r
  cases check with
  | snippet source =>
    rw [judge_snippet _ rfl, Check.evaluate_snippet]
    simp only [messageFor, Check.ownMessage?]
    rcases Snippet.judge source s.text {} with f | outcome
    · rfl
    · -- without a message of the snippet the rule's own is needed, and only for a failure
      rcases outcome with (_ | _) | ⟨_ | _, _ | m⟩ <;> rfl
  | _ =>
    -- all other checks go the way of evaluation
    simp only [judge, messageFor, Check.ownMessage?]
    rcases Check.evaluate s _ with f | _ | _ <;> rfl

/-- A rule has an outcome just where evaluation has an answer, and it is that answer. -/
theorem evaluate_eq_ok_iff (r : Rule) (s : Submission) (passed : Bool) :
    r.check.evaluate s = .ok passed ↔ ∃ o, r.judge s = .ok o ∧ o.passed = passed := by
  rw [r.judge_eq_evaluate s]
  rcases r.check.evaluate s with f | answer <;> simp [Except.map]

/-- A rule is at fault just where its check is. -/
theorem evaluate_eq_error_iff (r : Rule) (s : Submission) (f : Failure) :
    r.check.evaluate s = .error f ↔ r.judge s = .error f := by
  rw [r.judge_eq_evaluate s]
  rcases r.check.evaluate s with f' | answer <;> simp [Except.map]

/-- The message of an outcome is that of the rule for this answer. -/
theorem message?_of_judge {r : Rule} {s : Submission} {o : RuleOutcome} (h : r.judge s = .ok o) :
    o.message? = r.messageFor s o.passed := by
  rw [r.judge_eq_evaluate s] at h
  rcases hp : r.check.evaluate s with f | answer
  · rw [hp] at h
    cases h
  · rw [hp] at h
    cases h
    rfl

/-- A failure always has a message: that of the snippet, or the one of the rule. -/
theorem messageFor_false (r : Rule) (s : Submission) :
    r.messageFor s false = some ((r.check.ownMessage? s).getD r.failMessage) := by
  unfold messageFor
  cases r.check.ownMessage? s <;> rfl

/-- A pass has no message, unless a snippet alone gives one. -/
theorem messageFor_true (r : Rule) (s : Submission) (h : r.check.isSnippet = false) :
    r.messageFor s true = none := by
  have hown : r.check.ownMessage? s = none := by
    cases hc : r.check with
    | snippet source => rw [hc] at h; cases h
    | _ => rfl
  unfold messageFor
  rw [hown]
  rfl

end Rule

/-! ## All readers -/

/-- **All readers of a check agree**: evaluation, explanation, a rule with that check and a
    condition find the same submissions to pass, the same to fail, and the same fault.  A rule that
    fails gives its message, unless a snippet alone gave one; one that passes gives none, unless it
    is a snippet alone. -/
theorem readers_agree (r : Rule) (s : Submission) :
    ((r.check.evaluate s = .ok true ↔ r.check.explain s = .ok none) ∧
      (r.check.evaluate s = .ok true ↔ ∃ o, r.judge s = .ok o ∧ o.passed = true) ∧
      (r.check.evaluate s = .ok true ↔ r.check.holds s = true)) ∧
    ((r.check.evaluate s = .ok false ↔ ∃ reason, r.check.explain s = .ok (some reason)) ∧
      (r.check.evaluate s = .ok false ↔ ∃ o, r.judge s = .ok o ∧ o.passed = false)) ∧
    (∀ f, (r.check.evaluate s = .error f ↔ r.check.explain s = .error f) ∧
      (r.check.evaluate s = .error f ↔ r.judge s = .error f)) ∧
    (∀ o, r.judge s = .ok o →
      (o.passed = false → o.message? = some ((r.check.ownMessage? s).getD r.failMessage)) ∧
      (o.passed = true → r.check.isSnippet = false → o.message? = none)) := by
  have htells := r.check.explain_tells s
  refine ⟨⟨htells.ok_true_iff, r.evaluate_eq_ok_iff s true, (r.check.holds_iff_evaluate s).symm⟩,
    ⟨htells.ok_false_iff, r.evaluate_eq_ok_iff s false⟩,
    fun f => ⟨htells.error_iff f, r.evaluate_eq_error_iff s f⟩, fun o ho => ?_⟩
  -- the answer of an outcome fixes its message
  rw [Rule.message?_of_judge ho]
  constructor
  · intro hp
    rw [hp]
    exact r.messageFor_false s
  · intro hp hsnippet
    rw [hp]
    exact r.messageFor_true s hsnippet

/-- A snippet that says itself what is wrong. -/
theorem judge_tooFew :
    Snippet.judge "(\x7b passed: false, errorMessage: 'too few' \x7d)" "kind: Pod" {} =
      .ok (.verdict false (some "too few")) := by
  rw [Snippet.judge_eq_parse (by decide)]
  exact eq_ok_of_toOption (by decide +kernel)

/-- A snippet alone that fails keeps its own message, and a tree of checks that passes gives
    none. -/
theorem readers_agree_messages :
    let s := Submission.ofText "kind: Pod"
    let alone : Rule := ⟨.semantic, .snippet "(\x7b passed: false, errorMessage: 'too few' \x7d)",
      "replicas", "Add replicas."⟩
    let tree : Rule := ⟨.syntactic, .all [.contains "kind", .pattern "P[a-z]d"],
      "pod", "Use a pod."⟩
    (alone.judge s = .ok ⟨false, some "too few"⟩ ∧ alone.check.evaluate s = .ok false ∧
      some "too few" = some ((alone.check.ownMessage? s).getD "Add replicas.")) ∧
    (tree.judge s = .ok ⟨true, none⟩ ∧ tree.check.isSnippet = false ∧
      tree.check.explain s = .ok none ∧ tree.check.holds s = true) := by
  intro s alone tree
  have halone : alone.judge s = .ok ⟨false, some "too few"⟩ := by
    have hjudge := alone.judge_snippet rfl s
    rwa [show s.text = "kind: Pod" from rfl, judge_tooFew] at hjudge
  have htree : tree.judge s = .ok ⟨true, none⟩ := eq_ok_of_toOption (by decide +kernel)
  have hpassed : tree.check.evaluate s = .ok true :=
    (readers_agree tree s).1.2.1.mpr ⟨_, htree, rfl⟩
  refine ⟨⟨halone, (readers_agree alone s).2.1.2.mpr ⟨_, halone, rfl⟩, ?_⟩,
    ⟨htree, rfl, (readers_agree tree s).1.1.mp hpassed, (readers_agree tree s).1.2.2.mp hpassed⟩⟩
  exact ((readers_agree alone s).2.2.2 _ halone).1 rfl

end ExerciseGrading
