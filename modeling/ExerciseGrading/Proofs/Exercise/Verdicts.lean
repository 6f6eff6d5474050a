/-
  VERDICTS are well formed: what a learner is told fits together, whatever the exercise is.

  A verdict is put together from results, a summary and a hint.  The exercise may be as badly
  written as it likes: a rule at fault counts as failed, and names itself instead of the message
  that its check could not give.  So each part can be told from the rules and the number of
  failures.

  1. `Yields` — what a rule yields by itself: an outcome, or a failure that names it if the rule is
     at fault.  Nothing but the rule and the submission goes in.
  2. `Yields.message` — whatever a rule yields, a failure says something, so that the first failure
     can be the summary.
  3. `revealHint_eq_some_iff` — when there is a hint to show, and which.  Halving the failures and
     cutting at the last hint are both monotone, so that hints never go back.
  4. `Verdict.WellFormed` puts together what a verdict promises, and `validate_wellFormed` says that
     every verdict keeps it, and that more failed attempts never take a hint back.
-/
import ExerciseGrading.Proofs.Check.Readers
import Mathlib.Data.List.Forall2

namespace ExerciseGrading

/-! ## What a rule yields -/

/-- What a rule yields by itself. -/
inductive Yields (s : Submission) (r : Rule) : RuleResult → Prop where
  | outcome {o : RuleOutcome} : r.judge s = .ok o → Yields s r ⟨r.kind, o.passed, o.message?⟩
  | fault {f : Failure} : r.judge s = .error f →
    Yields s r ⟨r.kind, false, some ("internal validation error: " ++ r.label)⟩

/-- The result of a rule is what it yields. -/
theorem ofRule_yields (s : Submission) (r : Rule) : Yields s r (RuleResult.ofRule r s) := by
  unfold RuleResult.ofRule
  cases h : r.judge s with
  | ok o => exact .outcome h
  | error f => exact .fault h

/-- The results of rules are what they yield, one by one. -/
theorem yields_results (s : Submission) (rules : List Rule) :
    List.Forall₂ (Yields s) rules (rules.map fun r => RuleResult.ofRule r s) := by
  induction rules with
  | nil => exact .nil
  | cons r rules ih => exact .cons (ofRule_yields s r) ih

/-- A failure says something: the message of a snippet, that of the rule, or what is at fault. -/
theorem Yields.message {s : Submission} {r : Rule} {result : RuleResult} (h : Yields s r result)
    (hfailed : result.passed = false) : ∃ m, result.message? = some m := by
  cases h with
  | @outcome o ho =>
    have hmessage : o.message? = r.messageFor s o.passed := Rule.message?_of_judge ho
    have hpassed : o.passed = false := hfailed
    rw [hpassed, r.messageFor_false s] at hmessage
    exact ⟨_, hmessage⟩
  | fault _ => exact ⟨_, rfl⟩

/-! ## Summaries -/

/-- What is said of the failures behind the first one. -/
def moreErrors (count : Nat) : String :=
  if 1 ≤ count then "\n\n(" ++ Number.intText count ++ " more error(s))" else ""

/-- A summary of failures is what the first one says, and how many more there are. -/
theorem summaryOf_cons (success : String) (first : RuleResult) (rest : List RuleResult) :
    Verdict.summaryOf success (first :: rest) = first.message ++ moreErrors rest.length := by
  cases rest with
  | nil =>
    have hnone : moreErrors ([] : List RuleResult).length = "" := rfl
    rw [hnone, String.append_empty]
    rfl
  | cons second rest =>
    have hsome : moreErrors (second :: rest).length =
        "\n\n(" ++ Number.intText (second :: rest).length ++ " more error(s))" :=
      if_pos (Nat.succ_le_succ (Nat.zero_le _))
    show first.message ++ "\n\n(" ++ Number.intText (second :: rest).length ++ " more error(s))" = _
    rw [hsome, String.append_assoc, String.append_assoc, String.append_assoc]

/-! ## Hints -/

/-- A hint is shown from the second failure on, if the attempt failed and there are any hints. Every
    two failures lead one hint further, up to the last. -/
theorem revealHint_eq_some_iff {hintCount failures i : Nat} {passed : Bool} :
    revealHint hintCount passed failures = some i ↔
      (passed = false ∧ 2 ≤ failures ∧ hintCount ≠ 0) ∧
        i = min (failures / 2) (hintCount - 1) := by
  unfold revealHint
  cases passed with
  | true => simp
  | false =>
    by_cases hsome : 2 ≤ failures ∧ hintCount ≠ 0
    · have hcond : ¬(false = true ∨ failures < 2 ∨ hintCount = 0) := by
        simp only [Bool.false_eq_true, false_or]
        omega
      rw [if_neg hcond]
      simp only [Option.some.injEq, true_and, hsome, and_self, ne_eq, not_false_eq_true]
      exact eq_comm
    · have hcond : false = true ∨ failures < 2 ∨ hintCount = 0 := by omega
      rw [if_pos hcond]
      refine iff_of_false (fun h => by cases h) fun h => hsome h.1.2

/-- More failures never lead back to an earlier hint. -/
theorem hintPlace_mono {failures more : Nat} (h : failures ≤ more) (hintCount : Nat) :
    min (failures / 2) (hintCount - 1) ≤ min (more / 2) (hintCount - 1) := by
  have hhalf : failures / 2 ≤ more / 2 := Nat.div_le_div_right h
  omega

/-! ## Verdicts -/

section Validate

variable (e : Exercise) (s : Submission) (failures : Nat)

/-- The results of a verdict are those of the rules, hint or no hint. -/
theorem validate_results :
    (e.validate s failures).results = e.rules.map fun r => RuleResult.ofRule r s := by
  unfold Exercise.validate
  dsimp only
  split <;> rfl

/-- The attempt passes if no rule failed. -/
theorem validate_passed :
    (e.validate s failures).passed = (e.validate s failures).failed.isEmpty := by
  unfold Exercise.validate
  dsimp only
  split <;> rfl

/-- The summary is made of the failures alone. -/
theorem validate_summary :
    (e.validate s failures).summary =
      Verdict.summaryOf e.successMessage (e.validate s failures).failed := by
  unfold Exercise.validate
  dsimp only
  split <;> rfl

/-- The hint that is shown and its number come from one place. -/
theorem validate_hint :
    (∃ i, revealHint e.hints.length (e.validate s failures).passed failures = some i ∧
      (e.validate s failures).hintsUsed = i + 1 ∧
      (e.validate s failures).hint? = e.hints[i]?) ∨
    (revealHint e.hints.length (e.validate s failures).passed failures = none ∧
      (e.validate s failures).hintsUsed = 0 ∧ (e.validate s failures).hint? = none) := by
  unfold Exercise.validate
  dsimp only
  split
  · rename_i i hi
    exact .inl ⟨i, hi, rfl, rfl⟩
  · rename_i hi
    exact .inr ⟨hi, rfl, rfl⟩

/-- How often an attempt has failed makes no difference to whether it passes. -/
theorem validate_passed_eq (more : Nat) :
    (e.validate s failures).passed = (e.validate s more).passed := by
  rw [validate_passed, validate_passed, Verdict.failed, Verdict.failed, validate_results,
    validate_results]

end Validate

/-- What a verdict on a submission promises, after so many failed attempts. -/
structure Verdict.WellFormed (e : Exercise) (s : Submission) (failures : Nat) (v : Verdict) :
    Prop where
  /-- One result for each rule, in their order, and each is what the rule yields by itself. -/
  results : List.Forall₂ (Yields s) e.rules v.results
  passed : v.passed = true ↔ ∀ r ∈ v.results, r.passed = true
  /-- Who fails is told why. -/
  messages : ∀ r ∈ v.results, r.passed = false → ∃ m, r.message? = some m
  summary_success : v.failed = [] → v.summary = e.successMessage
  summary_failure : ∀ first rest, v.failed = first :: rest →
    ∃ m, first.message? = some m ∧ v.summary = m ++ moreErrors (v.failed.length - 1)
  hint_iff : v.hint?.isSome = true ↔ v.passed = false ∧ 2 ≤ failures ∧ e.hints ≠ []
  hint : ∀ h, v.hint? = some h →
    1 ≤ v.hintsUsed ∧ v.hintsUsed ≤ e.hints.length ∧ e.hints[v.hintsUsed - 1]? = some h ∧
      v.hintsUsed = min (failures / 2) (e.hints.length - 1) + 1
  no_hint : v.hint? = none → v.hintsUsed = 0

section WellFormed

variable (e : Exercise) (s : Submission) (failures : Nat)

/-- Whoever fails is told why. -/
theorem validate_message {r : RuleResult} (hr : r ∈ (e.validate s failures).results)
    (hfailed : r.passed = false) : ∃ m, r.message? = some m := by
  rw [validate_results] at hr
  obtain ⟨rule, -, rfl⟩ := List.mem_map.mp hr
  exact (ofRule_yields s rule).message hfailed

/-- An attempt passes if every rule does; without rules it passes. -/
theorem validate_passed_iff :
    (e.validate s failures).passed = true ↔
      ∀ r ∈ (e.validate s failures).results, r.passed = true := by
  rw [validate_passed, Verdict.failed, List.isEmpty_iff, List.filter_eq_nil_iff]
  simp only [Bool.not_eq_true, Bool.not_eq_false']

/-- The summary begins with what the first failure says; there is no such failure without a
    message. -/
theorem validate_summary_failure {first : RuleResult} {rest : List RuleResult}
    (h : (e.validate s failures).failed = first :: rest) :
    ∃ m, first.message? = some m ∧
      (e.validate s failures).summary =
        m ++ moreErrors ((e.validate s failures).failed.length - 1) := by
  have hfirst : first ∈ (e.validate s failures).failed := by
    rw [h]
    exact List.mem_cons_self
  -- the first failure is one of the results, so it has a message
  obtain ⟨hmem, hfailed⟩ := List.mem_filter.mp hfirst
  obtain ⟨m, hm⟩ := validate_message e s failures hmem (by simpa using hfailed)
  have hmessage : first.message = m := by rw [RuleResult.message, hm, Option.getD_some]
  refine ⟨m, hm, ?_⟩
  rw [validate_summary, h, summaryOf_cons, hmessage, List.length_cons, Nat.add_sub_cancel]

/-- A hint that is to be shown is there. -/
theorem validate_hint_shown {i : Nat}
    (hi : revealHint e.hints.length (e.validate s failures).passed failures = some i) :
    ∃ h, e.hints[i]? = some h :=
  ⟨_, List.getElem?_eq_getElem (revealHint_lt hi)⟩

/-- There is a hint just where one is to be shown: its number is never beyond the list. -/
theorem validate_hint_iff :
    (e.validate s failures).hint?.isSome = true ↔
      (e.validate s failures).passed = false ∧ 2 ≤ failures ∧ e.hints ≠ [] := by
  rw [ne_eq, ← List.length_eq_zero_iff]
  rcases validate_hint e s failures with ⟨i, hi, -, hhint⟩ | ⟨hi, -, hhint⟩
  · obtain ⟨h, hh⟩ := validate_hint_shown e s failures hi
    rw [hhint, hh]
    exact iff_of_true rfl (revealHint_eq_some_iff.mp hi).1
  · rw [hhint]
    refine iff_of_false Bool.false_ne_true fun hcond => ?_
    have hsome := revealHint_eq_some_iff.mpr ⟨hcond, rfl⟩
    rw [hi] at hsome
    cases hsome

/-- More failures never show fewer hints. -/
theorem validate_hintsUsed_mono {more : Nat} (h : failures ≤ more) :
    (e.validate s failures).hintsUsed ≤ (e.validate s more).hintsUsed := by
  rcases validate_hint e s failures with ⟨i, hi, hused, -⟩ | ⟨-, hused, -⟩
  · obtain ⟨⟨hpassed, htwo, hhints⟩, rfl⟩ := revealHint_eq_some_iff.mp hi
    have hmore : revealHint e.hints.length (e.validate s more).passed more =
        some (min (more / 2) (e.hints.length - 1)) := by
      refine revealHint_eq_some_iff.mpr ⟨⟨?_, Nat.le_trans htwo h, hhints⟩, rfl⟩
      -- the number of failures does not change whether it passes
      rw [← validate_passed_eq e s failures more]
      exact hpassed
    rcases validate_hint e s more with ⟨j, hj, hused', -⟩ | ⟨hj, -, -⟩
    · rw [hmore] at hj
      obtain rfl := Option.some.inj hj
      rw [hused, hused']
      exact Nat.succ_le_succ (hintPlace_mono h e.hints.length)
    · rw [hmore] at hj
      cases hj
  · rw [hused]
    exact Nat.zero_le _

/-- **Every verdict is well formed**, for every exercise and submission and after any number of
    failed attempts; and as these grow, a later hint is shown, never an earlier one. -/
theorem validate_wellFormed :
    (e.validate s failures).WellFormed e s failures ∧
    ∀ more, failures ≤ more →
      (e.validate s failures).hintsUsed ≤ (e.validate s more).hintsUsed := by
  refine ⟨?_, fun more h => validate_hintsUsed_mono e s failures h⟩
  constructor
  case results =>
    rw [validate_results]
    exact yields_results s e.rules
  case passed => exact validate_passed_iff e s failures
  case messages => exact fun r hr hfailed => validate_message e s failures hr hfailed
  case summary_success =>
    intro hnone
    rw [validate_summary, hnone, Verdict.summaryOf]
  case summary_failure => exact fun first rest h => validate_summary_failure e s failures h
  case hint_iff => exact validate_hint_iff e s failures
  case hint =>
    intro h hh
    rcases validate_hint e s failures with ⟨i, hi, hused, hhint⟩ | ⟨-, -, hhint⟩
    · have hlt := revealHint_lt hi
      have hplace := (revealHint_eq_some_iff.mp hi).2
      rw [hused, Nat.add_sub_cancel]
      exact ⟨by omega, by omega, hhint.symm.trans hh, by rw [hplace]⟩
    · rw [hhint] at hh
      cases hh
  case no_hint =>
    intro hnone
    rcases validate_hint e s failures with ⟨i, hi, -, hhint⟩ | ⟨-, hused, -⟩
    · obtain ⟨h, hh⟩ := validate_hint_shown e s failures hi
      rw [hhint, hh] at hnone
      cases hnone
    · exact hused

end WellFormed

/-- A rule with a broken pattern between one that passes and one that fails, after two failed
    attempts and after five. -/
theorem validate_wellFormed_broken :
    let e : Exercise := ⟨"pods", [⟨.syntactic, .contains "kind", "kind", "Say what it is."⟩,
      ⟨.semantic, .pattern "(", "pattern", "Use a pod."⟩,
      ⟨.intention, .contains "spec", "spec", "Add a spec."⟩], [], ["first", "second"], "Done."⟩
    let s := Submission.ofText "kind: Pod"
    let v := e.validate s 2
    v.results = [⟨.syntactic, true, none⟩,
        ⟨.semantic, false, some "internal validation error: pattern"⟩,
        ⟨.intention, false, some "Add a spec."⟩] ∧
      v.summary = "internal validation error: pattern\n\n(1 more error(s))" ∧
      v.hint? = some "second" ∧ v.WellFormed e s 2 ∧ 2 ≤ 5 ∧
      v.hintsUsed ≤ (e.validate s 5).hintsUsed := by
  intro e s v
  have hv : v = ⟨false, [⟨.syntactic, true, none⟩,
      ⟨.semantic, false, some "internal validation error: pattern"⟩,
      ⟨.intention, false, some "Add a spec."⟩],
      "internal validation error: pattern\n\n(1 more error(s))", 2, some "second"⟩ := by
    decide +kernel
  have hle : 2 ≤ 5 := by decide
  obtain ⟨hformed, hmono⟩ := validate_wellFormed e s 2
  exact ⟨by rw [hv], by rw [hv], by rw [hv], hformed, hle, hmono 5 hle⟩

end ExerciseGrading
