/-
  FAULTS of authors: lint finds all of them without a submission.

  Lint and evaluation go through the same trees in different ways.  Evaluation stops where the
  result is settled, and which way it goes depends on the submission; lint knows no submission and
  goes everywhere.  So what evaluation meets is among what lint finds, never the other way round.

  1. `mem_lint_of_evaluate` — the fault that evaluation comes to is among the findings for the tree.
     The induction follows evaluation: a sequence of results has its fault in the first part or in
     what follows (`error_of_bind`), and lint has been to both.
  2. A snippet is at fault only if it is refused (`compile_of_judge`).  What goes wrong while it
     runs is a verdict.
  3. `lint_finds_every_fault` — so in an exercise without findings each rule has an outcome, and
     each condition that a typed line leads to has an answer.

  A fault names the pattern or the snippet that it is a fault of, so that it is found where it is,
  and not merely one of its kind somewhere.
-/
import ExerciseGrading.Check.Lint
import ExerciseGrading.Exercise.Terminal
import ExerciseGrading.Proofs.Check.Readers

namespace ExerciseGrading

/-! ## Results one after the other -/

/-- A result that is only passed on has had its fault before. -/
theorem error_of_map {ε α β : Type} {r : Except ε α} {g : α → β} {e : ε}
    (h : (r >>= fun a => pure (g a)) = .error e) : r = .error e := by
  cases r with
  | error e' =>
    obtain rfl : e' = e := Except.error.inj h
    rfl
  | ok a => cases h

/-- A sequence stops in its first part, or in what follows a value. -/
theorem error_of_bind {ε α β : Type} {r : Except ε α} {f : α → Except ε β} {e : ε}
    (h : (r >>= f) = .error e) : r = .error e ∨ ∃ a, f a = .error e := by
  cases r with
  | error e' =>
    obtain rfl : e' = e := Except.error.inj h
    exact .inl rfl
  | ok a => exact .inr ⟨a, h⟩

/-- What lint notes of a result is its fault, if it has one. -/
theorem mem_failureOf {α : Type} {r : Except Failure α} {f : Failure} :
    f ∈ failureOf r ↔ r = .error f := by
  cases r with
  | error f' =>
    rw [failureOf, List.mem_singleton, Except.error.injEq]
    exact eq_comm
  | ok a => exact ⟨fun h => (nomatch h), fun h => (nomatch h)⟩

namespace Check

variable {s : Submission} {f : Failure}

/-! ## Trees

  By mutual recursion on the tree and on lists of checks, as evaluation goes.  A child that
  evaluation does not come to needs no argument: lint lists its faults as well, and more
  findings do no harm. -/

/-- A snippet that is not refused has a verdict, whatever happens while it runs. -/
theorem compile_of_judge {source code : String} {limits : Snippet.Limits}
    (h : Snippet.judge source code limits = .error f) : Snippet.compile source = .error f :=
  error_of_map h

mutual
/-- **The fault that evaluation comes to is found by lint.** -/
theorem mem_lint_of_evaluate : ∀ c : Check, evaluate s c = .error f → f ∈ lint c
  | .pattern source, h | .noPattern source, h => by
    simp only [evaluate] at h
    exact mem_failureOf.mpr (error_of_map h)
  | .snippet source, h => by
    simp only [evaluate] at h
    exact mem_failureOf.mpr (compile_of_judge (error_of_map h))
  | .all checks, h => by
    simp only [evaluate] at h
    exact mem_lintAll_of_evaluateAll checks h
  | .any checks, h => by
    simp only [evaluate] at h
    exact mem_lintAll_of_evaluateAny checks h
  | .not c, h => by
    simp only [evaluate] at h
    exact mem_lint_of_evaluate c (error_of_map h)
  | .contains _, h | .lacks _, h | .isDocument, h | .hasPath _, h | .lacksPath _, h
  | .isList _, h | .equals .., h | .itemsHave .., h => by
    simp only [evaluate] at h
    cases h
/-- Checks that all have to pass: evaluation ends at the first that does not. -/
theorem mem_lintAll_of_evaluateAll : ∀ checks : List Check,
    evaluateAll s checks = .error f → f ∈ lintAll checks
  | [], h => by
    simp only [evaluateAll] at h
    cases h
  | c :: rest, h => by
    simp only [evaluateAll] at h
    rw [lintAll, List.mem_append]
    rcases error_of_bind h with hc | ⟨passed, hrest⟩
    · exact .inl (mem_lint_of_evaluate c hc)
    · -- the rest is evaluated only if the first passes
      split at hrest
      · exact .inr (mem_lintAll_of_evaluateAll rest hrest)
      · cases hrest
/-- Checks of which one has to pass: evaluation ends at the first that does. -/
theorem mem_lintAll_of_evaluateAny : ∀ checks : List Check,
    evaluateAny s checks = .error f → f ∈ lintAll checks
  | [], h => by
    simp only [evaluateAny] at h
    cases h
  | c :: rest, h => by
    simp only [evaluateAny] at h
    rw [lintAll, List.mem_append]
    rcases error_of_bind h with hc | ⟨passed, hrest⟩
    · exact .inl (mem_lint_of_evaluate c hc)
    · split at hrest
      · cases hrest
      · exact .inr (mem_lintAll_of_evaluateAny rest hrest)
end

/-- A check without findings has an answer for every submission. -/
theorem evaluate_of_lint_eq_nil {c : Check} (h : c.lint = []) (s : Submission) :
    ∃ passed, c.evaluate s = .ok passed := by
  cases hc : c.evaluate s with
  | ok passed => exact ⟨passed, rfl⟩
  | error f =>
    have hf := mem_lint_of_evaluate c hc
    rw [h] at hf
    cases hf

end Check

/-! ## Exercises

  Lint of an exercise is one list, put together from the lists of its rules and of its replies.
  If it is empty, so is each part of it, and each check has an answer for every submission. -/

/-- What is empty for a whole list, item by item with places, is empty for each item. -/
theorem eq_nil_of_mapIdx_flatten {α β : Type} {g : Nat → α → List β} {l : List α}
    (h : (l.mapIdx g).flatten = []) {a : α} (ha : a ∈ l) : ∃ i, g i a = [] := by
  obtain ⟨i, hi, rfl⟩ := List.getElem_of_mem ha
  have hmem : g i l[i] ∈ l.mapIdx g := List.mem_mapIdx.mpr ⟨i, hi, rfl⟩
  exact ⟨i, List.flatten_eq_nil_iff.mp h _ hmem⟩

namespace Exercise

variable {e : Exercise}

/-- An exercise without findings has none in the checks of its rules. -/
theorem lint_rule_eq_nil (h : e.lint = []) {r : Rule} (hr : r ∈ e.rules) : r.check.lint = [] := by
  obtain ⟨i, hi⟩ := eq_nil_of_mapIdx_flatten (List.append_eq_nil_iff.mp h).1 hr
  exact List.map_eq_nil_iff.mp hi

/-- Nor in the conditions of the replies to any pattern, whichever of them are tried. -/
theorem lint_condition_eq_nil (h : e.lint = []) {pattern : String} {reply : Reply}
    (hr : reply ∈ e.replies pattern) {c : Check} (hc : reply.condition? = some c) :
    c.lint = [] := by
  unfold replies at hr
  cases hfind : Keyed.find? pattern e.commands with
  | none =>
    rw [hfind] at hr
    cases hr
  | some found =>
    rw [hfind] at hr
    -- the pattern is one of those that lint has gone through
    have hcommand := List.flatMap_eq_nil_iff.mp (List.append_eq_nil_iff.mp h).2 _
      (Keyed.mem_of_find? hfind)
    obtain ⟨i, hi⟩ := eq_nil_of_mapIdx_flatten hcommand hr
    unfold lintReply at hi
    rw [hc] at hi
    exact List.map_eq_nil_iff.mp hi

end Exercise

/-- **Lint misses no fault of an author.**  What evaluation of a check comes to, lint of the check
    finds.  In an exercise where lint finds nothing, each rule contributes its outcome to the
    verdict on any submission, and each condition of a command that a typed line leads to has an
    answer. -/
theorem lint_finds_every_fault :
    (∀ (c : Check) (s : Submission) (f : Failure), c.evaluate s = .error f → f ∈ c.lint) ∧
    (∀ e : Exercise, e.lint = [] → ∀ s : Submission,
      (∀ (failures i : Nat) (r : Rule), e.rules[i]? = some r →
        ∃ o, r.judge s = .ok o ∧
          (e.validate s failures).results[i]? = some ⟨r.kind, o.passed, o.message?⟩) ∧
      (∀ (typed pattern : String),
        e.resolve typed = .exact pattern ∨ e.resolve typed = .extends_ pattern →
        ∀ reply ∈ e.replies pattern, ∀ c, reply.condition? = some c →
          ∃ holds, c.evaluate s = .ok holds)) := by
  refine ⟨fun c s f => Check.mem_lint_of_evaluate c, fun e hlint s => ⟨?_, ?_⟩⟩
  · intro failures i r hr
    have hmem : r ∈ e.rules := List.mem_of_getElem? hr
    obtain ⟨passed, hp⟩ := Check.evaluate_of_lint_eq_nil (Exercise.lint_rule_eq_nil hlint hmem) s
    obtain ⟨o, ho, -⟩ := (r.evaluate_eq_ok_iff s passed).mp hp
    have hresults : (e.validate s failures).results =
        e.rules.map fun r => RuleResult.ofRule r s := by
      unfold Exercise.validate
      dsimp only
      split <;> rfl
    refine ⟨o, ho, ?_⟩
    rw [hresults, List.getElem?_map, hr]
    simp only [Option.map_some, RuleResult.ofRule, ho]
  · -- the route does not matter: lint has seen the replies to all patterns
    intro typed pattern _ reply hreply c hc
    exact Check.evaluate_of_lint_eq_nil (Exercise.lint_condition_eq_nil hlint hreply hc) s

/-- The pattern behind a check that passes is found to be none; an exercise without findings has an
    outcome for its rule, and an answer of the condition that `kubectl get pods` leads to. -/
theorem lint_finds_every_fault_kubectl :
    let s := Submission.ofText "kind: Pod"
    let c : Check := .all [.contains "kind", .pattern "("]
    let r : Rule := ⟨.semantic, .not (.snippet "code.includes('Job')"), "job", "No jobs."⟩
    let reply : Reply := ⟨some (.pattern "P[a-z]d"), "NAME", 0⟩
    let e : Exercise := ⟨"pod", [r], [("kubectl get", [reply])], [], "Done."⟩
    (c.evaluate s = .error (.badPattern "(") ∧ .badPattern "(" ∈ c.lint) ∧
    (e.lint = [] ∧ e.resolve " kubectl get pods" = .extends_ "kubectl get" ∧
      (∃ o, r.judge s = .ok o ∧
        (e.validate s 3).results[0]? = some ⟨.semantic, o.passed, o.message?⟩) ∧
      ∃ holds, Check.evaluate s (.pattern "P[a-z]d") = .ok holds) := by
  intro s c r reply e
  have hfault : c.evaluate s = .error (.badPattern "(") :=
    mem_failureOf.mp (by decide +kernel)
  have hcompile : failureOf (Snippet.compile "code.includes('Job')") = [] := by
    rw [Snippet.compile_eq_parse (by decide)]
    decide +kernel
  have hrule : r.check.lint = [] := hcompile
  have hcondition : Check.lint (.pattern "P[a-z]d") = [] := by decide +kernel
  have hlint : e.lint = [] := by
    simp [e, reply, Exercise.lint, Exercise.lintRule, Exercise.lintReply, hrule, hcondition]
  have hroute : e.resolve " kubectl get pods" = .extends_ "kubectl get" := by decide +kernel
  have hexercise := lint_finds_every_fault.2 e hlint s
  refine ⟨⟨hfault, lint_finds_every_fault.1 c s _ hfault⟩, hlint, hroute, ?_, ?_⟩
  · exact hexercise.1 3 0 r rfl
  · exact hexercise.2 " kubectl get pods" "kubectl get" (.inr hroute) reply
      (List.mem_singleton.mpr rfl) _ rfl

end ExerciseGrading
