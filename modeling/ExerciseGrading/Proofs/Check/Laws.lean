/-
  LAWS of checks: trees of different shapes that come to the same result, faults included.

  A check has three results, and the third makes the order count: an answer that decides hides a
  fault that comes later, but not one that came before.  So `all` and `any` are not the conjunction
  and the disjunction of their children, and the laws of logic have to be proved for what they are.

  1. **The crux (`inTurn`)** — results looked at one after the other, up to the first that is not
     the expected answer.  `all` expects yes and `any` expects no (`evaluate_all`, `evaluate_any`),
     so that every law of trees is a law of results in turn, proved once for both.
  2. `inTurn_map_not`, `inTurn_nested`, `inTurn_one` — negation goes to each result and turns what
     is expected round; results in turn among others are looked at where they stand; one result is
     itself.  None of these asks what a fault is.
  3. `inTurn_perm` — the order does not count where nothing is at fault.  Where something is, it
     does: the first of a fault and an answer that decides is the result.
  4. `Rearranged` — the same tree with children of `all` and `any` in another order, at any depth.
  5. `boolean_laws` — everything together, for checks.
-/
import ExerciseGrading.Proofs.Check.Readers
import Mathlib.Data.List.Forall2
import Mathlib.Data.List.Perm.Basic

namespace ExerciseGrading

/-! ## Results in turn

  A result is yes, no or a fault.  Looking at them in turn stops at the first that is not what
  was expected, and that one is the result. -/

/-- Whether a result is anything but the expected answer; a fault always is. -/
def isAgainst (expected : Bool) : Except Failure Bool → Bool
  | .ok answer => answer != expected
  | .error _ => true

/-- What comes of results looked at one after the other: the first that is against the expected
    answer, or that answer if there is none. -/
def inTurn (expected : Bool) (results : List (Except Failure Bool)) : Except Failure Bool :=
  (results.find? (isAgainst expected)).getD (.ok expected)

variable {expected : Bool}

/-- What is not against the expected answer is that answer. -/
theorem eq_ok_of_not_isAgainst {r : Except Failure Bool} (h : isAgainst expected r = false) :
    r = .ok expected := by
  cases r with
  | error f => cases h
  | ok answer => rw [show answer = expected by simpa [isAgainst] using h]

/-- The first result is the outcome if it is against what is expected; otherwise the rest decides.
    -/
theorem inTurn_cons (r : Except Failure Bool) (results : List (Except Failure Bool)) :
    inTurn expected (r :: results) =
      if isAgainst expected r then r else inTurn expected results := by
  rw [inTurn, inTurn, List.find?_cons]
  cases isAgainst expected r <;> rfl

/-- One result in turn is itself, whichever answer is expected. -/
theorem inTurn_one (r : Except Failure Bool) : inTurn expected [r] = r := by
  rw [inTurn_cons]
  cases h : isAgainst expected r with
  | true => rfl
  | false => exact (eq_ok_of_not_isAgainst h).symm

/-- What is found in results that are looked at in turn is what is found in their outcome. -/
theorem find?_inTurn (results : List (Except Failure Bool)) :
    [inTurn expected results].find? (isAgainst expected) = results.find? (isAgainst expected) := by
  rw [inTurn]
  cases h : results.find? (isAgainst expected) with
  | none => simp [isAgainst]
  | some r =>
    have hr : isAgainst expected r = true := List.find?_some h
    simp [hr]

/-- Results in turn among others are looked at where they stand. -/
theorem inTurn_nested (before inner after : List (Except Failure Bool)) :
    inTurn expected (before ++ inTurn expected inner :: after) =
      inTurn expected (before ++ inner ++ after) := by
  have hfind : (before ++ inTurn expected inner :: after).find? (isAgainst expected) =
      (before ++ inner ++ after).find? (isAgainst expected) := by
    -- what is found in three parts is found in the first of them that has something
    rw [List.append_cons, List.find?_append, List.find?_append, find?_inTurn, List.find?_append,
      List.find?_append]
  exact congrArg (·.getD (.ok expected)) hfind

/-- Negation goes to each of the results, and turns what is expected round. -/
theorem inTurn_map_not (results : List (Except Failure Bool)) :
    inTurn (!expected) (results.map fun r => r.map (!·)) = (inTurn expected results).map (!·) := by
  induction results with
  | nil => rfl
  | cons r results ih =>
    -- a fault is against either answer
    have hagainst : isAgainst (!expected) (r.map (!·)) = isAgainst expected r := by
      cases r with
      | error f => rfl
      | ok answer => cases answer <;> cases expected <;> rfl
    rw [List.map_cons, inTurn_cons, inTurn_cons, hagainst, ih]
    cases isAgainst expected r <;> rfl

/-- Answers in turn: what is expected, unless one of them is not. -/
theorem inTurn_of_answers {results : List (Except Failure Bool)}
    (h : ∀ r ∈ results, ∃ answer, r = .ok answer) :
    inTurn expected results =
      .ok (if results.any (isAgainst expected) then !expected else expected) := by
  induction results with
  | nil => rfl
  | cons r results ih =>
    obtain ⟨⟨answer, rfl⟩, hrest⟩ := List.forall_mem_cons.mp h
    rw [inTurn_cons, ih hrest, List.any_cons]
    cases answer <;> cases expected <;> simp [isAgainst]

/-- **Where nothing is at fault, the order does not count.** -/
theorem inTurn_perm {results others : List (Except Failure Bool)} (hperm : results.Perm others)
    (h : ∀ r ∈ results, ∃ answer, r = .ok answer) :
    inTurn expected results = inTurn expected others := by
  have hothers : ∀ r ∈ others, ∃ answer, r = .ok answer := fun r hr => h r (hperm.mem_iff.mpr hr)
  -- whether some answer decides does not depend on where it stands
  have hany : results.any (isAgainst expected) = others.any (isAgainst expected) := by
    rw [Bool.eq_iff_iff, List.any_eq_true, List.any_eq_true]
    simp only [hperm.mem_iff]
  rw [inTurn_of_answers h, inTurn_of_answers hothers, hany]

namespace Check

variable {s : Submission}

/-! ## Checks in turn

  The three constructors with children, in terms of results in turn.  After this nothing is said
  of checks but through their results. -/

/-- `all` looks at its children in turn and expects yes. -/
theorem evaluate_all (checks : List Check) :
    evaluate s (.all checks) = inTurn true (checks.map (evaluate s)) := by
  rw [evaluate]
  induction checks with
  | nil => rw [evaluateAll]; rfl
  | cons c checks ih =>
    rw [evaluateAll, List.map_cons, inTurn_cons, ← ih]
    rcases evaluate s c with f | _ | _ <;> rfl

/-- `any` looks at its children in turn and expects no. -/
theorem evaluate_any (checks : List Check) :
    evaluate s (.any checks) = inTurn false (checks.map (evaluate s)) := by
  rw [evaluate]
  induction checks with
  | nil => rw [evaluateAny]; rfl
  | cons c checks ih =>
    rw [evaluateAny, List.map_cons, inTurn_cons, ← ih]
    rcases evaluate s c with f | _ | _ <;> rfl

/-- `not` turns an answer round and leaves a fault. -/
theorem evaluate_not (c : Check) : evaluate s (.not c) = (evaluate s c).map (!·) := by
  rw [evaluate]
  rcases evaluate s c with f | answer <;> rfl

/-- Negating each of the checks negates each of the results. -/
theorem map_evaluate_not (checks : List Check) :
    (checks.map .not).map (evaluate s) = (checks.map (evaluate s)).map fun r => r.map (!·) := by
  rw [List.map_map, List.map_map]
  exact List.map_congr_left fun c _ => evaluate_not c

/-- A pattern that must not match is a pattern, negated; it is at fault just if the pattern is. -/
theorem evaluate_noPattern (source : String) :
    evaluate s (.noPattern source) = evaluate s (.not (.pattern source)) := by
  rw [evaluate_not, evaluate, evaluate]
  rcases compilePattern source with f | p <;> rfl

/-- A text that must not be there is a text, negated. -/
theorem evaluate_lacks (text : String) :
    evaluate s (.lacks text) = evaluate s (.not (.contains text)) := by
  rw [evaluate_not, evaluate, evaluate]
  rfl

/-! ## Another order

  A fault is where the order counts, and faults come from leaves.  If no leaf is at fault, then
  no child of any node is, and the results of children may be put in another order at every
  node. -/

mutual
/-- The checks in a tree that have no checks inside. -/
def leaves : Check → List Check
  | .all checks | .any checks => leavesOf checks
  | .not check => leaves check
  | c => [c]
def leavesOf : List Check → List Check
  | [] => []
  | c :: rest => leaves c ++ leavesOf rest
end

/-- The leaves of children are those of each child, in order. -/
theorem leavesOf_eq_flatMap (checks : List Check) : leavesOf checks = checks.flatMap leaves := by
  induction checks with
  | nil => rw [leavesOf, List.flatMap_nil]
  | cons c checks ih => rw [leavesOf, List.flatMap_cons, ih]

/-- No leaf of a tree is at fault. -/
def LeavesAnswer (s : Submission) (c : Check) : Prop :=
  ∀ leaf ∈ c.leaves, ∃ answer, evaluate s leaf = .ok answer

/-- What is asked of the leaves of a tree is asked of those of its children. -/
theorem LeavesAnswer.child {c : Check} {checks : List Check} (hleaves : c.leaves = leavesOf checks)
    (h : LeavesAnswer s c) : ∀ d ∈ checks, LeavesAnswer s d := by
  intro d hd leaf hleaf
  refine h leaf ?_
  rw [hleaves, leavesOf_eq_flatMap]
  exact List.mem_flatMap.mpr ⟨d, hd, hleaf⟩

-- The induction is on the tree: a node has an answer if each of its children has one.
mutual
/-- A tree has an answer if its leaves have. -/
theorem LeavesAnswer.answer : ∀ {c : Check}, LeavesAnswer s c → ∃ answer, evaluate s c = .ok answer
  | .all checks, h => by
    have hall := answers (h.child (by rw [leaves]))
    exact ⟨_, (evaluate_all checks).trans (inTurn_of_answers hall)⟩
  | .any checks, h => by
    have hall := answers (h.child (by rw [leaves]))
    exact ⟨_, (evaluate_any checks).trans (inTurn_of_answers hall)⟩
  | .not c, h => by
    rw [LeavesAnswer, leaves] at h
    obtain ⟨answer, hanswer⟩ := LeavesAnswer.answer h
    exact ⟨!answer, by rw [evaluate_not, hanswer]; rfl⟩
  | .contains _, h | .lacks _, h | .pattern _, h | .noPattern _, h | .isDocument, h | .hasPath _, h
  | .lacksPath _, h | .isList _, h | .equals .., h | .itemsHave .., h | .snippet _, h =>
    h _ (by simp [leaves])
/-- So have all checks of a list. -/
theorem answers : ∀ {checks : List Check}, (∀ c ∈ checks, LeavesAnswer s c) →
    ∀ r ∈ checks.map (evaluate s), ∃ answer, r = .ok answer
  | [], _, r, hr => absurd hr List.not_mem_nil
  | c :: rest, h, r, hr => by
    obtain ⟨hc, hrest⟩ := List.forall_mem_cons.mp h
    rw [List.map_cons, List.mem_cons] at hr
    rcases hr with rfl | hr
    · exact LeavesAnswer.answer hc
    · exact answers hrest r hr
end

/-- The same tree, with the children of `all` and `any` in another order at any depth. -/
inductive Rearranged : Check → Check → Prop
  | same (c : Check) : Rearranged c c
  | all {checks others reordered : List Check} : List.Forall₂ Rearranged checks others →
    others.Perm reordered → Rearranged (.all checks) (.all reordered)
  | any {checks others reordered : List Check} : List.Forall₂ Rearranged checks others →
    others.Perm reordered → Rearranged (.any checks) (.any reordered)
  | not {c d : Check} : Rearranged c d → Rearranged (.not c) (.not d)

-- The induction is on the tree.  Below a node the results are the same one by one, and their order
-- does not count.
mutual
/-- **Where no leaf is at fault, the order of children does not count**, at any depth. -/
theorem Rearranged.evaluate_eq : ∀ {c d : Check}, Rearranged c d → LeavesAnswer s c →
    evaluate s d = evaluate s c
  | .all checks, d, h, hc => by
    cases h with
    | same => rfl
    | all heach hperm =>
      have hchildren := hc.child (by rw [leaves])
      have hresults := map_evaluate_eq heach hchildren
      rw [evaluate_all, evaluate_all, ← hresults]
      exact (inTurn_perm (hperm.map _) (hresults ▸ answers hchildren)).symm
  | .any checks, d, h, hc => by
    cases h with
    | same => rfl
    | any heach hperm =>
      have hchildren := hc.child (by rw [leaves])
      have hresults := map_evaluate_eq heach hchildren
      rw [evaluate_any, evaluate_any, ← hresults]
      exact (inTurn_perm (hperm.map _) (hresults ▸ answers hchildren)).symm
  | .not c, d, h, hc => by
    cases h with
    | same => rfl
    | not hinside =>
      rw [LeavesAnswer, leaves] at hc
      rw [evaluate_not, evaluate_not, hinside.evaluate_eq hc]
  | .contains _, d, h, _ | .lacks _, d, h, _ | .pattern _, d, h, _ | .noPattern _, d, h, _
  | .isDocument, d, h, _ | .hasPath _, d, h, _ | .lacksPath _, d, h, _ | .isList _, d, h, _
  | .equals .., d, h, _ | .itemsHave .., d, h, _ | .snippet _, d, h, _ => by
    cases h
    rfl
/-- Rearranged children have, one by one, the results that they had. -/
theorem map_evaluate_eq : ∀ {checks others : List Check}, List.Forall₂ Rearranged checks others →
    (∀ c ∈ checks, LeavesAnswer s c) → others.map (evaluate s) = checks.map (evaluate s)
  | [], _, h, _ => by
    cases h
    rfl
  | c :: rest, _, h, hall => by
    cases h with
    | cons hfirst hrest =>
      obtain ⟨hc, hall⟩ := List.forall_mem_cons.mp hall
      rw [List.map_cons, List.map_cons, hfirst.evaluate_eq hc, map_evaluate_eq hrest hall]
end

/-! ## The laws -/

/-- The laws of checks on a submission.  All but the last hold whatever is at fault. -/
structure BooleanLaws (s : Submission) : Prop where
  not_any : ∀ checks : List Check,
    evaluate s (.not (.any checks)) = evaluate s (.all (checks.map .not))
  not_all : ∀ checks : List Check,
    evaluate s (.not (.all checks)) = evaluate s (.any (checks.map .not))
  not_not : ∀ c : Check, evaluate s (.not (.not c)) = evaluate s c
  all_all : ∀ before inner after : List Check,
    evaluate s (.all (before ++ .all inner :: after)) = evaluate s (.all (before ++ inner ++ after))
  any_any : ∀ before inner after : List Check,
    evaluate s (.any (before ++ .any inner :: after)) = evaluate s (.any (before ++ inner ++ after))
  all_one : ∀ c : Check, evaluate s (.all [c]) = evaluate s c
  any_one : ∀ c : Check, evaluate s (.any [c]) = evaluate s c
  lacks : ∀ text : String, evaluate s (.lacks text) = evaluate s (.not (.contains text))
  noPattern : ∀ source : String,
    evaluate s (.noPattern source) = evaluate s (.not (.pattern source))
  rearranged : ∀ {c d : Check}, Rearranged c d → LeavesAnswer s c → evaluate s d = evaluate s c

/-- **Checks obey the laws of logic, faults included**: results are the same yes, the same no or the
    same fault.  Only for another order of children nothing may be at fault. -/
theorem boolean_laws (s : Submission) : BooleanLaws s where
  not_any checks := by
    rw [evaluate_not, evaluate_any, evaluate_all, map_evaluate_not]
    exact (inTurn_map_not _).symm
  not_all checks := by
    rw [evaluate_not, evaluate_all, evaluate_any, map_evaluate_not]
    exact (inTurn_map_not _).symm
  not_not c := by
    rw [evaluate_not, evaluate_not]
    rcases evaluate s c with f | _ | _ <;> rfl
  all_all before inner after := by
    simp only [evaluate_all, List.map_append, List.map_cons]
    exact inTurn_nested _ _ _
  any_any before inner after := by
    simp only [evaluate_any, List.map_append, List.map_cons]
    exact inTurn_nested _ _ _
  all_one c := (evaluate_all [c]).trans (inTurn_one _)
  any_one c := (evaluate_any [c]).trans (inTurn_one _)
  lacks := evaluate_lacks
  noPattern := evaluate_noPattern
  rearranged h hc := h.evaluate_eq hc

/-- Children in another order at two depths, where all three leaves have an answer. -/
theorem boolean_laws_rearranged :
    let s := Submission.ofText "kind: Pod"
    let first : Check := .any [.hasPath "spec", .pattern "P[a-z]d"]
    let c : Check := .all [first, .not (.contains "latest")]
    let d : Check := .all [.not (.contains "latest"), .any [.pattern "P[a-z]d", .hasPath "spec"]]
    Rearranged c d ∧ LeavesAnswer s c ∧ evaluate s d = evaluate s c := by
  intro s first c d
  have hfirst : Rearranged first (.any [.pattern "P[a-z]d", .hasPath "spec"]) :=
    .any (.cons (.same _) (.cons (.same _) .nil)) (.swap _ _ [])
  have hrearranged : Rearranged c d :=
    .all (.cons hfirst (.cons (.same _) .nil)) (.swap _ _ [])
  have hanswer : LeavesAnswer s c := by
    have hleaves : c.leaves = [.hasPath "spec", .pattern "P[a-z]d", .contains "latest"] := by
      simp only [c, first, leaves, leavesOf, List.append_nil, List.cons_append, List.nil_append]
    rw [LeavesAnswer, hleaves]
    refine List.forall_mem_cons.mpr ⟨⟨_, by rw [evaluate]⟩, List.forall_mem_cons.mpr
      ⟨⟨true, eq_ok_of_toOption (by decide +kernel)⟩, List.forall_mem_singleton.mpr
        ⟨_, by rw [evaluate]⟩⟩⟩
  exact ⟨hrearranged, hanswer, (boolean_laws s).rearranged hrearranged hanswer⟩

/-- A pattern that is none stops evaluation only if it is come to. -/
example :
    (evaluate ⟨"", none⟩ (.any [.contains "", .pattern "("])).toOption = some true ∧
      (evaluate ⟨"", none⟩ (.any [.pattern "(", .contains ""])).toOption = none := by
  decide +kernel

end Check

end ExerciseGrading
