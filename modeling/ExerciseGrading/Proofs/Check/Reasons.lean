/-
  REASONS: what an explanation names really fails.

  An explanation is a text, and no text says by itself that it is true.  What makes it so is where
  it comes from: the check that stopped the evaluation.  So each statement here exhibits that check,
  says that it fails and that all before it pass, and only then what the text is.

  1. `Conjunction` — trees of leaves and `all`.  `evaluate_flatten` and `explain_flatten`: such a
     tree is evaluated and explained as the row of its leaves, so that what follows is about rows.
  2. **The crux (`failed_of_evaluateAll`)** — a row that fails stops at a check that fails, behind
     checks that all pass, and is explained by the reason of that check.  It is one induction for
     both readers, which walk the row in step.
  3. `explain_leaf` — a leaf that fails is named by its description and a detail, which depends on
     what kind of leaf it is and on whether there is a document.
  4. `explain_any_failed` — where no alternative holds, every one of them gives its own reason.
  5. `reasons_of_failed` — everything together.
-/
import ExerciseGrading.Proofs.Check.Laws

namespace ExerciseGrading.Check

variable {s : Submission}

/-! ## Rows of checks

  A row is walked from left to right by both readers.  Appending rows is what nesting comes to,
  so that the two lemmas on appended rows carry all that is said of trees below. -/

/-- A row behind a row is come to if everything before it passes. -/
theorem evaluateAll_append (checks more : List Check) :
    evaluateAll s (checks ++ more) =
      (evaluateAll s checks).bind fun held => if held then evaluateAll s more else .ok false := by
  induction checks with
  | nil => rw [evaluateAll]; rfl
  | cons c rest ih =>
    rw [List.cons_append, evaluateAll, evaluateAll, ih]
    rcases evaluate s c with f | _ | _ <;> rfl

/-- The same of reasons: the second row is asked if the first has none. -/
theorem explainAll_append (checks more : List Check) :
    explainAll s (checks ++ more) =
      (explainAll s checks).bind fun told =>
        match told with
        | some reason => .ok (some reason)
        | none => explainAll s more := by
  induction checks with
  | nil => rw [explainAll]; rfl
  | cons c rest ih =>
    rw [List.cons_append, explainAll, explainAll, ih]
    rcases explain s c with f | _ | reason <;> rfl

/-- A row of one check is that check. -/
theorem evaluateAll_one (c : Check) : evaluateAll s [c] = evaluate s c := by
  rw [evaluateAll, evaluateAll]
  rcases evaluate s c with f | _ | _ <;> rfl

/-- So is its reason. -/
theorem explainAll_one (c : Check) : explainAll s [c] = explain s c := by
  rw [explainAll, explainAll]
  rcases explain s c with f | _ | reason <;> rfl

/-- **A row that fails** fails at one of its checks, behind checks that pass, and its reason is the
    reason of that check. -/
theorem failed_of_evaluateAll {checks : List Check} (h : evaluateAll s checks = .ok false) :
    ∃ before c after, checks = before ++ c :: after ∧
      (∀ d ∈ before, evaluate s d = .ok true) ∧ evaluate s c = .ok false ∧
      explainAll s checks = explain s c := by
  induction checks with
  | nil =>
    rw [evaluateAll] at h
    cases h
  | cons c rest ih =>
    have htells := explain_tells s c
    rw [evaluateAll] at h
    rw [explainAll]
    rcases hc : evaluate s c with f | _ | _
    · -- a fault here would be the result
      rw [hc] at h
      cases h
    · obtain ⟨reason, hreason⟩ := htells.ok_false_iff.mp hc
      refine ⟨[], c, rest, rfl, fun _ hd => absurd hd List.not_mem_nil, hc, ?_⟩
      rw [hreason]
      rfl
    · rw [hc] at h
      obtain ⟨before, d, after, rfl, hbefore, hd, hexplain⟩ := ih h
      refine ⟨c :: before, d, after, rfl, List.forall_mem_cons.mpr ⟨hc, hbefore⟩, hd, ?_⟩
      rw [htells.ok_true_iff.mp hc]
      exact hexplain

/-! ## Trees of leaves and `all`

  An `all` inside an `all` is walked where it stands.  So the tree is the row of its leaves, for
  evaluation and for explanation alike, and its shape is not needed any more. -/

/-- A check with no checks inside. -/
def isLeaf : Check → Bool
  | .all _ | .any _ | .not _ => false
  | _ => true

/-- A leaf is its own only leaf. -/
theorem leaves_of_isLeaf {c : Check} (h : c.isLeaf = true) : c.leaves = [c] := by
  cases c with
  | all _ | any _ | not _ => cases h
  | _ => simp only [leaves]

/-- A tree in which only leaves and `all` occur. -/
inductive Conjunction : Check → Prop
  | leaf {c : Check} : c.isLeaf = true → Conjunction c
  | all {checks : List Check} : (∀ c ∈ checks, Conjunction c) → Conjunction (.all checks)

-- The induction is on the tree: `all` inside `all` only puts rows one behind the other.
mutual
/-- **A tree of leaves and `all` is evaluated as the row of its leaves.** -/
theorem evaluate_flatten : ∀ {c : Check}, Conjunction c → evaluate s c = evaluateAll s c.leaves
  | .all checks, h => by
    cases h with
    | leaf hleaf => cases hleaf
    | all hall =>
      rw [evaluate, leaves]
      exact evaluateAll_flatten hall
  | .any _, h | .not _, h => by
    cases h with
    | leaf hleaf => cases hleaf
  | .contains _, _ | .lacks _, _ | .pattern _, _ | .noPattern _, _ | .isDocument, _ | .hasPath _, _
  | .lacksPath _, _ | .isList _, _ | .equals .., _ | .itemsHave .., _ | .snippet _, _ => by
    rw [leaves_of_isLeaf rfl, evaluateAll_one]
/-- Rows of such trees are rows of leaves. -/
theorem evaluateAll_flatten : ∀ {checks : List Check}, (∀ c ∈ checks, Conjunction c) →
    evaluateAll s checks = evaluateAll s (leavesOf checks)
  | [], _ => by rw [leavesOf]
  | c :: rest, h => by
    obtain ⟨hc, hrest⟩ := List.forall_mem_cons.mp h
    -- the leaves of the first come before those of the rest
    rw [leavesOf, evaluateAll_append, ← evaluate_flatten hc, ← evaluateAll_flatten hrest,
      evaluateAll]
    rfl
end

mutual
/-- **A tree of leaves and `all` is explained as the row of its leaves.** -/
theorem explain_flatten : ∀ {c : Check}, Conjunction c → explain s c = explainAll s c.leaves
  | .all checks, h => by
    cases h with
    | leaf hleaf => cases hleaf
    | all hall =>
      rw [explain, leaves]
      exact explainAll_flatten hall
  | .any _, h | .not _, h => by
    cases h with
    | leaf hleaf => cases hleaf
  | .contains _, _ | .lacks _, _ | .pattern _, _ | .noPattern _, _ | .isDocument, _ | .hasPath _, _
  | .lacksPath _, _ | .isList _, _ | .equals .., _ | .itemsHave .., _ | .snippet _, _ => by
    rw [leaves_of_isLeaf rfl, explainAll_one]
/-- Rows of such trees are explained as rows of leaves. -/
theorem explainAll_flatten : ∀ {checks : List Check}, (∀ c ∈ checks, Conjunction c) →
    explainAll s checks = explainAll s (leavesOf checks)
  | [], _ => by rw [leavesOf]
  | c :: rest, h => by
    obtain ⟨hc, hrest⟩ := List.forall_mem_cons.mp h
    rw [leavesOf, explainAll_append, ← explain_flatten hc, ← explainAll_flatten hrest, explainAll]
    rcases explain s c with f | _ | reason <;> rfl
end

/-- The leaves of such a tree are leaves. -/
theorem isLeaf_of_mem_leaves {c leaf : Check} (h : Conjunction c) (hmem : leaf ∈ c.leaves) :
    leaf.isLeaf = true := by
  induction h with
  | leaf hleaf =>
    rw [leaves_of_isLeaf hleaf, List.mem_singleton] at hmem
    rw [hmem]
    exact hleaf
  | all _ ih =>
    rw [leaves, leavesOf_eq_flatMap] at hmem
    obtain ⟨d, hd, hmem⟩ := List.mem_flatMap.mp hmem
    exact ih d hd hmem

/-! ## What a leaf says

  A leaf has one text, fixed by what it asks, and some have a detail: a snippet its message, a
  question to the document that there is none. -/

/-- What a reason adds to the description of a leaf: what a snippet gave as its message, or that
    there is no document where one is asked for. -/
def detail (s : Submission) : Check → String
  | .snippet source => ": " ++ (ownMessage? s (.snippet source)).getD "returned false"
  | .isDocument => ": submission is not a YAML document"
  | c =>
    if c.asksDocument && s.document?.isNone then " (submission is not a YAML document)" else ""

/-- A leaf that fails gives its reason. -/
theorem leafReason_of_failed {c : Check} (h : evaluate s c = .ok false) (reason : String) :
    leafReason s c reason = .ok (some reason) := by
  rw [leafReason, h]
  rfl

/-- A snippet that fails gives its message, or says what it returned if it has none. -/
theorem explain_snippet_failed {source : String} (h : evaluate s (.snippet source) = .ok false) :
    explain s (.snippet source) = .ok (some ("custom: " ++
      (ownMessage? s (.snippet source)).getD "returned false")) := by
  rw [evaluate] at h
  rw [explain, ownMessage?]
  rcases hjudge : Snippet.judge source s.text {} with f | outcome
  · rw [hjudge] at h
    cases h
  · rw [hjudge] at h
    have hpassed : outcome.passed = false := Except.ok.inj h
    show (if outcome.passed then Except.ok none else _) = _
    rw [hpassed, if_neg Bool.false_ne_true]
    show _ = Except.ok (some ("custom: " ++ outcome.message?.getD "returned false"))
    cases outcome.message? <;> rfl

/-- The text of a leaf that fails, as its description and what is added to it. -/
theorem failedText_eq (c : Check) :
    failedText s c = c.describe ++
      if c.asksDocument && s.document?.isNone then " (submission is not a YAML document)"
      else "" := by
  unfold failedText
  split
  · rfl
  · exact String.append_empty.symm

/-- **A leaf that fails is named by its description**, with a detail behind it. -/
theorem explain_leaf {c : Check} (hleaf : c.isLeaf = true) (h : evaluate s c = .ok false) :
    explain s c = .ok (some (c.describe ++ c.detail s)) := by
  cases c with
  | all _ | any _ | not _ => cases hleaf
  | snippet source =>
    have hname : (Check.snippet source).describe = "custom" := rfl
    rw [explain_snippet_failed h, hname, detail, ← String.append_assoc]
    rfl
  | isDocument =>
    rw [explain, leafReason_of_failed h]
    rfl
  | contains _ | lacks _ | pattern _ | noPattern _ | hasPath _ | lacksPath _ | isList _ | equals _ _
  | itemsHave _ _ =>
    simp only [explain, leafReason_of_failed h, failedText_eq, detail]

/-! ## Alternatives

  Evaluation stops at the first alternative that holds.  Where none does it has been to all of
  them, and each has failed; explanation then has been to all of them too. -/

/-- Alternatives that all fail: the reasons are collected one by one, and none is left out. -/
theorem reasons_of_evaluateAny {checks : List Check} (h : evaluateAny s checks = .ok false) :
    ∃ reasons, List.Forall₂ (fun c reason => explain s c = .ok (some reason)) checks reasons ∧
      explainAny s checks = .ok (some reasons) := by
  induction checks with
  | nil => exact ⟨[], .nil, by rw [explainAny]⟩
  | cons c rest ih =>
    have htells := explain_tells s c
    rw [evaluateAny] at h
    rw [explainAny]
    rcases hc : evaluate s c with f | _ | _
    · rw [hc] at h
      cases h
    · rw [hc] at h
      obtain ⟨reason, hreason⟩ := htells.ok_false_iff.mp hc
      obtain ⟨reasons, heach, hreasons⟩ := ih h
      refine ⟨reason :: reasons, .cons hreason heach, ?_⟩
      rw [hreason, hreasons]
      rfl
    · -- an alternative that holds would be enough
      rw [hc] at h
      cases h

/-- **Where no alternative holds, each of them gives the reason that it has alone.** -/
theorem explain_any_failed {checks : List Check} (h : evaluate s (.any checks) = .ok false) :
    ∃ reasons, List.Forall₂ (fun c reason => explain s c = .ok (some reason)) checks reasons ∧
      explain s (.any checks) = .ok (some (noneText reasons)) := by
  rw [evaluate] at h
  obtain ⟨reasons, heach, hreasons⟩ := reasons_of_evaluateAny h
  refine ⟨reasons, heach, ?_⟩
  rw [explain, hreasons]
  rfl

/-! ## Everything together -/

/-- **A reason names what fails.**  For a tree of leaves and `all` that fails it is the description
    of a leaf that fails, with its detail, and all leaves in front of that leaf pass.  For `any` it
    lists the reasons that the alternatives have alone, one for each and in their order. -/
theorem reasons_of_failed (s : Submission) :
    (∀ c : Check, Conjunction c → evaluate s c = .ok false →
      ∃ before leaf after, c.leaves = before ++ leaf :: after ∧
        (∀ d ∈ before, evaluate s d = .ok true) ∧ evaluate s leaf = .ok false ∧
        explain s c = .ok (some (leaf.describe ++ leaf.detail s))) ∧
    (∀ checks : List Check, evaluate s (.any checks) = .ok false →
      ∃ reasons, List.Forall₂ (fun c reason => explain s c = .ok (some reason)) checks reasons ∧
        explain s (.any checks) = .ok (some (
          if checks = [] then "any: no alternatives to satisfy"
          else "any: none passed (" ++ "; ".intercalate reasons ++ ")"))) := by
  constructor
  · intro c hc h
    rw [evaluate_flatten hc] at h
    obtain ⟨before, leaf, after, hleaves, hbefore, hfailed, hexplain⟩ := failed_of_evaluateAll h
    refine ⟨before, leaf, after, hleaves, hbefore, hfailed, ?_⟩
    have hmem : leaf ∈ c.leaves := by
      rw [hleaves]
      exact List.mem_append_right before List.mem_cons_self
    rw [explain_flatten hc, hexplain]
    exact explain_leaf (isLeaf_of_mem_leaves hc hmem) hfailed
  · intro checks h
    obtain ⟨reasons, heach, hexplain⟩ := explain_any_failed h
    refine ⟨reasons, heach, ?_⟩
    rw [hexplain]
    -- the text has a form of its own where there is nothing to list
    cases heach <;> rfl

/-- The second leaf of an inner `all` fails, with a message of its own, and neither it nor the
    missing path satisfies `any`. -/
theorem reasons_of_failed_nested :
    let s := Submission.ofText "kind: Pod"
    let few : Check := .snippet "(\x7b passed: false, errorMessage: 'too few' \x7d)"
    let c : Check := .all [.contains "kind", .all [.pattern "P[a-z]d", few], .hasPath "spec"]
    (Conjunction c ∧ evaluate s c = .ok false ∧
      ∃ before leaf after, c.leaves = before ++ leaf :: after ∧
        (∀ d ∈ before, evaluate s d = .ok true) ∧ evaluate s leaf = .ok false ∧
        explain s c = .ok (some (leaf.describe ++ leaf.detail s))) ∧
    (evaluate s (.any [few, .hasPath "spec"]) = .ok false ∧
      ∃ reasons, List.Forall₂ (fun c reason => explain s c = .ok (some reason))
          [few, .hasPath "spec"] reasons ∧
        explain s (.any [few, .hasPath "spec"]) =
          .ok (some ("any: none passed (" ++ "; ".intercalate reasons ++ ")"))) := by
  intro s few c
  have hinner : Conjunction (.all [.pattern "P[a-z]d", few]) := by
    refine .all fun d hd => .leaf ?_
    simp only [List.mem_cons, List.not_mem_nil, or_false] at hd
    rcases hd with rfl | rfl <;> rfl
  have hc : Conjunction c := by
    refine .all fun d hd => ?_
    simp only [List.mem_cons, List.not_mem_nil, or_false] at hd
    rcases hd with rfl | rfl | rfl
    · exact .leaf rfl
    · exact hinner
    · exact .leaf rfl
  have hfew : evaluate s few = .ok false := by
    rw [evaluate_snippet, show s.text = "kind: Pod" from rfl, judge_tooFew]
    rfl
  have hcontains : evaluate s (.contains "kind") = .ok true :=
    eq_ok_of_toOption (by decide +kernel)
  have hpattern : evaluate s (.pattern "P[a-z]d") = .ok true :=
    eq_ok_of_toOption (by decide +kernel)
  have hpath : evaluate s (.hasPath "spec") = .ok false := eq_ok_of_toOption (by decide +kernel)
  have hleaves : c.leaves = [.contains "kind", .pattern "P[a-z]d", few, .hasPath "spec"] := rfl
  have hfailed : evaluate s c = .ok false := by
    rw [evaluate_flatten hc, hleaves, evaluateAll, hcontains, evaluateAll, hpattern, evaluateAll,
      hfew]
    rfl
  have hany : evaluate s (.any [few, .hasPath "spec"]) = .ok false := by
    rw [evaluate, evaluateAny, hfew, evaluateAny, hpath]
    rfl
  exact ⟨⟨hc, hfailed, (reasons_of_failed s).1 c hc hfailed⟩, hany, (reasons_of_failed s).2 _ hany⟩

/-- The leaf that fails is named, though not where it stands. -/
example : (explain ⟨"a: [", none⟩ (.all [.contains "a", .all [.isDocument]])).toOption =
    some (some "yamlValid: submission is not a YAML document") := by
  decide +kernel

end ExerciseGrading.Check
