/-
  ROUTING of typed lines: the order of patterns counts only between beginnings of one another.

  A typed line selects the first pattern that it overlaps: that it begins with, or that begins with
  it.  Which one is first depends on the order, which nobody who writes patterns has in mind.  What
  they have in mind are patterns that are apart, and for these the order is of no account.

  1. `PatternsApart` — no pattern of an exercise is a beginning of another one, or the same.
  2. **The crux (`not_overlaps_of_apart`)** — then a line that begins with a pattern overlaps no
     other one: two beginnings of one line are beginnings of one another, and so are a pattern and
     what goes on from it.
  3. `Answers` — the response of the first reply that is applicable.
  4. `routing_of_apart` — such a line selects its pattern and gets the answer of its own replies, in
     whatever order the patterns stand.
-/
import ExerciseGrading.Exercise.Terminal
import ExerciseGrading.Proofs.Check.Readers
import Mathlib.Data.List.Pairwise

namespace ExerciseGrading

/-! ## Replies -/

namespace Reply

variable {s : Submission}

/-- A submission meets the condition of a reply, if it has one. -/
def Applicable (s : Submission) (r : Reply) : Prop :=
  ∀ c, r.condition? = some c → c.evaluate s = .ok true

/-- A reply is taken just if its condition holds by evaluation; a condition at fault does not. -/
theorem applies_iff (r : Reply) : r.applies s = true ↔ r.Applicable s := by
  unfold applies Applicable
  cases r.condition? with
  | none => simp
  | some c => simpa using c.holds_iff_evaluate s

/-- What replies answer to a submission: the first that is applicable, or nothing. -/
inductive Answers (s : Submission) : List Reply → Response → Prop
  | first {before after : List Reply} {r : Reply} : (∀ earlier ∈ before, ¬ earlier.Applicable s) →
    r.Applicable s → Answers s (before ++ r :: after) ⟨r.output, r.exitCode, false⟩
  | nothing {replies : List Reply} : (∀ r ∈ replies, ¬ r.Applicable s) →
    Answers s replies ⟨"", 0, false⟩

/-- What is answered is the response of the first applicable reply. -/
theorem answers_answer (replies : List Reply) : Answers s replies (answer replies s) := by
  have hnot : ∀ {r : Reply}, ¬ r.applies s = true → ¬ r.Applicable s := fun h hr =>
    h ((applies_iff _).mpr hr)
  unfold answer
  cases hfind : replies.find? (applies s) with
  | none => exact .nothing fun r hr => hnot (List.find?_eq_none.mp hfind r hr)
  | some r =>
    obtain ⟨hr, before, after, rfl, hbefore⟩ := List.find?_eq_some_iff_append.mp hfind
    exact .first (fun earlier he => hnot (by simpa using hbefore earlier he))
      ((applies_iff r).mp hr)

end Reply

/-! ## Patterns -/

namespace Terminal

/-- Neither of two patterns is a beginning of the other. -/
def Apart (p q : String) : Prop := ¬ p.toList <+: q.toList ∧ ¬ q.toList <+: p.toList

instance : Std.Symm Apart := ⟨fun _ _ h => ⟨h.2, h.1⟩⟩

instance : DecidableRel Apart := fun _ _ => inferInstanceAs (Decidable (_ ∧ _))

/-- To overlap is to be a beginning, one way or the other. -/
theorem overlaps_iff {typed pattern : String} :
    overlaps typed pattern = true ↔
      pattern.toList <+: typed.toList ∨ typed.toList <+: pattern.toList := by
  rw [overlaps, Bool.or_eq_true, List.isPrefixOf_iff_prefix, List.isPrefixOf_iff_prefix]

/-- A line that begins with a pattern overlaps no pattern that is apart from it. -/
theorem not_overlaps_of_apart {typed p q : String} (hapart : Apart p q)
    (hp : p.toList <+: typed.toList) : ¬ overlaps typed q = true := by
  intro hq
  rcases overlaps_iff.mp hq with hq | hq
  · -- both are beginnings of the line, so that the shorter one is a beginning of the other
    exact (List.prefix_or_prefix_of_prefix hp hq).elim hapart.1 hapart.2
  · exact hapart.1 (hp.trans hq)

/-- **The one pattern that a line begins with is selected**, wherever it stands. -/
theorem find?_overlaps {patterns : List String} {typed p : String}
    (hapart : patterns.Pairwise Apart) (hmem : p ∈ patterns) (hp : p.toList <+: typed.toList) :
    patterns.find? (overlaps typed) = some p := by
  have hself : overlaps typed p = true := overlaps_iff.mpr (.inl hp)
  cases hfind : patterns.find? (overlaps typed) with
  | none => exact absurd hself (List.find?_eq_none.mp hfind p hmem)
  | some q =>
    have hq : overlaps typed q = true := List.find?_some hfind
    -- the first pattern that overlaps is one, and no other one does
    by_contra hne
    have hpq : Apart p q := hapart.forall hmem (List.mem_of_find?_eq_some hfind)
      fun heq => hne (congrArg some heq.symm)
    exact not_overlaps_of_apart hpq hp hq

end Terminal

namespace Exercise

/-- No pattern of an exercise is a beginning of another one, or the same. -/
def PatternsApart (e : Exercise) : Prop := e.patterns.Pairwise Terminal.Apart

/-- Patterns that are apart are distinct: a text is a beginning of itself. -/
theorem PatternsApart.nodup {e : Exercise} (h : e.PatternsApart) : e.patterns.Nodup := by
  refine List.Pairwise.imp (fun {p q} (hpq : Terminal.Apart p q) heq => ?_) h
  exact hpq.1 (heq ▸ List.prefix_refl p.toList)

/-- Patterns that are apart are so in any order. -/
theorem PatternsApart.perm {e : Exercise} (h : e.PatternsApart)
    {commands : List (String × List Reply)} (hperm : commands.Perm e.commands) :
    PatternsApart { e with commands := commands } :=
  List.Perm.pairwise (hperm.map (·.1)).symm (show e.patterns.Pairwise Terminal.Apart from h)
    fun hpq => Std.Symm.symm _ _ hpq

/-- A line selects the pattern that it begins with, exactly if there is nothing behind it. -/
theorem resolve_of_apart {e : Exercise} (hapart : e.PatternsApart) {p typed : String}
    (hmem : p ∈ e.patterns) (hp : p.toList <+: (Text.trimmed typed).toList) :
    e.resolve typed = if Text.trimmed typed = p then .exact p else .extends_ p := by
  rw [resolve, Terminal.resolveIn, Terminal.find?_overlaps hapart hmem hp]
  exact if_congr eq_comm rfl rfl

/-- **Among patterns that are apart the order does not count.**  A line that begins with a pattern
    selects it, in every order of the patterns, and gets the answer of the replies to it. -/
theorem routing_of_apart {e : Exercise} (hapart : e.PatternsApart)
    {commands : List (String × List Reply)} (hperm : commands.Perm e.commands)
    {p typed : String} {replies : List Reply} (hmem : (p, replies) ∈ e.commands)
    (hp : p.toList <+: (Text.trimmed typed).toList) :
    let reordered : Exercise := { e with commands := commands }
    reordered.resolve typed = (if Text.trimmed typed = p then .exact p else .extends_ p) ∧
      ∀ s, Reply.Answers s replies (reordered.route typed s) := by
  intro reordered
  have hapart' : reordered.PatternsApart := hapart.perm hperm
  have hmem' : (p, replies) ∈ reordered.commands := hperm.mem_iff.mpr hmem
  have hresolve := resolve_of_apart hapart' (List.mem_map_of_mem hmem') hp
  refine ⟨hresolve, fun s => ?_⟩
  -- the replies are looked up by the pattern, which stands only once
  have hreplies : reordered.replies p = replies := by
    rw [Exercise.replies, Keyed.find?_of_mem hapart'.nodup hmem', Option.getD_some]
  have hroute : reordered.route typed s = Reply.answer replies s := by
    rw [route, hresolve]
    by_cases hexact : Text.trimmed typed = p
    · simp only [if_pos hexact, hreplies]
    · simp only [if_neg hexact, hreplies]
  exact hroute ▸ Reply.answers_answer replies

/-- Two patterns with the same first word, in reverse order; the line goes on from the one that now
    stands first. -/
theorem routing_of_apart_reversed :
    let logs : List Reply := [⟨some (.contains "kind: Pod"), "listening", 0⟩, ⟨none, "no pod", 1⟩]
    let pods : List Reply := [⟨none, "web", 0⟩]
    let e : Exercise := ⟨"pods", [], [("kubectl get", pods), ("kubectl logs", logs)], [], ""⟩
    let reordered : Exercise :=
      { e with commands := [("kubectl logs", logs), ("kubectl get", pods)] }
    (e.PatternsApart ∧ reordered.commands.Perm e.commands ∧ ("kubectl logs", logs) ∈ e.commands ∧
      "kubectl logs".toList <+: (Text.trimmed " kubectl logs web ").toList) ∧
    reordered.resolve " kubectl logs web " = .extends_ "kubectl logs" ∧
      ∀ s, Reply.Answers s logs (reordered.route " kubectl logs web " s) := by
  intro logs pods e reordered
  have hapart : e.PatternsApart :=
    show ["kubectl get", "kubectl logs"].Pairwise Terminal.Apart by decide +kernel
  have hperm : reordered.commands.Perm e.commands := .swap _ _ []
  have hmem : ("kubectl logs", logs) ∈ e.commands := by simp [e]
  have hp : "kubectl logs".toList <+: (Text.trimmed " kubectl logs web ").toList := by
    decide +kernel
  have hlonger : ¬ Text.trimmed " kubectl logs web " = "kubectl logs" := by decide +kernel
  obtain ⟨hresolve, hanswers⟩ := routing_of_apart hapart hperm hmem hp
  exact ⟨⟨hapart, hperm, hmem, hp⟩, hresolve.trans (if_neg hlonger), hanswers⟩

end Exercise

end ExerciseGrading
