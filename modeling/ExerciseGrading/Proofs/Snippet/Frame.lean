/-
  THE FRAME of an evaluation: what it leaves as it was.

  An evaluation goes down into parentheses, blocks and calls, and each of these changes the context
  for what is inside and puts back what it changed, also if what is inside fails.  The number of the
  next arrow function is the one thing that is meant to stay changed: no two of them may get the
  same.

  1. `Context.Level` — contexts with one depth, one number of calls in flight and the same limits.
     `Context.Same` — with the same names in sight too.  Only the number for the next arrow function
     may differ.
  2. `Simulation.leaving` — every construct leaves this alone, statements all but the names in
     sight.  An evaluation is compared with itself here; what counts is the context it ends in.  The
     simulation then does the induction over trees once for all of them.
  3. `Binds` — which `const` or `let` of a statement ran.
  4. `evaluation_leaves_context` — expressions, blocks and calls leave the context as it was, and a
     statement adds the binding that ran, whether or not the evaluation has a value.
-/
import ExerciseGrading.Proofs.Snippet.Simulation

namespace ExerciseGrading.Snippet

/-! ## What is left as it was

  Both relations are reflexive and transitive: an evaluation is a row of steps, and what each
  step leaves, the row leaves. -/

/-- Contexts at one level of nesting, under the same limits. -/
structure Context.Level (c d : Context) : Prop where
  depth : d.depth = c.depth
  callDepth : d.callDepth = c.callDepth
  maxDepth : d.maxDepth = c.maxDepth
  maxCallDepth : d.maxCallDepth = c.maxCallDepth

/-- Contexts that are the same but for the number of the next arrow function. -/
structure Context.Same (c d : Context) : Prop extends Context.Level c d where
  env : d.env = c.env

namespace Context

variable ⦃c d e : Context⦄

theorem Level.refl (c : Context) : c.Level c := ⟨rfl, rfl, rfl, rfl⟩

/-- What is left at a level by two evaluations is left at it. -/
theorem Level.trans (h : c.Level d) (h' : d.Level e) : c.Level e where
  depth := h'.depth.trans h.depth
  callDepth := h'.callDepth.trans h.callDepth
  maxDepth := h'.maxDepth.trans h.maxDepth
  maxCallDepth := h'.maxCallDepth.trans h.maxCallDepth

theorem Same.refl (c : Context) : c.Same c := ⟨Level.refl c, rfl⟩

theorem Same.trans (h : c.Same d) (h' : d.Same e) : c.Same e :=
  ⟨h.toLevel.trans h'.toLevel, h'.env.trans h.env⟩

end Context

/-! ## Every construct leaves it

  Going deeper, entering a block and entering a call each change the context and put it back.
  The lemmas take the relation that the inside keeps, which is the weaker one where names may be
  bound, to the one that the outside keeps. -/

/-- An evaluation that ends in a context related to the one it starts in, and if it has a value, in
    one that is related to another. -/
def Leaves (R : Context → Context → Prop) {α β : Type} (S : α → β → Prop) (m : Eval α) : Prop :=
  ∀ c, R c (m c).2 ∧ ∀ a, (m c).1 = .ok a → ∃ b, S a b

section Leaves

variable {R : Context → Context → Prop} {α β γ δ : Type} {S : α → β → Prop} {T : γ → δ → Prop}
  {m : Eval α}

/-- One evaluation after the other: a failure of the first ends both where it left off. -/
theorem leaves_bind (htrans : ∀ ⦃c d e⦄, R c d → R d e → R c e) {f : α → Eval γ}
    (hm : Leaves R S m) (hf : ∀ a b, S a b → Leaves R T (f a)) : Leaves R T (m >>= f) := by
  intro c
  obtain ⟨hR, hS⟩ := hm c
  rcases hp : m c with ⟨_ | a, c'⟩
  · rw [Eval.bind_of_error hp]
    rw [hp] at hR
    exact ⟨hR, fun _ hx => (nomatch hx)⟩
  · rw [Eval.bind_of_ok hp]
    rw [hp] at hR hS
    obtain ⟨b, hab⟩ := hS a rfl
    obtain ⟨hR', hT⟩ := hf a b hab c'
    exact ⟨htrans hR hR', hT⟩

/-- A failure leaves the context as it found it. -/
theorem leaves_fail (hrefl : ∀ c, R c c) (f : Failure) : Leaves R S (Eval.fail f) :=
  fun c => ⟨hrefl c, fun _ hx => (nomatch hx)⟩

/-- A level deeper and back again, whatever happened there; if it is too deep, nothing happens. -/
theorem leaves_nested (span : Span) (hm : Leaves Context.Same S m) :
    Leaves Context.Same S (Eval.nested span m) := by
  intro c
  by_cases hc : c.maxDepth < c.depth
  · rw [Eval.nested_of_lt hc]
    exact ⟨Context.Same.refl c, fun _ hx => (nomatch hx)⟩
  · -- inside, the depth is one more throughout, so that one less is what it was
    obtain ⟨hR, hS⟩ := hm { c with depth := c.depth + 1 }
    rcases hp : m { c with depth := c.depth + 1 } with ⟨r, c'⟩
    rw [hp] at hR hS
    rw [Eval.nested_of_le (Nat.not_lt.mp hc) hp]
    refine ⟨⟨⟨?_, hR.callDepth, hR.maxDepth, hR.maxCallDepth⟩, hR.env⟩, hS⟩
    show c'.depth - 1 = c.depth
    rw [hR.depth]
    exact Nat.add_sub_cancel c.depth 1

/-- A block gives up the names that were bound in it. -/
theorem leaves_inBlock (hm : Leaves Context.Level S m) :
    Leaves Context.Same S (Eval.inBlock m) := by
  intro c
  obtain ⟨hR, hS⟩ := hm c
  exact ⟨⟨⟨hR.depth, hR.callDepth, hR.maxDepth, hR.maxCallDepth⟩, rfl⟩, hS⟩

/-- A call has a frame of its own, and gives it up at the end. -/
theorem leaves_inFrame (frame : Env) (span : Span) (hm : Leaves Context.Level S m) :
    Leaves Context.Same S (Eval.inFrame frame span m) := by
  intro c
  by_cases hc : c.maxCallDepth ≤ c.callDepth
  · rw [Eval.inFrame_of_le hc]
    exact ⟨Context.Same.refl c, fun _ hx => (nomatch hx)⟩
  · obtain ⟨hR, hS⟩ := hm { c with env := frame, callDepth := c.callDepth + 1 }
    rcases hp : m { c with env := frame, callDepth := c.callDepth + 1 } with ⟨r, c'⟩
    rw [hp] at hR hS
    rw [Eval.inFrame_of_lt (Nat.not_le.mp hc) hp]
    refine ⟨⟨⟨hR.depth, ?_, hR.maxDepth, hR.maxCallDepth⟩, rfl⟩, hS⟩
    show c'.callDepth - 1 = c.callDepth
    rw [hR.callDepth]
    exact Nat.add_sub_cancel c.callDepth 1

/-- Looking for a name changes nothing. -/
theorem leaves_look (name : String) (span : Span) :
    Leaves Context.Same (fun v w : Value => v = w) (Eval.look name span) := by
  intro c
  unfold Eval.look
  split
  · exact ⟨Context.Same.refl c, fun v _ => ⟨v, rfl⟩⟩
  · exact ⟨Context.Same.refl c, fun _ hx => (nomatch hx)⟩

end Leaves

/-- **Every construct leaves the context as it was**, statements all but the names in sight. -/
def Simulation.leaving : Simulation Likeness.equality Anywhere where
  expr := fun S m _ => Leaves Context.Same S m
  stmt := fun S m _ => Leaves Context.Level S m
  stmt_of_expr := fun h c => ⟨(h c).1.toLevel, (h c).2⟩
  expr_pure := fun {_ _ _ _ b} hab c =>
    ⟨Context.Same.refl c, fun _ hx => ⟨b, Except.ok.inj hx ▸ hab⟩⟩
  expr_bind := leaves_bind Context.Same.trans
  stmt_bind := leaves_bind Context.Level.trans
  expr_fail := fun _ _ => leaves_fail Context.Same.refl _
  expr_nested := fun _ => leaves_nested _
  expr_inBlock := leaves_inBlock
  stmt_bindName := fun _ _ => ⟨⟨rfl, rfl, rfl, rfl⟩, fun _ _ => ⟨(), trivial⟩⟩
  expr_look := fun _ => leaves_look _ _
  expr_newId := fun _ => ⟨⟨⟨rfl, rfl, rfl, rfl⟩, rfl⟩, fun n _ => ⟨n, rfl⟩⟩
  expr_inSight := fun _ c => ⟨Context.Same.refl c, fun e _ => ⟨e, rfl⟩⟩

/-- Calls of arrow functions leave the context as it was, however deep they go. -/
theorem calls_leaving (fuel : Nat) :
    Simulation.leaving.Calls (invokeArrow fuel) (invokeArrow fuel) := by
  induction fuel with
  | zero =>
    intro span form params body seen seen' args args' _ _ _ c
    exact ⟨Context.Same.refl c, fun _ hx => (nomatch hx)⟩
  | succ fuel ih =>
    -- the body may bind names in its frame, but the frame is given up
    intro span form params body seen seen' args args' _ _ _
    exact leaves_inFrame _ span
      (Simulation.leaving.body_related ih body (allNodes_anywhere body.nodes))

/-! ## Bindings

  A statement may add one name, and which one depends on what ran: a branch that was not taken
  binds nothing, and neither does a binding whose value failed.  `Binds` follows the run, and
  the proof follows the statement. -/

/-- The binding of a `const` or `let` that ran in a statement, outside blocks. -/
inductive Binds (invoke : Invoke) : Stmt → Context → String × Value → Prop
  | bind (span : Span) (name : String) {value : Expr} {v : Value} {c c' : Context} :
      evalExpr invoke value c = (.ok v, c') → Binds invoke (.bind span name value) c (name, v)
  | ifElse {condition : Expr} {yes no : Stmt} {v : Value} {c c' : Context} {b : String × Value} :
      evalExpr invoke condition c = (.ok v, c') → Binds invoke (if v.truthy then yes else no) c' b →
      Binds invoke (.ifElse condition yes no) c b
  | ifThen {condition : Expr} {yes : Stmt} {c : Context} {b : String × Value} :
      Binds invoke (.ifElse condition yes .empty) c b → Binds invoke (.ifThen condition yes) c b

/-- What a statement adds to the names in sight: the one binding that ran in it, or nothing if none
    did. -/
def AddsItsBinding (invoke : Invoke) (s : Stmt) (c : Context) : Prop :=
  (∃ b, Binds invoke s c b ∧ (execStmt invoke s c).2.env = b :: c.env) ∨
  ((∀ b, ¬ Binds invoke s c b) ∧ (execStmt invoke s c).2.env = c.env)

/-- After an expression whose value is only put into a form, the context is what the expression
    leaves. -/
theorem map_context {α β : Type} (m : Eval α) (f : α → β) (c : Context) :
    ((m >>= fun a => pure (f a)) c).2 = (m c).2 := by
  rcases hp : m c with ⟨_ | a, c'⟩
  · rw [Eval.bind_of_error hp]
  · rw [Eval.bind_of_ok hp]
    rfl

section Bindings

variable {invoke : Invoke} (hexpr : ∀ (e : Expr) (c : Context), c.Same (evalExpr invoke e c).2)

include hexpr

/-- A `const` or `let` adds its name, if its value could be evaluated. -/
theorem bind_adds (span : Span) (name : String) (value : Expr) (c : Context) :
    AddsItsBinding invoke (.bind span name value) c := by
  have hsame := hexpr value c
  unfold AddsItsBinding
  simp only [execStmt]
  rcases hp : evalExpr invoke value c with ⟨e | v, c'⟩
  · -- without a value nothing is bound
    rw [Eval.bind_of_error hp]
    rw [hp] at hsame
    refine .inr ⟨?_, hsame.env⟩
    rintro _ ⟨_, _, hv⟩
    rw [hp] at hv
    cases hv
  · rw [Eval.bind_of_ok hp]
    rw [hp] at hsame
    refine .inl ⟨(name, v), .bind span name hp, ?_⟩
    show (name, v) :: c'.env = (name, v) :: c.env
    rw [hsame.env]

/-- A choice adds what the branch adds that its condition leads to. -/
theorem choice_adds (condition : Expr) {yes no : Stmt}
    (hyes : ∀ c, AddsItsBinding invoke yes c) (hno : ∀ c, AddsItsBinding invoke no c)
    (c : Context) : AddsItsBinding invoke (.ifElse condition yes no) c := by
  have hsame := hexpr condition c
  unfold AddsItsBinding
  simp only [execStmt]
  rcases hp : evalExpr invoke condition c with ⟨e | v, c'⟩
  · rw [Eval.bind_of_error hp]
    rw [hp] at hsame
    refine .inr ⟨?_, hsame.env⟩
    intro b hb
    cases hb with
    | ifElse hv _ =>
      rw [hp] at hv
      cases hv
  · -- the branch starts in what the condition left, and that is what was in sight before
    rw [Eval.bind_of_ok hp]
    rw [hp] at hsame
    have hbranch : AddsItsBinding invoke (if v.truthy then yes else no) c' := by
      split
      · exact hyes c'
      · exact hno c'
    have hrun : execStmt invoke (if v.truthy then yes else no) =
        if v.truthy then execStmt invoke yes else execStmt invoke no := by
      split <;> rfl
    have henv : c'.env = c.env := hsame.env
    rw [← hrun, ← henv]
    rcases hbranch with ⟨b, hb, he⟩ | ⟨hb, he⟩
    · exact .inl ⟨b, .ifElse hp hb, he⟩
    · refine .inr ⟨fun b h => hb b ?_, he⟩
      cases h with
      | ifElse hv h =>
        rw [hp] at hv
        cases hv
        exact h

/-- **A statement adds the binding that ran in it, if one did, and no other.** -/
theorem adds_its_binding : ∀ (s : Stmt) (c : Context), AddsItsBinding invoke s c
  | .bind span name value, c => bind_adds hexpr span name value c
  | .ifElse condition yes no, c =>
    choice_adds hexpr condition (adds_its_binding yes) (adds_its_binding no) c
  | .ifThen condition yes, c => by
    -- as with an empty other branch
    have hempty : ∀ c, AddsItsBinding invoke .empty c :=
      fun c => .inr ⟨fun _ hb => (nomatch hb), rfl⟩
    have hsame : execStmt invoke (.ifThen condition yes) =
        execStmt invoke (.ifElse condition yes .empty) := by simp only [execStmt]
    rcases choice_adds hexpr condition (adds_its_binding yes) hempty c with ⟨b, hb, he⟩ | ⟨hb, he⟩
    · exact .inl ⟨b, .ifThen hb, by rw [hsame]; exact he⟩
    · refine .inr ⟨fun b h => hb b ?_, by rw [hsame]; exact he⟩
      cases h with
      | ifThen h => exact h
  -- a block keeps its bindings to itself
  | .block body, c => .inr ⟨fun _ hb => (nomatch hb), rfl⟩
  | .returnValue _ value, c => by
    refine .inr ⟨fun _ hb => (nomatch hb), ?_⟩
    simp only [execStmt]
    rw [map_context]
    exact (hexpr value c).env
  | .expr e, c => by
    refine .inr ⟨fun _ hb => (nomatch hb), ?_⟩
    simp only [execStmt]
    rw [map_context]
    exact (hexpr e c).env
  | .returnNothing _, c => .inr ⟨fun _ hb => (nomatch hb), rfl⟩
  | .empty, c => .inr ⟨fun _ hb => (nomatch hb), rfl⟩

end Bindings

/-! ## Everything together -/

/-- **Evaluation leaves the context as it found it**, with a value or without: expressions, blocks
    and calls of values do, and a statement only adds the binding that ran in it. -/
theorem evaluation_leaves_context (fuel : Nat) (c : Context) :
    (∀ e, c.Same (evalExpr (invokeArrow fuel) e c).2) ∧
    (∀ body, c.Same (execStmt (invokeArrow fuel) (.block body) c).2) ∧
    (∀ f args span, c.Same (callValue (invokeArrow fuel) f args span c).2) ∧
    (∀ s, c.Level (execStmt (invokeArrow fuel) s c).2 ∧
      AddsItsBinding (invokeArrow fuel) s c) := by
  have hcall := calls_leaving fuel
  have hexpr : ∀ (e : Expr) (c : Context), c.Same (evalExpr (invokeArrow fuel) e c).2 :=
    fun e c => (Simulation.leaving.eval_expr hcall e (allNodes_anywhere _) c).1
  have hstmt : ∀ s, c.Level (execStmt (invokeArrow fuel) s c).2 :=
    fun s => (Simulation.leaving.exec_stmt hcall s (allNodes_anywhere _) c).1
  refine ⟨fun e => hexpr e c, fun body => ⟨hstmt (.block body), rfl⟩, ?_, ?_⟩
  · intro f args span
    have hargs : List.Forall₂ (· = ·) args args := List.forall₂_refl args
    have hf : Likeness.equality.like f f := rfl
    have hP : Anywhere span .null := trivial
    exact (Simulation.leaving.callValue_related hcall hP hf hargs c).1
  · intro s
    exact ⟨hstmt s, adds_its_binding hexpr s c⟩

end ExerciseGrading.Snippet
