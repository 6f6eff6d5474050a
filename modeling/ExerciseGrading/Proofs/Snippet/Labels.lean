/-
  LABELS: where a running snippet points when it fails.

  A failure points to a place, and every construct that can fail takes that place from an expression
  that is being evaluated.  Only arrow functions make this a question: a body is evaluated long
  after it was made, far from where it stands, and a callback fails inside the call of a method.
  What helps is that values remember nothing but bodies that were read: they are `Rooted`, and here
  nothing is moved.

  1. `Simulation.pointing` — every construct keeps this, and what fails points to a node that meets
     `P`.  As in `Simulation.leaving` an evaluation is compared with itself.
  2. `run_points` — a program that fails points to one of its own nodes.
  3. `spans_of_parsed` — spans are sound, in the tree and in what a run says.
-/
import ExerciseGrading.Proofs.Snippet.Laying
import ExerciseGrading.Proofs.Snippet.Rooted
import ExerciseGrading.Proofs.Snippet.Termination

namespace ExerciseGrading.Snippet

variable {P : Span → Form → Prop}

/-! ## Every construct points to a node

  Two things are carried along: only rooted values are in sight, and a failure points to a node.
  The first is what makes the second true of calls, since the body of a rooted value is part of
  the tree. -/

/-- Only rooted values are in sight. -/
def InSight (P : Span → Form → Prop) (e : Env) : Prop := ∃ e', RootedEnv id P e e'

/-- How an evaluation ends: with rooted values in sight, and in a value that is related to another,
    or in a failure that points to a node, if it points anywhere. -/
structure EndsRooted (P : Span → Form → Prop) {α β : Type} (S : α → β → Prop)
    (out : Except Halt α × Context) : Prop where
  sight : InSight P out.2.env
  value : ∀ a, out.1 = .ok a → ∃ b, S a b
  label : ∀ f span, out.1 = .error (.failed f) → f.label? = some span → ∃ form, P span form

/-- An evaluation that ends in this way wherever only rooted values are in sight. -/
def Points (P : Span → Form → Prop) {α β : Type} (S : α → β → Prop) (m : Eval α) : Prop :=
  ∀ c, InSight P c.env → EndsRooted P S (m c)

section Points

variable {α β γ δ : Type} {S : α → β → Prop} {T : γ → δ → Prop} {m : Eval α} {span : Span}
  {form : Form}

/-- A value that is related to another one, and the same names in sight. -/
theorem endsRooted_ok {a : α} {b : β} {c : Context} (hc : InSight P c.env) (hab : S a b) :
    EndsRooted P S (.ok a, c) where
  sight := hc
  value := fun _ hx => ⟨b, Except.ok.inj hx ▸ hab⟩
  label := fun _ _ hx => nomatch hx

/-- A failure at the place of a node. -/
theorem endsRooted_failed {f : Failure} {c : Context} (hc : InSight P c.env) (hP : P span form)
    (hf : PointsTo span f) : EndsRooted P S (.error (.failed f), c) where
  sight := hc
  value := fun _ hx => nomatch hx
  label := by
    intro f' span' hx hlabel
    obtain rfl : f = f' := Halt.failed.inj (Except.error.inj hx)
    rw [hf span' hlabel]
    exact ⟨form, hP⟩

/-- What is done with the context afterwards does not matter, as long as only rooted values are in
    sight again. -/
theorem EndsRooted.put {out : Except Halt α × Context} (h : EndsRooted P S out) {c : Context}
    (hc : InSight P c.env) : EndsRooted P S (out.1, c) :=
  ⟨hc, h.value, h.label⟩

/-- One evaluation after the other: whichever fails points to a node. -/
theorem points_bind {f : α → Eval γ} (hm : Points P S m) (hf : ∀ a b, S a b → Points P T (f a)) :
    Points P T (m >>= f) := by
  intro c hc
  have hends := hm c hc
  rcases hp : m c with ⟨halt | a, c'⟩
  · rw [Eval.bind_of_error hp]
    rw [hp] at hends
    exact ⟨hends.sight, fun _ hx => (nomatch hx), fun f span hx => hends.label f span (by
      rw [Except.error.inj hx])⟩
  · rw [Eval.bind_of_ok hp]
    rw [hp] at hends
    obtain ⟨b, hab⟩ := hends.value a rfl
    exact hf a b hab c' hends.sight

/-- Being too deep points to the expression that would go deeper. -/
theorem points_nested (hP : P span form) (hm : Points P S m) :
    Points P S (Eval.nested span m) := by
  intro c hc
  by_cases hdepth : c.maxDepth < c.depth
  · rw [Eval.nested_of_lt hdepth]
    exact endsRooted_failed hc hP fun s hs => (Option.some.inj hs).symm
  · have hends := hm { c with depth := c.depth + 1 } hc
    rcases hp : m { c with depth := c.depth + 1 } with ⟨r, c'⟩
    rw [hp] at hends
    rw [Eval.nested_of_le (Nat.not_lt.mp hdepth) hp]
    exact hends.put hends.sight

/-- Behind a block the names are in sight that were there before it. -/
theorem points_inBlock (hm : Points P S m) : Points P S (Eval.inBlock m) :=
  fun c hc => (hm c hc).put hc

/-- A call points to where it stands if there are too many in flight, and otherwise to where its
    body does. -/
theorem points_inFrame {seen : Env} (hseen : InSight P seen) (hP : P span form)
    (hm : Points P S m) : Points P S (Eval.inFrame seen span m) := by
  intro c hc
  by_cases hcalls : c.maxCallDepth ≤ c.callDepth
  · rw [Eval.inFrame_of_le hcalls]
    exact endsRooted_failed hc hP fun s hs => (Option.some.inj hs).symm
  · have hends := hm { c with env := seen, callDepth := c.callDepth + 1 } hseen
    rcases hp : m { c with env := seen, callDepth := c.callDepth + 1 } with ⟨r, c'⟩
    rw [hp] at hends
    rw [Eval.inFrame_of_lt (Nat.not_le.mp hcalls) hp]
    exact hends.put hc

/-- A name that is not there is pointed to where it stands; one that is there has a rooted value. -/
theorem points_look {name : String} (hP : P span (.name name)) :
    Points P (Rooted id P) (Eval.look name span) := by
  intro c hc
  obtain ⟨e', he⟩ := hc
  have hv := he name
  unfold Eval.look
  cases ho : c.env.lookup name with
  | none => exact endsRooted_failed ⟨e', he⟩ hP fun s hs => (Option.some.inj hs).symm
  | some v =>
    rw [ho] at hv
    cases ho' : e'.lookup name with
    | none => rw [ho'] at hv; cases hv
    | some w =>
      rw [ho'] at hv
      cases hv with
      | some hvw => exact endsRooted_ok ⟨e', he⟩ hvw

end Points

/-- **Every construct points to a node**, and brings no arrow function into sight but its own. -/
def Simulation.pointing (P : Span → Form → Prop) : Simulation (Likeness.rooted id P) P where
  expr := fun S m _ => Points P S m
  stmt := fun S m _ => Points P S m
  stmt_of_expr := fun h => h
  expr_pure := fun hab _ hc => endsRooted_ok hc hab
  expr_bind := points_bind
  stmt_bind := points_bind
  expr_fail := fun hP hf _ hc => endsRooted_failed hc hP hf
  expr_nested := points_nested
  expr_inBlock := points_inBlock
  stmt_bindName := fun hv _ ⟨_, he⟩ => endsRooted_ok (b := ()) ⟨_, he.bind _ hv⟩ trivial
  expr_look := points_look
  expr_newId := fun _ hc => endsRooted_ok hc rfl
  expr_inSight := fun hbody _ ⟨e', he⟩ => endsRooted_ok ⟨e', he⟩ (.mk hbody he)

/-- Calls of arrow functions point to nodes, however deep they go. -/
theorem calls_pointing (fuel : Nat) :
    (Simulation.pointing P).Calls (invokeArrow fuel) (invokeArrow fuel) := by
  induction fuel with
  | zero =>
    -- without fuel there is no failure, and so no label
    intro span form params body seen seen' args args' _ _ _ c hc
    exact ⟨hc, fun _ hx => (nomatch hx), fun _ _ hx => (nomatch hx)⟩
  | succ fuel ih =>
    intro span form params body seen seen' args args' hP hsees hargs
    cases hsees with
    | mk hbody henv =>
      have hframe : RootedEnv id P (frame seen params args) (frame seen' params args') :=
        RootedEnv.frame henv params hargs
      exact points_inFrame ⟨_, hframe⟩ hP
        ((Simulation.pointing P).body_related ih body hbody)

/-- **A program that fails points to one of its nodes**, if it points anywhere. -/
theorem run_points {p : Program} {env : Env} {limits : Limits} {f : Failure} {span : Span}
    (hnodes : AllNodes P p.nodes) (henv : InSight P env) (h : run p env limits = .error f)
    (hlabel : f.label? = some span) : ∃ form, P span form := by
  have hprogram := (Simulation.pointing P).program_related (calls_pointing (limits.callDepth + 1))
    p hnodes
  have hends := hprogram (Context.start env limits) henv
  refine hends.label f span ?_ hlabel
  rw [runWith_fst_eq_run, h]
  rfl

/-! ## Spans -/

/-- **Spans are sound.**  In a snippet that is read every expression has a stretch of the text for
    its span, which its children share in the order of the text; so do the expressions of the
    statements.  Whatever the submission and the limits are, a run that fails with a label points to
    an expression of the snippet, and so to a stretch of its text. -/
theorem spans_of_parsed {snippet : String} {p : Program} (h : parse snippet = .ok p) :
    AllNodes (SoundAt snippet.toList) p.nodes ∧
    InOrder (exprsOfStmts p.body) ∧
    ∀ (code : String) (limits : Limits) (f : Failure) (span : Span),
      run p (submissionEnv code) limits = .error f → f.label? = some span →
      (∃ form, (span, form) ∈ p.nodes) ∧ Stretch snippet.toList span := by
  -- the tree is sound because of where its rules have put it
  obtain ⟨hi, hrow⟩ := parse_laid h
  have hsound : AllNodes (SoundAt snippet.toList) p.nodes := by
    rw [Program.nodes, nodesOfStmts_eq_exprs]
    exact hrow.sound
  refine ⟨hsound, hrow.inOrder, fun code limits f span hrun hlabel => ?_⟩
  -- the run is followed with `P` saying of a span that it is one of a node of the program
  obtain ⟨form, hmem⟩ : ∃ form, Among p.nodes span form :=
    run_points (allNodes_among p.nodes) ⟨_, rootedEnv_submission code⟩ hrun hlabel
  exact ⟨⟨form, hmem⟩, (hsound _ hmem).stretch⟩

/-- In a callback and behind a parenthesis, `w` is where the run points that looks for it. -/
theorem spans_of_parsed_callback :
    ∃ p f, parse "[true].map(v => (v ? w : v))" = .ok p ∧
      run p (submissionEnv "") {} = .error f ∧ f.label? = some ⟨21, 22⟩ ∧
      AllNodes (SoundAt "[true].map(v => (v ? w : v))".toList) p.nodes ∧
      Stretch "[true].map(v => (v ? w : v))".toList ⟨21, 22⟩ := by
  -- the label of the run as a value, which can be computed
  have hd : ((parse "[true].map(v => (v ? w : v))").toOption.bind fun p =>
      (((run p (submissionEnv "") {}).map fun _ => none).tryCatch fun f => .ok f.label?).toOption) =
      some (some ⟨21, 22⟩) := by decide +kernel
  cases hp : parse "[true].map(v => (v ? w : v))" with
  | error f =>
    rw [hp] at hd
    cases hd
  | ok p =>
    rw [hp] at hd
    cases hr : run p (submissionEnv "") {} with
    | ok v =>
      simp only [Except.toOption, Option.bind_some, hr] at hd
      cases hd
    | error f =>
      simp only [Except.toOption, Option.bind_some, hr] at hd
      have hlabel : f.label? = some ⟨21, 22⟩ := Option.some.inj hd
      obtain ⟨hsound, -, hlabels⟩ := spans_of_parsed hp
      exact ⟨p, f, rfl, hr, hlabel, hsound, (hlabels "" {} f ⟨21, 22⟩ hr hlabel).2⟩

end ExerciseGrading.Snippet
