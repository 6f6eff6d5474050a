/-
  LOCKSTEP: two evaluations that go through a snippet together.

  1. What the two may see is a `Sight`, a relation between environments for each set of nodes; how
     their limits compare is a `Bounds`.  Contexts that agree on both, and are the same otherwise,
     are `Beside` each other.
  2. Two evaluations `Meet` if they end in related values, or stop for one reason, or the first
     stops for a reason that its lower limits excuse.  If the second goes through a moved snippet,
     what stops the first is moved before the two are compared (`endMoved`).
  3. `lockstep` is the simulation of evaluations that meet, and `calls` says that calls of arrow
     functions meet: by induction on fuel, since what a body does is known for less fuel.
  4. `run_meet` — a program meets itself, for environments and limits that are related;
     `run_meet_moved` says so of the program with other spans.

  **The crux (where limits show).**  Depth and calls are counted in two places only, `nested` and
  `inFrame`.  There the first evaluation may stop while the second goes on, and nowhere else: the
  proofs of `together_nested` and `together_inFrame` split on the limit of the first, then take the
  second past its own.  Once the first has stopped for its limits, nothing is asked of the second
  (`Meet.excused`), so that whatever comes later need not be followed.

  The requirement on nodes changes on the way into an arrow function: its body is what counts there,
  and what it saw when it was made (`Sight.enter`).  This is why `calls` is for every requirement.
-/
import ExerciseGrading.Proofs.Snippet.Simulation

namespace ExerciseGrading.Snippet

/-! ## What is compared

  Environments, limits and the ways to end, each with the relation that it is held to. -/

/-- Relations between what two evaluations see, as far as the nodes of a requirement look. -/
structure Sight (L : Likeness) where
  rel : (Span → Form → Prop) → Env → Env → Prop
  bind : ∀ {P : Span → Form → Prop} {e e' : Env} {v w : Value} (name : String),
    L.like v w → rel P e e' → rel P ((name, v) :: e) ((name, w) :: e')
  look : ∀ {P : Span → Form → Prop} {e e' : Env} {span : Span} {name : String},
    P span (.name name) → rel P e e' → Option.Rel L.like (e.lookup name) (e'.lookup name)
  sees : ∀ {P : Span → Form → Prop} {e e' : Env} {body : ArrowBody},
    AllNodes P body.nodes → rel P e e' → L.sees body e e'
  /-- What an arrow function sees is enough for its body. -/
  enter : ∀ {e e' : Env} {body : ArrowBody},
    L.sees body e e' → rel (Among body.nodes) e e'

/-- Reasons to stop that come from the limits. -/
inductive Halt.AtLimit : Halt → Prop
  | depth (span : Span) : AtLimit (.failed (.recursionLimit span))
  | calls (span : Span) : AtLimit (.failed (.callLimit span))
  | fuel : AtLimit .outOfFuel

/-- How the limits of two evaluations compare. -/
inductive Bounds where
  | same
  /-- The second evaluation has limits at least as high. -/
  | wider

namespace Bounds

def rel : Bounds → Nat → Nat → Prop
  | same, n, n' => n = n'
  | wider, n, n' => n ≤ n'

/-- Why the first evaluation may stop while the second goes on. -/
def excuses : Bounds → Halt → Prop
  | same, _ => False
  | wider, h => h.AtLimit

variable {b : Bounds} {n n' : Nat}

/-- In either case the first limit is at most the second. -/
theorem le (h : b.rel n n') : n ≤ n' := by
  cases b with
  | same => exact Nat.le_of_eq h
  | wider => exact h

/-- One more on both sides, as a context one level further in has it … -/
theorem succ (h : b.rel n n') : b.rel (n + 1) (n' + 1) := by
  cases b with
  | same => exact congrArg (· + 1) h
  | wider => exact Nat.succ_le_succ h

/-- … and one less, as fuel has it. -/
theorem of_succ (h : b.rel (n + 1) (n' + 1)) : b.rel n n' := by
  cases b with
  | same => exact Nat.succ.inj h
  | wider => exact Nat.le_of_succ_le_succ h

/-- A limit excuses the first evaluation, unless it is also that of the second. -/
theorem excuses_or_eq (h : b.rel n n') {halt : Halt} (hl : halt.AtLimit) :
    b.excuses halt ∨ n = n' := by
  cases b with
  | same => exact .inr h
  | wider => exact .inl hl

end Bounds

/-- How two evaluations end. -/
inductive Meet (b : Bounds) {α β : Type} (S : α → β → Prop) (I : Context → Context → Prop) :
    Except Halt α × Context → Except Halt β × Context → Prop
  | value {x : α} {y : β} {c d : Context} : S x y → I c d → Meet b S I (.ok x, c) (.ok y, d)
  | stopped (h : Halt) (c d : Context) : Meet b S I (.error h, c) (.error h, d)
  | excused {h : Halt} (c : Context) (q : Except Halt β × Context) :
      b.excuses h → Meet b S I (.error h, c) q

/-- How an evaluation ends, with what stops it pointing elsewhere. -/
def endMoved (g : Span → Span) {α : Type} (out : Except Halt α × Context) :
    Except Halt α × Context :=
  (out.1.mapError (Halt.moved g), out.2)

/-- Nothing moves where the snippet stands. -/
theorem endMoved_id {α : Type} (out : Except Halt α × Context) : endMoved id out = out := by
  obtain ⟨h | x, c⟩ := out
  · exact congrArg (fun h => (Except.error h, c)) h.moved_id
  · rfl

section

variable {α : Type} (g : Span → Span) (c : Context)

theorem endMoved_ok (x : α) :
    endMoved g ((.ok x, c) : Except Halt α × Context) = (.ok x, c) := rfl

theorem endMoved_error (h : Halt) :
    endMoved g ((.error h, c) : Except Halt α × Context) = (.error (h.moved g), c) := rfl

end

namespace Sight

variable {L : Likeness} (σ : Sight L) (b : Bounds)

/-- Contexts that are the same but for what is in sight and for the limits. -/
structure Beside (P : Span → Form → Prop) (c d : Context) : Prop where
  env : σ.rel P c.env d.env
  depth : c.depth = d.depth
  callDepth : c.callDepth = d.callDepth
  maxDepth : b.rel c.maxDepth d.maxDepth
  maxCallDepth : b.rel c.maxCallDepth d.maxCallDepth
  fresh : c.fresh = d.fresh

/-- Evaluations that meet whenever they start beside each other. -/
def Together (P : Span → Form → Prop) {α β : Type} (S : α → β → Prop) (m : Eval α)
    (m' : Eval β) : Prop :=
  ∀ c d, σ.Beside b P c d → Meet b S (σ.Beside b P) (endMoved L.move (m c)) (m' d)

variable {σ b} {P : Span → Form → Prop} {α β γ δ : Type} {S : α → β → Prop} {T : γ → δ → Prop}
  {m : Eval α} {m' : Eval β}

/-- What follows goes together, if it does from every two related values. -/
theorem together_bind {f : α → Eval γ} {f' : β → Eval δ} (hm : σ.Together b P S m m')
    (hf : ∀ x y, S x y → σ.Together b P T (f x) (f' y)) :
    σ.Together b P T (m >>= f) (m' >>= f') := by
  -- a value goes on, a reason to stop is passed on, an excuse stays one
  intro c d hcd
  have h := hm c d hcd
  generalize hq : m' d = q at h
  rcases hp : m c with ⟨halt | x, c'⟩
  · rw [hp, endMoved_error] at h
    rw [Eval.bind_of_error hp, endMoved_error]
    cases h with
    | stopped _ _ d' =>
      rw [Eval.bind_of_error hq]
      exact .stopped _ c' d'
    | excused _ _ he => exact .excused c' _ he
  · -- only here does what follows count
    rw [hp, endMoved_ok] at h
    cases h with
    | value hxy hcd' =>
      rw [Eval.bind_of_ok hp, Eval.bind_of_ok hq]
      exact hf _ _ hxy _ _ hcd'

/-- **One level deeper**: the first evaluation may be stopped by its lower limit. -/
theorem together_nested (span : Span) (hm : σ.Together b P S m m') :
    σ.Together b P S (Eval.nested span m) (Eval.nested (L.move span) m') := by
  intro c d hcd
  by_cases hc : c.maxDepth < c.depth
  · -- the first evaluation is too deep, and the second may still go on
    rw [Eval.nested_of_lt hc, endMoved_error]
    rcases b.excuses_or_eq hcd.maxDepth (.depth (L.move span)) with he | he
    · exact .excused c _ he
    · have hd : d.maxDepth < d.depth := by rw [← he, ← hcd.depth]; exact hc
      rw [Eval.nested_of_lt hd]
      exact .stopped _ c d
  · -- what the lower limit allows the higher one allows
    have hle := b.le hcd.maxDepth
    have hdep := hcd.depth
    have hd : d.depth ≤ d.maxDepth := by omega
    have hin : σ.Beside b P { c with depth := c.depth + 1 } { d with depth := d.depth + 1 } :=
      { hcd with depth := congrArg (· + 1) hcd.depth }
    have h := hm _ _ hin
    generalize hq : m' { d with depth := d.depth + 1 } = q at h
    rcases hp : m { c with depth := c.depth + 1 } with ⟨halt | x, c'⟩
    · rw [hp, endMoved_error] at h
      rw [Eval.nested_of_le (Nat.not_lt.mp hc) hp, endMoved_error]
      cases h with
      | stopped _ _ d' =>
        rw [Eval.nested_of_le hd hq]
        exact .stopped _ _ _
      | excused _ _ he => exact .excused _ _ he
    · rw [hp, endMoved_ok] at h
      rw [Eval.nested_of_le (Nat.not_lt.mp hc) hp, endMoved_ok]
      cases h with
      | value hxy hcd' =>
        rw [Eval.nested_of_le hd hq]
        exact .value hxy { hcd' with depth := congrArg (· - 1) hcd'.depth }

/-- A block forgets on both sides what it bound. -/
theorem together_inBlock (hm : σ.Together b P S m m') :
    σ.Together b P S (Eval.inBlock m) (Eval.inBlock m') := by
  intro c d hcd
  have h := hm c d hcd
  unfold Eval.inBlock
  generalize m c = p at h ⊢
  generalize m' d = q at h ⊢
  rcases p with ⟨halt | x, c'⟩
  · rw [endMoved_error] at h
    cases h with
    -- what is in sight is put back however the block ends
    | stopped _ _ d' => exact .stopped _ _ _
    | excused _ _ he => exact .excused _ _ he
  · rw [endMoved_ok] at h
    cases h with
    | value hxy hcd' => exact .value hxy { hcd' with env := hcd.env }

/-- What is seen inside may be related by another requirement than what is seen outside. -/
theorem together_inFrame {Q : Span → Form → Prop} {e e' : Env} (he : σ.rel Q e e') (span : Span)
    (hm : σ.Together b Q S m m') :
    σ.Together b P S (Eval.inFrame e span m) (Eval.inFrame e' (L.move span) m') := by
  intro c d hcd
  by_cases hc : c.maxCallDepth ≤ c.callDepth
  · rw [Eval.inFrame_of_le hc, endMoved_error]
    rcases b.excuses_or_eq hcd.maxCallDepth (.calls (L.move span)) with hx | hx
    · exact .excused c _ hx
    · have hd : d.maxCallDepth ≤ d.callDepth := by rw [← hx, ← hcd.callDepth]; exact hc
      rw [Eval.inFrame_of_le hd]
      exact .stopped _ c d
  · -- what the lower limit allows the higher one allows, as with depth
    have hle := b.le hcd.maxCallDepth
    have hdep := hcd.callDepth
    have hc : c.callDepth < c.maxCallDepth := Nat.not_le.mp hc
    have hd : d.callDepth < d.maxCallDepth := by omega
    have hin : σ.Beside b Q { c with env := e, callDepth := c.callDepth + 1 }
        { d with env := e', callDepth := d.callDepth + 1 } :=
      { hcd with env := he, callDepth := congrArg (· + 1) hcd.callDepth }
    have h := hm _ _ hin
    generalize hq : m' { d with env := e', callDepth := d.callDepth + 1 } = q at h
    rcases hp : m { c with env := e, callDepth := c.callDepth + 1 } with ⟨halt | x, c'⟩
    · rw [hp, endMoved_error] at h
      rw [Eval.inFrame_of_lt hc hp, endMoved_error]
      cases h with
      | stopped _ _ d' =>
        rw [Eval.inFrame_of_lt hd hq]
        exact .stopped _ _ _
      | excused _ _ he => exact .excused _ _ he
    · rw [hp, endMoved_ok] at h
      rw [Eval.inFrame_of_lt hc hp, endMoved_ok]
      cases h with
      | value hxy hcd' =>
        rw [Eval.inFrame_of_lt hd hq]
        exact .value hxy
          { hcd' with env := hcd.env, callDepth := congrArg (· - 1) hcd'.callDepth }

/-- A name that is looked at is a node, and the sights agree on the names of nodes. -/
theorem together_look {span : Span} {name : String} (hP : P span (.name name)) :
    σ.Together b P L.like (Eval.look name span) (Eval.look name (L.move span)) := by
  intro c d hcd
  have h := σ.look hP hcd.env
  unfold Eval.look
  generalize c.env.lookup name = o at h ⊢
  generalize d.env.lookup name = o' at h ⊢
  cases h with
  | none => exact .stopped _ c d
  | some hv => exact .value hv hcd

/-- Arrow functions are numbered alike, since both made the same ones so far. -/
theorem together_newId : σ.Together b P Eq Eval.newId Eval.newId := by
  intro c d hcd
  exact .value hcd.fresh { hcd with fresh := congrArg (· + 1) hcd.fresh }

variable (σ b P)

/-- **Evaluations that go through a snippet together.** -/
def lockstep : Simulation L P where
  expr := σ.Together b P
  stmt := σ.Together b P
  stmt_of_expr := fun h => h
  expr_pure := fun h _ _ hcd => .value h hcd
  expr_bind := together_bind
  stmt_bind := together_bind
  expr_fail := fun _ _ c d _ => .stopped _ c d
  expr_nested := fun _ => together_nested _
  expr_inBlock := together_inBlock
  stmt_bindName := fun hv _ _ hcd => .value trivial { hcd with env := σ.bind _ hv hcd.env }
  expr_look := together_look
  expr_newId := together_newId
  expr_inSight := fun h _ _ hcd => .value (σ.sees h hcd.env) hcd

/-! ## Calls of arrow functions

  Both evaluations call the same body.  What it sees was related when the function was made, and
  its parameters are bound to related values. -/

variable {σ b P}

/-- What the body of an arrow function sees, if the arguments are related. -/
theorem rel_frame {e e' : Env} (h : σ.rel P e e') (params : List String) {args args' : List Value}
    (ha : List.Forall₂ L.like args args') :
    σ.rel P (frame e params args) (frame e' params args') :=
  L.frame_related (fun name _ _ _ _ hv he => σ.bind name hv he) h params ha

/-- **Calls of arrow functions go together**, for any two amounts of fuel that compare as the limits
    do. -/
theorem calls {fuel fuel' : Nat} (hfuel : b.rel fuel fuel') :
    (σ.lockstep b P).Calls (invokeArrow fuel) (invokeArrow fuel') := by
  -- for every requirement and every other fuel, since both change on the way in
  induction fuel generalizing fuel' P with
  | zero =>
    -- without fuel the first evaluation stops as if it had reached the limit on calls
    intro span form params body seen seen' args args' _ _ _ c d _
    rcases b.excuses_or_eq hfuel .fuel with he | rfl
    · exact .excused c _ he
    · exact .stopped _ c d
  | succ fuel ih =>
    intro span form params body seen seen' args args' _ hsees ha
    cases fuel' with
    | zero => exact absurd (b.le hfuel) (Nat.not_succ_le_zero fuel)
    | succ fuel' =>
      -- inside, the nodes that matter are those of the body
      have hcall : (σ.lockstep b (Among body.nodes)).Calls (invokeArrow fuel)
          (invokeArrow fuel') := ih (b.of_succ hfuel)
      have hbody := (σ.lockstep b (Among body.nodes)).body_related hcall body
        (allNodes_among body.nodes)
      exact together_inFrame (rel_frame (σ.enter hsees) params ha) span hbody

section Programs

variable (p : Program) {env env' : Env} (limits limits' : Limits)

variable (σ b) in
/-- **A program goes together with itself**, with other spans, if what it sees and its limits are
    related. -/
theorem run_meet_moved (henv : σ.rel (Among p.nodes) env env')
    (hd : b.rel limits.depth limits'.depth) (hc : b.rel limits.callDepth limits'.callDepth) :
    Meet b L.like (σ.Beside b (Among p.nodes))
      (endMoved L.move (runWith (limits.callDepth + 1) p (Context.start env limits)))
      (runWith (limits'.callDepth + 1) (p.moved L.move) (Context.start env' limits')) := by
  -- fuel is one more than the limit on calls, so that it compares as the limits do
  refine (σ.lockstep b (Among p.nodes)).program_related (calls (b.succ hc)) p
    (allNodes_among p.nodes) _ _ ?_
  exact ⟨henv, rfl, rfl, hd, hc, rfl⟩

variable (σ b) in
/-- **A program goes together with itself** where it stands. -/
theorem run_meet (henv : σ.rel (Among p.nodes) env env')
    (hd : b.rel limits.depth limits'.depth) (hc : b.rel limits.callDepth limits'.callDepth)
    (hmove : L.move = id := by rfl) :
    Meet b L.like (σ.Beside b (Among p.nodes))
      (runWith (limits.callDepth + 1) p (Context.start env limits))
      (runWith (limits'.callDepth + 1) p (Context.start env' limits')) := by
  have h := σ.run_meet_moved b p limits limits' henv hd hc
  rwa [hmove, endMoved_id, p.moved_id] at h

end Programs

end Sight

end ExerciseGrading.Snippet
