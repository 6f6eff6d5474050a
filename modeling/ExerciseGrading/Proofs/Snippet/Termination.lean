/-
  TERMINATION: every program ends, also one that applies arrow functions to themselves.

  1. `invokeWithin beyond room` evaluates at most `room` bodies of arrow functions inside one
     another; a body that would be one more is handed to `beyond`, which may do anything.
     `invokeArrow` is this, with the rest of its fuel spent beyond.
  2. `Simulation.within` — where the limit leaves room for no more calls than that, what would
     happen beyond makes no difference, and fuel does not run out.  Each call in flight takes one
     unit of room, and the call for which there is none is refused before its body is looked at.
  3. `Simulation.settling` — an evaluation ends in one way under all limits on nesting from some
     limit on.
  4. `every_program_ends` — both, for programs.

  The tree is no measure for a call, since the body comes out of a value.  The room that is left is:
  the induction is on it, and the induction over trees and lists of items is that of `Simulation`.

  **The crux (what would happen beyond).**  Running out of fuel is one thing that could happen in a
  body too many, and asking `beyond` is another.  If no choice of `beyond` can be seen in the
  outcome, then in particular fuel is never what stops a run: `runWithin_coincide` compares two
  choices, and both statements about fuel and the one about calls in flight are instances of it.
-/
import ExerciseGrading.Proofs.Snippet.Simulation

namespace ExerciseGrading.Snippet

open Eval

/-! ## Calls inside one another

  Fuel and room are the same number seen from two sides: fuel is what an evaluation is given,
  and room is how many bodies it may enter before it is at the mercy of `beyond`. -/

/-- Calls arrow functions with `room` for so many bodies inside one another; what would be done with
    one more is up to `beyond`. -/
def invokeWithin (beyond : ArrowBody → Eval Value) : Nat → Invoke
  | 0, body, env, span => inFrame env span (beyond body)
  | room + 1, body, env, span => inFrame env span (evalBody (invokeWithin beyond room) body)

/-- Evaluates a program with room for so many bodies inside one another. -/
def runWithin (beyond : ArrowBody → Eval Value) (room : Nat) (p : Program) : Eval Value := do
  return (← execStmts (invokeWithin beyond room) p.body none).programValue

/-- Fuel is room, and what is left of it is used beyond. -/
theorem invokeArrow_eq_invokeWithin (room more : Nat) :
    invokeArrow (room + 1 + more) = invokeWithin (evalBody (invokeArrow more)) room := by
  induction room with
  | zero =>
    rw [show 0 + 1 + more = more + 1 by omega]
    rfl
  | succ room ih =>
    rw [show room + 1 + 1 + more = (room + 1 + more) + 1 by omega]
    funext body env span
    simp only [invokeArrow, invokeWithin, ih]

/-- A program under fuel is a program with room. -/
theorem runWith_eq_runWithin (room more : Nat) (p : Program) :
    runWith (room + 1 + more) p = runWithin (evalBody (invokeArrow more)) room p := by
  unfold runWith runWithin
  rw [invokeArrow_eq_invokeWithin]

/-! ## Nothing happens beyond the limit

  The room that a context leaves is at most the room that the evaluator has.  Entering a call
  takes one from both; where none is left the context refuses the call, and `beyond` is not
  asked. -/

/-- Whether a context leaves room for at most so many more calls in flight. -/
def Context.Room (room : Nat) (c : Context) : Prop := c.maxCallDepth ≤ c.callDepth + room

/-- Two evaluations that end in the same way, and not for want of fuel. -/
inductive Coincide {α β : Type} (S : α → β → Prop) (room : Nat) :
    Except Halt α × Context → Except Halt β × Context → Prop
  | value {x : α} {y : β} {c : Context} : S x y → c.Room room →
      Coincide S room (.ok x, c) (.ok y, c)
  | failed (f : Failure) (c : Context) :
      Coincide S room (.error (.failed f), c) (.error (.failed f), c)

/-- Evaluations that coincide wherever there is room for at most so many calls. -/
def Within (room : Nat) {α β : Type} (S : α → β → Prop) (m : Eval α) (m' : Eval β) : Prop :=
  ∀ c, c.Room room → Coincide S room (m c) (m' c)

section Within

variable {room : Nat} {α β γ δ : Type} {S : α → β → Prop} {T : γ → δ → Prop} {m : Eval α}
  {m' : Eval β}

/-- What follows coincides, in the context that both have reached. -/
theorem within_bind {f : α → Eval γ} {f' : β → Eval δ} (hm : Within room S m m')
    (hf : ∀ x y, S x y → Within room T (f x) (f' y)) :
    Within room T (m >>= f) (m' >>= f') := by
  intro c hc
  have h := hm c hc
  generalize hp : m c = p at h
  generalize hq : m' c = q at h
  cases h with
  | value hxy hd =>
    rw [bind_of_ok hp, bind_of_ok hq]
    exact hf _ _ hxy _ hd
  | failed f d =>
    rw [bind_of_error hp, bind_of_error hq]
    exact .failed f d

/-- Nesting counts alike on both sides, and takes no room. -/
theorem within_nested (span : Span) (hm : Within room S m m') :
    Within room S (nested span m) (nested span m') := by
  intro c hc
  by_cases hdeep : c.maxDepth < c.depth
  · rw [nested_of_lt hdeep, nested_of_lt hdeep]
    exact .failed _ c
  · have hle : c.depth ≤ c.maxDepth := Nat.not_lt.mp hdeep
    have h := hm { c with depth := c.depth + 1 } hc
    generalize hp : m { c with depth := c.depth + 1 } = p at h
    generalize hq : m' { c with depth := c.depth + 1 } = q at h
    cases h with
    | value hxy hd =>
      rw [nested_of_le hle hp, nested_of_le hle hq]
      exact .value hxy hd
    | failed f d =>
      rw [nested_of_le hle hp, nested_of_le hle hq]
      exact .failed f _

/-- A block leaves the room as it was. -/
theorem within_inBlock (hm : Within room S m m') :
    Within room S (inBlock m) (inBlock m') := by
  intro c hc
  have h := hm c hc
  unfold inBlock
  generalize m c = p at h ⊢
  generalize m' c = q at h ⊢
  cases h with
  | value hxy hd => exact .value hxy hd
  | failed f d => exact .failed f _

/-- Looking at a name makes no call. -/
theorem within_look (name : String) (span : Span) :
    Within room (fun v w : Value => v = w) (look name span) (look name span) := by
  intro c hc
  unfold look
  split
  · exact .value rfl hc
  · exact .failed _ c

/-- Where there is no room a call is refused, whatever its body would do. -/
theorem within_inFrame_zero (frame : Env) (span : Span) :
    Within 0 S (inFrame frame span m) (inFrame frame span m') := by
  intro c hc
  have hfull : c.maxCallDepth ≤ c.callDepth := hc
  rw [inFrame_of_le hfull, inFrame_of_le hfull]
  exact .failed _ c

/-- Inside a call there is room for one call less. -/
theorem within_inFrame_succ (frame : Env) (span : Span) (hm : Within room S m m') :
    Within (room + 1) S (inFrame frame span m) (inFrame frame span m') := by
  intro c hc
  by_cases hfull : c.maxCallDepth ≤ c.callDepth
  · rw [inFrame_of_le hfull, inFrame_of_le hfull]
    exact .failed _ c
  · have hlt : c.callDepth < c.maxCallDepth := Nat.not_le.mp hfull
    have hin : Context.Room room { c with env := frame, callDepth := c.callDepth + 1 } := by
      unfold Context.Room at hc ⊢
      show c.maxCallDepth ≤ c.callDepth + 1 + room
      omega
    have h := hm _ hin
    generalize hp : m { c with env := frame, callDepth := c.callDepth + 1 } = p at h
    generalize hq : m' { c with env := frame, callDepth := c.callDepth + 1 } = q at h
    cases h with
    | @value x y d hxy hd =>
      rw [inFrame_of_lt hlt hp, inFrame_of_lt hlt hq]
      refine .value hxy ?_
      unfold Context.Room at hd ⊢
      show d.maxCallDepth ≤ d.callDepth - 1 + (room + 1)
      omega
    | failed f d =>
      rw [inFrame_of_lt hlt hp, inFrame_of_lt hlt hq]
      exact .failed f _

end Within

/-- **Evaluations that make no difference beyond the room there is.** -/
def Simulation.within (room : Nat) : Simulation Likeness.equality Anywhere where
  expr := Within room
  stmt := Within room
  stmt_of_expr := fun h => h
  expr_pure := fun h _ hc => .value h hc
  expr_bind := within_bind
  stmt_bind := within_bind
  expr_fail := by
    intro _ _ S span form f _ _ c _
    rw [show f.moved Likeness.equality.move = f from f.moved_id]
    exact .failed f c
  expr_nested := fun _ => within_nested _
  expr_inBlock := within_inBlock
  stmt_bindName := by
    rintro name v w rfl c hc
    exact .value trivial hc
  expr_look := fun _ => within_look _ _
  expr_newId := fun _ hc => .value rfl hc
  expr_inSight := fun _ _ hc => .value rfl hc

/-- Calls coincide, whatever happens beyond: by induction on the room that is left. -/
theorem calls_within (beyond beyond' : ArrowBody → Eval Value) (room : Nat) :
    (Simulation.within room).Calls (invokeWithin beyond room) (invokeWithin beyond' room) := by
  induction room with
  -- there is no room, and the body is never reached
  | zero =>
    rintro span form params body seen seen' args args' _ hseen hargs
    obtain rfl : seen = seen' := hseen
    obtain rfl : args = args' := by rwa [← List.forall₂_eq_eq_eq]
    exact within_inFrame_zero _ span
  -- inside there is room for one call less, which is what is known of bodies
  | succ room ih =>
    rintro span form params body seen seen' args args' _ hseen hargs
    obtain rfl : seen = seen' := hseen
    obtain rfl : args = args' := by rwa [← List.forall₂_eq_eq_eq]
    exact within_inFrame_succ _ span
      ((Simulation.within room).body_related ih body (allNodes_anywhere body.nodes))

/-- A program ends in the same way whatever happens beyond the limit on calls, and not for want of
    fuel. -/
theorem runWithin_coincide (beyond beyond' : ArrowBody → Eval Value) (p : Program) (env : Env)
    (limits : Limits) :
    Coincide (fun v w : Value => v = w) limits.callDepth
      (runWithin beyond limits.callDepth p (Context.start env limits))
      (runWithin beyond' limits.callDepth p (Context.start env limits)) := by
  have hcall := calls_within beyond beyond' limits.callDepth
  have hroom : Context.Room limits.callDepth (Context.start env limits) := by
    unfold Context.Room
    exact Nat.le_add_left ..
  have hbody := (Simulation.within limits.callDepth).exec_stmts hcall p.body
    (allNodes_anywhere _) .none
  rw [show movedStmts Likeness.equality.move p.body = p.body from movedStmts_id p.body] at hbody
  refine (Simulation.within limits.callDepth).stmt_bind hbody (fun a b hab => ?_) _ hroom
  exact (Simulation.within limits.callDepth).stmt_pure hab.programValue

/-- What coincides is the same. -/
theorem Coincide.eq {α : Type} {room : Nat} {q q' : Except Halt α × Context}
    (h : Coincide (fun a b : α => a = b) room q q') : q = q' := by
  cases h with
  | value hxy _ => rw [hxy]
  | failed f c => rfl

/-- What coincides has a value or a failure. -/
theorem Coincide.ended {α β : Type} {S : α → β → Prop} {room : Nat}
    {q : Except Halt α × Context} {q' : Except Halt β × Context} (h : Coincide S room q q') :
    ∃ r : Except Failure α, q.1 = r.mapError .failed := by
  cases h with
  | @value x _ _ _ _ => exact ⟨.ok x, rfl⟩
  | failed f _ => exact ⟨.error f, rfl⟩

/-! ## Nesting without a bound

  A limit on nesting is part of the context, and is compared at every node.  An evaluation that
  ends under one limit ends alike under all higher ones, but which limit that is depends on what
  is evaluated: so it is asked for here, and the higher of two serves both. -/

/-- The context under another limit on nesting. -/
def Context.withDepth (c : Context) (depth : Nat) : Context := { c with maxDepth := depth }

/-- An evaluation that ends in one way under all limits on nesting from some limit on. -/
def Settles {α β : Type} (S : α → β → Prop) (m : Eval α) : Prop :=
  ∀ c : Context, ∃ (deep : Nat) (r : Except Halt α) (d : Context),
    (∀ depth, deep ≤ depth → m (c.withDepth depth) = (r, d.withDepth depth)) ∧
    ∀ a, r = .ok a → ∃ b, S a b

section Settles

variable {α β γ δ : Type} {S : α → β → Prop} {T : γ → δ → Prop} {m : Eval α}

/-- **One after the other**: from the higher of the two bounds on, both have settled. -/
theorem settles_bind {f : α → Eval γ} (hm : Settles S m)
    (hf : ∀ a b, S a b → Settles T (f a)) : Settles T (m >>= f) := by
  intro c
  obtain ⟨deep, r, d, hr, hS⟩ := hm c
  cases r with
  | error e =>
    exact ⟨deep, .error e, d, fun depth hd => bind_of_error (hr depth hd), fun _ hx => nomatch hx⟩
  | ok a =>
    -- what follows starts under the same limit, so the higher of the two bounds serves both
    obtain ⟨b, hab⟩ := hS a rfl
    obtain ⟨deep', r', d', hr', hT⟩ := hf a b hab d
    refine ⟨max deep deep', r', d', fun depth hd => ?_, hT⟩
    rw [bind_of_ok (hr depth (by omega))]
    exact hr' depth (by omega)

/-- One level deeper needs a limit that this level is within. -/
theorem settles_nested (span : Span) (hm : Settles S m) : Settles S (nested span m) := by
  intro c
  obtain ⟨deep, r, d, hr, hS⟩ := hm { c with depth := c.depth + 1 }
  refine ⟨max deep c.depth, r, { d with depth := d.depth - 1 }, fun depth hd => ?_, hS⟩
  have hle : (c.withDepth depth).depth ≤ (c.withDepth depth).maxDepth :=
    Nat.le_trans (Nat.le_max_right ..) hd
  exact nested_of_le hle (hr depth (by omega))

/-- A block settles with what is in it. -/
theorem settles_inBlock (hm : Settles S m) : Settles S (inBlock m) := by
  intro c
  obtain ⟨deep, r, d, hr, hS⟩ := hm c
  refine ⟨deep, r, { d with env := c.env }, fun depth hd => ?_, hS⟩
  unfold inBlock
  rw [hr depth hd]
  rfl

/-- A call settles with its body; the limit on calls is the same throughout. -/
theorem settles_inFrame (frame : Env) (span : Span) (hm : Settles S m) :
    Settles S (inFrame frame span m) := by
  intro c
  by_cases hfull : c.maxCallDepth ≤ c.callDepth
  · exact ⟨0, .error (.failed (.callLimit span)), c,
      fun depth _ => inFrame_of_le (c := c.withDepth depth) hfull, fun _ hx => nomatch hx⟩
  · obtain ⟨deep, r, d, hr, hS⟩ := hm { c with env := frame, callDepth := c.callDepth + 1 }
    refine ⟨deep, r, { d with env := c.env, callDepth := d.callDepth - 1 }, fun depth hd => ?_, hS⟩
    exact inFrame_of_lt (c := c.withDepth depth) (Nat.not_le.mp hfull) (hr depth hd)

/-- Looking at a name settles at once. -/
theorem settles_look (name : String) (span : Span) :
    Settles (fun v w : Value => v = w) (look name span) := by
  intro c
  cases hv : c.env.lookup name with
  | some v =>
    refine ⟨0, .ok v, c, fun depth _ => ?_, fun a _ => ⟨a, rfl⟩⟩
    have hv' : (c.withDepth depth).env.lookup name = some v := hv
    simp only [look, hv']
  | none =>
    refine ⟨0, .error (.failed (.notDefined name span)), c, fun depth _ => ?_,
      fun _ hx => nomatch hx⟩
    have hv' : (c.withDepth depth).env.lookup name = none := hv
    simp only [look, hv']

end Settles

/-- **Evaluations that settle when nesting is not bounded.** -/
def Simulation.settling : Simulation Likeness.equality Anywhere where
  expr := fun S m _ => Settles S m
  stmt := fun S m _ => Settles S m
  stmt_of_expr := fun h => h
  expr_pure := fun {_ _ _ a b} hab c =>
    ⟨0, .ok a, c, fun _ _ => rfl, fun _ hx => ⟨b, Except.ok.inj hx ▸ hab⟩⟩
  expr_bind := settles_bind
  stmt_bind := settles_bind
  expr_fail := fun {_ _ _ _ _ f} _ _ c =>
    ⟨0, .error (.failed f), c, fun _ _ => rfl, fun _ hx => nomatch hx⟩
  expr_nested := fun _ => settles_nested _
  expr_inBlock := settles_inBlock
  stmt_bindName := fun {name v _} _ c =>
    ⟨0, .ok (), { c with env := (name, v) :: c.env }, fun _ _ => rfl, fun _ _ => ⟨(), trivial⟩⟩
  expr_look := fun _ => settles_look _ _
  expr_newId := fun c =>
    ⟨0, .ok c.fresh, { c with fresh := c.fresh + 1 }, fun _ _ => rfl, fun n _ => ⟨n, rfl⟩⟩
  expr_inSight := fun _ c => ⟨0, .ok c.env, c, fun _ _ => rfl, fun e _ => ⟨e, rfl⟩⟩

/-- Calls settle, with any fuel. -/
theorem calls_settling (fuel : Nat) :
    Simulation.settling.Calls (invokeArrow fuel) (invokeArrow fuel) := by
  induction fuel with
  -- without fuel a call ends at once, whatever the limit on nesting
  | zero =>
    intro span form params body seen seen' args args' _ _ _ c
    exact ⟨0, .error .outOfFuel, c, fun _ _ => rfl, fun _ hx => nomatch hx⟩
  | succ fuel ih =>
    intro span form params body seen seen' args args' _ _ _
    exact settles_inFrame _ span
      (Simulation.settling.body_related ih body (allNodes_anywhere body.nodes))

/-! ## Programs

  A program starts with no call in flight, so that its limit is its room. -/

/-- What a program gives is what an evaluation with enough fuel ends in. -/
theorem runWith_fst_eq_run (p : Program) (env : Env) (limits : Limits) :
    (runWith (limits.callDepth + 1) p (Context.start env limits)).1 =
      (run p env limits).mapError .failed := by
  have h := runWithin_coincide (evalBody (invokeArrow 0)) (evalBody (invokeArrow 0)) p env limits
  rw [← runWith_eq_runWithin limits.callDepth 0 p] at h
  obtain ⟨r, hr⟩ := h.ended
  rcases hp : runWith (limits.callDepth + 1) p (Context.start env limits) with ⟨out, c⟩
  rw [Nat.add_zero, hp] at hr
  obtain rfl : out = r.mapError .failed := hr
  cases r with
  | ok v => rw [run_of_ok hp]
  | error f => rw [run_of_error hp]; rfl

/-- **Every program ends**, in every environment and under every limit on calls.

    1. With some fuel, no more is ever needed: it ends in what the program gives, under every limit
       on nesting, and more fuel changes nothing.
    2. At most `callDepth` calls are in flight: what would be done with the body of one more makes
       no difference.
    3. Without a bound on nesting it ends too: there is one outcome from some limit on. -/
theorem every_program_ends (p : Program) (env : Env) (callDepth : Nat) :
    ∃ fuel,
      (∀ depth : Nat,
        (runWith fuel p (Context.start env ⟨depth, callDepth⟩)).1 =
          (run p env ⟨depth, callDepth⟩).mapError .failed ∧
        (∀ more, runWith (fuel + more) p (Context.start env ⟨depth, callDepth⟩) =
          runWith fuel p (Context.start env ⟨depth, callDepth⟩)) ∧
        ∀ beyond, runWithin beyond callDepth p (Context.start env ⟨depth, callDepth⟩) =
          runWith fuel p (Context.start env ⟨depth, callDepth⟩)) ∧
      ∃ deep outcome, ∀ more, run p env ⟨deep + more, callDepth⟩ = outcome := by
  refine ⟨callDepth + 1, fun depth => ⟨runWith_fst_eq_run p env ⟨depth, callDepth⟩, ?_, ?_⟩, ?_⟩
  · intro more
    have h := (runWithin_coincide (evalBody (invokeArrow more)) (evalBody (invokeArrow 0)) p env
      ⟨depth, callDepth⟩).eq
    rw [← runWith_eq_runWithin callDepth more p, ← runWith_eq_runWithin callDepth 0 p] at h
    exact h
  · intro beyond
    have h := (runWithin_coincide beyond (evalBody (invokeArrow 0)) p env ⟨depth, callDepth⟩).eq
    rw [← runWith_eq_runWithin callDepth 0 p] at h
    exact h
  · have hsettles : Settles (fun v w : Value => v = w) (runWith (callDepth + 1) p) :=
      Simulation.settling.program_related (calls_settling (callDepth + 1)) p (allNodes_anywhere _)
    -- the outcome is that of the limit from which on nothing changes
    obtain ⟨deep, r, d, hr, -⟩ := hsettles (Context.start env ⟨0, callDepth⟩)
    refine ⟨deep, run p env ⟨deep, callDepth⟩, fun more => ?_⟩
    have hdeep := hr deep (Nat.le_refl deep)
    have hmore := hr (deep + more) (Nat.le_add_right deep more)
    cases r with
    | ok v =>
      have hlow : run p env ⟨deep, callDepth⟩ = .ok v := run_of_ok hdeep
      rw [hlow]
      exact run_of_ok hmore
    | error e =>
      have hlow : run p env ⟨deep, callDepth⟩ = .error e.failure := run_of_error hdeep
      rw [hlow]
      exact run_of_error hmore

end ExerciseGrading.Snippet
