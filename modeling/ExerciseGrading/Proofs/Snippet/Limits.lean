/-
  LIMITS: what an evaluation says does not depend on them, unless it says that one was reached.

  1. `Sight.equality` — two evaluations that see the same, and end in the same.
  2. `run_of_higher_limits` — under higher limits a value stays what it is, and so does every
     failure but the two that report a limit.

  Only the first of the two evaluations is excused when it reaches a limit.  No construct goes on
  after a failure, so that what it skipped cannot make a difference.

  The theorem is `Sight.run_meet` for equality and `Bounds.wider`, read off case by case: the runs
  end in one value, or stop for one reason, or the first has an excuse, and an excuse has one of the
  two messages that the statement leaves out.
-/
import ExerciseGrading.Proofs.Snippet.Lockstep

namespace ExerciseGrading.Snippet

/-- Seeing the same. -/
def Sight.equality : Sight Likeness.equality where
  rel := fun _ e e' => e = e'
  bind := by
    rintro P e e' v w name rfl rfl
    rfl
  look := by
    intro P e e' span name _ he
    rw [he]
    cases e'.lookup name with
    | none => exact .none
    | some v => exact .some rfl
  sees := fun _ he => he
  enter := fun he => he

/-- A limit that was reached is reported with one of two messages. -/
theorem Halt.AtLimit.message_eq {h : Halt} (hl : h.AtLimit) :
    h.failure.message = "Recursion limit exceeded" ∨
    h.failure.message = "Maximum call depth exceeded" := by
  cases hl with
  | depth span => exact .inl rfl
  | calls span => exact .inr rfl
  | fuel => exact .inr rfl

/-- **Higher limits change no outcome but that of reaching a limit.** -/
theorem run_of_higher_limits (p : Program) (env : Env) {limits limits' : Limits}
    (hd : limits.depth ≤ limits'.depth) (hc : limits.callDepth ≤ limits'.callDepth) :
    (∀ v, run p env limits = .ok v → run p env limits' = .ok v) ∧
    (∀ f, run p env limits = .error f → f.message ≠ "Recursion limit exceeded" →
      f.message ≠ "Maximum call depth exceeded" → run p env limits' = .error f) := by
  have h := Sight.equality.run_meet .wider p limits limits' (rfl : env = env) hd hc
  generalize hp : runWith (limits.callDepth + 1) p (Context.start env limits) = r at h
  generalize hq : runWith (limits'.callDepth + 1) p (Context.start env limits') = r' at h
  cases h with
  -- the values are equal, so that the second run has nothing to add
  | @value v w c d hvw _ =>
    obtain rfl : v = w := hvw
    rw [run_of_ok hp, run_of_ok hq]
    exact ⟨fun _ hv => hv, fun f hf => nomatch hf⟩
  | stopped e c d =>
    rw [run_of_error hp, run_of_error hq]
    exact ⟨fun _ hv => (nomatch hv), fun _ hf _ _ => hf⟩
  -- an excuse is reported with a message that the statement leaves out
  | excused c _ hl =>
    rw [run_of_error hp]
    refine ⟨fun _ hv => (nomatch hv), fun f hf h₁ h₂ => ?_⟩
    obtain rfl := Except.error.inj hf
    rcases hl.message_eq with hm | hm
    · exact absurd hm h₁
    · exact absurd hm h₂

/-- `[true].every(v => name)`, with all expressions at one place. -/
def everyItem (name : String) : Program :=
  let here (form : Form) : Expr := .mk ⟨0, 23⟩ form
  let items := here (.array [here (.bool true)])
  let callback := here (.arrow ["v"] (.value (here (.name name))))
  ⟨[.expr (here (.call (here (.member items "every" false)) [callback]))]⟩

/-- The callback gives back the item, which a depth of two and one call allow. -/
theorem run_everyItem_item : run (everyItem "v") [] ⟨2, 1⟩ = .ok (.bool true) := by
  have h : (match run (everyItem "v") [] ⟨2, 1⟩ with
      | .ok v => v.strictEquals (.bool true)
      | .error _ => false) = true := by decide +kernel
  split at h
  · rename_i v hv
    rw [hv]
    cases v with
    | bool b => rw [beq_iff_eq.mp h]
    | _ => cases h
  · cases h

/-- The callback looks for a name that nothing binds. -/
theorem run_everyItem_other :
    run (everyItem "x") [] ⟨2, 1⟩ = .error (.notDefined "x" ⟨0, 23⟩) := by
  have h : (match run (everyItem "x") [] ⟨2, 1⟩ with
      | .ok _ => false
      | .error f => decide (f = .notDefined "x" ⟨0, 23⟩)) = true := by decide +kernel
  split at h
  · cases h
  · rename_i f hf
    rw [hf, of_decide_eq_true h]

/-- Under the lowest limits that let the callback run, it ends as it does under the usual ones: with
    an answer if it gives back `v`, and at the name `x` if it looks for that. -/
theorem run_of_higher_limits_every :
    (run (everyItem "v") [] ⟨2, 1⟩ = .ok (.bool true) ∧
      run (everyItem "v") [] {} = .ok (.bool true)) ∧
    (run (everyItem "x") [] ⟨2, 1⟩ = .error (.notDefined "x" ⟨0, 23⟩) ∧
      run (everyItem "x") [] {} = .error (.notDefined "x" ⟨0, 23⟩)) := by
  have hdepth : 2 ≤ ({} : Limits).depth := by decide
  have hcalls : 1 ≤ ({} : Limits).callDepth := by decide
  refine ⟨⟨run_everyItem_item, ?_⟩, ⟨run_everyItem_other, ?_⟩⟩
  · exact (run_of_higher_limits (everyItem "v") [] hdepth hcalls).1 _ run_everyItem_item
  · exact (run_of_higher_limits (everyItem "x") [] hdepth hcalls).2 _ run_everyItem_other
      (by decide) (by decide)

end ExerciseGrading.Snippet
