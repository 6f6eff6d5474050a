/-
  RUNNING A MOVED PROGRAM: where a snippet stands makes no difference to what it says.

  Spans are in the tree, so that the same snippet behind some blanks is another program.  They come
  into a run in two ways: failures carry them, and arrow functions keep the trees of their bodies.
  The first is seen in labels only, and the second not at all.

  1. `SameAnswer` — two results that are related, or two failures of one kind with one message.
  2. `Sight.rooted` — the second evaluation goes through the moved program; its values look the
     same, but their arrow functions have moved bodies.  This is one more instance of the simulation
     that Proofs/Snippet/Lockstep sets up, with the move as its likeness.
  3. `run_moved`, `ofProgram_moved` — both end alike, and a verdict does not even show that a
     failure points elsewhere.
  4. `ofProgram_eq_of_unplaced` — programs that are the same without their spans are moved to one
     place, and compared there.
-/
import ExerciseGrading.Proofs.Snippet.Mentioned
import ExerciseGrading.Proofs.Snippet.Rooted

namespace ExerciseGrading.Snippet

/-- Related results, or failures of one kind that say the same. -/
inductive SameAnswer {α β : Type} (R : α → β → Prop) : Except Failure α → Except Failure β → Prop
  | ok {a : α} {b : β} : R a b → SameAnswer R (.ok a) (.ok b)
  | error {f f' : Failure} : f.kind = f'.kind → f.message = f'.message →
      SameAnswer R (.error f) (.error f')

/-- What follows a result is only asked for related results. -/
theorem SameAnswer.bind {α β γ δ : Type} {R : α → β → Prop} {S : γ → δ → Prop}
    {r : Except Failure α} {r' : Except Failure β} {f : α → Except Failure γ}
    {f' : β → Except Failure δ} (h : SameAnswer R r r')
    (hf : ∀ a b, R a b → SameAnswer S (f a) (f' b)) : SameAnswer S (r >>= f) (r' >>= f') := by
  cases h with
  | ok hab => exact hf _ _ hab
  | error hkind hmessage => exact .error hkind hmessage

/-- Seeing rooted values, some of them with moved bodies. -/
def Sight.rooted (move : Span → Span) : Sight (Likeness.rooted move Anywhere) where
  rel := fun _ => RootedEnv move Anywhere
  bind := fun name hv he => he.bind name hv
  look := fun _ he => he _
  sees := fun _ he => .mk (allNodes_anywhere _) he
  enter := by
    rintro e e' body ⟨-, he⟩
    exact he

variable (g : Span → Span) (p : Program) (code : String) (limits : Limits)

/-- What stops a run is of the same kind wherever it points to, -/
theorem Halt.kind_moved (h : Halt) : (h.moved g).failure.kind = h.failure.kind := by
  cases h with
  | failed f => exact f.kind_moved g
  | outOfFuel => rfl

/-- and says the same. -/
theorem Halt.message_moved (h : Halt) : (h.moved g).failure.message = h.failure.message := by
  cases h with
  | failed f => exact f.message_moved g
  | outOfFuel => rfl

/-- **A moved program runs alike.** -/
theorem run_moved : SameAnswer (Rooted g Anywhere) (run p (submissionEnv code) limits)
    (run (p.moved g) (submissionEnv code) limits) := by
  have h :=
    (Sight.rooted g).run_meet_moved .same p limits limits (rootedEnv_submission code) rfl rfl
  rw [show (Likeness.rooted g Anywhere).move = g from rfl] at h
  generalize hq : runWith (limits.callDepth + 1) (p.moved g)
    (Context.start (submissionEnv code) limits) = q at h
  rcases hp : runWith (limits.callDepth + 1) p (Context.start (submissionEnv code) limits)
    with ⟨halt | v, c⟩
  · rw [hp, endMoved_error] at h
    cases h with
    | stopped =>
      rw [run_of_error hp, run_of_error hq]
      exact .error (halt.kind_moved g).symm (halt.message_moved g).symm
    -- with equal limits nothing is excused
    | excused _ _ he => exact he.elim
  · rw [hp, endMoved_ok] at h
    cases h with
    | value hvw =>
      rw [run_of_ok hp, run_of_ok hq]
      exact .ok hvw

/-- **Where a program stands makes no difference to its outcome.** -/
theorem ofProgram_moved :
    Outcome.ofProgram (p.moved g) code limits = Outcome.ofProgram p code limits := by
  have h := run_moved g p code limits
  unfold Outcome.ofProgram
  generalize run p (submissionEnv code) limits = r at h ⊢
  generalize run (p.moved g) (submissionEnv code) limits = r' at h ⊢
  cases h with
  | ok hvw => exact ((Likeness.rooted g Anywhere).outcome_eq hvw).symm
  | error _ hmessage => simp only [Outcome.ofFailure, hmessage]

/-- Programs that differ in nothing but their spans have one outcome. -/
theorem ofProgram_eq_of_unplaced {p q : Program} (h : p.unplaced = q.unplaced) :
    Outcome.ofProgram p code limits = Outcome.ofProgram q code limits := by
  have hp := ofProgram_moved Span.nowhere p code limits
  have hq := ofProgram_moved Span.nowhere q code limits
  rw [← hp, ← hq]
  exact congrArg (Outcome.ofProgram · code limits) h

end ExerciseGrading.Snippet
