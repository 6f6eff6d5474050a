/-
  CONTEXTS: what evaluation carries along, and how it ends.

  1. A `Context` has the names in sight, how deep expressions are nested and how many arrow
     functions are in flight, with the limits for both, and the number for the next arrow function.
  2. An evaluation ends in a value or stops.  It stops with a failure, or because it ran out of
     fuel, which is no answer at all.
  3. `nested`, `inBlock` and `inFrame` put back what they changed, also when evaluation stops.
-/
import ExerciseGrading.Failure
import ExerciseGrading.Snippet.Value

namespace ExerciseGrading.Snippet

/-- Names with their values; the first entry of a name counts. -/
abbrev Env := List (String × Value)

structure Context where
  env : Env
  depth : Nat
  callDepth : Nat
  maxDepth : Nat
  maxCallDepth : Nat
  fresh : Nat

/-- Why an evaluation has no value. -/
inductive Halt where
  | failed (f : Failure)
  | outOfFuel
deriving Repr, DecidableEq

abbrev Eval := ExceptT Halt (StateM Context)

namespace Eval

variable {α : Type}

def fail (f : Failure) : Eval α := throw (.failed f)

/-- A result that needs no context. -/
def settle (r : Except Failure α) : Eval α :=
  match r with
  | .ok a => pure a
  | .error f => fail f

theorem bind_of_ok {β : Type} {m : Eval α} {f : α → Eval β} {a : α} {c c' : Context}
    (h : m c = (.ok a, c')) : (m >>= f) c = f a c' := by
  show (match m c with | (r, c') => ExceptT.bindCont f r c') = f a c'
  rw [h]
  rfl

theorem bind_of_error {β : Type} {m : Eval α} {f : α → Eval β} {e : Halt} {c c' : Context}
    (h : m c = (.error e, c')) : (m >>= f) c = (.error e, c') := by
  show (match m c with | (r, c') => ExceptT.bindCont f r c') = (.error e, c')
  rw [h]
  rfl

/-- Evaluates one level deeper. -/
def nested (span : Span) (act : Eval α) : Eval α := fun c =>
  if c.maxDepth < c.depth then (.error (.failed (.recursionLimit span)), c)
  else
    let (r, c') := act { c with depth := c.depth + 1 }
    (r, { c' with depth := c'.depth - 1 })

theorem nested_of_lt {span : Span} {act : Eval α} {c : Context} (h : c.maxDepth < c.depth) :
    nested span act c = (.error (.failed (.recursionLimit span)), c) :=
  if_pos h

theorem nested_of_le {span : Span} {act : Eval α} {r : Except Halt α} {c c' : Context}
    (h : c.depth ≤ c.maxDepth) (ha : act { c with depth := c.depth + 1 } = (r, c')) :
    nested span act c = (r, { c' with depth := c'.depth - 1 }) := by
  rw [nested, if_neg (Nat.not_lt.mpr h), ha]

/-- Forgets the names that were bound inside. -/
def inBlock (act : Eval α) : Eval α := fun c =>
  let (r, c') := act c
  (r, { c' with env := c.env })

/-- Evaluates the body of an arrow function that sees `frame`. -/
def inFrame (frame : Env) (span : Span) (act : Eval α) : Eval α := fun c =>
  if c.maxCallDepth ≤ c.callDepth then (.error (.failed (.callLimit span)), c)
  else
    let (r, c') := act { c with env := frame, callDepth := c.callDepth + 1 }
    (r, { c' with env := c.env, callDepth := c'.callDepth - 1 })

theorem inFrame_of_le {frame : Env} {span : Span} {act : Eval α} {c : Context}
    (h : c.maxCallDepth ≤ c.callDepth) :
    inFrame frame span act c = (.error (.failed (.callLimit span)), c) :=
  if_pos h

theorem inFrame_of_lt {frame : Env} {span : Span} {act : Eval α} {r : Except Halt α}
    {c c' : Context} (h : c.callDepth < c.maxCallDepth)
    (ha : act { c with env := frame, callDepth := c.callDepth + 1 } = (r, c')) :
    inFrame frame span act c = (r, { c' with env := c.env, callDepth := c'.callDepth - 1 }) := by
  rw [inFrame, if_neg (Nat.not_le.mpr h), ha]

/-- Binds a name. -/
def bindName (name : String) (v : Value) : Eval Unit :=
  modify fun c => { c with env := (name, v) :: c.env }

/-- The value of a name. -/
def look (name : String) (span : Span) : Eval Value := fun c =>
  match c.env.lookup name with
  | some v => (.ok v, c)
  | none => (.error (.failed (.notDefined name span)), c)

/-- The number for a new arrow function. -/
def newId : Eval Nat := fun c => (.ok c.fresh, { c with fresh := c.fresh + 1 })

/-- The names in sight. -/
def inSight : Eval Env := fun c => (.ok c.env, c)

end Eval

end ExerciseGrading.Snippet
