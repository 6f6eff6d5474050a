/-
  ROOTED VALUES: values that remember nothing but bodies that were read.

  1. `Rooted move P v w` — two values look alike, all arrow functions in the first have bodies of
     nodes that meet `P`, and so have those that they see; in the second the bodies stand elsewhere.
  2. `rootedEnv_submission` — what every snippet starts with is rooted, whatever `P` is, since it
     has no arrow function.

  With `v = w` and `move = id` this says of one run that every call enters a body of the snippet:
  whatever holds of all its nodes holds of the place of every failure.
-/
import ExerciseGrading.Proofs.Snippet.Calls
import ExerciseGrading.Proofs.Snippet.Nodes
import ExerciseGrading.Snippet.Outcome

namespace ExerciseGrading.Snippet

/-- A body of nodes that meet `P`, and two environments that give related values to each name. -/
inductive RootedSight (P : Span → Form → Prop) (R : Value → Value → Prop) :
    ArrowBody × Env × Env → Prop where
  | mk {body : ArrowBody} {seen seen' : Env} :
    AllNodes P body.nodes → (∀ n, Option.Rel R (seen.lookup n) (seen'.lookup n)) →
    RootedSight P R (body, seen, seen')

/-- Values that look alike, in which all arrow functions have bodies of nodes that meet `P`; in the
    second value the bodies stand elsewhere. -/
inductive Rooted (move : Span → Span) (P : Span → Form → Prop) : Value → Value → Prop where
  | mk {v w : Value} :
    Shape move (Rooted move P)
      (fun body seen seen' => RootedSight P (Rooted move P) (body, seen, seen')) v w →
    Rooted move P v w

/-- Being rooted is its own shape, by definition. -/
def Likeness.rooted (move : Span → Span) (P : Span → Form → Prop) : Likeness where
  move := move
  like := Rooted move P
  sees := fun body seen seen' => RootedSight P (Rooted move P) (body, seen, seen')
  like_iff := ⟨fun ⟨h⟩ => h, .mk⟩

/-- Environments that give related rooted values to each name. -/
def RootedEnv (move : Span → Span) (P : Span → Form → Prop) (e e' : Env) : Prop :=
  ∀ n, Option.Rel (Rooted move P) (e.lookup n) (e'.lookup n)

variable {move : Span → Span} {P : Span → Form → Prop}

/-- A name may be bound to related rooted values. -/
theorem RootedEnv.bind {e e' : Env} {v w : Value} (h : RootedEnv move P e e') (name : String)
    (hv : Rooted move P v w) : RootedEnv move P ((name, v) :: e) ((name, w) :: e') := by
  intro n
  rw [List.lookup_cons, List.lookup_cons]
  split
  · exact .some hv
  · exact h n

/-- So may the parameters of an arrow function. -/
theorem RootedEnv.frame {e e' : Env} (h : RootedEnv move P e e') (params : List String)
    {args args' : List Value} (ha : List.Forall₂ (Rooted move P) args args') :
    RootedEnv move P (frame e params args) (frame e' params args') :=
  (Likeness.rooted move P).frame_related (fun name _ _ _ _ hv he => he.bind name hv) h params ha

/-! ## What every snippet starts with

  The submission and the functions that come with the language: texts, native functions, and
  objects of these. -/

theorem rooted_native (n : Native) : Rooted move P (.native n) (.native n) := .mk (.native n)

/-- An object of functions, such as `Math`. -/
theorem rooted_functions (ns : List Native) : Rooted move P (functions ns) (functions ns) := by
  refine (Likeness.rooted move P).like_object ((Likeness.rooted move P).ascending_like ?_)
  induction ns with
  | nil => exact .nil
  | cons n ns ih => exact .cons ⟨n.name, rooted_native n⟩ ih

/-- No name that a snippet starts with stands for an arrow function. -/
theorem rootedEnv_submission (code : String) :
    RootedEnv move P (submissionEnv code) (submissionEnv code) := by
  have hnil : RootedEnv move P [] [] := fun _ => .none
  have hglobals : RootedEnv move P globals globals :=
    ((((((((((hnil.bind _ (rooted_native _)).bind _ (rooted_native _)).bind _
      (rooted_functions _)).bind _ (rooted_native _)).bind _ (rooted_native _)).bind _
      (rooted_functions _)).bind _ (rooted_functions _)).bind _ (rooted_functions _)).bind _
      (rooted_native _)).bind _ (rooted_native _))
  exact hglobals.bind "code" ((Likeness.rooted move P).like_string code)

end ExerciseGrading.Snippet
