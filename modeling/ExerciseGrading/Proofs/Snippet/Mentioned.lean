/-
  MENTIONED NAMES: a snippet sees nothing but the names that it mentions.

  1. `Alike` values have the same shape; two arrow functions with one body may see environments that
     differ, as long as the names that the body mentions have alike values in both.
  2. `only_mentioned_names_matter` — environments that agree on what a program mentions cannot be
     told apart by running it.  A program that does not mention `code` says the same about all
     submissions.

  **The crux (equality is too much to ask).**  An arrow function keeps everything that was in sight
  where it was made, so that values of the two evaluations differ almost everywhere.  What keeps
  them alike is that a body can only look at the names in it.  So the relation goes through `names`
  of the body when it meets an arrow function, and the walk through the evaluator is the one of
  `Proofs.Snippet.Simulation`, with `Sight.mentioned` for what the two may see.

  The step from a tree to a body is that the names of a body are names of the tree around it
  (`Sight.sees`); back at the call, the names of the body are all that is required (`enter`).
-/
import ExerciseGrading.Proofs.Snippet.Denylist
import ExerciseGrading.Proofs.Snippet.Lockstep

namespace ExerciseGrading.Snippet

/-! ## Alike values

  The relation is defined by what it has to satisfy: the shape of two values, in which arrow
  functions are compared through the names that their bodies mention. -/

/-- Values that no snippet can tell apart. -/
inductive Alike : Value → Value → Prop
  | mk {v w : Value} :
      Shape id Alike (fun body seen seen' =>
        ∀ n ∈ body.names, Option.Rel Alike (seen.lookup n) (seen'.lookup n)) v w →
      Alike v w

/-- Being alike is its own shape, by definition. -/
def Likeness.alike : Likeness where
  move := id
  like := Alike
  sees := fun body seen seen' =>
    ∀ n ∈ body.names, Option.Rel Alike (seen.lookup n) (seen'.lookup n)
  like_iff := ⟨fun ⟨h⟩ => h, .mk⟩

mutual
/-- Every value is alike to itself: an arrow function sees the same on both sides. -/
theorem Alike.refl : ∀ v : Value, Alike v v
  | .list items => ⟨.list (Alike.refl_items items)⟩
  | .object members => ⟨.object (Alike.refl_members members)⟩
  | .arrow id params body seen =>
    ⟨.arrow id params body.moved_id.symm fun n _ => Alike.refl_lookup seen n⟩
  | .undefined => ⟨.undefined⟩
  | .null => ⟨.null⟩
  | .bool b => ⟨.bool b⟩
  | .number x => ⟨.number x⟩
  | .string s => ⟨.string s⟩
  | .pattern p => ⟨.pattern p⟩
  | .native n => ⟨.native n⟩
theorem Alike.refl_items : ∀ items : List Value, List.Forall₂ Alike items items
  | [] => .nil
  | v :: rest => .cons (Alike.refl v) (Alike.refl_items rest)
theorem Alike.refl_members : ∀ members : List (String × Value),
    List.Forall₂ (SameKey Alike) members members
  | [] => .nil
  | (key, v) :: rest => .cons ⟨key, Alike.refl v⟩ (Alike.refl_members rest)
theorem Alike.refl_lookup : ∀ (env : List (String × Value)) (n : String),
    Option.Rel Alike (env.lookup n) (env.lookup n)
  | [], _ => .none
  | (key, v) :: rest, n => by
    rw [List.lookup_cons]
    split
    · exact .some (Alike.refl v)
    · exact Alike.refl_lookup rest n
end

/-! ## Environments

  What an expression may see is the names among its own nodes.  Going into a part leaves fewer
  names to ask about, and binding a name answers for that name. -/

/-- Alike values of all names among the nodes. -/
def Sight.mentioned : Sight Likeness.alike where
  rel := fun P e e' =>
    ∀ n, (∃ span, P span (.name n)) → Option.Rel Alike (e.lookup n) (e'.lookup n)
  -- a name that is bound hides what was in sight, with a related value on both sides
  bind := by
    intro P e e' v w name hv he n hn
    rw [List.lookup_cons, List.lookup_cons]
    split
    · exact .some hv
    · exact he n hn
  look := fun hP he => he _ ⟨_, hP⟩
  sees := by
    intro P e e' body hbody he n hn
    -- a name of the body is an identifier among the nodes around it
    obtain ⟨span, hspan⟩ := mem_namesOf.mp hn
    exact he n ⟨span, hbody _ hspan⟩
  enter := fun he n hn => he n (mem_namesOf.mpr hn)

/-! ## Results

  What is compared of two results is the type, the text and the truth of a value, or the
  failure.  So alike values cannot be told apart, though they need not be equal. -/

/-- Results that look the same: one failure, or values of one type with one text, which both count
    as true or both as false. -/
inductive SameLook : Except Failure Value → Except Failure Value → Prop
  | error (f : Failure) : SameLook (.error f) (.error f)
  | value {v w : Value} : v.typeName = w.typeName → v.text = w.text → v.truthy = w.truthy →
      SameLook (.ok v) (.ok w)

/-- Running a program where alike values are in sight. -/
theorem run_alike (p : Program) {env env' : Env} (limits : Limits)
    (henv : ∀ n ∈ p.names, Option.Rel Alike (env.lookup n) (env'.lookup n)) :
    (∃ f, run p env limits = .error f ∧ run p env' limits = .error f) ∨
    (∃ v w, run p env limits = .ok v ∧ run p env' limits = .ok w ∧ Alike v w) := by
  have hsight : Sight.mentioned.rel (Among p.nodes) env env' :=
    fun n hn => henv n (mem_namesOf.mpr hn)
  have h := Sight.mentioned.run_meet .same p limits limits hsight rfl rfl
  generalize hp : runWith (limits.callDepth + 1) p (Context.start env limits) = r at h
  generalize hq : runWith (limits.callDepth + 1) p (Context.start env' limits) = r' at h
  cases h with
  | value hvw _ => exact .inr ⟨_, _, run_of_ok hp, run_of_ok hq, hvw⟩
  | stopped e c d => exact .inl ⟨e.failure, run_of_error hp, run_of_error hq⟩
  -- the limits are the same, so that there is no excuse
  | excused c _ he => exact he.elim

/-! ## Verdicts

  A snippet may answer with an object, whose members are asked for by name.  The message among
  them is a text, and alike values have one text. -/

section

variable (L : Likeness)

/-- The message of a verdict is a text, and related values have one text. -/
theorem Likeness.messageOf_eq {ms ns : List (String × Value)}
    (h : List.Forall₂ (SameKey L.like) ms ns) : Outcome.messageOf ms = Outcome.messageOf ns := by
  have hm := L.find?_like h "errorMessage"
  unfold Outcome.messageOf
  generalize Keyed.find? "errorMessage" ms = o at hm ⊢
  generalize Keyed.find? "errorMessage" ns = o' at hm ⊢
  cases hm with
  | none => rfl
  | some hv => simp only [L.isNullish_eq hv, L.text_eq _ hv]

/-- A verdict looks no deeper than a snippet can. -/
theorem Likeness.outcome_eq {v w : Value} (h : L.like v w) :
    Outcome.ofValue v = Outcome.ofValue w := by
  have ht := L.truthy_eq h
  cases L.shape h with
  | @object ms ns hs =>
    have hp := L.find?_like hs "passed"
    simp only [Outcome.ofValue, L.messageOf_eq hs]
    generalize Keyed.find? "passed" ms = o at hp ⊢
    generalize Keyed.find? "passed" ns = o' at hp ⊢
    cases hp with
    | none => rfl
    | some hv => simp only [L.truthy_eq hv]
  | bool b => rfl
  | undefined | null | number | string | list | pattern | arrow | native =>
    simp only [Outcome.ofValue, ht]

end

theorem ofValue_eq {v w : Value} (h : Alike v w) : Outcome.ofValue v = Outcome.ofValue w :=
  Likeness.alike.outcome_eq h

/-- All names but `code` are the same for all submissions. -/
theorem lookup_submissionEnv {n : String} (hn : n ≠ "code") (code code' : String) :
    (submissionEnv code).lookup n = (submissionEnv code').lookup n := by
  have hne : (n == "code") = false := beq_false_of_ne hn
  unfold submissionEnv
  rw [List.lookup_cons, List.lookup_cons, hne]

/-- **Only the names that a program mentions matter.**  A snippet that does not mention `code` says
    the same about all submissions; in general, environments that agree on the names mentioned give
    results that look the same. -/
theorem only_mentioned_names_matter :
    (∀ (snippet : String) (p : Program) (limits : Limits), compile snippet = .ok p →
      "code" ∉ p.names → ∀ code code' : String,
      judge snippet code limits = judge snippet code' limits) ∧
    (∀ (p : Program) (env env' : Env) (limits : Limits),
      (∀ n ∈ p.names, env.lookup n = env'.lookup n) →
      SameLook (run p env limits) (run p env' limits)) := by
  constructor
  · intro snippet p limits hp hcode code code'
    have henv : ∀ n ∈ p.names, Option.Rel Alike ((submissionEnv code).lookup n)
        ((submissionEnv code').lookup n) := by
      intro n hn
      have hne : n ≠ "code" := fun he => hcode (he ▸ hn)
      rw [lookup_submissionEnv hne code code']
      exact Alike.refl_lookup _ n
    have hsame : Outcome.ofProgram p code limits = Outcome.ofProgram p code' limits := by
      unfold Outcome.ofProgram
      rcases run_alike p limits henv with ⟨f, h, h'⟩ | ⟨v, w, h, h', hvw⟩
      · rw [h, h']
      · rw [h, h']
        exact ofValue_eq hvw
    show (compile snippet >>= fun p => pure (Outcome.ofProgram p code limits)) =
      (compile snippet >>= fun p => pure (Outcome.ofProgram p code' limits))
    rw [hp]
    exact congrArg Except.ok hsame
  · intro p env env' limits hagree
    have henv : ∀ n ∈ p.names, Option.Rel Alike (env.lookup n) (env'.lookup n) := by
      intro n hn
      rw [hagree n hn]
      exact Alike.refl_lookup env' n
    rcases run_alike p limits henv with ⟨f, h, h'⟩ | ⟨v, w, h, h', hvw⟩
    · rw [h, h']
      exact .error f
    · rw [h, h']
      exact .value (Likeness.alike.typeName_eq hvw) (Likeness.alike.text_eq v hvw)
        (Likeness.alike.truthy_eq hvw)

/-- The arrow function `() => x` is made where `y` is in sight, but looks at `x` alone. -/
theorem only_mentioned_names_matter_arrow :
    (∃ p, compile "(() => true)()" = .ok p ∧ "code" ∉ p.names ∧
      judge "(() => true)()" "a: 1" {} = judge "(() => true)()" "b: 2" {}) ∧
    (let p : Program := ⟨[.expr (.mk ⟨0, 7⟩ (.arrow [] (.value (.mk ⟨6, 7⟩ (.name "x")))))]⟩
     SameLook (run p [("y", .null), ("x", .bool true)] {})
      (run p [("x", .bool true), ("y", .string "b: 2")] {})) := by
  constructor
  · have hd : (match compile "(() => true)()" with
        | .ok p => decide ("code" ∉ p.names)
        | .error _ => false) = true := by
      rw [compile_eq_parse (by decide)]
      decide +kernel
    cases hp : compile "(() => true)()" with
    | error f => simp only [hp, Bool.false_eq_true] at hd
    | ok p =>
      simp only [hp, decide_eq_true_eq] at hd
      exact ⟨p, rfl, hd, only_mentioned_names_matter.1 _ p {} hp hd "a: 1" "b: 2"⟩
  · intro p
    refine only_mentioned_names_matter.2 p _ _ {} fun n hn => ?_
    obtain rfl : n = "x" := List.mem_singleton.mp hn
    rfl

end ExerciseGrading.Snippet
