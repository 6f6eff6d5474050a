/-
  SIMULATION: two evaluations of one snippet, side by side.  In the second it may stand elsewhere.

  1. A `Simulation` is a relation between evaluations that each construct keeps: ending in a value,
     going on, failing, one level deeper, a block, a binding, looking at a name, making an arrow
     function.  There are two relations, since a statement may bind a name and an expression may
     not.
  2. `exec_stmts` and `eval_expr` — every statement and every expression is then related to itself,
     with other spans (`moved`), if the calls of arrow functions are (`Calls`).  This is the
     induction over the tree, done once.
  3. `body_related` — with that, calls with one more unit of fuel need only say what `inFrame`
     keeps.

  **The crux (one induction, many results).**  Whatever is said of two runs of one snippet needs the
  same walk through the evaluator: every form, every method, every statement.  So the walk is over a
  record of closure properties and not over one relation.  Its instances are the lockstep of two
  runs (`Sight.lockstep`), the context that is left as it was (`Simulation.leaving`), the place of
  every failure (`Simulation.pointing`) and the fuel that suffices (`Simulation.settling` and
  `Simulation.within`); none of them looks at a form of an expression again.

  The walk is by recursion on the tree alone.  Fuel is no part of it: a call of an arrow function is
  a hypothesis (`Calls`), and the induction on fuel, which discharges it, belongs to the instance.

  What a construct asks of its place in the snippet is the parameter `P`, a requirement on nodes.
-/
import ExerciseGrading.Proofs.Snippet.Calls
import ExerciseGrading.Proofs.Snippet.Nodes

namespace ExerciseGrading.Snippet

/-- Relations between evaluations, for expressions and for statements, that each construct of the
    language keeps.  The first argument relates the values in which both may end. -/
structure Simulation (L : Likeness) (P : Span → Form → Prop) where
  expr : {α β : Type} → (α → β → Prop) → Eval α → Eval β → Prop
  stmt : {α β : Type} → (α → β → Prop) → Eval α → Eval β → Prop
  stmt_of_expr : ∀ {α β : Type} {S : α → β → Prop} {m : Eval α} {m' : Eval β},
    expr S m m' → stmt S m m'
  expr_pure : ∀ {α β : Type} {S : α → β → Prop} {a : α} {b : β},
    S a b → expr S (pure a) (pure b)
  expr_bind : ∀ {α β γ δ : Type} {S : α → β → Prop} {T : γ → δ → Prop} {m : Eval α} {m' : Eval β}
    {f : α → Eval γ} {f' : β → Eval δ},
    expr S m m' → (∀ a b, S a b → expr T (f a) (f' b)) → expr T (m >>= f) (m' >>= f')
  stmt_bind : ∀ {α β γ δ : Type} {S : α → β → Prop} {T : γ → δ → Prop} {m : Eval α} {m' : Eval β}
    {f : α → Eval γ} {f' : β → Eval δ},
    stmt S m m' → (∀ a b, S a b → stmt T (f a) (f' b)) → stmt T (m >>= f) (m' >>= f')
  /-- A failure at a place points to it, if it points anywhere. -/
  expr_fail : ∀ {α β : Type} {S : α → β → Prop} {span : Span} {form : Form} {f : Failure},
    P span form → PointsTo span f →
    expr S (Eval.fail f : Eval α) (Eval.fail (f.moved L.move) : Eval β)
  expr_nested : ∀ {α β : Type} {S : α → β → Prop} {span : Span} {form : Form}
    {m : Eval α} {m' : Eval β},
    P span form → expr S m m' → expr S (Eval.nested span m) (Eval.nested (L.move span) m')
  expr_inBlock : ∀ {α β : Type} {S : α → β → Prop} {m : Eval α} {m' : Eval β},
    stmt S m m' → expr S (Eval.inBlock m) (Eval.inBlock m')
  stmt_bindName : ∀ {name : String} {v w : Value},
    L.like v w → stmt (fun _ _ => True) (Eval.bindName name v) (Eval.bindName name w)
  expr_look : ∀ {span : Span} {name : String},
    P span (.name name) → expr L.like (Eval.look name span) (Eval.look name (L.move span))
  expr_newId : expr Eq Eval.newId Eval.newId
  /-- Both arrow functions that are made at a place may see what is in sight. -/
  expr_inSight : ∀ {body : ArrowBody},
    AllNodes P body.nodes → expr (L.sees body) Eval.inSight Eval.inSight

/-- How two related statements end. -/
inductive Flow.Like (L : Likeness) : Flow → Flow → Prop
  | next {last last' : Option Value} : Option.Rel L.like last last' →
      Flow.Like L (.next last) (.next last')
  | done {v w : Value} : L.like v w → Flow.Like L (.done v) (.done w)

/-- What a body is worth: nothing, unless it returned. -/
theorem Flow.Like.bodyValue {L : Likeness} {a b : Flow} (h : Flow.Like L a b) :
    L.like a.bodyValue b.bodyValue := by
  cases h with
  | next _ => exact L.like_undefined
  | done hv => exact hv

/-- What a program is worth: its last value, unless it returned. -/
theorem Flow.Like.programValue {L : Likeness} {a b : Flow} (h : Flow.Like L a b) :
    L.like a.programValue b.programValue := by
  cases h with
  | next hl =>
    cases hl with
    | none => exact L.like_undefined
    | some hv => exact hv
  | done hv => exact hv

/-- The two evaluators of a call do the same with a call at a place. -/
def Simulation.Calls {L : Likeness} {P : Span → Form → Prop} (sim : Simulation L P)
    (invoke invoke' : Invoke) : Prop :=
  ∀ ⦃span : Span⦄ ⦃form : Form⦄ ⦃params : List String⦄ ⦃body : ArrowBody⦄ ⦃seen seen' : Env⦄
    ⦃args args' : List Value⦄,
    P span form → L.sees body seen seen' → List.Forall₂ L.like args args' →
    sim.expr L.like (invoke body (frame seen params args) span)
      (invoke' (body.moved L.move) (frame seen' params args') (L.move span))

namespace Simulation

variable {L : Likeness} {P : Span → Form → Prop} (sim : Simulation L P)

/-- What is done with a value afterwards may be a function of it. -/
theorem expr_map {α β γ δ : Type} {S : α → β → Prop} {T : γ → δ → Prop} {m : Eval α} {m' : Eval β}
    {f : α → γ} {g : β → δ} (h : sim.expr S m m') (hfg : ∀ a b, S a b → T (f a) (g b)) :
    sim.expr T (m >>= fun a => pure (f a)) (m' >>= fun b => pure (g b)) :=
  sim.expr_bind h fun a b hab => sim.expr_pure (hfg a b hab)

theorem stmt_pure {α β : Type} {S : α → β → Prop} {a : α} {b : β} (h : S a b) :
    sim.stmt S (pure a) (pure b) :=
  sim.stmt_of_expr (sim.expr_pure h)

/-- Results that agree, taken over into an evaluation. -/
theorem expr_settle {α β : Type} {S : α → β → Prop} {span : Span} {form : Form}
    {r : Except Failure α} {r' : Except Failure β} (hP : P span form)
    (h : Agree L.move span S r r') :
    sim.expr S (Eval.settle r) (Eval.settle r') := by
  cases h with
  | ok hab => exact sim.expr_pure hab
  | error hf => exact sim.expr_fail hP hf

/-! ## Methods that call back

  The function that is called may bind names and may fail, and it is called in the context that
  the call before has left; both evaluations do so in step, since they stop at the same items. -/

section Search

variable {f f' : Value → Nat → Eval Value}

/-- Two items at one place. -/
def SameItem (L : Likeness) (a b : Value × Nat) : Prop := L.like a.1 b.1 ∧ a.2 = b.2

/-- The search that `every`, `some`, `find` and `findIndex` share. -/
theorem firstWhere_related (hf : ∀ v w i, L.like v w → sim.expr L.like (f v i) (f' w i))
    (wanted : Bool) {xs ys : List Value} (h : List.Forall₂ L.like xs ys) (i : Nat) :
    sim.expr (Option.Rel (SameItem L)) (ListSearch.firstWhere f wanted xs i)
      (ListSearch.firstWhere f' wanted ys i) := by
  induction h generalizing i with
  | nil => exact sim.expr_pure .none
  | cons hv _ ih =>
    refine sim.expr_bind (hf _ _ i hv) fun r r' hr => ?_
    -- both searches stop at this item, or neither does
    rw [L.truthy_eq hr]
    split
    · exact sim.expr_pure (.some ⟨hv, rfl⟩)
    · exact ih (i + 1)

/-- The items that a filter keeps stand at the same places. -/
theorem kept_related (hf : ∀ v w i, L.like v w → sim.expr L.like (f v i) (f' w i))
    {xs ys : List Value} (h : List.Forall₂ L.like xs ys) (i : Nat) :
    sim.expr (List.Forall₂ L.like) (ListSearch.kept f xs i) (ListSearch.kept f' ys i) := by
  induction h generalizing i with
  | nil => exact sim.expr_pure .nil
  | cons hv _ ih =>
    refine sim.expr_bind (hf _ _ i hv) fun r r' hr => ?_
    refine sim.expr_map (ih (i + 1)) fun more more' hmore => ?_
    rw [L.truthy_eq hr]
    split
    · exact .cons hv hmore
    · exact hmore

/-- The results of a callback, item by item. -/
theorem mapped_related (hf : ∀ v w i, L.like v w → sim.expr L.like (f v i) (f' w i))
    {xs ys : List Value} (h : List.Forall₂ L.like xs ys) (i : Nat) :
    sim.expr (List.Forall₂ L.like) (ListSearch.mapped f xs i) (ListSearch.mapped f' ys i) := by
  induction h generalizing i with
  | nil => exact sim.expr_pure .nil
  | cons hv _ ih =>
    refine sim.expr_bind (hf _ _ i hv) fun r r' hr => ?_
    exact sim.expr_map (ih (i + 1)) fun _ _ hmore => .cons hr hmore

/-- A method of a list that calls back, if the function called does the same for related items. -/
theorem search_related (hf : ∀ v w i, L.like v w → sim.expr L.like (f v i) (f' w i))
    (s : ListSearch) {xs ys : List Value} (h : List.Forall₂ L.like xs ys) :
    sim.expr L.like (s.call f xs) (s.call f' ys) := by
  have hw : ∀ wanted, sim.expr (Option.Rel (SameItem L)) (ListSearch.firstWhere f wanted xs 0)
      (ListSearch.firstWhere f' wanted ys 0) :=
    fun wanted => sim.firstWhere_related hf wanted h 0
  cases s with
  | every | some_ =>
    refine sim.expr_map (hw _) fun a b hab => ?_
    cases hab <;> exact L.like_bool _
  | find =>
    refine sim.expr_map (hw true) fun a b hab => ?_
    cases hab with
    | none => exact L.like_undefined
    | some hi => exact hi.1
  -- the place of an item is the same, not only related
  | findIndex =>
    refine sim.expr_map (hw true) fun a b hab => ?_
    cases hab with
    | none => exact L.like_number _
    | @some p q hi =>
      show L.like (.number (Float.ofNat p.2)) (.number (Float.ofNat q.2))
      rw [hi.2]
      exact L.like_number _
  | filter => exact sim.expr_map (sim.kept_related hf h 0) fun _ _ hk => L.like_list hk
  | map => exact sim.expr_map (sim.mapped_related hf h 0) fun _ _ hm => L.like_list hm

end Search

theorem isSome_eq {α β : Type} {R : α → β → Prop} {o : Option α} {p : Option β}
    (h : Option.Rel R o p) : o.isSome = p.isSome := by
  cases h <;> rfl

/-! ## Calls

  Whether something can be called, and by what name, is decided by the outermost level of a
  value, which is the same in both evaluations. -/

section Calls

variable {invoke invoke' : Invoke} {span : Span} {form : Form} {v w : Value}
  {args args' : List Value}

/-- Functions of arguments and a place that do the same at a place. -/
def SameAt (sim : Simulation L P) (span : Span) (m m' : List Value → Span → Eval Value) : Prop :=
  ∀ args args', List.Forall₂ L.like args args' →
    sim.expr L.like (m args span) (m' args' (L.move span))

/-- **A call of a value**: native, an arrow function, or no function at all. -/
theorem callValue_related (hcall : sim.Calls invoke invoke') (hP : P span form)
    (h : L.like v w) (ha : List.Forall₂ L.like args args') :
    sim.expr L.like (callValue invoke v args span) (callValue invoke' w args' (L.move span)) := by
  have hno : ∀ type : String, PointsTo span (.notFunction type span) :=
    fun _ s hs => (Option.some.inj hs).symm
  cases L.shape h with
  -- a native function is the same function, and it may fail at this place
  | native n => exact sim.expr_settle hP (L.native_agree n ha span)
  | arrow id params hbody hs =>
    rw [hbody]
    exact hcall hP hs ha
  | undefined | null | bool | number | string | list | object | pattern =>
    exact sim.expr_fail hP (hno _)

/-- Related values have the same methods. -/
theorem method?_related (hcall : sim.Calls invoke invoke') (hP : P span form) (h : L.like v w)
    (name : String) :
    Option.Rel (sim.SameAt span) (method? invoke v name) (method? invoke' w name) := by
  cases L.shape h with
  | string s =>
    simp only [method?]
    cases TextMethod.all.find? (·.name = name) with
    | none => exact .none
    | some m => exact .some fun _ _ ha => sim.expr_settle hP (L.textMethod_agree m s ha)
  | list hs =>
    simp only [method?]
    cases ListMethod.all.find? (·.name = name) with
    | some m => exact .some fun _ _ ha => sim.expr_pure (L.listMethod_like m hs ha)
    | none =>
      cases ListSearch.all.find? (·.name = name) with
      | none => exact .none
      | some m =>
        -- a call back is a call at the place where the method is called
        refine .some fun _ _ ha => sim.search_related (fun a b i hab => ?_) m hs
        exact sim.callValue_related hcall hP (L.arg_like ha 0)
          (.cons hab (.cons (L.like_number _) .nil))
  | object hs =>
    simp only [method?]
    split
    · refine .some fun args args' ha => sim.expr_pure ?_
      rw [L.text_eq _ (L.arg_like ha 0)]
      rw [isSome_eq (L.find?_like hs (arg args' 0).text)]
      exact L.like_bool _
    · exact .none
  | pattern p =>
    simp only [method?]
    split
    · refine .some fun args args' ha => sim.expr_pure ?_
      rw [L.text_eq _ (L.arg_like ha 0)]
      exact L.like_bool _
    · exact .none
  | undefined | null | bool | number | arrow | native => exact .none

/-- A member of the value itself, or else a method, is called. -/
theorem member_or_method_related (hcall : sim.Calls invoke invoke') (hP : P span form)
    {own own' : Option Value} {m m' : Option (List Value → Span → Eval Value)}
    (ha : List.Forall₂ L.like args args') (type name : String) :
    Option.Rel L.like own own' → Option.Rel (sim.SameAt span) m m' →
    sim.expr L.like
      (match own, m with
        | some f, _ => callValue invoke f args span
        | none, some m => m args span
        | none, none => Eval.fail (.noMethod type name span))
      (match own', m' with
        | some f, _ => callValue invoke' f args' (L.move span)
        | none, some m => m args' (L.move span)
        | none, none => Eval.fail (.noMethod type name (L.move span))) := by
  intro ho hm
  cases ho with
  | some hf => exact sim.callValue_related hcall hP hf ha
  | none =>
    cases hm with
    | some hm => exact hm _ _ ha
    | none => exact sim.expr_fail hP fun s hs => (Option.some.inj hs).symm

/-- **A call of a method.** Only an object has members of its own to prefer. -/
theorem callMethod_related (hcall : sim.Calls invoke invoke') (hP : P span form)
    (h : L.like v w) (name : String) (ha : List.Forall₂ L.like args args') :
    sim.expr L.like (callMethod invoke v name args span)
      (callMethod invoke' w name args' (L.move span)) := by
  -- the method is looked up on both sides before anything is decided
  have hm := sim.method?_related hcall hP h name
  have hnone : Option.Rel L.like none none := .none
  cases L.shape h with
  | object hs =>
    exact sim.member_or_method_related hcall hP ha "object" name (L.find?_like hs name) hm
  | undefined | null | bool | number | string | list | pattern | arrow | native =>
    exact sim.member_or_method_related hcall hP ha _ name hnone hm

/-- What a property of nothing gives: nothing, or a failure here. -/
theorem readNullish_related (hP : P span form) (h : L.like v w) (property : String)
    (optional : Bool) :
    sim.expr L.like (readNullish v property optional span)
      (readNullish w property optional (L.move span)) := by
  unfold readNullish
  rw [L.typeName_eq h]
  split
  · exact sim.expr_pure L.like_undefined
  · refine sim.expr_fail hP fun s hs => ?_
    exact (Option.some.inj hs).symm

end Calls

/-! ## Expressions

  By recursion on the tree.  A call of a member is no call of an expression that happens to be a
  member: the two forms are told apart before anything is evaluated. -/

section Tree

variable {invoke invoke' : Invoke}

/-- A call of an expression that is no member evaluates that expression. -/
theorem evalForm_call (span : Span) (callee : Expr) (args : List Expr)
    (h : ∀ s object property optional, callee = .mk s (.member object property optional) → False) :
    evalForm invoke span (.call callee args) = (do
      let f ← evalExpr invoke callee
      let values ← evalExprs invoke args
      callValue invoke f values span) := by
  rw [evalForm]
  exact h

mutual
/-- **Every expression is related to itself**, one level deeper than its form. -/
theorem eval_expr (hcall : sim.Calls invoke invoke') : ∀ e : Expr, AllNodes P e.nodes →
    sim.expr L.like (evalExpr invoke e) (evalExpr invoke' (e.moved L.move))
  | .mk span form, h => by
    rw [Expr.nodes] at h
    simp only [Expr.moved, evalExpr]
    exact sim.expr_nested h.head (eval_form hcall span form h.head h.tail)
/-- Every form, by the construct it is. -/
theorem eval_form (hcall : sim.Calls invoke invoke') (span : Span) : ∀ form : Form,
    P span form → AllNodes P form.parts →
    sim.expr L.like (evalForm invoke span form)
      (evalForm invoke' (L.move span) (form.moved L.move))
  | .undefined, _, _ => by
    simp only [Form.moved, evalForm]
    exact sim.expr_pure L.like_undefined
  | .null, _, _ => by
    simp only [Form.moved, evalForm]
    exact sim.expr_pure L.like_null
  | .bool b, _, _ => by
    simp only [Form.moved, evalForm]
    exact sim.expr_pure (L.like_bool b)
  | .number x, _, _ => by
    simp only [Form.moved, evalForm]
    exact sim.expr_pure (L.like_number x)
  | .string s, _, _ => by
    simp only [Form.moved, evalForm]
    exact sim.expr_pure (L.like_string s)
  -- a pattern is compiled when it is evaluated, so that it may fail at its place
  | .regex source flags, hP, _ => by
    simp only [Form.moved, evalForm]
    refine sim.expr_settle hP ((compilePattern_agree source flags).map ?_)
    rintro p _ rfl
    exact L.like_pattern p
  | .name s, hP, _ => by
    simp only [Form.moved, evalForm]
    exact sim.expr_look hP
  | .array items, _, h => by
    rw [Form.parts] at h
    simp only [Form.moved, evalForm]
    exact sim.expr_map (eval_exprs hcall items h) fun _ _ hvs => L.like_list hvs
  | .object members, _, h => by
    rw [Form.parts] at h
    simp only [Form.moved, evalForm]
    exact sim.expr_map (eval_members hcall members h .nil) fun _ _ hms => L.like_object hms
  | .member object property optional, hP, h => by
    rw [Form.parts] at h
    simp only [Form.moved, evalForm]
    refine sim.expr_bind (eval_expr hcall object h) fun v w hv => ?_
    rw [L.isNullish_eq hv]
    split
    · exact sim.readNullish_related hP hv property optional
    · exact sim.expr_pure (L.property_like hv property)
  | .index object index, hP, h => by
    rw [Form.parts] at h
    simp only [Form.moved, evalForm]
    refine sim.expr_bind (eval_expr hcall object h.left) fun v w hv => ?_
    refine sim.expr_bind (eval_expr hcall index h.right) fun key key' hk => ?_
    rw [L.isNullish_eq hv, L.text_eq key hk]
    split
    · exact sim.readNullish_related hP hv _ false
    · exact sim.expr_pure (L.at_like hv hk)
  | .call callee args, hP, h => by
    -- a member that is called is not read first: its object is evaluated, then the arguments
    rw [Form.parts] at h
    have hargs := eval_exprs hcall args h.right
    by_cases hm : ∃ s object property optional,
        callee = .mk s (.member object property optional)
    · obtain ⟨s, object, property, optional, rfl⟩ := hm
      have ho : AllNodes P object.nodes := h.left.tail
      simp only [Form.moved, Expr.moved, evalForm]
      refine sim.expr_bind (eval_expr hcall object ho) fun v w hv => ?_
      rw [L.isNullish_eq hv]
      split
      · exact sim.readNullish_related hP hv property optional
      · refine sim.expr_bind hargs fun vs ws hvs => ?_
        exact sim.callMethod_related hcall hP hv property hvs
    · have hno : ∀ s object property optional,
          callee = .mk s (.member object property optional) → False :=
        fun s object property optional he => hm ⟨s, object, property, optional, he⟩
      have hno' : ∀ s object property optional,
          callee.moved L.move = .mk s (.member object property optional) → False := by
        intro s object property optional he
        obtain ⟨s, object, he⟩ := Expr.eq_member_of_moved he
        exact hno s object property optional he
      rw [Form.moved, evalForm_call span callee args hno,
        evalForm_call (L.move span) (callee.moved L.move) _ hno']
      refine sim.expr_bind (eval_expr hcall callee h.left) fun f g hf => ?_
      refine sim.expr_bind hargs fun vs ws hvs => ?_
      exact sim.callValue_related hcall hP hf hvs
  | .unary op operand, _, h => by
    rw [Form.parts] at h
    simp only [Form.moved, evalForm]
    exact sim.expr_map (eval_expr hcall operand h) fun _ _ hv => L.unary_like op hv
  | .binary op lhs rhs, _, h => by
    rw [Form.parts] at h
    simp only [Form.moved, evalForm]
    refine sim.expr_bind (eval_expr hcall lhs h.left) fun a b ha => ?_
    -- the first operand may decide alone, and then it does so in both
    have hrhs := eval_expr hcall rhs h.right
    rw [L.decided?_eq op ha]
    split
    · exact sim.expr_pure ha
    · exact hrhs
    · exact sim.expr_map hrhs fun _ _ hv => L.binary_like op ha hv
  | .conditional condition yes no, _, h => by
    rw [Form.parts] at h
    simp only [Form.moved, evalForm]
    refine sim.expr_bind (eval_expr hcall condition h.left) fun a b ha => ?_
    rw [L.truthy_eq ha]
    split
    · exact eval_expr hcall yes h.right.left
    · exact eval_expr hcall no h.right.right
  | .arrow params body, _, h => by
    rw [Form.parts] at h
    simp only [Form.moved, evalForm]
    -- the body is not evaluated here: what it may see is all that is required
    refine sim.expr_bind sim.expr_newId fun id id' hid => ?_
    rw [hid]
    exact sim.expr_map (sim.expr_inSight h) fun _ _ hs => L.of_shape (.arrow id' params rfl hs)
/-- Arguments and items, from left to right. -/
theorem eval_exprs (hcall : sim.Calls invoke invoke') : ∀ es : List Expr,
    AllNodes P (nodesOfExprs es) →
    sim.expr (List.Forall₂ L.like) (evalExprs invoke es)
      (evalExprs invoke' (movedExprs L.move es))
  | [], _ => by
    simp only [movedExprs, evalExprs]
    exact sim.expr_pure .nil
  | e :: rest, h => by
    rw [nodesOfExprs] at h
    simp only [movedExprs, evalExprs]
    refine sim.expr_bind (eval_expr hcall e h.left) fun v w hv => ?_
    exact sim.expr_map (eval_exprs hcall rest h.right) fun _ _ hvs => .cons hv hvs
/-- Members, into what the earlier ones have left. -/
theorem eval_members (hcall : sim.Calls invoke invoke') : ∀ ms : List Member,
    AllNodes P (nodesOfMembers ms) → ∀ {acc acc' : List (String × Value)},
    List.Forall₂ (SameKey L.like) acc acc' →
    sim.expr (List.Forall₂ (SameKey L.like)) (evalMembers invoke ms acc)
      (evalMembers invoke' (movedMembers L.move ms) acc')
  | [], _, _, _, hacc => by
    simp only [movedMembers, evalMembers]
    exact sim.expr_pure hacc
  | .mk key e :: rest, h, _, _, hacc => by
    rw [nodesOfMembers] at h
    simp only [movedMembers, Member.moved, evalMembers]
    refine sim.expr_bind (eval_expr hcall e h.left) fun v w hv => ?_
    exact eval_members hcall rest h.right (L.insert_like key hv hacc)
end

/-! ## Statements -/

mutual
/-- **Every statement is related to itself.** -/
theorem exec_stmt (hcall : sim.Calls invoke invoke') : ∀ s : Stmt, AllNodes P s.nodes →
    sim.stmt (Flow.Like L) (execStmt invoke s) (execStmt invoke' (s.moved L.move))
  | .bind _ name value, h => by
    rw [Stmt.nodes] at h
    simp only [Stmt.moved, execStmt]
    refine sim.stmt_bind (sim.stmt_of_expr (sim.eval_expr hcall value h)) fun v w hv => ?_
    exact sim.stmt_bind (sim.stmt_bindName hv) fun _ _ _ => sim.stmt_pure (.next .none)
  -- a return ends the statements around it, and `Flow.done` says so
  | .returnValue _ value, h => by
    rw [Stmt.nodes] at h
    simp only [Stmt.moved, execStmt]
    exact sim.stmt_of_expr (sim.expr_map (sim.eval_expr hcall value h) fun _ _ hv => .done hv)
  | .returnNothing _, _ => by
    simp only [Stmt.moved, execStmt]
    exact sim.stmt_pure (.done L.like_undefined)
  | .ifThen condition yes, h => by
    rw [Stmt.nodes] at h
    simp only [Stmt.moved, execStmt]
    refine sim.stmt_bind (sim.stmt_of_expr (sim.eval_expr hcall condition h.left))
      fun a b ha => ?_
    rw [L.truthy_eq ha]
    split
    · exact exec_stmt hcall yes h.right
    · exact sim.stmt_pure (.next .none)
  | .ifElse condition yes no, h => by
    rw [Stmt.nodes] at h
    simp only [Stmt.moved, execStmt]
    refine sim.stmt_bind (sim.stmt_of_expr (sim.eval_expr hcall condition h.left))
      fun a b ha => ?_
    rw [L.truthy_eq ha]
    split
    · exact exec_stmt hcall yes h.right.left
    · exact exec_stmt hcall no h.right.right
  | .block body, h => by
    rw [Stmt.nodes] at h
    simp only [Stmt.moved, execStmt]
    exact sim.stmt_of_expr (sim.expr_inBlock (exec_stmts hcall body h .none))
  | .expr e, h => by
    rw [Stmt.nodes] at h
    simp only [Stmt.moved, execStmt]
    exact sim.stmt_of_expr
      (sim.expr_map (sim.eval_expr hcall e h) fun _ _ hv => .next (.some hv))
  | .empty, _ => by
    simp only [Stmt.moved, execStmt]
    exact sim.stmt_pure (.next .none)
/-- A list of statements, with the last value so far. -/
theorem exec_stmts (hcall : sim.Calls invoke invoke') : ∀ body : List Stmt,
    AllNodes P (nodesOfStmts body) → ∀ {last last' : Option Value},
    Option.Rel L.like last last' →
    sim.stmt (Flow.Like L) (execStmts invoke body last)
      (execStmts invoke' (movedStmts L.move body) last')
  | [], _, _, _, hlast => by
    simp only [movedStmts, execStmts]
    exact sim.stmt_pure (.next hlast)
  | s :: rest, h, _, _, hlast => by
    rw [nodesOfStmts] at h
    simp only [movedStmts, execStmts]
    refine sim.stmt_bind (exec_stmt hcall s h.left) fun a b hab => ?_
    -- a statement that returned ends the list in both
    cases hab with
    | done hv => exact sim.stmt_pure (.done hv)
    | next hn =>
      cases hn with
      | some hv => exact exec_stmts hcall rest h.right (.some hv)
      | none => exact exec_stmts hcall rest h.right hlast
end

/-- **The body of an arrow function is related to itself**, with other spans. -/
theorem body_related (hcall : sim.Calls invoke invoke') (body : ArrowBody)
    (h : AllNodes P body.nodes) :
    sim.stmt L.like (evalBody invoke body) (evalBody invoke' (body.moved L.move)) := by
  cases body with
  | value e =>
    rw [ArrowBody.nodes] at h
    rw [ArrowBody.moved]
    exact sim.stmt_of_expr (sim.eval_expr hcall e h)
  | block body =>
    rw [ArrowBody.nodes] at h
    rw [ArrowBody.moved]
    refine sim.stmt_bind (sim.exec_stmts hcall body h .none) fun a b hab => ?_
    exact sim.stmt_pure hab.bodyValue

/-- **A program is related to itself**, with other spans. -/
theorem program_related {fuel fuel' : Nat}
    (hcall : sim.Calls (invokeArrow fuel) (invokeArrow fuel')) (p : Program)
    (h : AllNodes P p.nodes) : sim.stmt L.like (runWith fuel p) (runWith fuel' (p.moved L.move)) :=
  sim.stmt_bind (sim.exec_stmts hcall p.body h .none) fun _ _ hab =>
    sim.stmt_pure hab.programValue

end Tree

end Simulation

end ExerciseGrading.Snippet
