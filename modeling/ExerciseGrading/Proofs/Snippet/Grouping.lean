/-
  GROUPING: which tree the operators of a chain make.

  A chain is read as a flat row of tokens, and `tree?` makes its tree with one loop over the row,
  led by the binding powers of a table.  What the tree should be is said without powers and without
  a loop:

    * an operand is its primary expression, with what follows it applied from left to right, and
      then the operators in front of it from the inside out: `Operand.Means`;
    * a chain with operators is split at the rightmost of its loosest operators, and each side is
      grouped by itself: `Grouped`.  How loose an operator is, `tiers` says.

  1. `Grouped.unique` — the splitting leaves no choice.
  2. `expression_operand` — an operand at the head of a row is passed with the tree that it means,
     whatever the bound, since signs and what follows an operand bind more tightly than every
     operator between two.
  3. `extend_grouped` — the crux.  The loop holds a tree of the segment that it has passed, and the
     next operator binds no more tightly than any in the segment; so what it adds is again split in
     the way of `Grouped`.  What it leaves begins with an operator that the bound holds back.
  4. `row_eq` — the grammar reads rows that are chains, token by token.
  5. `chain_eq_some_iff` — a chain is read as the expression that its row means, and every row that
     is read makes one.
-/
import ExerciseGrading.Snippet.Grammar
import Mathlib.Data.List.Forall2
import Mathlib.Data.List.Induction

namespace ExerciseGrading.Snippet

open ExerciseGrading.Snippet.Rule

/-! ## Chains as they stand -/

/-- An operand as it stands: operators in front, a primary expression, what follows it. -/
structure Operand where
  signs : List (Span × UnaryOp)
  core : Expr
  parts : List (Span × Postfix)

/-- A chain as it stands: an operand, and operators with the operands after them. -/
structure Chain where
  first : Operand
  rest : List (BinaryOp × Operand)

/-- The tokens of an operand, in a row. -/
def Operand.tokens (o : Operand) : List Token :=
  o.signs.map .sign ++ .primary o.core :: o.parts.map .part

/-- The tokens of operators with the operands after them. -/
def linkTokens (ops : List (BinaryOp × Operand)) : List Token :=
  ops.flatMap fun x => .operator x.1 :: x.2.tokens

/-- The tokens of a chain, each once and in their order. -/
def Chain.tokens (c : Chain) : List Token := c.first.tokens ++ linkTokens c.rest

/-! ## What they mean -/

/-- What an operand means: what follows it comes first, from left to right, and then the operators
    in front of it, from the inside out. -/
inductive Operand.Means : Operand → Expr → Prop where
  | core (e : Expr) : Means ⟨[], e, []⟩ e
  | member {core e : Expr} {parts : List (Span × Postfix)} (span : Span) (property : String)
    (isOptional : Bool) :
    Means ⟨[], core, parts⟩ e →
    Means ⟨[], core, parts ++ [(span, .member property isOptional)]⟩
      (.mk (e.span.join span) (.member e property isOptional))
  | index {core e : Expr} {parts : List (Span × Postfix)} (span : Span) (key : Expr) :
    Means ⟨[], core, parts⟩ e →
    Means ⟨[], core, parts ++ [(span, .index key)]⟩ (.mk (e.span.join span) (.index e key))
  | call {core e : Expr} {parts : List (Span × Postfix)} (span : Span) (args : List Expr) :
    Means ⟨[], core, parts⟩ e →
    Means ⟨[], core, parts ++ [(span, .call args)]⟩ (.mk (e.span.join span) (.call e args))
  | sign {signs : List (Span × UnaryOp)} {core e : Expr} {parts : List (Span × Postfix)}
    (span : Span) (op : UnaryOp) :
    Means ⟨signs, core, parts⟩ e →
    Means ⟨(span, op) :: signs, core, parts⟩ (.mk (span.join e.span) (.unary op e))

/-- The operators from the loosest to the tightest; those of one tier bind alike. -/
def tiers : List (List BinaryOp) :=
  [[.or], [.and], [.strictEq, .strictNe, .eq, .ne], [.lt, .le, .gt, .ge], [.add, .sub],
    [.mul, .div, .rem]]

/-- The tier of an operator. -/
def BinaryOp.tier (op : BinaryOp) : Nat := tiers.findIdx (·.contains op)

/-- What an operand and the operators after it mean: they are split at the rightmost of the loosest
    operators. -/
inductive Grouped : Operand → List (BinaryOp × Operand) → Expr → Prop where
  | operand {o : Operand} {e : Expr} : o.Means e → Grouped o [] e
  | split {first mid : Operand} {left right : List (BinaryOp × Operand)} {op : BinaryOp}
    {lhs rhs : Expr} :
    (∀ x ∈ left, op.tier ≤ x.1.tier) → (∀ x ∈ right, op.tier < x.1.tier) →
    Grouped first left lhs → Grouped mid right rhs →
    Grouped first (left ++ (op, mid) :: right)
      (.mk (lhs.span.join rhs.span) (.binary op lhs rhs))

/-- What a chain means. -/
def Chain.Means (c : Chain) (e : Expr) : Prop := Grouped c.first c.rest e

/-! ### There is one meaning -/

/-- An operand with one more of what follows it. -/
def withPart (e : Expr) (p : Span × Postfix) : Expr := .mk (e.span.join p.1) (p.2.form e)

/-- An operand with one more operator in front. -/
def withSign (s : Span × UnaryOp) (e : Expr) : Expr := .mk (s.1.join e.span) (.unary s.2 e)

/-- The expression that an operand means, with its parts and operators applied by folds. -/
def Operand.tree (o : Operand) : Expr := o.signs.foldr withSign (o.parts.foldl withPart o.core)

/-- The three kinds of parts are one case. -/
theorem Operand.Means.part {core e : Expr} {parts : List (Span × Postfix)} (p : Span × Postfix)
    (h : Operand.Means ⟨[], core, parts⟩ e) :
    Operand.Means ⟨[], core, parts ++ [p]⟩ (withPart e p) := by
  obtain ⟨span, kind⟩ := p
  cases kind with
  | member property isOptional => exact .member span property isOptional h
  | index key => exact .index span key h
  | call args => exact .call span args h

/-- Induction over what an operand means, with the three kinds of parts as one case. -/
@[elab_as_elim]
theorem Operand.Means.byParts {motive : (o : Operand) → (e : Expr) → o.Means e → Prop}
    (core : ∀ e, motive ⟨[], e, []⟩ e (.core e))
    (part : ∀ {core e : Expr} {parts : List (Span × Postfix)} (p : Span × Postfix)
      (h : Operand.Means ⟨[], core, parts⟩ e), motive _ _ h →
      motive ⟨[], core, parts ++ [p]⟩ (withPart e p) (h.part p))
    (sign : ∀ {signs : List (Span × UnaryOp)} {core e : Expr} {parts : List (Span × Postfix)}
      (s : Span × UnaryOp) (h : Operand.Means ⟨signs, core, parts⟩ e), motive _ _ h →
      motive ⟨s :: signs, core, parts⟩ (withSign s e) (.sign s.1 s.2 h))
    {o : Operand} {e : Expr} (h : o.Means e) : motive o e h := by
  induction h with
  | core e => exact core e
  | member span property isOptional h ih => exact part (span, .member property isOptional) h ih
  | index span key h ih => exact part (span, .index key) h ih
  | call span args h ih => exact part (span, .call args) h ih
  | sign span op h ih => exact sign (span, op) h ih

/-- An operand means its tree. -/
theorem Operand.means_tree (o : Operand) : o.Means o.tree := by
  obtain ⟨signs, core, parts⟩ := o
  induction signs with
  | nil =>
    -- from the last part backwards, since that is applied last
    induction parts using List.reverseRecOn with
    | nil => exact .core core
    | append_singleton parts p ih =>
      have hstep := ih.part p
      rw [tree, List.foldl_append]
      exact hstep
  | cons s signs ih => exact .sign s.1 s.2 ih

/-- The folds on an operand with one more part. -/
theorem Operand.tree_concat (core : Expr) (parts : List (Span × Postfix)) (p : Span × Postfix) :
    Operand.tree ⟨[], core, parts ++ [p]⟩ = withPart (Operand.tree ⟨[], core, parts⟩) p := by
  rw [tree, List.foldl_append]
  rfl

/-- An operand means nothing but its tree. -/
theorem Operand.Means.eq_tree {o : Operand} {e : Expr} (h : o.Means e) : e = o.tree := by
  induction h using Operand.Means.byParts with
  | core e => rfl
  | part p _ ih => rw [ih, tree_concat]
  | sign s _ ih => rw [ih]; rfl

/-- A chain without operators is an operand, and every other one is split somewhere. -/
theorem Grouped.operand_or_split {first : Operand} {ops : List (BinaryOp × Operand)} {e : Expr}
    (h : Grouped first ops e) :
    (ops = [] ∧ first.Means e) ∨
    ∃ left op mid right lhs rhs, ops = left ++ (op, mid) :: right ∧
      e = .mk (lhs.span.join rhs.span) (.binary op lhs rhs) ∧
      (∀ x ∈ left, op.tier ≤ x.1.tier) ∧ (∀ x ∈ right, op.tier < x.1.tier) ∧
      Grouped first left lhs ∧ Grouped mid right rhs := by
  cases h with
  | operand hmeans => exact .inl ⟨rfl, hmeans⟩
  | split hleft hright hl hr =>
    exact .inr ⟨_, _, _, _, _, _, rfl, rfl, hleft, hright, hl, hr⟩

/-- Of two places to split at, neither stands to the right of the other. -/
theorem split_not_later {left left' right right' more : List (BinaryOp × Operand)}
    {x x' : BinaryOp × Operand} (hright : ∀ y ∈ right, x.1.tier < y.1.tier)
    (hleft' : ∀ y ∈ left', x'.1.tier ≤ y.1.tier) (hmore : left' = left ++ more)
    (hrest : x :: right = more ++ x' :: right') : more = [] := by
  cases more with
  | nil => rfl
  | cons y more =>
    obtain ⟨rfl, rfl⟩ := List.cons.inj hrest
    have hlater : x.1.tier < x'.1.tier :=
      hright x' (List.mem_append_right _ List.mem_cons_self)
    have hearlier : x'.1.tier ≤ x.1.tier := by
      refine hleft' x ?_
      rw [hmore]
      exact List.mem_append_right _ List.mem_cons_self
    omega

/-- The rightmost of the loosest operators stands in one place. -/
theorem split_unique {left left' right right' : List (BinaryOp × Operand)}
    {x x' : BinaryOp × Operand} (hleft : ∀ y ∈ left, x.1.tier ≤ y.1.tier)
    (hright : ∀ y ∈ right, x.1.tier < y.1.tier) (hleft' : ∀ y ∈ left', x'.1.tier ≤ y.1.tier)
    (hright' : ∀ y ∈ right', x'.1.tier < y.1.tier)
    (h : left ++ x :: right = left' ++ x' :: right') : left = left' ∧ x = x' ∧ right = right' := by
  have hsame : left = left' := by
    rcases List.append_eq_append_iff.mp h with ⟨more, hmore, hrest⟩ | ⟨more, hmore, hrest⟩
    · rw [hmore, split_not_later hright hleft' hmore hrest, List.append_nil]
    · rw [hmore, split_not_later hright' hleft hmore hrest, List.append_nil]
  subst hsame
  exact ⟨rfl, List.cons.inj (List.append_cancel_left h)⟩

/-- **The splitting leaves no choice.** -/
theorem Grouped.unique {first : Operand} {ops : List (BinaryOp × Operand)} {e e' : Expr}
    (h : Grouped first ops e) (h' : Grouped first ops e') : e = e' := by
  induction h generalizing e' with
  | operand hmeans =>
    rcases h'.operand_or_split with ⟨-, hmeans'⟩ | ⟨left, op, mid, right, lhs, rhs, hops, -⟩
    · rw [hmeans.eq_tree, hmeans'.eq_tree]
    · exact absurd hops.symm (List.append_ne_nil_of_right_ne_nil left (List.cons_ne_nil _ right))
  | split hleft hright _ _ ihl ihr =>
    rcases h'.operand_or_split with ⟨hops, -⟩ | ⟨left, op, mid, right, lhs, rhs, hops, rfl,
      hleft', hright', hl', hr'⟩
    · exact absurd hops (List.append_ne_nil_of_right_ne_nil _ (List.cons_ne_nil _ _))
    · obtain ⟨rfl, hx, rfl⟩ := split_unique hleft hright hleft' hright' hops
      obtain ⟨rfl, rfl⟩ := Prod.mk.inj hx
      rw [ihl hl', ihr hr']

/-! ### Chains whose operands are related -/

section Related

variable {R : Expr → Expr → Prop} {ops ops' : List (BinaryOp × Operand)}

/-- One operator, with operands behind it whose trees are related. -/
def LinkRelated (R : Expr → Expr → Prop) (x y : BinaryOp × Operand) : Prop :=
  x.1 = y.1 ∧ R x.2.tree y.2.tree

/-- What holds of the operators of one chain holds of those of the other. -/
theorem operators_related {p : BinaryOp → Prop} (h : List.Forall₂ (LinkRelated R) ops ops')
    (hp : ∀ x ∈ ops, p x.1) : ∀ y ∈ ops', p y.1 := by
  induction h with
  | nil => exact fun _ hy => absurd hy List.not_mem_nil
  | cons hxy _ ih =>
    intro y hy
    rcases List.mem_cons.mp hy with rfl | hy
    · rw [← hxy.1]
      exact hp _ List.mem_cons_self
    · exact ih (fun x hx => hp x (List.mem_cons_of_mem _ hx)) y hy

/-- **Chains with related operands mean related trees**, if operators keep the relation: they are
    split at the same place. -/
theorem Grouped.related
    (hbinary : ∀ (op : BinaryOp) (span span' : Span) {lhs lhs' rhs rhs' : Expr}, R lhs lhs' →
      R rhs rhs' → R (.mk span (.binary op lhs rhs)) (.mk span' (.binary op lhs' rhs')))
    {first first' : Operand} {e : Expr} (h : Grouped first ops e)
    (hfirst : R first.tree first'.tree) (hops : List.Forall₂ (LinkRelated R) ops ops') :
    ∃ e', Grouped first' ops' e' ∧ R e e' := by
  induction h generalizing first' ops' with
  | operand hmeans =>
    cases hops
    refine ⟨first'.tree, .operand first'.means_tree, ?_⟩
    rw [hmeans.eq_tree]
    exact hfirst
  | @split first mid left right op lhs rhs hleft hright _ _ ihl ihr =>
    have hops_left := List.forall₂_take left.length hops
    have hops_right := List.forall₂_drop left.length hops
    rw [List.take_left] at hops_left
    rw [List.drop_left] at hops_right
    rw [← List.take_append_drop left.length ops']
    generalize ops'.take left.length = left' at hops_left
    generalize ops'.drop left.length = rest' at hops_right
    cases hops_right with
    | @cons _ x _ right' hx hops_right =>
      obtain ⟨op', mid'⟩ := x
      obtain ⟨rfl, hmid⟩ := hx
      obtain ⟨lhs', hlhs', hlhs⟩ := ihl hfirst hops_left
      obtain ⟨rhs', hrhs', hrhs⟩ := ihr hmid hops_right
      have hleft' := operators_related (p := fun o => op.tier ≤ o.tier) hops_left hleft
      have hright' := operators_related (p := fun o => op.tier < o.tier) hops_right hright
      exact ⟨_, .split hleft' hright' hlhs' hrhs', hbinary _ _ _ hlhs hrhs⟩

end Related

/-! ## Binding powers

  The table gives numbers, and the tiers give an order.  All that the loop asks of a number is
  whether it is above the bound, so that the two are compared here and the numbers are not seen
  again. -/

/-- The power of an operator between two operands, from its tier. -/
def BinaryOp.power (op : BinaryOp) : Nat := powerStep * (op.tier + 2)

/-- Of two operators the tighter one has the greater power. -/
theorem BinaryOp.power_lt_iff {op op' : BinaryOp} : op.power < op'.power ↔ op.tier < op'.tier := by
  unfold BinaryOp.power powerStep
  omega

/-- In the table an operator has the power of its tier. A sign binds more tightly than any of them,
    and what follows an operand more tightly still. -/
theorem binding_operator (op : BinaryOp) :
    (Token.operator op).binding? = some ⟨.between .left, op.power⟩ := by
  cases op <;> rfl

theorem binding_sign (s : Span × UnaryOp) : (Token.sign s).binding? = some ⟨.before, 80⟩ := by
  obtain ⟨span, op⟩ := s
  cases op <;> rfl

theorem binding_part (p : Span × Postfix) : (Token.part p).binding? = some ⟨.after, 90⟩ := by
  obtain ⟨span, kind⟩ := p
  cases kind with
  | member property isOptional => cases isOptional <;> rfl
  | index | call => rfl

theorem binding_primary (e : Expr) : (Token.primary e).binding? = none := rfl

/-- No operator between two operands binds as tightly as a sign. -/
theorem BinaryOp.power_lt_sign (op : BinaryOp) : op.power < 80 := by
  cases op <;> decide

/-! ## The loop

  `extend` holds a tree and goes on with the row.  What it does at a part, at an operator that
  is held back and at one that passes is said once each; behind a sign and behind an operator it
  meets an operand, and `expression_operand` passes that as a whole. -/

variable {n bound : Nat} {lhs : Expr} {first o : Operand} {seg rest : List (BinaryOp × Operand)}

/-- Fuel for a row with a token in front is one more than fuel for the row. -/
theorem exists_fuel {t : Token} {ts : List Token} (h : (t :: ts).length ≤ n) :
    ∃ m, n = m + 1 ∧ ts.length ≤ m := by
  cases n with
  | zero => exact absurd h (Nat.not_succ_le_zero _)
  | succ m => exact ⟨m, rfl, Nat.le_of_succ_le_succ h⟩

/-- Where the loop comes to an operator that the bound holds back, or to the end, it stops. -/
theorem extend_stop (hn : (linkTokens rest).length ≤ n)
    (hrest : ∀ x ∈ rest.head?, x.1.power ≤ bound) :
    extend n bound lhs (linkTokens rest) = some (lhs, linkTokens rest) := by
  cases rest with
  | nil => rw [linkTokens, List.flatMap_nil, extend]
  | cons x rest =>
    obtain ⟨n, rfl, -⟩ := exists_fuel hn
    have hheld : ¬ bound < x.1.power := Nat.not_lt_of_le (hrest x rfl)
    rw [linkTokens, List.flatMap_cons, List.cons_append, extend, binding_operator]
    dsimp only
    rw [if_neg hheld]

/-- What follows an operand is taken at once, under every bound there is. -/
theorem extend_parts {parts : List (Span × Postfix)} {more : List Token} (hbound : bound < 90)
    (hn : (parts.map Token.part ++ more).length ≤ n) :
    extend n bound lhs (parts.map .part ++ more) =
      extend (n - parts.length) bound (parts.foldl withPart lhs) more := by
  induction parts generalizing n lhs with
  | nil => rfl
  | cons p parts ih =>
    obtain ⟨n, rfl, hn'⟩ := exists_fuel hn
    have hstep : extend (n + 1) bound lhs (.part p :: (parts.map .part ++ more)) =
        extend n bound (withPart lhs p) (parts.map .part ++ more) := by
      rw [extend, binding_part]
      dsimp only
      rw [if_pos hbound]
      rfl
    rw [List.map_cons, List.cons_append, hstep, ih hn', List.foldl_cons, List.length_cons,
      Nat.add_sub_add_right]

/-- **An operand at the head of a row is passed**, and the loop goes on with the tree that it means.
    Behind a sign there is an operand again, under a bound that holds back every operator between
    two. -/
theorem expression_operand (hbound : bound < 90) (o : Operand) (rest : List (BinaryOp × Operand))
    (hn : (o.tokens ++ linkTokens rest).length ≤ n) :
    ∃ m, (linkTokens rest).length ≤ m ∧
      expression n bound (o.tokens ++ linkTokens rest) =
        extend m bound o.tree (linkTokens rest) := by
  obtain ⟨signs, core, parts⟩ := o
  induction signs generalizing n bound with
  -- the operand begins with its core, which needs no power
  | nil =>
    have hrow : (Token.primary core :: (parts.map .part ++ linkTokens rest)).length ≤ n := hn
    obtain ⟨n, rfl, hn'⟩ := exists_fuel hrow
    have hlength := hn'
    rw [List.length_append, List.length_map] at hlength
    refine ⟨n - parts.length, by omega, ?_⟩
    have hstep : expression (n + 1) bound
        (.primary core :: (parts.map .part ++ linkTokens rest)) =
          extend n bound core (parts.map .part ++ linkTokens rest) := by
      rw [expression, binding_primary]
      rfl
    exact hstep.trans (extend_parts hbound hn')
  -- behind the sign, under its power: no operator between two gets past it
  | cons s signs ih =>
    have hrow : (Token.sign s :: (Operand.tokens ⟨signs, core, parts⟩ ++
        linkTokens rest)).length ≤ n := hn
    obtain ⟨n, rfl, hn'⟩ := exists_fuel hrow
    obtain ⟨m, hm, hinner⟩ := ih (show 79 < 90 by decide) hn'
    have hheld : ∀ x ∈ rest.head?, x.1.power ≤ 79 := fun x _ =>
      Nat.le_of_lt_succ x.1.power_lt_sign
    rw [extend_stop hm hheld] at hinner
    have hlength := hn'
    rw [List.length_append] at hlength
    refine ⟨n, by omega, ?_⟩
    have hstep : expression (n + 1) bound
        (.sign s :: (Operand.tokens ⟨signs, core, parts⟩ ++ linkTokens rest)) =
          extend n bound (withSign s (Operand.tree ⟨signs, core, parts⟩)) (linkTokens rest) := by
      rw [expression, binding_sign]
      dsimp only
      rw [hinner]
      rfl
    exact hstep

/-- Where an operator passes, the loop takes it with the operand to its right. -/
theorem extend_pass {op : BinaryOp} {rhs : Expr} {more : List Token} (hpass : bound < op.power)
    (hright : expression n op.power (o.tokens ++ linkTokens rest) = some (rhs, more)) :
    extend (n + 1) bound lhs (linkTokens ((op, o) :: rest)) =
      extend n bound (.mk (lhs.span.join rhs.span) (.binary op lhs rhs)) more := by
  rw [linkTokens, List.flatMap_cons, List.cons_append, extend, binding_operator]
  dsimp only
  rw [if_pos hpass]
  dsimp only [Side.bound]
  rw [← linkTokens, hright]
  rfl

/-- What an operator holds back is as loose as all that stands before it: the operator itself, the
    segment that it closes, and what it has taken to its right. -/
theorem loose_behind {op : BinaryOp} {inner left : List (BinaryOp × Operand)}
    (hseg : ∀ x ∈ seg, op.tier ≤ x.1.tier) (htight : ∀ x ∈ inner, op.power < x.1.power)
    (hleft : ∀ y ∈ left.head?, y.1.power ≤ op.power) :
    ∀ y ∈ left.head?, ∀ x ∈ seg ++ (op, o) :: inner, y.1.tier ≤ x.1.tier := by
  intro y hy x hx
  have hy_op : y.1.tier ≤ op.tier :=
    Nat.le_of_not_lt (mt BinaryOp.power_lt_iff.mpr (Nat.not_lt_of_le (hleft y hy)))
  rcases List.mem_append.mp hx with hx | hx
  · exact Nat.le_trans hy_op (hseg x hx)
  · rcases List.mem_cons.mp hx with rfl | hx
    · exact hy_op
    · exact Nat.le_trans hy_op (Nat.le_of_lt (BinaryOp.power_lt_iff.mp (htight x hx)))

/-- **What the loop takes is grouped with what it has.**  The loop holds `lhs`, which groups the
    operand `first` and the segment `seg` behind it, and the next operator is as loose as every one
    in the segment.  It takes the operators that the bound lets pass, and stops at the first that it
    does not. -/
theorem extend_grouped (hn : (linkTokens rest).length ≤ n) (hbound : bound < 90)
    (hlhs : Grouped first seg lhs)
    (hloose : ∀ y ∈ rest.head?, ∀ x ∈ seg, y.1.tier ≤ x.1.tier) :
    ∃ taken left e, rest = taken ++ left ∧
      extend n bound lhs (linkTokens rest) = some (e, linkTokens left) ∧
      Grouped first (seg ++ taken) e ∧ (∀ x ∈ taken, bound < x.1.power) ∧
      ∀ y ∈ left.head?, y.1.power ≤ bound := by
  -- the operand behind an operator goes through the same loop, with fewer operators left
  induction hlength : rest.length using Nat.strongRecOn
    generalizing n bound lhs first seg rest with
  | ind length ih =>
    subst hlength
    by_cases hstop : ∀ y ∈ rest.head?, y.1.power ≤ bound
    · refine ⟨[], rest, lhs, rfl, extend_stop hn hstop, ?_, ?_, hstop⟩
      · rw [List.append_nil]
        exact hlhs
      · exact fun _ hx => absurd hx List.not_mem_nil
    cases rest with
    | nil => exact absurd (fun _ hy => by cases hy) hstop
    | cons x rest =>
      obtain ⟨op, o⟩ := x
      have hpass : bound < op.power := by
        by_contra hheld
        refine hstop fun y hy => ?_
        obtain rfl : (op, o) = y := Option.some.inj hy
        exact Nat.le_of_not_lt hheld
      have hrow : (Token.operator op :: (o.tokens ++ linkTokens rest)).length ≤ n := hn
      obtain ⟨n, rfl, hn'⟩ := exists_fuel hrow
      have hop_lt : op.power < 90 := Nat.lt_trans op.power_lt_sign (by decide)
      -- the operand to the right takes what binds more tightly than the operator
      obtain ⟨m, hm, hright⟩ := expression_operand hop_lt o rest hn'
      obtain ⟨inner, left, rhs, rfl, hinner, hrhs, htight, hleft⟩ :=
        ih rest.length (Nat.lt_succ_self _) hm hop_lt (.operand o.means_tree)
          (fun _ _ _ hx => absurd hx List.not_mem_nil) rfl
      rw [hinner] at hright
      have hstep : extend (n + 1) bound lhs (linkTokens ((op, o) :: (inner ++ left))) = _ :=
        extend_pass hpass hright
      -- both sides of the operator are grouped, and it is the rightmost of the loosest
      have hgrouped : Grouped first (seg ++ (op, o) :: inner)
          (.mk (lhs.span.join rhs.span) (.binary op lhs rhs)) := by
        refine .split (hloose _ rfl) (fun x hx => ?_) hlhs hrhs
        exact BinaryOp.power_lt_iff.mp (htight x hx)
      have hloose' := loose_behind (o := o) (hloose _ rfl) htight hleft
      have hn_left : (linkTokens left).length ≤ n := by
        simp only [linkTokens, List.flatMap_append, List.length_append] at hn'
        rw [linkTokens]
        omega
      have hlength : left.length < (inner ++ left).length + 1 := by
        rw [List.length_append]
        omega
      obtain ⟨taken, end', e, rfl, hrun, he, hall, hend⟩ :=
        ih left.length hlength hn_left hbound hgrouped hloose' rfl
      refine ⟨(op, o) :: (inner ++ taken), end', e, ?_, hstep.trans hrun, ?_, ?_, hend⟩
      · rw [List.cons_append, List.append_assoc]
      · rw [List.append_cons, List.append_assoc, ← List.append_assoc, ← List.append_cons,
          List.append_assoc, List.cons_append] at he
        exact he
      · intro x hx
        rcases List.mem_cons.mp hx with rfl | hx
        · exact hpass
        · rcases List.mem_append.mp hx with hx | hx
          · exact Nat.lt_trans hpass (htight x hx)
          · exact hall x hx

/-- **The tree of a row is what the chain means.** -/
theorem tree_tokens (c : Chain) : ∃ e, tree? c.tokens = some e ∧ c.Means e := by
  obtain ⟨m, hm, hfirst⟩ :=
    expression_operand (show 0 < 90 by decide) c.first c.rest (Nat.le_refl _)
  obtain ⟨taken, left, e, hrest, hrun, he, -, hleft⟩ :=
    extend_grouped hm (show 0 < 90 by decide) (.operand c.first.means_tree)
      fun _ _ _ hx => absurd hx List.not_mem_nil
  -- nothing is held back by no bound
  have hnone : left = [] := by
    cases left with
    | nil => rfl
    | cons x left =>
      have hpos : x.1.power ≤ 0 := hleft x rfl
      unfold BinaryOp.power powerStep at hpos
      omega
  subst hnone
  rw [List.append_nil] at hrest
  subst hrest
  refine ⟨e, ?_, he⟩
  rw [tree?, Chain.tokens, hfirst, hrun]
  rfl

/-! ## The rules

  The grammar reads a row of tokens.  The same rules with the tokens kept apart read a chain,
  and the row is what the chain writes out. -/

/-- The rule for operands, with the tokens kept apart. -/
def readOperand (l : Level) : Rule Operand := fun i => do
  let (signs, j) := many (placed prefixOp) i
  let (core, k) ← primary l (skip j)
  let (parts, m) := many (placed (postfixPart l)) (skip k)
  return (⟨signs, core, parts⟩, m)

/-- The rule for an operator and its right operand, with the tokens kept apart. -/
def readLink (l : Level) : Rule (BinaryOp × Operand) := fun i => do
  let (op, j) ← binaryOp i
  let (o, k) ← readOperand l (skip j)
  return ((op, o), k)

/-- The rule for rows, with the tokens kept apart. -/
def readChain (l : Level) : Rule Chain := fun i => do
  let (first, j) ← readOperand l i
  let (rest, k) := many (readLink l) (skip j)
  return (⟨first, rest⟩, k)

/-- A repetition of a rule whose results are changed. -/
theorem many_map {α β : Type} (r : Rule α) (f : α → β) (i : Input) :
    many (fun i => (r i).map fun (a, j) => (f a, j)) i = ((many r i).1.map f, (many r i).2) := by
  fun_induction many r i with
  | case1 i a j ha k hk more l hmore ih =>
    rw [many, ha]
    dsimp only [Option.map_some]
    rw [if_pos hk, ih, hmore]
    rfl
  | case2 i a j ha k hk =>
    rw [many, ha]
    dsimp only [Option.map_some]
    rw [if_neg hk]
    rfl
  | case3 i hnone =>
    rw [many, hnone]
    rfl

/-- The rule for operands reads their tokens. -/
theorem operand_eq (l : Level) (i : Input) :
    operand l i = (readOperand l i).map fun (o, j) => (o.tokens, j) := by
  unfold operand readOperand
  rcases many (placed prefixOp) i with ⟨signs, j⟩
  cases hcore : primary l (skip j) with
  | none => simp [hcore]
  | some x => simp [hcore, Operand.tokens]

/-- The rule for an operator and its operand reads their tokens. -/
theorem link_eq (l : Level) (i : Input) :
    link l i = (readLink l i).map fun (x, j) => (.operator x.1 :: x.2.tokens, j) := by
  unfold link readLink
  cases binaryOp i with
  | none => rfl
  | some x =>
    cases ho : readOperand l (skip x.2) with
    | none => simp [operand_eq, ho]
    | some y => simp [operand_eq, ho]

/-- **Rows are chains**: the grammar reads the tokens of a chain, one after the other. -/
theorem row_eq (l : Level) (i : Input) :
    row l i = (readChain l i).map fun (c, j) => (c.tokens, j) := by
  -- a repetition of links is one of operators with their operands
  have hlinks (j : Input) : many (link l) j =
      ((many (readLink l) j).1.map fun x => .operator x.1 :: x.2.tokens,
        (many (readLink l) j).2) := by
    rw [← many_map]
    congr 1
    funext k
    exact link_eq l k
  unfold row readChain
  cases hfirst : readOperand l i with
  | none => simp [operand_eq, hfirst]
  | some x => simp [operand_eq, hfirst, hlinks, Chain.tokens, linkTokens, List.flatMap]

/-- The rule for chains, by what is read and what it means. -/
theorem chain_eq_some {l : Level} {i j : Input} {e : Expr} :
    chain l i = some (e, j) ↔ ∃ c, readChain l i = some (c, j) ∧ c.Means e := by
  unfold chain
  rw [row_eq]
  cases hc : readChain l i with
  | none => simp
  | some x =>
    obtain ⟨c, k⟩ := x
    obtain ⟨e', he', hmeans⟩ := tree_tokens c
    simp only [Option.map_some, Option.bind_eq_bind, Option.bind_some, he']
    constructor
    · intro h
      obtain ⟨rfl, rfl⟩ := Prod.mk.inj (Option.some.inj h)
      exact ⟨c, rfl, hmeans⟩
    · rintro ⟨c', hc', hmeans'⟩
      obtain ⟨rfl, rfl⟩ := Prod.mk.inj (Option.some.inj hc')
      rw [hmeans.unique hmeans']
      rfl

/-- **Operators take the operands that they should.**  At every place and on every level, the rule
    for chains applies where a row of tokens can be read, up to the same place.  The row has the
    operands and operators that stand there, each once and in order, and the expression is the one
    that they mean.  These are all the operators of a snippet, since no other rule makes an
    expression of an operator. -/
theorem chain_eq_some_iff (l : Level) (i : Input) :
    (chain l i).map (·.2) = (row l i).map (·.2) ∧
    ∀ (j : Input) (e : Expr), chain l i = some (e, j) ↔
      ∃ c, readChain l i = some (c, j) ∧ row l i = some (c.tokens, j) ∧ c.Means e := by
  constructor
  · cases hc : readChain l i with
    | none =>
      have hchain : chain l i = none := by
        refine Option.eq_none_iff_forall_not_mem.mpr fun x hx => ?_
        obtain ⟨c, hread, -⟩ := chain_eq_some.mp hx
        rw [hc] at hread
        cases hread
      rw [hchain, row_eq, hc]
      rfl
    | some x =>
      obtain ⟨c, j⟩ := x
      obtain ⟨e, -, hmeans⟩ := tree_tokens c
      rw [chain_eq_some.mpr ⟨c, hc, hmeans⟩, row_eq, hc]
      rfl
  · intro j e
    refine ⟨fun h => ?_, fun ⟨c, hc, _, hmeans⟩ => chain_eq_some.mpr ⟨c, hc, hmeans⟩⟩
    obtain ⟨c, hc, hmeans⟩ := chain_eq_some.mp h
    refine ⟨c, hc, ?_, hmeans⟩
    rw [row_eq, hc]
    rfl

end ExerciseGrading.Snippet
