/-
  MATCHING LEVELS: the rules of the grammar, alongside on a text and on the padded text.

  1. `Same` trees differ in nothing but their spans.
  2. Each rule of a level matches the rule of another level, if what it takes from further in does
     (`Level.Match`).  Only what is deeper in the text is asked of the other levels: the way further
     in takes a character first.
  3. `level_match` — any two levels match on texts that are not too long for them, by induction on
     the levels.

  **The crux (two levels, not one).**  A padded text is longer, so that its rules run at a higher
  level than those of the text itself.  `Matches n m` therefore bounds the two remaining texts
  separately, and every lemma of the middle part has the form

      Level.Match n m l l'  →  Matches (n + 1) (m + 1) Same (rule l) (rule l')

  A rule that goes further in has taken a sign or a word before it does; `Matches.deeper` turns that
  into the bound one less on both sides, which is what the hypothesis on the levels asks for.

  The lemmas stand in the order of the grammar: primary expressions, operands, chains, conditionals,
  arrow functions, statements.  Nearly all have one shape, a row of `bind` steps, one for each part
  of the rule.  Where a rule tries something and goes on without it (branches, a value to return, an
  `else`), both sides try alike, for `Tie` says that both succeed or both fail.
-/
import ExerciseGrading.Proofs.Snippet.Alongside
import ExerciseGrading.Proofs.Snippet.Calls
import ExerciseGrading.Proofs.Snippet.Grouping

namespace ExerciseGrading.Snippet

open ExerciseGrading.Snippet.Rule

/-! ## Trees that differ in their spans

  Two trees are the same if forgetting all places makes them equal.  So each construct needs one
  lemma: equal parts make equal wholes. -/

/-- Expressions that differ in nothing but their spans. -/
def Expr.Same (e e' : Expr) : Prop := e.moved Span.nowhere = e'.moved Span.nowhere

/-- Forms that differ in nothing but their spans; so for members, bodies and statements. -/
def Form.Same (f f' : Form) : Prop := f.moved Span.nowhere = f'.moved Span.nowhere

def Member.Same (m m' : Member) : Prop := m.moved Span.nowhere = m'.moved Span.nowhere

def ArrowBody.Same (b b' : ArrowBody) : Prop := b.moved Span.nowhere = b'.moved Span.nowhere

def Stmt.Same (s s' : Stmt) : Prop := s.moved Span.nowhere = s'.moved Span.nowhere

section Same

variable {e e' c c' lhs lhs' rhs rhs' : Expr} {es es' : List Expr}

/-- The span of the outermost node does not count. -/
theorem same_mk {f f' : Form} (span span' : Span) (h : f.Same f') :
    Expr.Same (.mk span f) (.mk span' f') := by
  unfold Form.Same at h
  simp only [Expr.Same, Expr.moved, h, Span.nowhere]

/-- Expressions that are the same in pairs are the same as a list. -/
theorem same_exprs (h : List.Forall₂ Expr.Same es es') :
    movedExprs Span.nowhere es = movedExprs Span.nowhere es' := by
  rw [movedExprs_eq_map, movedExprs_eq_map]
  exact map_eq_of_forall₂ h fun _ _ he => he

theorem same_members {ms ms' : List Member} (h : List.Forall₂ Member.Same ms ms') :
    movedMembers Span.nowhere ms = movedMembers Span.nowhere ms' := by
  rw [movedMembers_eq_map, movedMembers_eq_map]
  exact map_eq_of_forall₂ h fun _ _ hm => hm

theorem same_stmts {body body' : List Stmt} (h : List.Forall₂ Stmt.Same body body') :
    movedStmts Span.nowhere body = movedStmts Span.nowhere body' := by
  rw [movedStmts_eq_map, movedStmts_eq_map]
  exact map_eq_of_forall₂ h fun _ _ hs => hs

theorem same_array (h : List.Forall₂ Expr.Same es es') : Form.Same (.array es) (.array es') := by
  simp only [Form.Same, Form.moved, same_exprs h]

theorem same_object {ms ms' : List Member} (h : List.Forall₂ Member.Same ms ms') :
    Form.Same (.object ms) (.object ms') := by
  simp only [Form.Same, Form.moved, same_members h]

theorem same_unary (op : UnaryOp) (h : e.Same e') : Form.Same (.unary op e) (.unary op e') := by
  unfold Expr.Same at h
  simp only [Form.Same, Form.moved, h]

theorem same_binary (op : BinaryOp) (span span' : Span) (h : lhs.Same lhs')
    (h' : rhs.Same rhs') :
    Expr.Same (.mk span (.binary op lhs rhs)) (.mk span' (.binary op lhs' rhs')) := by
  refine same_mk _ _ ?_
  unfold Expr.Same at h h'
  simp only [Form.Same, Form.moved, h, h']

/-- Forms with parts that are the same, one construct at a time. -/
theorem same_conditional (hc : c.Same c') (h : lhs.Same lhs') (h' : rhs.Same rhs') :
    Form.Same (.conditional c lhs rhs) (.conditional c' lhs' rhs') := by
  unfold Expr.Same at hc h h'
  simp only [Form.Same, Form.moved, hc, h, h']

theorem same_arrow (params : List String) {body body' : ArrowBody} (h : body.Same body') :
    Form.Same (.arrow params body) (.arrow params body') := by
  unfold ArrowBody.Same at h
  simp only [Form.Same, Form.moved, h]

/-! ### Parts behind and in front of an operand -/

/-- Parts behind an operand that differ in nothing but their spans. -/
inductive Postfix.Same : Postfix → Postfix → Prop
  | member (property : String) (optional : Bool) :
      Postfix.Same (.member property optional) (.member property optional)
  | index {e e' : Expr} : e.Same e' → Postfix.Same (.index e) (.index e')
  | call {es es' : List Expr} : List.Forall₂ Expr.Same es es' → Postfix.Same (.call es) (.call es')

/-- A part behind the same operand makes the same operand. -/
theorem same_withPart {p p' : Span × Postfix} (h : e.Same e') (hp : p.2.Same p'.2) :
    (withPart e p).Same (withPart e' p') := by
  refine same_mk _ _ ?_
  unfold Expr.Same at h
  cases p with
  | mk place p =>
    cases p' with
    | mk place' p' =>
      cases hp with
      | member property optional => simp only [Form.Same, Postfix.form, Form.moved, h]
      | index hk =>
        unfold Expr.Same at hk
        simp only [Form.Same, Postfix.form, Form.moved, h, hk]
      | call hargs => simp only [Form.Same, Postfix.form, Form.moved, h, same_exprs hargs]

/-- So does an operator in front of it. -/
theorem same_withSign {op op' : Span × UnaryOp} (hop : op.2 = op'.2) (h : e.Same e') :
    (withSign op e).Same (withSign op' e') := by
  unfold withSign
  rw [hop]
  exact same_mk _ _ (same_unary _ h)

/-! ### Chains

  That operators keep the relation is `same_binary`, and that chains with related operands are
  split at the same place is known from `Grouped.related`.  So nothing here depends on how
  chains are grouped. -/

/-- Operators with operands behind them that differ in nothing but their spans. -/
abbrev SameLink : BinaryOp × Operand → BinaryOp × Operand → Prop := LinkRelated Expr.Same

/-- **Chains of operands that differ in their spans mean trees that do.** -/
theorem Chain.Means.same {c c' : Chain} (h : c.Means e) (h' : c'.Means e')
    (hfirst : c.first.tree.Same c'.first.tree) (hrest : List.Forall₂ SameLink c.rest c'.rest) :
    e.Same e' := by
  obtain ⟨e'', hmeans, hsame⟩ :=
    Grouped.related (R := Expr.Same) (fun op span span' => same_binary op span span') h hfirst hrest
  rw [Grouped.unique h' hmeans]
  exact hsame

end Same

/-! ## Primary expressions

  Those with nothing inside are read alike because their functions are
  (`Proofs.Snippet.Padding`).  The rule for operators is a search through a list of signs, the
  same list on both sides. -/

section Leaves

variable {n m : Nat}

/-- A node is put around what a rule reads, and its span is forgotten by `Same`. -/
theorem matches_spanned {α β : Type} {R : α → β → Prop} {r : Rule α} {r' : Rule β} {f : α → Form}
    {f' : β → Form} (h : Matches n m R r r') (hf : ∀ a b, R a b → (f a).Same (f' b)) :
    Matches n m Expr.Same (spanned r f) (spanned r' f') :=
  fun _ _ hi => (h hi).map fun _ _ _ _ hab hj => ⟨same_mk _ _ (hf _ _ hab), hj⟩

/-- What is read without a look further in has one form. -/
theorem matches_leaf {α : Type} {r : Rule α} {f : α → Form}
    (h : Matches n m (fun a b : α => a = b) r r) :
    Matches n m Expr.Same (spanned r f) (spanned r f) :=
  matches_spanned h fun _ _ hab => by rw [hab]; rfl

theorem number_matches : Matches n m Expr.Same number number := matches_leaf numeral_matches

theorem string_matches : Matches n m Expr.Same string string := matches_leaf stringText_matches

theorem regex_matches : Matches n m Expr.Same regex regex := matches_leaf slashed_matches

theorem constant_matches : Matches n m Expr.Same constant constant := by
  refine matches_orElse ?_ <| matches_orElse ?_ <| matches_orElse ?_ ?_ <;>
    exact matches_leaf (keyword_matches _)

theorem prefixOp_matches : Matches n m (fun a b : UnaryOp => a = b) prefixOp prefixOp :=
  matches_orElse (matches_map (sign_matches (by decide)) _ _ fun _ _ _ => rfl)
    (matches_map (sign_matches (by decide)) _ _ fun _ _ _ => rfl)

theorem symbol_solid (op : BinaryOp) : isSolid op.symbol = true := by
  cases op <;> decide

/-- The first operator whose sign stands here, which is one search on both sides. -/
theorem binaryOp_matches : Matches n m (fun a b : BinaryOp => a = b) binaryOp binaryOp := by
  intro i i' hi
  unfold binaryOp
  -- the search through the table ends at the same row on both sides
  induction binaryOps with
  | nil => exact .none
  | cons op ops ih =>
    have ho := sign_matches (symbol_solid op) hi
    simp only [List.findSome?_cons]
    generalize sign op.symbol i = o at ho ⊢
    generalize sign op.symbol i' = o' at ho ⊢
    cases ho with
    | none => exact ih
    | some h => exact .some ⟨rfl, h.2⟩

/-- A name, or names in parentheses, which come out as the same names. -/
theorem parameters_matches :
    Matches (n + 1) (m + 1) (fun a b : List String => a = b) parameters parameters := by
  refine matches_orElse (matches_map name_matches (fun w => [w]) (fun w => [w]) ?_) ?_
  · rintro w _ rfl
    rfl
  · intro i i' hi
    have h : Tie _ _ _ (enclosed "(" ")" false name i) (enclosed "(" ")" false name i') :=
      matches_enclosed (by decide) (by decide) false name_matches hi
    simpa only [List.forall₂_eq_eq_eq] using h

/-- Whether a return ends here is the same where blanks follow. -/
theorem endsReturn_eq {i i' : Input} (h : Pads i.rest i'.rest) : endsReturn i = endsReturn i' := by
  -- what follows is the same, or the text is over and blanks may follow
  obtain ⟨u, hu, hrest⟩ := h
  unfold endsReturn
  rw [hrest]
  cases i.rest with
  | cons c s => rfl
  | nil =>
    cases u with
    | nil => rfl
    | cons c u =>
      have hbrace : c ≠ '}' := ne_of_isSpace hu.head rfl
      have hsemi : c ≠ ';' := ne_of_isSpace hu.head rfl
      simp [hbrace, hsemi]

end Leaves

/-! ## The rules of two levels

  From here on two levels are fixed, and each rule of the one further out is matched with its
  counterpart. -/

/-- Two levels whose rules match on texts that are not too long for them. -/
structure Level.Match (n m : Nat) (l l' : Level) : Prop where
  expr : Matches n m Expr.Same l.expr l'.expr
  stmt : Matches n m Stmt.Same l.stmt l'.stmt

section Level

variable {n m : Nat} {l l' : Level} (hl : Level.Match n m l l')
include hl

theorem array_matches : Matches (n + 1) (m + 1) Expr.Same (array l) (array l') :=
  matches_spanned (matches_enclosed (by decide) (by decide) true hl.expr)
    fun _ _ h => same_array h

/-- A key with its value, or a name that is both. -/
theorem property_matches : Matches (n + 1) (m + 1) Member.Same (property l) (property l') := by
  refine matches_orElse ?keyed ?short
  -- a key is a text or a word, and its value is deeper behind a colon
  case keyed =>
    intro i i' hi
    refine (matches_orElse stringText_matches word_matches hi).bind fun key key' j j' hkey hj => ?_
    refine ((sign_matches (by decide)).deeper hi hj.skip).bind fun _ _ k k' _ hcolon => ?_
    refine (hl.expr.deeper hi hcolon.skip).bind fun value value' e e' hvalue he => ?_
    refine .some ⟨?_, he⟩
    unfold Expr.Same at hvalue
    simp only [Member.Same, Member.moved, hkey, hvalue]
  -- a short member is a name with the value of that name
  case short =>
    intro i i' hi
    refine (name_matches hi).bind fun w w' j j' hw hj => .some ⟨?_, hj⟩
    simp only [Member.Same, Member.moved, Expr.moved, Form.moved, hw, Span.nowhere]

theorem object_matches : Matches (n + 1) (m + 1) Expr.Same (object l) (object l') :=
  matches_spanned (matches_enclosed (by decide) (by decide) true
    ((property_matches hl).mono (Nat.le_succ n) (Nat.le_succ m))) fun _ _ h => same_object h

/-- A parenthesis takes its sign, and then an expression one level further in. -/
theorem parenthesized_matches :
    Matches (n + 1) (m + 1) Expr.Same (parenthesized l) (parenthesized l') := by
  intro i i' hi
  refine (sign_matches (by decide) hi).bind fun _ _ j j' _ hj => ?_
  refine (hl.expr.deeper hi hj.skip).bind fun e e' k k' he hin => ?_
  refine ((sign_matches (by decide)).deeper hi hin.skip).bind fun _ _ o o' _ ho => ?_
  exact .some ⟨he, ho⟩

/-- One of the eight beginnings of an operand, tried in the same order on both sides. -/
theorem primary_matches : Matches (n + 1) (m + 1) Expr.Same (primary l) (primary l') :=
  matches_orElse number_matches <| matches_orElse string_matches <|
  matches_orElse constant_matches <| matches_orElse regex_matches <|
  matches_orElse (array_matches hl) <| matches_orElse (object_matches hl) <|
  matches_orElse (parenthesized_matches hl) <| matches_leaf name_matches

/-! ### Operands

  Three rules in a row: a repetition, a primary expression, a repetition.  What has to come out
  is the same tree, so the two folds over the parts are compared once the parts are known to be
  the same in pairs. -/

omit hl in
/-- A property behind a sign. -/
theorem memberPart_matches {s : String} (hs : isSolid s = true) (isOptional : Bool) :
    Matches n m Postfix.Same
      (fun i => do
        let (_, j) ← sign s i
        let (w, k) ← word (skip j)
        return (.member w isOptional, k))
      (fun i => do
        let (_, j) ← sign s i
        let (w, k) ← word (skip j)
        return (.member w isOptional, k)) := by
  intro i i' hi
  refine (sign_matches hs hi).bind fun _ _ j j' _ hj => ?_
  refine (word_matches.deeper hi.self hj.skip).bind fun w w' k k' hw hk => ?_
  rw [hw]
  exact .some ⟨.member w' isOptional, hk⟩

/-- A property, an index or arguments behind an operand. -/
theorem postfixPart_matches :
    Matches (n + 1) (m + 1) Postfix.Same (postfixPart l) (postfixPart l') := by
  refine matches_orElse (memberPart_matches (by decide) true) <|
    matches_orElse (memberPart_matches (by decide) false) <| matches_orElse ?index ?call
  case index =>
    intro i i' hi
    refine (sign_matches (by decide) hi).bind fun _ _ j j' _ hj => ?_
    refine (hl.expr.deeper hi hj.skip).bind fun e e' k k' he hin => ?_
    refine ((sign_matches (by decide)).deeper hi hin.skip).bind fun _ _ o o' _ ho => ?_
    exact .some ⟨.index he, ho⟩
  case call =>
    have hargs : Matches (n + 1) (m + 1) (List.Forall₂ Expr.Same) (enclosed "(" ")" false l.expr)
        (enclosed "(" ")" false l'.expr) :=
      matches_enclosed (by decide) (by decide) false hl.expr
    exact matches_map hargs Postfix.call Postfix.call fun _ _ h => .call h

/-- Operands that are read side by side mean the same. -/
theorem readOperand_matches :
    Matches (n + 1) (m + 1) (fun o o' : Operand => o.tree.Same o'.tree) (readOperand l)
      (readOperand l') := by
  intro i i' hi
  have hk : i.rest.length ≤ n := Nat.le_of_lt_succ hi.left
  have hk' : i'.rest.length ≤ m := Nat.le_of_lt_succ hi.right
  obtain ⟨hops, hj⟩ := many_both (matches_placed prefixOp_matches) hi.self (Nat.le_refl _)
    (Nat.le_refl _)
  unfold readOperand
  -- the loops are named, so that the cases are of their results
  generalize many (placed prefixOp) i = x at hops hj ⊢
  generalize many (placed prefixOp) i' = y at hops hj ⊢
  obtain ⟨ops, j⟩ := x
  obtain ⟨ops', j'⟩ := y
  dsimp only at hops hj ⊢
  -- operators in front may be missing, so that nothing is taken before the primary expression
  refine ((primary_matches hl).within hj.skip (Nat.lt_succ_of_le hk) (Nat.lt_succ_of_le hk')).bind
    fun e e' k k' he hin => ?_
  obtain ⟨hparts, hend⟩ := many_both (matches_placed (postfixPart_matches hl)) hin.skip
    (Nat.le_succ_of_le hk) (Nat.le_succ_of_le hk')
  dsimp only
  generalize many (placed (postfixPart l)) (skip k) = x at hparts hend ⊢
  generalize many (placed (postfixPart l')) (skip k') = y at hparts hend ⊢
  obtain ⟨parts, o⟩ := x
  obtain ⟨parts', o'⟩ := y
  -- first the parts behind, from the inside out, then the signs in front
  have hoperand : (parts.foldl withPart e).Same (parts'.foldl withPart e') :=
    List.rel_foldl (P := Expr.Same) (R := fun p p' : Span × Postfix => p.2.Same p'.2)
      (fun _ _ he _ _ hp => same_withPart he hp) he hparts
  exact .some ⟨List.rel_foldr (P := Expr.Same) (R := fun op op' : Span × UnaryOp => op.2 = op'.2)
    (fun _ _ hop _ _ he => same_withSign hop he) hoperand hops, hend⟩

/-! ### Chains and conditionals -/

/-- An operator with the operand behind it. -/
theorem readLink_matches : Matches (n + 1) (m + 1) SameLink (readLink l) (readLink l') := by
  intro i i' hi
  refine (binaryOp_matches hi).bind fun op op' j j' hop hj => ?_
  refine ((readOperand_matches hl).inside hj.skip (Nat.le_of_lt hi.left)
    (Nat.le_of_lt hi.right)).bind fun o o' k k' ho hk => ?_
  exact .some ⟨⟨hop, ho⟩, hk⟩

/-- Chains with the same operators, and operands that mean the same. -/
def Chain.Same (c c' : Chain) : Prop :=
  c.first.tree.Same c'.first.tree ∧ List.Forall₂ SameLink c.rest c'.rest

/-- Operands with operators between them, before they are grouped. -/
theorem readChain_matches : Matches (n + 1) (m + 1) Chain.Same (readChain l) (readChain l') := by
  intro i i' hi
  refine (readOperand_matches hl hi).bind fun first first' j j' hfirst hj => ?_
  obtain ⟨hrest, hend⟩ := many_both (readLink_matches hl) hj.skip (Nat.le_of_lt hi.left)
    (Nat.le_of_lt hi.right)
  dsimp only
  generalize many (readLink l) (skip j) = x at hrest hend ⊢
  generalize many (readLink l') (skip j') = y at hrest hend ⊢
  obtain ⟨rest, k⟩ := x
  obtain ⟨rest', k'⟩ := y
  exact .some ⟨⟨hfirst, hrest⟩, hend⟩

/-- A chain that is read has a meaning, so that the trees can be compared where the rows are. -/
theorem chain_matches : Matches (n + 1) (m + 1) Expr.Same (chain l) (chain l') := by
  intro i i' hi
  have hread := readChain_matches hl hi
  unfold chain
  rw [row_eq, row_eq]
  generalize readChain l i = x at hread ⊢
  generalize readChain l' i' = y at hread ⊢
  cases hread with
  | none => exact .none
  | @some x y h =>
    obtain ⟨c, j⟩ := x
    obtain ⟨c', j'⟩ := y
    obtain ⟨⟨hfirst, hrest⟩, hj⟩ := h
    obtain ⟨e, he, hmeans⟩ := tree_tokens c
    obtain ⟨e', he', hmeans'⟩ := tree_tokens c'
    simp only [Option.map_some, Option.bind_eq_bind, Option.bind_some, he, he']
    exact .some ⟨hmeans.same hmeans' hfirst hrest, hj⟩

/-- The two branches behind a question mark. -/
theorem branches_matches :
    Matches (n + 1) (m + 1) (fun x y : Expr × Expr => x.1.Same y.1 ∧ x.2.Same y.2) (branches l)
      (branches l') := by
  intro i i' hi
  refine (sign_matches (by decide) hi).bind fun _ _ j j' _ hj => ?_
  refine (hl.expr.deeper hi hj.skip).bind fun yes yes' k k' hyes hin => ?_
  refine ((sign_matches (by decide)).deeper hi hin.skip).bind fun _ _ o o' _ ho => ?_
  refine (hl.expr.deeper hi ho.skip).bind fun no no' p p' hno hp => ?_
  exact .some ⟨⟨hyes, hno⟩, hp⟩

theorem conditional_matches :
    Matches (n + 1) (m + 1) Expr.Same (conditional l) (conditional l') := by
  intro i i' hi
  refine (chain_matches hl hi).bind fun c c' j j' hc hj => ?_
  have ho := (branches_matches hl).inside hj.skip (Nat.le_of_lt hi.left) (Nat.le_of_lt hi.right)
  -- without branches the layout behind the chain is gone all the same
  dsimp only
  generalize branches l (skip j) = o at ho ⊢
  generalize branches l' (skip j') = o' at ho ⊢
  cases ho with
  | none => exact .some ⟨hc, hj.skip⟩
  | some h => exact .some ⟨same_mk _ _ (same_conditional hc h.1.1 h.1.2), h.2⟩

/-! ### Arrow functions

  The rules here are tried before others that begin alike: a block before an expression,
  parameters before a parenthesis.  Both sides give up at the same one, for matching rules
  succeed together. -/

/-- Statements in braces. -/
theorem block_matches :
    Matches (n + 1) (m + 1) (List.Forall₂ Stmt.Same) (block l) (block l') := by
  intro i i' hi
  have hk : i.rest.length ≤ n := Nat.le_of_lt_succ hi.left
  have hk' : i'.rest.length ≤ m := Nat.le_of_lt_succ hi.right
  refine (sign_matches (by decide) hi).bind fun _ _ j j' _ hj => ?_
  -- the brace was taken, so that the statements may be read one level further in
  obtain ⟨hbody, hin⟩ := many_both hl.stmt hj.skip hk hk'
  dsimp only
  generalize many l.stmt (skip j) = x at hbody hin ⊢
  generalize many l'.stmt (skip j') = y at hbody hin ⊢
  obtain ⟨body, k⟩ := x
  obtain ⟨body', k'⟩ := y
  refine ((sign_matches (by decide)).deeper hi hin.skip).bind fun _ _ o o' _ ho => ?_
  exact .some ⟨hbody, ho⟩

/-- A block or an expression, the block first. -/
theorem arrowBody_matches : Matches n m ArrowBody.Same (arrowBody l) (arrowBody l') := by
  refine matches_orElse ?block ?value
  case block =>
    refine matches_map ((block_matches hl).mono (Nat.le_succ n) (Nat.le_succ m)) ArrowBody.block
      ArrowBody.block fun body body' h => ?_
    simp only [ArrowBody.Same, ArrowBody.moved, same_stmts h]
  case value =>
    refine matches_map hl.expr ArrowBody.value ArrowBody.value fun e e' h => ?_
    unfold Expr.Same at h
    simp only [ArrowBody.Same, ArrowBody.moved, h]

theorem arrow_matches : Matches (n + 1) (m + 1) Expr.Same (arrow l) (arrow l') := by
  refine matches_spanned (R := fun x y : List String × ArrowBody => x.1 = y.1 ∧ x.2.Same y.2)
    ?_ fun x y h => ?_
  · intro i i' hi
    refine (parameters_matches hi).bind fun params params' j j' hparams hj => ?_
    refine ((sign_matches (by decide)).deeper hi hj.skip).bind fun _ _ k k' _ hin => ?_
    refine ((arrowBody_matches hl).deeper hi hin.skip).bind fun body body' o o' hbody ho => ?_
    exact .some ⟨⟨hparams, hbody⟩, ho⟩
  · obtain ⟨params, body⟩ := x
    obtain ⟨params', body'⟩ := y
    obtain ⟨rfl, hbody⟩ : params = params' ∧ body.Same body' := h
    exact same_arrow params hbody

/-- An arrow function is tried before everything else. -/
theorem exprRule_matches : Matches (n + 1) (m + 1) Expr.Same (exprRule l) (exprRule l') :=
  matches_orElse (arrow_matches hl) (conditional_matches hl)

/-! ### Statements -/

theorem binding_matches : Matches (n + 1) (m + 1) Stmt.Same (binding l) (binding l') := by
  intro i i' hi
  refine (matches_orElse (keyword_matches "const") (keyword_matches "let") hi).bind
    fun _ _ j j' _ hj => ?_
  refine (name_matches.deeper hi hj.skip).bind fun w w' k k' hw hin => ?_
  refine ((sign_matches (by decide)).deeper hi hin.skip).bind fun _ _ o o' _ ho => ?_
  refine (hl.expr.deeper hi ho.skip).bind fun value value' p p' hvalue hp => ?_
  refine .some ⟨?_, optionalSign_padded (by decide) hp⟩
  unfold Expr.Same at hvalue
  simp only [Stmt.Same, Stmt.moved, hw, hvalue, Span.nowhere]

/-- A return with a value or without one. -/
theorem returning_matches : Matches (n + 1) (m + 1) Stmt.Same (returning l) (returning l') := by
  intro i i' hi
  refine (keyword_matches "return" hi).bind fun _ _ j j' _ hj => ?_
  -- nothing is returned where the text ends, and then only blanks stand behind it
  have hvalue : Tie i.rest.length i'.rest.length Expr.Same
      (if endsReturn (skip j) then none else l.expr (skip j))
      (if endsReturn (skip j') then none else l'.expr (skip j')) := by
    rw [endsReturn_eq hj.skip.pads]
    split
    · exact .none
    · exact hl.expr.deeper hi hj.skip
  dsimp only
  generalize (if endsReturn (skip j) then none else l.expr (skip j)) = o at hvalue ⊢
  generalize (if endsReturn (skip j') then none else l'.expr (skip j')) = o' at hvalue ⊢
  cases hvalue with
  | none =>
    refine .some ⟨?_, optionalSign_padded (by decide) hj.skip⟩
    simp only [Stmt.Same, Stmt.moved, Span.nowhere]
  | @some x y h =>
    obtain ⟨value, k⟩ := x
    obtain ⟨value', k'⟩ := y
    obtain ⟨hvalue, hk⟩ := h
    refine .some ⟨?_, optionalSign_padded (by decide) hk⟩
    simp only [Expr.Same] at hvalue
    simp only [Stmt.Same, Stmt.moved, hvalue, Span.nowhere]

/-- A choice with one branch or with two. -/
theorem choosing_matches : Matches (n + 1) (m + 1) Stmt.Same (choosing l) (choosing l') := by
  intro i i' hi
  refine (keyword_matches "if" hi).bind fun _ _ j j' _ hj => ?_
  refine ((sign_matches (by decide)).deeper hi hj.skip).bind fun _ _ k k' _ hin => ?_
  refine (hl.expr.deeper hi hin.skip).bind fun c c' o o' hc ho => ?_
  refine ((sign_matches (by decide)).deeper hi ho.skip).bind fun _ _ p p' _ hp => ?_
  refine (hl.stmt.deeper hi hp.skip).bind fun yes yes' q q' hyes hq => ?_
  -- so is the layout where an `else` could stand
  have helse : Tie i.rest.length i'.rest.length Stmt.Same
      (keyword "else" (skip q) >>= fun x => l.stmt (skip x.2))
      (keyword "else" (skip q') >>= fun x => l'.stmt (skip x.2)) :=
    ((keyword_matches "else").deeper hi hq.skip).bind fun _ _ _ _ _ ht => hl.stmt.deeper hi ht.skip
  simp only [Expr.Same] at hc
  simp only [Stmt.Same] at hyes
  dsimp only
  generalize (keyword "else" (skip q) >>= fun x => l.stmt (skip x.2)) = x at helse ⊢
  generalize (keyword "else" (skip q') >>= fun x => l'.stmt (skip x.2)) = y at helse ⊢
  cases helse with
  | none =>
    refine .some ⟨?_, hq.skip⟩
    simp only [Stmt.Same, Stmt.moved, hc, hyes]
  | some h =>
    refine .some ⟨?_, h.2⟩
    have hno := h.1
    simp only [Stmt.Same] at hno
    simp only [Stmt.Same, Stmt.moved, hc, hyes, hno]

theorem stmtRule_matches : Matches (n + 1) (m + 1) Stmt.Same (stmtRule l) (stmtRule l') := by
  refine matches_orElse (binding_matches hl) <| matches_orElse (returning_matches hl) <|
    matches_orElse (choosing_matches hl) <| matches_orElse ?block <| matches_orElse ?empty ?expr
  case block =>
    refine matches_map (block_matches hl) Stmt.block Stmt.block fun body body' h => ?_
    simp only [Stmt.Same, Stmt.moved, same_stmts h]
  case empty =>
    exact matches_map (sign_matches (s := ";") (by decide)) (fun _ => Stmt.empty)
      (fun _ => Stmt.empty) fun _ _ _ => rfl
  case expr =>
    intro i i' hi
    refine (exprRule_matches hl hi).map fun e e' j j' he hj =>
      ⟨?_, optionalSign_padded (by decide) hj⟩
    simp only [Expr.Same] at he
    simp only [Stmt.Same, Stmt.moved, he]

end Level

/-! ## All levels

  By induction on both numbers.  A level that has nothing further in reads no text at all, but
  by then there is no text left that it could be asked about. -/

/-- **Any two levels match** on texts that are shorter than they are deep. -/
theorem level_match (n m : Nat) : Level.Match n m (level n) (level m) := by
  -- without levels there are no texts to ask about
  induction n generalizing m with
  | zero => exact ⟨fun _ _ hi => absurd hi.left (Nat.not_lt_zero _),
      fun _ _ hi => absurd hi.left (Nat.not_lt_zero _)⟩
  -- one level further in is one less on both sides
  | succ n ih =>
    cases m with
    | zero => exact ⟨fun _ _ hi => absurd hi.right (Nat.not_lt_zero _),
        fun _ _ hi => absurd hi.right (Nat.not_lt_zero _)⟩
    | succ m => exact ⟨exprRule_matches (ih m), stmtRule_matches (ih m)⟩

end ExerciseGrading.Snippet
