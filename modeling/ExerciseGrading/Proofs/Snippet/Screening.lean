/-
  SCREENING: which denied names a snippet that is accepted can mention.

  1. `level_fine` — no rule of the grammar reads a denied name that is not excused, by induction on
     the levels.  Only an identifier or a single parameter can begin right behind a numeral; what is
     bound, read as a property or written as a key has a sign or a keyword in front of it.
  2. `compiled_names_denied` — what this says of programs.  `compiled_denied_name` is the gap: `1fs`
     is accepted, and names `fs`.

  **The crux (the screen and the grammar cut a text differently).**  For the screen a word goes as
  far as letters, digits and underscores go, in both directions; the grammar reads from left to
  right and may stop in the middle of what the screen calls a word.  The two agree at a `Clear`
  place (`not_denied_of_clear`): there the name that is read is a whole word of the text, and the
  screen found none that is denied.  At a `Ready` place that is not clear a numeral has just ended,
  and this is what excuses the name (`behindNumber_of_ready`).

  So every rule begins and ends at ready places (`ReadsExpr`), and it is the sign or the keyword in
  front of a name that makes its place clear: layout keeps clear places clear, and a separator turns
  any place into one.  One lemma for each rule of the grammar says what it adds, in the order of the
  grammar; a rule that adds no name takes its bound from the level alone (`omit hscreen`).
-/
import ExerciseGrading.Proofs.Snippet.Denied
import ExerciseGrading.Proofs.Snippet.Grouping
import ExerciseGrading.Proofs.Snippet.Nodes
import ExerciseGrading.Snippet.Outcome

namespace ExerciseGrading.Snippet

open ExerciseGrading.Snippet.Rule

variable {text : List Char}

/-! ## Rules

  What a rule promises is stated with a condition on the place where it begins and one on the
  place where it ends, so that rules can be put in a row.  Literals ask nothing and mention
  nothing. -/

/-- Rules for expressions with nothing but excused names. -/
abbrev ReadsExpr (text : List Char) : Rule Expr → Prop :=
  Reads (Ready text) (fun _ e => Fine text e.mentions) (Ready text)

/-- Rules for statements with nothing but excused names. -/
abbrev ReadsStmt (text : List Char) : Rule Stmt → Prop :=
  Reads (Ready text) (fun _ s => Fine text s.mentions) (Ready text)

/-- Levels of the grammar that read nothing but excused names. -/
structure Level.Fine (text : List Char) (l : Level) : Prop where
  expr : ReadsExpr text l.expr
  stmt : ReadsStmt text l.stmt

/-- An expression made of what a rule reads. -/
theorem spanned_fine {α : Type} {pre post : Input → Prop} {q : Input → α → Prop} {r : Rule α}
    {f : α → Form} (h : Reads pre q post r) (hpre : ∀ i, Ready text i → pre i)
    (hpost : ∀ i, post i → Ready text i)
    (hf : ∀ i a (span : Span), span.start = i.pos → Ready text i → q i a →
      Fine text ((f a).mentions span)) : ReadsExpr text (spanned r f) := by
  refine (reads_spanned h f).mono hpre ?_ hpost
  rintro i e hi ⟨stop, a, rfl, ha⟩
  rw [Expr.mentions]
  exact hf i a ⟨i.pos, stop⟩ rfl hi ha

/-- A literal mentions no name. -/
theorem literal_fine {α : Type} {post : Input → Prop} {r : Rule α} {f : α → Form}
    (h : Reads (Somewhere text) Anything post r) (hpost : ∀ i, post i → Ready text i)
    (hf : ∀ a span, (f a).mentions span = []) : ReadsExpr text (spanned r f) := by
  refine spanned_fine h (fun _ hi => hi.somewhere) hpost fun i a span _ _ _ => ?_
  rw [hf]
  exact .nil

theorem number_fine : ReadsExpr text number :=
  literal_fine numeral_reads (fun _ hi => hi) fun _ _ => by rw [Form.mentions]

theorem string_fine : ReadsExpr text string :=
  literal_fine stringText_reads (fun _ hi => hi.ready) fun _ _ => by rw [Form.mentions]

theorem regex_fine : ReadsExpr text regex :=
  literal_fine slashed_reads (fun _ hi => hi.ready) fun _ _ => by rw [Form.mentions]

theorem constant_fine : ReadsExpr text constant := by
  refine reads_orElse ?_ (reads_orElse ?_ (reads_orElse ?_ ?_)) <;>
    exact literal_fine (keyword_reads _) (fun _ hi => hi.ready) fun _ _ => by rw [Form.mentions]

/-- An identifier may stand right behind a numeral. -/
theorem name_fine (hscreen : firstDenied? false 0 text = none) :
    ReadsExpr text (spanned name .name) := by
  refine spanned_fine name_reads (fun _ hi => hi.somewhere) (fun _ hi => hi.ready)
    fun i w span hstart hi hw => ?_
  rw [Form.mentions]
  refine .cons (fun hdenied => ?_) .nil
  show BehindNumber text span.start w
  rw [hstart]
  exact behindNumber_of_ready hscreen hi hw hdenied

/-! ### Operator chains

  What a chain mentions is what its operands mention, however they are grouped.  So the rules
  below are about operands, beginning with the primary expressions; of these the identifier
  alone looks at what stands in front of it. -/

/-- What a chain means mentions what its operands mention, and nothing else. -/
theorem Chain.Means.fine {c : Chain} {e : Expr} (h : c.Means e)
    (hfirst : Fine text c.first.tree.mentions)
    (hrest : ∀ x ∈ c.rest, Fine text x.2.tree.mentions) : Fine text e.mentions := by
  -- a property of one tree is a relation that does not look at the other
  let R : Expr → Expr → Prop := fun e _ => Fine text e.mentions
  have hlinks : List.Forall₂ (LinkRelated R) c.rest c.rest :=
    List.forall₂_same.mpr fun x hx => ⟨rfl, hrest x hx⟩
  have hbinary (op : BinaryOp) (span span' : Span) {lhs lhs' rhs rhs' : Expr} (hlhs : R lhs lhs')
      (hrhs : R rhs rhs') :
      R (.mk span (.binary op lhs rhs)) (.mk span' (.binary op lhs' rhs')) := by
    show Fine text (Expr.mk span (.binary op lhs rhs)).mentions
    rw [Expr.mentions, Form.mentions]
    exact Fine.append hlhs hrhs
  have hrelated : ∃ e', Grouped c.first c.rest e' ∧ R e e' :=
    Grouped.related hbinary h hfirst hlinks
  obtain ⟨_, -, he⟩ := hrelated
  exact he

section Level

variable {n : Nat} (hscreen : firstDenied? false 0 text = none) (hl : (level n).Fine text)

include hl

/-- Expressions of the next level, as items of a list. -/
theorem item_fine :
    Reads (Clear text) (fun _ e => Fine text e.mentions) (Somewhere text) (level n).expr :=
  hl.expr.mono (fun _ hi => hi.ready) (fun _ _ _ he => he) fun _ hj => hj.somewhere

/-- Items in brackets. -/
theorem array_fine : ReadsExpr text (array (level n)) := by
  refine spanned_fine (reads_enclosed (item_fine hl) rfl rfl true) (fun _ hi => hi.somewhere)
    (fun _ hi => hi.ready) fun i items span _ _ hitems => ?_
  rw [Form.mentions]
  exact .of_exprs fun e he => let ⟨_, _, hfine⟩ := hitems e he; hfine

/-- A parenthesis is a clear place for the expression in it. -/
theorem parenthesized_fine : ReadsExpr text (parenthesized (level n)) := by
  intro i e j hi h
  obtain ⟨⟨_, k⟩, hk, h⟩ := Option.bind_eq_some_iff.mp h
  obtain ⟨⟨e', m⟩, hm, h⟩ := Option.bind_eq_some_iff.mp h
  obtain ⟨⟨_, l⟩, hl', h⟩ := Option.bind_eq_some_iff.mp h
  obtain ⟨rfl, rfl⟩ := Prod.mk.inj (Option.some.inj h)
  have hk := (sign_reads rfl hi.somewhere hk).2.skip
  obtain ⟨he, hm⟩ := hl.expr hk.ready hm
  exact ⟨he, (sign_reads rfl hm.skip.somewhere hl').2.ready⟩

include hscreen

/-- A key that is no string literal stands behind a brace or a comma. -/
theorem property_fine :
    Reads (Clear text) (fun _ m => Fine text m.mentions) (Somewhere text)
      (property (level n)) := by
  refine reads_orElse ?_ ?_
  · -- a key with its value
    intro i member j hi h
    obtain ⟨⟨key, k⟩, hkey, h⟩ := Option.bind_eq_some_iff.mp h
    obtain ⟨⟨_, m⟩, hm, h⟩ := Option.bind_eq_some_iff.mp h
    obtain ⟨⟨value, o⟩, ho, h⟩ := Option.bind_eq_some_iff.mp h
    obtain ⟨rfl, rfl⟩ := Prod.mk.inj (Option.some.inj h)
    have key_excused : Somewhere text k ∧
        (key ∈ deniedNames → Excused text (.key key value)) := by
      unfold orElse at hkey
      split at hkey
      · -- a quoted key
        rename_i x hx
        rw [Option.some.inj hkey] at hx
        exact ⟨(stringText_reads hi.somewhere hx).2.somewhere,
          fun _ => ⟨n, i, k, m, o, hi.somewhere, hx, hm, ho⟩⟩
      · obtain ⟨hw, hk⟩ := word_reads hi.somewhere hkey
        exact ⟨hk.somewhere, fun hdenied => absurd hdenied (not_denied_of_clear hscreen hi hw)⟩
    have hm' := (sign_reads rfl key_excused.1.skip hm).2.skip
    obtain ⟨hvalue, ho'⟩ := hl.expr hm'.ready ho
    simp only [Member.mentions]
    exact ⟨.cons key_excused.2 hvalue, ho'.somewhere⟩
  · intro i member j hi h
    obtain ⟨⟨w, k⟩, hw, h⟩ := Option.bind_eq_some_iff.mp h
    obtain ⟨rfl, rfl⟩ := Prod.mk.inj (Option.some.inj h)
    obtain ⟨hword, hk⟩ := name_reads hi.somewhere hw
    have hnot := not_denied_of_clear hscreen hi hword
    simp only [Member.mentions, Expr.mentions, Form.mentions]
    exact ⟨.cons (fun hd => absurd hd hnot) (.cons (fun hd => absurd hd hnot) .nil), hk.somewhere⟩

/-- Members in braces. -/
theorem object_fine : ReadsExpr text (object (level n)) := by
  refine spanned_fine (reads_enclosed (property_fine hscreen hl) rfl rfl true)
    (fun _ hi => hi.somewhere) (fun _ hi => hi.ready) fun i members span _ _ hmembers => ?_
  rw [Form.mentions]
  exact .of_members fun m hm => let ⟨_, _, hfine⟩ := hmembers m hm; hfine

/-- One of the eight beginnings of an operand; only the last is an identifier. -/
theorem primary_fine : ReadsExpr text (primary (level n)) :=
  reads_orElse number_fine <| reads_orElse string_fine <| reads_orElse constant_fine <|
  reads_orElse regex_fine <| reads_orElse (array_fine hl) <|
  reads_orElse (object_fine hscreen hl) <| reads_orElse (parenthesized_fine hl) <|
  name_fine hscreen

/-! ### Operands

  A property stands behind a point, an index or an argument behind a bracket.  So what follows
  an operand adds a name only at a clear place, and the operand itself may begin at one that is
  only ready. -/

/-- Whether what follows an operand adds nothing but excused names. -/
def Postfix.Fine (text : List Char) (p : Postfix) : Prop :=
  ∀ (span : Span) (e : Expr), Snippet.Fine text e.mentions →
    Snippet.Fine text ((p.form e).mentions span)

omit hl in
/-- A property stands behind a point. -/
theorem memberPart_fine {s : String} (hs : endsWord s = true) (isOptional : Bool) :
    Reads (Ready text) (fun _ p => p.Fine text) (Ready text) (fun i => do
      let (_, j) ← sign s i
      let (w, k) ← word (skip j)
      return (Postfix.member w isOptional, k)) := by
  intro i p j hi h
  obtain ⟨⟨_, k⟩, hk, h⟩ := Option.bind_eq_some_iff.mp h
  obtain ⟨⟨w, m⟩, hm, h⟩ := Option.bind_eq_some_iff.mp h
  obtain ⟨rfl, rfl⟩ := Prod.mk.inj (Option.some.inj h)
  have hk' := (sign_reads hs hi.somewhere hk).2.skip
  obtain ⟨hw, hm'⟩ := word_reads hk'.somewhere hm
  refine ⟨fun span e he => ?_, hm'.ready⟩
  have hnot := not_denied_of_clear hscreen hk' hw
  simp only [Postfix.form, Form.mentions]
  exact he.append (.cons (fun hd => absurd hd hnot) .nil)

/-- A property, an index or arguments: each behind a sign. -/
theorem postfixPart_fine :
    Reads (Ready text) (fun _ p => p.Fine text) (Ready text) (postfixPart (level n)) := by
  refine reads_orElse (memberPart_fine hscreen rfl true) <|
    reads_orElse (memberPart_fine hscreen rfl false) <| reads_orElse ?index ?call
  case index =>
    intro i p j hi h
    obtain ⟨⟨_, k⟩, hk, h⟩ := Option.bind_eq_some_iff.mp h
    obtain ⟨⟨index, m⟩, hm, h⟩ := Option.bind_eq_some_iff.mp h
    obtain ⟨⟨_, o⟩, ho, h⟩ := Option.bind_eq_some_iff.mp h
    obtain ⟨rfl, rfl⟩ := Prod.mk.inj (Option.some.inj h)
    have hk' := (sign_reads rfl hi.somewhere hk).2.skip
    obtain ⟨hindex, hm'⟩ := hl.expr hk'.ready hm
    refine ⟨fun span e he => ?_, (sign_reads rfl hm'.skip.somewhere ho).2.ready⟩
    simp only [Postfix.form, Form.mentions]
    exact he.append hindex
  case call =>
    refine (reads_map (reads_enclosed (item_fine hl) rfl rfl false) Postfix.call).mono
      (fun _ hi => hi.somewhere) ?_ (fun _ hi => hi.ready)
    rintro i p - ⟨args, rfl, hargs⟩ span e he
    simp only [Postfix.form, Form.mentions]
    exact he.append (.of_exprs fun a ha => let ⟨_, _, hfine⟩ := hargs a ha; hfine)

omit hl hscreen in
/-- A sign in front of an operand. -/
theorem prefixOp_reads : Reads (Ready text) Anything (Ready text) prefixOp := by
  refine reads_orElse ?_ ?_
  · exact (reads_map (sign_reads rfl) fun _ => UnaryOp.not).mono (fun _ hi => hi.somewhere)
      (fun _ _ _ _ => trivial) fun _ hi => hi.ready
  · exact (reads_map (sign_reads rfl) fun _ => UnaryOp.neg).mono (fun _ hi => hi.somewhere)
      (fun _ _ _ _ => trivial) fun _ hi => hi.ready

/-- An operand mentions what its primary expression and the parts behind it mention. -/
theorem readOperand_fine :
    Reads (Ready text) (fun _ o => Fine text o.tree.mentions) (Ready text)
      (readOperand (level n)) := by
  intro i o j hi h
  unfold readOperand at h
  rcases hops : many (placed prefixOp) i with ⟨ops, k⟩
  rw [hops] at h
  obtain ⟨⟨core, m⟩, hm, h⟩ := Option.bind_eq_some_iff.mp h
  rcases hparts : many (placed (postfixPart (level n))) (skip m) with ⟨parts, o⟩
  dsimp only at h
  rw [hparts] at h
  obtain ⟨rfl, rfl⟩ := Prod.mk.inj (Option.some.inj h)
  have hk := (reads_many (reads_placed prefixOp_reads) (fun _ => Ready.skip) hi hops).2
  obtain ⟨hcore, hm'⟩ := primary_fine hscreen hl hk.skip hm
  obtain ⟨hall, ho⟩ := reads_many (reads_placed (postfixPart_fine hscreen hl))
    (fun _ => Ready.skip) hm'.skip hparts
  refine ⟨?_, ho⟩
  -- first what stands behind the operand, then what stands in front of it
  have happlied : Fine text (parts.foldl withPart core).mentions := by
    refine List.foldlRecOn (motive := fun e => Fine text e.mentions) parts withPart hcore
      fun e he p hp => ?_
    obtain ⟨_, _, -, hfine⟩ := hall p hp
    rw [withPart, Expr.mentions]
    exact hfine _ e he
  refine List.foldrRecOn (motive := fun e => Fine text e.mentions) ops withSign happlied
    fun e he op _ => ?_
  rw [withSign, Expr.mentions, Form.mentions]
  exact he

/-! ### Expressions -/

omit hl hscreen in
/-- A sign between two operands, whatever the operator. -/
theorem binaryOp_reads : Reads (Ready text) Anything (Ready text) binaryOp := by
  intro i op j hi h
  obtain ⟨op', hop, h⟩ := List.exists_of_findSome?_eq_some h
  obtain ⟨⟨_, k⟩, hk, he⟩ := Option.map_eq_some_iff.mp h
  obtain ⟨-, rfl⟩ := Prod.mk.inj he
  have hs : endsWord op'.symbol = true := by cases op' <;> decide
  exact ⟨trivial, (sign_reads hs hi.somewhere hk).2.ready⟩

/-- An operator with the operand behind it. -/
theorem readLink_fine :
    Reads (Ready text) (fun _ x => Fine text x.2.tree.mentions) (Ready text)
      (readLink (level n)) := by
  intro i x j hi h
  obtain ⟨⟨op, k⟩, hk, h⟩ := Option.bind_eq_some_iff.mp h
  obtain ⟨⟨o, m⟩, hm, h⟩ := Option.bind_eq_some_iff.mp h
  obtain ⟨rfl, rfl⟩ := Prod.mk.inj (Option.some.inj h)
  exact readOperand_fine hscreen hl (binaryOp_reads hi hk).2.skip hm

/-- A chain is read as what its operands mean. -/
theorem chain_fine : ReadsExpr text (chain (level n)) := by
  intro i e j hi h
  obtain ⟨c, hc, hmeans⟩ := chain_eq_some.mp h
  obtain ⟨⟨first, k⟩, hk, hc⟩ := Option.bind_eq_some_iff.mp hc
  rcases hrest : many (readLink (level n)) (skip k) with ⟨rest, m⟩
  dsimp only at hc
  rw [hrest] at hc
  obtain ⟨rfl, rfl⟩ := Prod.mk.inj (Option.some.inj hc)
  obtain ⟨hfirst, hk'⟩ := readOperand_fine hscreen hl hi hk
  obtain ⟨hall, hm⟩ := reads_many (readLink_fine hscreen hl) (fun _ => Ready.skip) hk'.skip hrest
  refine ⟨hmeans.fine hfirst fun x hx => ?_, hm⟩
  obtain ⟨_, _, hfine⟩ := hall x hx
  exact hfine

omit hscreen in
/-- Two branches, each behind a sign. -/
theorem branches_fine :
    Reads (Ready text) (fun _ b => Fine text b.1.mentions ∧ Fine text b.2.mentions) (Ready text)
      (branches (level n)) := by
  intro i b j hi h
  obtain ⟨⟨_, k⟩, hk, h⟩ := Option.bind_eq_some_iff.mp h
  obtain ⟨⟨yes, m⟩, hm, h⟩ := Option.bind_eq_some_iff.mp h
  obtain ⟨⟨_, o⟩, ho, h⟩ := Option.bind_eq_some_iff.mp h
  obtain ⟨⟨no, p⟩, hp, h⟩ := Option.bind_eq_some_iff.mp h
  obtain ⟨rfl, rfl⟩ := Prod.mk.inj (Option.some.inj h)
  obtain ⟨hyes, hm'⟩ := hl.expr (sign_reads rfl hi.somewhere hk).2.skip.ready hm
  obtain ⟨hno, hp'⟩ := hl.expr (sign_reads rfl hm'.skip.somewhere ho).2.skip.ready hp
  exact ⟨⟨hyes, hno⟩, hp'⟩

/-- A chain, and the branches if there are any. -/
theorem conditional_fine : ReadsExpr text (conditional (level n)) := by
  intro i e j hi h
  obtain ⟨⟨c, k⟩, hk, h⟩ := Option.bind_eq_some_iff.mp h
  obtain ⟨hc, hk'⟩ := chain_fine hscreen hl hi hk
  dsimp only at h
  split at h
  · rename_i yes no m hm
    obtain ⟨rfl, rfl⟩ := Prod.mk.inj (Option.some.inj h)
    obtain ⟨⟨hyes, hno⟩, hm'⟩ := branches_fine hl hk'.skip hm
    simp only [Expr.mentions, Form.mentions]
    exact ⟨hc.append (hyes.append hno), hm'⟩
  · obtain ⟨rfl, rfl⟩ := Prod.mk.inj (Option.some.inj h)
    exact ⟨hc, hk'.skip⟩

omit hl in
/-- A single parameter may stand right behind a numeral; in a list it stands behind a parenthesis
    or a comma. -/
theorem parameters_fine :
    Reads (Ready text) (fun i ps => ∀ w ∈ ps, w ∈ deniedNames → BehindNumber text i.pos w)
      (Ready text) parameters := by
  refine reads_orElse ?single ?list
  case single =>
    intro i ps j hi h
    obtain ⟨⟨w, k⟩, hk, he⟩ := Option.map_eq_some_iff.mp h
    obtain ⟨rfl, rfl⟩ := Prod.mk.inj he
    obtain ⟨hw, hk'⟩ := name_reads hi.somewhere hk
    refine ⟨fun w' hw' hdenied => ?_, hk'.ready⟩
    obtain rfl := List.mem_singleton.mp hw'
    exact behindNumber_of_ready hscreen hi hw hdenied
  case list =>
    have hitem : Reads (Clear text) (fun _ w => w ∉ deniedNames) (Somewhere text) name :=
      name_reads.mono (fun _ hi => hi.somewhere)
        (fun _ _ hi hw => not_denied_of_clear hscreen hi hw) fun _ hj => hj.somewhere
    refine (reads_enclosed hitem rfl rfl false).mono (fun _ hi => hi.somewhere) ?_
      fun _ hi => hi.ready
    intro i ps _ hps w hw hdenied
    obtain ⟨_, _, hnot⟩ := hps w hw
    exact absurd hdenied hnot

omit hscreen in
/-- Statements in braces. -/
theorem block_fine :
    Reads (Ready text) (fun _ body => Fine text (mentionsOfStmts body)) (Ready text)
      (block (level n)) := by
  intro i body j hi h
  obtain ⟨⟨_, k⟩, hk, h⟩ := Option.bind_eq_some_iff.mp h
  rcases hbody : many (level n).stmt (skip k) with ⟨body', m⟩
  dsimp only at h
  rw [hbody] at h
  obtain ⟨⟨_, o⟩, ho, h⟩ := Option.bind_eq_some_iff.mp h
  obtain ⟨rfl, rfl⟩ := Prod.mk.inj (Option.some.inj h)
  have hk' := (sign_reads rfl hi.somewhere hk).2.skip
  obtain ⟨hall, hm⟩ := reads_many hl.stmt (fun _ => Ready.skip) hk'.ready hbody
  refine ⟨.of_stmts fun s hs => ?_, (sign_reads rfl hm.skip.somewhere ho).2.ready⟩
  obtain ⟨_, _, hfine⟩ := hall s hs
  exact hfine

omit hscreen in
/-- A block or an expression. -/
theorem arrowBody_fine :
    Reads (Ready text) (fun _ body => Fine text body.mentions) (Ready text)
      (arrowBody (level n)) := by
  refine reads_orElse ?_ ?_
  · refine (reads_map (block_fine hl) ArrowBody.block).mono (fun _ hi => hi) ?_ fun _ hj => hj
    rintro i body - ⟨stmts, rfl, hstmts⟩
    rwa [ArrowBody.mentions]
  · refine (reads_map hl.expr ArrowBody.value).mono (fun _ hi => hi) ?_ fun _ hj => hj
    rintro i body - ⟨e, rfl, he⟩
    rwa [ArrowBody.mentions]

/-- The parameters of an arrow function are excused where it begins. -/
theorem arrow_fine : ReadsExpr text (arrow (level n)) := by
  refine spanned_fine (q := fun i (pb : List String × ArrowBody) =>
      (∀ w ∈ pb.1, w ∈ deniedNames → BehindNumber text i.pos w) ∧ Fine text pb.2.mentions)
    ?parts (fun _ hi => hi) (fun _ hj => hj) ?form
  case parts =>
    intro i pb j hi h
    obtain ⟨⟨params, k⟩, hk, h⟩ := Option.bind_eq_some_iff.mp h
    obtain ⟨⟨_, m⟩, hm, h⟩ := Option.bind_eq_some_iff.mp h
    obtain ⟨⟨body, o⟩, ho, h⟩ := Option.bind_eq_some_iff.mp h
    obtain ⟨rfl, rfl⟩ := Prod.mk.inj (Option.some.inj h)
    obtain ⟨hparams, hk'⟩ := parameters_fine hscreen hi hk
    obtain ⟨hbody, ho'⟩ :=
      arrowBody_fine hl (sign_reads rfl hk'.skip.somewhere hm).2.skip.ready ho
    exact ⟨⟨hparams, hbody⟩, ho'⟩
  case form =>
    rintro i ⟨params, body⟩ span hstart - ⟨hparams, hbody⟩
    rw [Form.mentions]
    refine Fine.append (fun m hm hdenied => ?_) hbody
    obtain ⟨w, hw, rfl⟩ := List.mem_map.mp hm
    show BehindNumber text span.start w
    rw [hstart]
    exact hparams w hw hdenied

theorem exprRule_fine : ReadsExpr text (exprRule (level n)) :=
  reads_orElse (arrow_fine hscreen hl) (conditional_fine hscreen hl)

/-! ### Statements

  Each kind begins with a keyword or a sign, but for the one that is an expression.  That one
  begins where the statement does, and hands its place on. -/

/-- What is bound stands behind a keyword. -/
theorem binding_fine : ReadsStmt text (binding (level n)) := by
  intro i s j hi h
  obtain ⟨⟨_, k⟩, hk, h⟩ := Option.bind_eq_some_iff.mp h
  obtain ⟨⟨w, m⟩, hm, h⟩ := Option.bind_eq_some_iff.mp h
  obtain ⟨⟨_, o⟩, ho, h⟩ := Option.bind_eq_some_iff.mp h
  obtain ⟨⟨value, p⟩, hp, h⟩ := Option.bind_eq_some_iff.mp h
  obtain ⟨rfl, rfl⟩ := Prod.mk.inj (Option.some.inj h)
  have hk' := (reads_orElse (keyword_reads _) (keyword_reads _) hi.somewhere hk).2.skip
  obtain ⟨hw, hm'⟩ := name_reads hk'.somewhere hm
  have hnot := not_denied_of_clear hscreen hk' hw
  obtain ⟨hvalue, hp'⟩ := hl.expr (sign_reads rfl hm'.skip.somewhere ho).2.skip.ready hp
  simp only [Stmt.mentions]
  exact ⟨.cons (fun hd => absurd hd hnot) hvalue, optionalSign_ready rfl hp'⟩

omit hscreen in
/-- What is returned stands behind a keyword. -/
theorem returning_fine : ReadsStmt text (returning (level n)) := by
  intro i s j hi h
  obtain ⟨⟨_, k⟩, hk, h⟩ := Option.bind_eq_some_iff.mp h
  have hk' := (keyword_reads _ hi.somewhere hk).2.skip
  dsimp only at h
  split at h
  · rename_i value m hm
    obtain ⟨rfl, rfl⟩ := Prod.mk.inj (Option.some.inj h)
    split at hm
    · cases hm
    · obtain ⟨hvalue, hm'⟩ := hl.expr hk'.ready hm
      simp only [Stmt.mentions]
      exact ⟨hvalue, optionalSign_ready rfl hm'⟩
  · obtain ⟨rfl, rfl⟩ := Prod.mk.inj (Option.some.inj h)
    simp only [Stmt.mentions]
    exact ⟨.nil, optionalSign_ready rfl hk'.ready⟩

omit hscreen in
/-- A condition in parentheses, and one branch or two. -/
theorem choosing_fine : ReadsStmt text (choosing (level n)) := by
  intro i s j hi h
  obtain ⟨⟨_, k⟩, hk, h⟩ := Option.bind_eq_some_iff.mp h
  obtain ⟨⟨_, m⟩, hm, h⟩ := Option.bind_eq_some_iff.mp h
  obtain ⟨⟨c, o⟩, ho, h⟩ := Option.bind_eq_some_iff.mp h
  obtain ⟨⟨_, p⟩, hp, h⟩ := Option.bind_eq_some_iff.mp h
  obtain ⟨⟨yes, q⟩, hq, h⟩ := Option.bind_eq_some_iff.mp h
  have hk' := (keyword_reads _ hi.somewhere hk).2.skip
  obtain ⟨hc, ho'⟩ := hl.expr (sign_reads rfl hk'.somewhere hm).2.skip.ready ho
  obtain ⟨hyes, hq'⟩ := hl.stmt (sign_reads rfl ho'.skip.somewhere hp).2.skip.ready hq
  dsimp only at h
  split at h
  · rename_i no r hr
    obtain ⟨rfl, rfl⟩ := Prod.mk.inj (Option.some.inj h)
    obtain ⟨⟨_, t⟩, ht, hr⟩ := Option.bind_eq_some_iff.mp hr
    obtain ⟨hno, hr'⟩ := hl.stmt (keyword_reads _ hq'.skip.somewhere ht).2.skip.ready hr
    simp only [Stmt.mentions]
    exact ⟨hc.append (hyes.append hno), hr'⟩
  · obtain ⟨rfl, rfl⟩ := Prod.mk.inj (Option.some.inj h)
    simp only [Stmt.mentions]
    exact ⟨hc.append hyes, hq'.skip⟩

/-- **The statements of a level are fine**, if those of the level further in are. -/
theorem stmtRule_fine : ReadsStmt text (stmtRule (level n)) := by
  refine reads_orElse (binding_fine hscreen hl) <| reads_orElse (returning_fine hl) <|
    reads_orElse (choosing_fine hl) <| reads_orElse ?block <| reads_orElse ?empty ?expr
  case block =>
    refine (reads_map (block_fine hl) Stmt.block).mono (fun _ hi => hi) ?_ fun _ hj => hj
    rintro i s - ⟨body, rfl, hbody⟩
    rwa [Stmt.mentions]
  case empty =>
    refine (reads_map (sign_reads rfl) fun _ => Stmt.empty).mono (fun _ hi => hi.somewhere) ?_
      fun _ hj => hj.ready
    rintro i s - ⟨_, rfl, -⟩
    rw [Stmt.mentions]
    exact .nil
  case expr =>
    intro i s j hi h
    obtain ⟨⟨e, k⟩, hk, he⟩ := Option.map_eq_some_iff.mp h
    obtain ⟨rfl, rfl⟩ := Prod.mk.inj he
    obtain ⟨hfine, hk'⟩ := exprRule_fine hscreen hl hi hk
    simp only [Stmt.mentions]
    exact ⟨hfine, optionalSign_ready rfl hk'⟩

end Level

/-- **Every level reads nothing but excused names**: what one level reads, it reads through the
    rules of the next. -/
theorem level_fine (hscreen : firstDenied? false 0 text = none) (n : Nat) :
    (level n).Fine text := by
  induction n with
  -- the level that reads nothing
  | zero => exact ⟨fun _ _ _ _ h => (nomatch h), fun _ _ _ _ h => (nomatch h)⟩
  | succ n ih => exact ⟨exprRule_fine hscreen ih, stmtRule_fine hscreen ih⟩

/-! ## Programs

  A program begins at the start of its text, which is a clear place, and its statements stand
  one behind the other. -/

/-- Statements up to the end of the text, from a clear place on. -/
theorem programWith_fine {n : Nat} {s : String} {p : Program}
    (hscreen : firstDenied? false 0 s.toList = none) (h : programWith n s = some p) :
    Fine s.toList p.mentions := by
  unfold programWith at h
  rcases hbody : many (level n).stmt (skip (Input.ofText s)) with ⟨body, i⟩
  rw [hbody] at h
  dsimp only at h
  split at h
  · obtain rfl := Option.some.inj h
    have hall := (reads_many (level_fine hscreen n).stmt (fun _ => Ready.skip)
      (clear_ofText s).skip.ready hbody).1
    refine .of_stmts fun stmt hstmt => ?_
    obtain ⟨_, _, hfine⟩ := hall stmt hstmt
    exact hfine
  · cases h

/-- **What a snippet that is accepted can name.**  No property that it reads and nothing that it
    binds has a denied name; a key has one only if it is a string literal, and an identifier or the
    parameter of an arrow function only if it stands right behind a numeral. -/
theorem compiled_names_denied {snippet : String} {p : Program} (h : compile snippet = .ok p) :
    ∀ m ∈ p.mentions, m.word ∈ deniedNames → Excused snippet.toList m := by
  -- what is accepted has passed the screen first
  obtain ⟨u, hu, hparse⟩ : ∃ u, screen snippet = .ok u ∧ parse snippet = .ok p := by
    unfold compile at h
    cases hs : screen snippet with
    | error f => rw [hs] at h; cases h
    | ok u => rw [hs] at h; exact ⟨u, rfl, h⟩
  unfold parse at hparse
  split at hparse
  · rename_i q hq
    obtain rfl := Except.ok.inj hparse
    exact programWith_fine (screen_eq_ok_iff.mp hu) hq
  · cases hparse

/-- What `1fs` names stands right behind a numeral. -/
theorem compiled_names_denied_numeral :
    ∃ p, compile "1fs" = .ok p ∧
      ∃ m ∈ p.mentions, m.identifier? = some "fs" ∧ Excused "1fs".toList m := by
  have hd : (match compile "1fs" with
      | .ok p => decide ("fs" ∈ p.names)
      | .error _ => false) = true := by
    rw [compile_eq_parse (by decide)]
    decide +kernel
  cases hp : compile "1fs" with
  | error f => simp only [hp, Bool.false_eq_true] at hd
  | ok p =>
    simp only [hp, decide_eq_true_eq] at hd
    rw [p.names_eq_mentions] at hd
    obtain ⟨m, hm, hname⟩ := List.mem_filterMap.mp hd
    have hword : m.word = "fs" := m.word_of_identifier? hname
    exact ⟨p, rfl, m, hm, hname, compiled_names_denied hp m hm (by rw [hword]; decide)⟩

/-- **The gap**: a numeral may run into a name, and the screen takes the two for one word. -/
theorem compiled_denied_name :
    ∃ p, compile "1fs" = .ok p ∧ "fs" ∈ p.names ∧ "fs" ∈ deniedNames := by
  have hd : (match compile "1fs" with
      | .ok p => decide ("fs" ∈ p.names)
      | .error _ => false) = true := by
    rw [compile_eq_parse (by decide)]
    decide +kernel
  cases hp : compile "1fs" with
  | error f => simp only [hp, Bool.false_eq_true] at hd
  | ok p =>
    simp only [hp, decide_eq_true_eq] at hd
    exact ⟨p, rfl, hd, by decide⟩

end ExerciseGrading.Snippet
