/-
  LAYING OUT: where the rules of the grammar put what they read.

  A rule begins at one place of the text and ends at another, and the spans of what it reads are
  made of these places.  That they are sound, nested and in order follows from one fact: every rule
  goes on.  So each rule is given two bounds, and what it reads is said to stand between them.

  1. `Takes` — a rule for a sign, a word or a literal takes a beginning of what is left, and not
     nothing.  `Lays text R r` — a rule goes on in the text, and what it reads stands between the
     places where it began and where it ended, in the sense of `R`.
  2. One law for each way to make a rule of others: `lays_orElse`, `lays_map`, `lays_spanned`,
     `lays_placed`, `many_along`, `lays_enclosed`; `Lays.step` takes one rule off a sequence of
     them.  With these, a rule of the grammar is laid out by going through it once from left to
     right.
  3. An operand and a chain are laid out as they are read; the tree that they mean follows by going
     through `Operand.Means` and `Grouped`, since splitting a chain splits the text.  A parenthesis
     leaves no expression behind: what stands in it is then an operand with room around it.
  4. `level_laid` — every level of the grammar lays out expressions and statements, by induction on
     the levels.  `parse_laid` says what this means for a snippet.
-/
import ExerciseGrading.Proofs.Snippet.Grouping
import ExerciseGrading.Proofs.Snippet.Spans

namespace ExerciseGrading.Snippet

open ExerciseGrading.Snippet.Rule

variable {text : List Char}

/-! ## Rules that take characters

  That a rule for a sign or a word goes on is a fact about lists: what it leaves is a shorter
  end of what there was. -/

/-- Whether a rule, if it applies, takes at least one character and nothing else happens. -/
def Takes {α : Type} (r : Rule α) : Prop :=
  ∀ ⦃i : Input⦄ ⦃a : α⦄ ⦃j : Input⦄, r i = some (a, j) →
    ∃ taken rest, taken ≠ [] ∧ i.rest = taken ++ rest ∧ j = i.after rest

/-- What a rule promises: it goes on in the text, and what it reads stands between the places where
    it began and where it ended. -/
def Lays {α : Type} (text : List Char) (R : Nat → α → Nat → Prop) (r : Rule α) : Prop :=
  ∀ ⦃i : Input⦄ ⦃a : α⦄ ⦃j : Input⦄, Somewhere text i → r i = some (a, j) →
    Somewhere text j ∧ i.pos < j.pos ∧ R i.pos a j.pos

/-- Nothing is asked of things that no expression is in. -/
def Bare {α : Type} (_ : Nat) (_ : α) (_ : Nat) : Prop := True

/-- Every character has bytes. -/
theorem byteLength_pos {s : List Char} (h : s ≠ []) : 0 < Text.byteLength s := by
  obtain ⟨c, s, rfl⟩ := List.exists_cons_of_ne_nil h
  have hc := c.utf8Size_pos
  rw [Text.byteLength]
  omega

/-- A place further on in the text is further on in bytes. -/
theorem Input.le_after (i : Input) (rest : List Char) : i.pos ≤ (i.after rest).pos :=
  Nat.le_add_right _ _

theorem le_skip (i : Input) : i.pos ≤ (skip i).pos := i.le_after _

/-- What takes characters goes on by their bytes. -/
theorem Takes.lays {α : Type} {r : Rule α} (h : Takes r) : Lays text Bare r := by
  rintro i a j ⟨before, hat⟩ hr
  obtain ⟨taken, rest, hne, hrest, rfl⟩ := h hr
  refine ⟨⟨_, hat.after hrest⟩, ?_, trivial⟩
  have hpos : (i.after rest).pos = i.pos + Text.byteLength taken := by
    show i.pos + (Text.byteLength i.rest - Text.byteLength rest) = _
    rw [hrest, Text.byteLength_append, Nat.add_sub_cancel]
  have hbytes := byteLength_pos hne
  omega

/-- A sign takes its characters. -/
theorem sign_takes {s : String} (hs : s.toList ≠ []) : Takes (sign s) := by
  intro i _ j hr
  obtain ⟨rest, hdrop, he⟩ := Option.map_eq_some_iff.mp hr
  obtain ⟨-, rfl⟩ := Prod.mk.inj he
  exact ⟨_, rest, hs, Text.dropStart?_eq_some.mp hdrop, rfl⟩

/-- A word has a character. -/
theorem word?_ne_nil {s u rest : List Char} (h : word? s = some (u, rest)) : u ≠ [] := by
  cases s with
  | nil => cases h
  | cons c s =>
    rw [word?] at h
    split at h
    · obtain ⟨rfl, -⟩ := Prod.mk.inj (Option.some.inj h)
      exact List.cons_ne_nil _ _
    · cases h

/-- A keyword takes its letters. -/
theorem keyword_takes (w : String) : Takes (keyword w) := by
  intro i _ j hr
  obtain ⟨rest, hw, he⟩ := Option.map_eq_some_iff.mp hr
  obtain ⟨-, rfl⟩ := Prod.mk.inj he
  refine ⟨w.toList, rest, ?_, (keyword?_eq hw).1, rfl⟩
  unfold keyword? at hw
  split at hw
  · rename_i u rest' hu
    split at hw
    · rename_i huw
      rw [← huw]
      exact word?_ne_nil hu
    · cases hw
  · cases hw

/-- A name takes its characters: it is a word and no keyword. -/
theorem name_takes : Takes name := by
  intro i w j hr
  obtain ⟨⟨w', rest⟩, hw, he⟩ := Option.map_eq_some_iff.mp hr
  obtain ⟨rfl, rfl⟩ := Prod.mk.inj he
  refine ⟨w'.toList, rest, ?_, (name?_eq hw).1, rfl⟩
  unfold name? at hw
  split at hw
  · rename_i u rest' hu
    dsimp only at hw
    split at hw
    · cases hw
    · obtain ⟨rfl, -⟩ := Prod.mk.inj (Option.some.inj hw)
      rw [String.toList_ofList]
      exact word?_ne_nil hu
  · cases hw

/-- A word takes its characters. -/
theorem word_takes : Takes word := by
  intro i w j hr
  obtain ⟨⟨u, rest⟩, hw, he⟩ := Option.map_eq_some_iff.mp hr
  obtain ⟨-, rfl⟩ := Prod.mk.inj he
  exact ⟨u, rest, word?_ne_nil hw, (word?_eq hw).1, rfl⟩

/-- A numeral has a digit. -/
theorem numeral?_ne_nil {s n rest : List Char} (h : numeral? s = some (n, rest)) : n ≠ [] := by
  unfold numeral? at h
  dsimp only at h
  split at h
  · cases h
  · rename_i hwhole
    split at h
    · split at h
      · obtain ⟨rfl, -⟩ := Prod.mk.inj (Option.some.inj h)
        exact hwhole
      · obtain ⟨rfl, -⟩ := Prod.mk.inj (Option.some.inj h)
        exact List.append_ne_nil_of_left_ne_nil hwhole _
    · obtain ⟨rfl, -⟩ := Prod.mk.inj (Option.some.inj h)
      exact hwhole

/-- A numeral takes its digits, with the point between them if there are digits behind it. -/
theorem numeral_takes : Takes (fun i => (numeral? i.rest).map fun (s, r) => (s, i.after r)) := by
  intro i _ j hr
  obtain ⟨⟨n, rest⟩, hn, he⟩ := Option.map_eq_some_iff.mp hr
  obtain ⟨-, rfl⟩ := Prod.mk.inj he
  exact ⟨n, rest, numeral?_ne_nil hn, numeral?_eq hn, rfl⟩

/-- A string takes both quotes and what is between them. -/
theorem stringText_takes : Takes stringText := by
  intro i _ j hr
  obtain ⟨⟨s, rest⟩, hs, he⟩ := Option.map_eq_some_iff.mp hr
  obtain ⟨-, rfl⟩ := Prod.mk.inj he
  obtain ⟨q, -, hrest⟩ := quoted?_eq hs
  refine ⟨q :: s ++ [q], rest, List.cons_ne_nil _ _, ?_, rfl⟩
  rw [hrest, List.append_assoc, List.singleton_append]

/-- A regular expression takes both slashes and the letters behind. -/
theorem slashed_takes :
    Takes (fun i => (slashed? i.rest).map fun (p, f, r) => ((p, f), i.after r)) := by
  intro i _ j hr
  obtain ⟨⟨p, f, rest⟩, hp, he⟩ := Option.map_eq_some_iff.mp hr
  obtain ⟨-, rfl⟩ := Prod.mk.inj he
  unfold slashed? at hp
  split at hp
  · rename_i s hi
    split at hp
    · rename_i c body rest' hend
      obtain ⟨-, he⟩ := Prod.mk.inj (Option.some.inj hp)
      obtain ⟨-, rfl⟩ := Prod.mk.inj he
      refine ⟨'/' :: (c :: body) ++ '/' :: rest'.takeWhile Char.isAlpha, _, List.cons_ne_nil _ _,
        ?_, rfl⟩
      rw [hi, slashedEnd?_eq hend]
      simp only [List.cons_append, List.append_assoc, List.takeWhile_append_dropWhile]
    · cases hp
  · cases hp

/-! ## Laws

  A rule that is made of others is laid out by going through it.  Every law takes the bounds of
  the parts and gives the bounds of the whole. -/

section Laws

variable {α β : Type} {R : Nat → α → Nat → Prop} {S : Nat → β → Nat → Prop} {r r' : Rule α}

/-- A choice is laid out by the rule that applied. -/
theorem lays_orElse (h : Lays text R r) (h' : Lays text R r') : Lays text R (orElse r r') := by
  intro i a j hi hr
  unfold orElse at hr
  split at hr
  · rename_i x hx
    rw [Option.some.inj hr] at hx
    exact h hi hx
  · exact h' hi hr

/-- A rule that is the first of several: it goes on, and the others begin behind the white space. -/
theorem Lays.step {f : α × Input → Option β} {b : β} (h : Lays text R r) {i : Input}
    (hi : Somewhere text i) (hb : (r i).bind f = some b) :
    ∃ a k, f (a, k) = some b ∧ Somewhere text k ∧ i.pos < k.pos ∧ k.pos ≤ (skip k).pos ∧
      R i.pos a k.pos := by
  obtain ⟨⟨a, k⟩, ha, hf⟩ := Option.bind_eq_some_iff.mp hb
  obtain ⟨hk, hlt, hR⟩ := h hi ha
  exact ⟨a, k, hf, hk, hlt, le_skip k, hR⟩

/-- A result that is only made into another one stands where it stood. -/
theorem lays_map (h : Lays text R r) (f : α → β) (hf : ∀ lo a hi, R lo a hi → S lo (f a) hi) :
    Lays text S (fun i => (r i).map fun (a, j) => (f a, j)) := by
  intro i b j hi hr
  obtain ⟨⟨a, j'⟩, ha, he⟩ := Option.map_eq_some_iff.mp hr
  obtain ⟨rfl, rfl⟩ := Prod.mk.inj he
  obtain ⟨hj, hlt, hR⟩ := h hi ha
  exact ⟨hj, hlt, hf _ _ _ hR⟩

/-- An expression at the place of what a rule reads. -/
theorem lays_spanned (h : Lays text R r) {f : α → Form}
    (hf : ∀ lo a hi, lo < hi → R lo a hi → Row text lo (f a).children hi) :
    Lays text (Stands text) (spanned r f) := by
  intro i e j hi hr
  obtain ⟨⟨a, j'⟩, ha, he⟩ := Option.map_eq_some_iff.mp hr
  obtain ⟨rfl, rfl⟩ := Prod.mk.inj he
  obtain ⟨hj, hlt, hR⟩ := h hi ha
  have hspan := stretch_of_boundaries hi.boundary hj.boundary hlt
  exact ⟨hj, hlt, stands_mk hspan (hf _ _ _ hlt hR)⟩

/-- An expression with nothing inside. -/
theorem lays_leaf (h : Takes r) {f : α → Form} (hf : ∀ a, (f a).children = []) :
    Lays text (Stands text) (spanned r f) := by
  refine lays_spanned h.lays fun lo a hi hlt _ => ?_
  rw [hf]
  exact .nil (Nat.le_of_lt hlt)

/-- What a rule read, with the stretch that it took. -/
structure Placed (text : List Char) (R : Nat → α → Nat → Prop) (lo : Nat) (x : Span × α)
    (hi : Nat) : Prop where
  after : lo ≤ x.1.start
  stretch : Stretch text x.1
  inner : R x.1.start x.2 x.1.stop
  before : x.1.stop ≤ hi

/-- A result beside the stretch that its rule took. -/
theorem lays_placed (h : Lays text R r) : Lays text (Placed text R) (placed r) := by
  intro i x j hi hr
  obtain ⟨⟨a, j'⟩, ha, he⟩ := Option.map_eq_some_iff.mp hr
  obtain ⟨rfl, rfl⟩ := Prod.mk.inj he
  obtain ⟨hj, hlt, hR⟩ := h hi ha
  have hspan := stretch_of_boundaries hi.boundary hj.boundary hlt
  exact ⟨hj, hlt, Nat.le_refl _, hspan, hR, Nat.le_refl _⟩

/-- What a repetition reads stands one after the other. -/
theorem many_along (h : Lays text R r) {i j : Input} {as : List α} (hi : Somewhere text i)
    (hr : many r i = (as, j)) : Somewhere text j ∧ i.pos ≤ j.pos ∧ Along R i.pos as j.pos := by
  fun_induction many r i generalizing as with
  | case1 i a k ha m _ more l hmore =>
    rename_i ih
    obtain ⟨rfl, rfl⟩ := Prod.mk.inj hr
    obtain ⟨hk, hlt, hR⟩ := h hi ha
    obtain ⟨hj, hle, hmore⟩ := ih hk.skip hmore
    have hskip : k.pos ≤ m.pos := le_skip k
    have hrest := hmore.mono hskip (Nat.le_refl _)
    exact ⟨hj, by omega, .cons (Nat.le_refl _) hR hrest⟩
  | case2 i a k ha _ =>
    obtain ⟨rfl, rfl⟩ := Prod.mk.inj hr
    obtain ⟨hk, hlt, hR⟩ := h hi ha
    have hskip := le_skip k
    have hle : i.pos ≤ (skip k).pos := by omega
    exact ⟨hk.skip, hle, .cons (Nat.le_refl _) hR (.nil hskip)⟩
  | case3 i hnone =>
    obtain ⟨rfl, rfl⟩ := Prod.mk.inj hr
    exact ⟨hi, Nat.le_refl _, .nil (Nat.le_refl _)⟩

/-- Items behind separators, in order. If an item is missing behind a separator, the text goes on
    before the separator. -/
theorem moreAfter_along (h : Lays text R r) {sep : String} (hs : sep.toList ≠ []) {i j : Input}
    {as : List α} (hi : Somewhere text i) (hr : moreAfter sep r i = (as, j)) :
    Somewhere text j ∧ i.pos ≤ j.pos ∧ Along R i.pos as j.pos := by
  fun_induction moreAfter sep r i generalizing as with
  | case1 i _ k hsign a l ha m _ more n hmore =>
    rename_i ih
    obtain ⟨rfl, rfl⟩ := Prod.mk.inj hr
    -- sign, layout, item, layout: each goes on from where the one before it ended
    obtain ⟨hk, hlt, -⟩ := (sign_takes hs).lays hi hsign
    obtain ⟨hl, hlt', hR⟩ := h hk.skip ha
    obtain ⟨hj, hle, hmore⟩ := ih hl.skip hmore
    have hskip := le_skip k
    have hskip' : l.pos ≤ m.pos := le_skip l
    exact ⟨hj, by omega, .cons (by omega) hR (hmore.mono hskip' (Nat.le_refl _))⟩
  | case2 i _ k hsign a l ha _ =>
    obtain ⟨rfl, rfl⟩ := Prod.mk.inj hr
    obtain ⟨hk, hlt, -⟩ := (sign_takes hs).lays hi hsign
    obtain ⟨hl, hlt', hR⟩ := h hk.skip ha
    have hskip := le_skip k
    have hskip' := le_skip l
    have hle : i.pos ≤ (skip l).pos := by omega
    exact ⟨hl.skip, hle, .cons (by omega) hR (.nil hskip')⟩
  | case3 i _ k hsign hnone =>
    obtain ⟨rfl, rfl⟩ := Prod.mk.inj hr
    exact ⟨hi, Nat.le_refl _, .nil (Nat.le_refl _)⟩
  | case4 i hnone =>
    obtain ⟨rfl, rfl⟩ := Prod.mk.inj hr
    exact ⟨hi, Nat.le_refl _, .nil (Nat.le_refl _)⟩

/-- Items with commas between them, in order; perhaps none. -/
theorem listed_along (h : Lays text R r) {i j : Input} {as : List α} (hi : Somewhere text i)
    (hr : listed r i = (as, j)) :
    Somewhere text j ∧ i.pos ≤ j.pos ∧ Along R i.pos as j.pos := by
  unfold listed at hr
  split at hr
  · rename_i a k ha
    obtain ⟨hk, hlt, hR⟩ := h hi ha
    rcases hmore : moreAfter "," r (skip k) with ⟨more, l⟩
    rw [hmore] at hr
    obtain ⟨rfl, rfl⟩ := Prod.mk.inj hr
    obtain ⟨hj, hle, hmore⟩ := moreAfter_along h (by decide) hk.skip hmore
    have hskip := le_skip k
    exact ⟨hj, by omega, .cons (Nat.le_refl _) hR (hmore.mono hskip (Nat.le_refl _))⟩
  · obtain ⟨rfl, rfl⟩ := Prod.mk.inj hr
    exact ⟨hi, Nat.le_refl _, .nil (Nat.le_refl _)⟩

/-- An optional sign is passed over, or nothing but layout is. -/
theorem optionalSign_ahead (s : String) {i : Input} (hi : Somewhere text i) :
    Somewhere text (optionalSign s i) ∧ i.pos ≤ (optionalSign s i).pos := by
  have hskip := le_skip i
  unfold optionalSign
  split
  · rename_i j hj
    obtain ⟨rest, hdrop, he⟩ := Option.map_eq_some_iff.mp hj
    obtain ⟨-, rfl⟩ := Prod.mk.inj he
    obtain ⟨before, hat⟩ := hi.skip
    refine ⟨⟨_, hat.after (Text.dropStart?_eq_some.mp hdrop)⟩, ?_⟩
    exact Nat.le_trans hskip (Input.le_after _ _)
  · exact ⟨hi.skip, hskip⟩

/-- Items between two signs stand one after the other. -/
theorem lays_enclosed (h : Lays text R r) {left right : String} (hl : left.toList ≠ [])
    (hr : right.toList ≠ []) (trailing : Bool) :
    Lays text (Along R) (enclosed left right trailing r) := by
  intro i as j hi he
  obtain ⟨_, k, he, hk, hlt, hskip, -⟩ := (sign_takes hl).lays.step hi he
  dsimp only at he
  rcases hlist : listed r (skip k) with ⟨items, m⟩
  rw [hlist] at he
  dsimp only at he
  obtain ⟨hm, hle, hitems⟩ := listed_along h hk.skip hlist
  -- a comma behind the last item is passed over
  have hcomma : Somewhere text (if trailing && !items.isEmpty then optionalSign "," m else m) ∧
      m.pos ≤ (if trailing && !items.isEmpty then optionalSign "," m else m).pos := by
    split
    · exact optionalSign_ahead "," hm
    · exact ⟨hm, Nat.le_refl _⟩
  obtain ⟨_, n, he, hn, hlt', -⟩ := (sign_takes hr).lays.step hcomma.1.skip he
  obtain ⟨rfl, rfl⟩ : items = as ∧ n = j := Prod.mk.inj (Option.some.inj he)
  have hcomma' := hcomma.2
  have hskip' := le_skip (if trailing && !items.isEmpty then optionalSign "," m else m)
  exact ⟨hn, by omega, hitems.mono (by omega) (by omega)⟩

end Laws

/-! ## Primary expressions

  The leaves take characters and have no children, so that `lays_leaf` is all there is to say of
  them.  The others enclose expressions of the next level between signs; that those are laid out
  is the hypothesis on the level, and the law for enclosing makes a row of them. -/

theorem number_laid : Lays text (Stands text) number := lays_leaf numeral_takes fun _ => rfl

theorem string_laid : Lays text (Stands text) string := lays_leaf stringText_takes fun _ => rfl

theorem regex_laid : Lays text (Stands text) regex := lays_leaf slashed_takes fun _ => rfl

theorem constant_laid : Lays text (Stands text) constant := by
  refine lays_orElse ?_ (lays_orElse ?_ (lays_orElse ?_ ?_)) <;>
    exact lays_leaf (keyword_takes _) fun _ => rfl

/-- Levels of the grammar that lay out what they read. -/
structure Level.Laid (text : List Char) (l : Level) : Prop where
  expr : Lays text (Stands text) l.expr
  stmt : Lays text (Stmt.Stands text) l.stmt

section Level

variable {l : Level} (hl : l.Laid text)

include hl

/-- The items of a list stand between its brackets. -/
theorem array_laid : Lays text (Stands text) (array l) :=
  lays_spanned (lays_enclosed hl.expr (by decide) (by decide) true) fun _ _ _ _ hitems => hitems

/-- A name that stands for key and value stands where the value does. -/
theorem property_laid : Lays text (fun lo m hi => Stands text lo m.value hi) (property l) := by
  refine lays_orElse ?pair ?short
  case pair =>
    intro i member j hi h
    obtain ⟨key, k, h, hk, hlt, hskip, -⟩ :=
      (lays_orElse stringText_takes.lays word_takes.lays).step hi h
    obtain ⟨_, m, h, hm, hlt', hskip', -⟩ := (sign_takes (by decide)).lays.step hk.skip h
    obtain ⟨value, o, h, ho, hlt'', -, hvalue⟩ := hl.expr.step hm.skip h
    obtain ⟨rfl, rfl⟩ := Prod.mk.inj (Option.some.inj h)
    exact ⟨ho, by omega, hvalue.mono (by omega) (Nat.le_refl _)⟩
  case short =>
    intro i member j hi h
    obtain ⟨w, k, h, hk, hlt, -⟩ := name_takes.lays.step hi h
    obtain ⟨rfl, rfl⟩ := Prod.mk.inj (Option.some.inj h)
    have hspan := stretch_of_boundaries hi.boundary hk.boundary hlt
    exact ⟨hk, hlt, stands_mk hspan (.nil (Nat.le_of_lt hlt))⟩

/-- The values of members stand in their order. -/
theorem object_laid : Lays text (Stands text) (object l) :=
  lays_spanned (lays_enclosed (property_laid hl) (by decide) (by decide) true)
    fun _ _ _ _ hmembers => hmembers.map

/-- A parenthesis is not in the tree: the expression in it stands where it stood, with room around
    it. -/
theorem parenthesized_laid : Lays text (Stands text) (parenthesized l) := by
  intro i e j hi h
  obtain ⟨_, k, h, hk, hlt, hskip, -⟩ := (sign_takes (by decide)).lays.step hi h
  obtain ⟨e', m, h, hm, hlt', hskip', he⟩ := hl.expr.step hk.skip h
  obtain ⟨_, n, h, hn, hlt'', -⟩ := (sign_takes (by decide)).lays.step hm.skip h
  obtain ⟨rfl, rfl⟩ := Prod.mk.inj (Option.some.inj h)
  exact ⟨hn, by omega, he.mono (by omega) (by omega)⟩

/-- One of the eight beginnings of an operand. -/
theorem primary_laid : Lays text (Stands text) (primary l) :=
  lays_orElse number_laid <| lays_orElse string_laid <| lays_orElse constant_laid <|
  lays_orElse regex_laid <| lays_orElse (array_laid hl) <| lays_orElse (object_laid hl) <|
  lays_orElse (parenthesized_laid hl) <| lays_leaf name_takes fun _ => rfl

/-! ## Operands

  The tree of an operand is made from the inside out, while its tokens stand from left to right.
  So what is laid out first is the row of its tokens, and the tree is given its place
  afterwards. -/

/-- The expressions in what follows an operand. -/
def Postfix.exprs : Postfix → List Expr
  | .member .. => []
  | .index key => [key]
  | .call args => args

/-- What follows an operand, between two places: its expressions are a row there. -/
def Postfix.Stands (text : List Char) (lo : Nat) (p : Postfix) (hi : Nat) : Prop :=
  Row text lo p.exprs hi

omit hl in
/-- What follows an operand has the operand as its first child. -/
theorem Postfix.children_form (e : Expr) (p : Postfix) : (p.form e).children = e :: p.exprs := by
  cases p <;> rfl

omit hl in
/-- The name of a property behind its sign: no expression is in it. -/
theorem memberPart_laid {s : String} (hs : s.toList ≠ []) (isOptional : Bool) :
    Lays text (Postfix.Stands text) (fun i => do
      let (_, j) ← sign s i
      let (w, k) ← word (skip j)
      return (Postfix.member w isOptional, k)) := by
  intro i p j hi h
  obtain ⟨_, k, h, hk, hlt, hskip, -⟩ := (sign_takes hs).lays.step hi h
  obtain ⟨w, m, h, hm, hlt', -⟩ := word_takes.lays.step hk.skip h
  obtain ⟨rfl, rfl⟩ := Prod.mk.inj (Option.some.inj h)
  have hlt'' : i.pos < m.pos := by omega
  exact ⟨hm, hlt'', .nil (Nat.le_of_lt hlt'')⟩

/-- A property, an index or arguments: the expressions in them stand in a row. -/
theorem postfixPart_laid :
    Lays text (Postfix.Stands text) (postfixPart l) := by
  refine lays_orElse (memberPart_laid (by decide) true) <|
    lays_orElse (memberPart_laid (by decide) false) <| lays_orElse ?index ?call
  case index =>
    intro i p j hi h
    obtain ⟨_, k, h, hk, hlt, hskip, -⟩ := (sign_takes (by decide)).lays.step hi h
    obtain ⟨key, m, h, hm, hlt', hskip', hkey⟩ := hl.expr.step hk.skip h
    obtain ⟨_, n, h, hn, hlt'', -⟩ := (sign_takes (by decide)).lays.step hm.skip h
    obtain ⟨rfl, rfl⟩ := Prod.mk.inj (Option.some.inj h)
    exact ⟨hn, by omega, hkey.row.mono (by omega) (by omega)⟩
  case call =>
    exact lays_map (lays_enclosed hl.expr (by decide) (by decide) false) Postfix.call
      fun _ _ _ hargs => hargs

omit hl in
/-- An operator in front of an operand is a sign. -/
theorem prefixOp_laid : Lays text Bare prefixOp := by
  have hnot : Takes (sign "!") := sign_takes (by decide)
  have hneg : Takes (sign "-") := sign_takes (by decide)
  refine lays_orElse ?_ ?_
  · exact lays_map hnot.lays (fun _ => UnaryOp.not) fun _ _ _ _ => trivial
  · exact lays_map hneg.lays (fun _ => UnaryOp.neg) fun _ _ _ _ => trivial

/-- An operand as it stands: its operators, its primary expression and its parts one after the
    other. -/
def Operand.Stands (text : List Char) (lo : Nat) (o : Operand) (hi : Nat) : Prop :=
  ∃ m n, Along (Placed text Bare) lo o.signs m ∧ Snippet.Stands text m o.core n ∧
    Along (Placed text (Postfix.Stands text)) n o.parts hi

/-- Operators in front, what they are for, and what follows it: three runs of text, one behind the
    other. -/
theorem readOperand_laid : Lays text (Operand.Stands text) (readOperand l) := by
  intro i o j hi h
  unfold readOperand at h
  rcases hsigns : many (placed prefixOp) i with ⟨signs, k⟩
  rw [hsigns] at h
  obtain ⟨hk, hle, hsigns⟩ := many_along (lays_placed prefixOp_laid) hi hsigns
  obtain ⟨core, m, h, hm, hlt, hskip', hcore⟩ := (primary_laid hl).step hk.skip h
  rcases hparts : many (placed (postfixPart l)) (skip m) with ⟨parts, n⟩
  dsimp only at h
  rw [hparts] at h
  obtain ⟨rfl, rfl⟩ : ⟨signs, core, parts⟩ = o ∧ n = j := Prod.mk.inj (Option.some.inj h)
  obtain ⟨hn, hle', hparts⟩ := many_along (lays_placed (postfixPart_laid hl)) hm.skip hparts
  have hskip := le_skip k
  exact ⟨hn, by omega, k.pos, (skip m).pos, hsigns, hcore.mono hskip hskip', hparts⟩

omit hl in
/-- What follows an operand goes on from where it ends. -/
theorem withPart_stands {e : Expr} {p : Span × Postfix} {lo mid hi : Nat}
    (he : Stands text lo e mid)
    (hp : Placed text (Postfix.Stands text) mid p hi) :
    Stands text lo (withPart e p) hi := by
  have hle : e.span.stop ≤ p.1.start := Nat.le_trans he.before hp.after
  have hrow : Row text e.span.start (p.2.form e).children p.1.stop := by
    rw [Postfix.children_form]
    exact .cons (Nat.le_refl _) ⟨Nat.le_refl _, he.sound, hle⟩ hp.inner
  exact (stands_join he.stretch hp.stretch hle hrow).mono he.after hp.before

omit hl in
/-- An operator in front of an operand reaches to where the operand ends. -/
theorem withSign_stands {e : Expr} {s : Span × UnaryOp} {lo mid hi : Nat}
    (hs : Placed text Bare lo s mid) (he : Stands text mid e hi) :
    Stands text lo (withSign s e) hi := by
  have hle : s.1.stop ≤ e.span.start := Nat.le_trans hs.before he.after
  have hlt := hs.stretch.nonempty
  have hrow : Row text s.1.start (Form.unary s.2 e).children e.span.stop := by
    have hinside : Stands text s.1.start e e.span.stop := ⟨by omega, he.sound, Nat.le_refl _⟩
    exact hinside.row
  exact (stands_join hs.stretch he.stretch hle hrow).mono hs.after he.before

omit hl in
/-- What an operand means stands where the operand does. -/
theorem Operand.Means.stands {o : Operand} {e : Expr} (h : o.Means e) {lo hi : Nat}
    (ho : Operand.Stands text lo o hi) : Snippet.Stands text lo e hi := by
  induction h using Operand.Means.byParts generalizing lo hi with
  | core e =>
    obtain ⟨m, n, hsigns, hcore, hparts⟩ := ho
    have hlo : lo ≤ m := by cases hsigns with | nil hle => exact hle
    have hhi : n ≤ hi := by cases hparts with | nil hle => exact hle
    exact hcore.mono hlo hhi
  | part p _ ih =>
    obtain ⟨m, n, hsigns, hcore, hparts⟩ := ho
    obtain ⟨mid, hparts, hlast⟩ := hparts.of_append
    cases hlast with
    | cons hle hp hnil =>
      have hhi := by cases hnil with | nil hle' => exact hle'
      have he := ih ⟨m, n, hsigns, hcore, hparts.mono (Nat.le_refl _) hle⟩
      exact (withPart_stands he hp).mono (Nat.le_refl _) hhi
  | sign s _ ih =>
    obtain ⟨m, n, hsigns, hcore, hparts⟩ := ho
    cases hsigns with
    | cons hle hs hsigns =>
      have he := ih ⟨m, n, hsigns, hcore, hparts⟩
      exact (withSign_stands hs he).mono hle (Nat.le_refl _)

/-! ## Chains

  A chain is split at an operator, and the split of the operators is a split of the row in which
  they stand (`Along.of_append`).  So the tree is given its place by induction on `Grouped`,
  from the outermost operator inwards, without a word on precedence. -/

omit hl in
/-- An operator between two operands is a sign. -/
theorem binaryOp_laid : Lays text Bare binaryOp := by
  intro i op j hi h
  obtain ⟨op', -, h⟩ := List.exists_of_findSome?_eq_some h
  have hs : op'.symbol.toList ≠ [] := by cases op' <;> decide
  obtain ⟨⟨_, k⟩, hk, he⟩ := Option.map_eq_some_iff.mp h
  obtain ⟨-, rfl⟩ := Prod.mk.inj he
  exact (sign_takes hs).lays hi hk

/-- Operators with the operands after them. -/
abbrev LinkStands (text : List Char) (lo : Nat) (x : BinaryOp × Operand) (hi : Nat) : Prop :=
  Operand.Stands text lo x.2 hi

omit hl in
/-- An operand has room in front of it. -/
theorem Operand.Stands.mono {o : Operand} {lo lo' hi : Nat} (h : Operand.Stands text lo o hi)
    (hlo : lo' ≤ lo) : Operand.Stands text lo' o hi := by
  obtain ⟨m, n, hsigns, hcore, hparts⟩ := h
  exact ⟨m, n, hsigns.mono hlo (Nat.le_refl _), hcore, hparts⟩

/-- An operator, and the operand behind it. -/
theorem readLink_laid : Lays text (LinkStands text) (readLink l) := by
  intro i x j hi h
  obtain ⟨op, k, h, hk, hlt, hskip, -⟩ := binaryOp_laid.step hi h
  obtain ⟨o, m, h, hm, hlt', -, ho⟩ := (readOperand_laid hl).step hk.skip h
  obtain ⟨rfl, rfl⟩ := Prod.mk.inj (Option.some.inj h)
  exact ⟨hm, by omega, ho.mono (by omega)⟩

omit hl in
/-- **What a chain means stands where the chain does**: to both sides of the operator at which it is
    split there is a chain again. -/
theorem Grouped.stands {first : Operand} {ops : List (BinaryOp × Operand)} {e : Expr}
    (h : Grouped first ops e) {lo mid hi : Nat} (hfirst : Operand.Stands text lo first mid)
    (hops : Along (LinkStands text) mid ops hi) : Stands text lo e hi := by
  induction h generalizing lo mid hi with
  | operand hmeans =>
    have hhi : mid ≤ hi := by cases hops with | nil hle => exact hle
    exact (hmeans.stands hfirst).mono (Nat.le_refl _) hhi
  | @split first next left right op lhs rhs _ _ _ _ ihl ihr =>
    -- the operators before and behind the split stand before and behind it in the text
    obtain ⟨m, hleft, hops⟩ := hops.of_append
    cases hops with
    | @cons _ a b _ _ _ hle hnext hright =>
      have hlhs : Stands text lo lhs m := ihl hfirst hleft
      have hrhs : Stands text a rhs hi := ihr hnext hright
      have hbefore := hlhs.before
      have hafter := hrhs.after
      have hgap : lhs.span.stop ≤ rhs.span.start := by omega
      have hrow : Row text lhs.span.start (Form.binary op lhs rhs).children rhs.span.stop := by
        have hinside : Stands text lhs.span.stop rhs rhs.span.stop :=
          ⟨hgap, hrhs.sound, Nat.le_refl _⟩
        exact .cons (Nat.le_refl _) ⟨Nat.le_refl _, hlhs.sound, Nat.le_refl _⟩ hinside.row
      exact (stands_join hlhs.stretch hrhs.stretch hgap hrow).mono hlhs.after hrhs.before

/-- A chain is read as it stands, and the tree that it is made into stands there too. -/
theorem chain_laid : Lays text (Stands text) (chain l) := by
  intro i e j hi h
  obtain ⟨c, hc, hmeans⟩ := chain_eq_some.mp h
  obtain ⟨first, k, hc, hk, hlt, hskip, hfirst⟩ := (readOperand_laid hl).step hi hc
  rcases hrest : many (readLink l) (skip k) with ⟨rest, m⟩
  dsimp only at hc
  rw [hrest] at hc
  obtain ⟨rfl, rfl⟩ : ⟨first, rest⟩ = c ∧ m = j := Prod.mk.inj (Option.some.inj hc)
  obtain ⟨hm, hle, hrest⟩ := many_along (readLink_laid hl) hk.skip hrest
  exact ⟨hm, by omega, hmeans.stands hfirst (hrest.mono hskip (Nat.le_refl _))⟩

/-! ## Expressions

  Above the chains each rule adds a sign or a keyword and one or two expressions behind it.
  Where a rule looks ahead and goes on without what it looked for, what it has read so far is
  the row. -/

/-- Both branches of a conditional stand behind their signs, the first one first. -/
theorem branches_laid : Lays text (fun lo b hi => Row text lo [b.1, b.2] hi) (branches l) := by
  intro i b j hi h
  obtain ⟨_, k, h, hk, hlt₁, hskip₁, -⟩ := (sign_takes (by decide)).lays.step hi h
  obtain ⟨yes, m, h, hm, hlt₂, hskip₂, hyes⟩ := hl.expr.step hk.skip h
  obtain ⟨_, n, h, hn, hlt₃, hskip₃, -⟩ := (sign_takes (by decide)).lays.step hm.skip h
  obtain ⟨no, o, h, ho, hlt₄, -, hno⟩ := hl.expr.step hn.skip h
  obtain ⟨rfl, rfl⟩ := Prod.mk.inj (Option.some.inj h)
  have hrow : Row text (skip k).pos [yes, no] o.pos := by
    refine .cons (Nat.le_refl _) hyes ?_
    exact hno.row.mono (by omega) (Nat.le_refl _)
  exact ⟨ho, by omega, hrow.mono (by omega) (Nat.le_refl _)⟩

/-- A condition in front of its branches, or the chain alone. -/
theorem conditional_laid : Lays text (Stands text) (conditional l) := by
  intro i e j hi h
  obtain ⟨c, k, h, hk, hlt, hskip, hc⟩ := (chain_laid hl).step hi h
  dsimp only at h
  -- without branches the layout behind the chain is taken all the same
  split at h
  · rename_i yes no m hm
    obtain ⟨rfl, rfl⟩ := Prod.mk.inj (Option.some.inj h)
    obtain ⟨hm, hlt', hbranches⟩ := branches_laid hl hk.skip hm
    have hlt'' : i.pos < m.pos := by omega
    have hspan := stretch_of_boundaries hi.boundary hm.boundary hlt''
    have hrow : Row text i.pos [c, yes, no] m.pos :=
      .cons (Nat.le_refl _) hc (hbranches.mono hskip (Nat.le_refl _))
    exact ⟨hm, hlt'', stands_mk hspan hrow⟩
  · obtain ⟨rfl, rfl⟩ := Prod.mk.inj (Option.some.inj h)
    exact ⟨hk.skip, by omega, hc.mono (Nat.le_refl _) hskip⟩

omit hl in
/-- Parameters are names, with no expressions in them. -/
theorem parameters_laid : Lays text Bare parameters := by
  refine lays_orElse ?_ ?_
  · exact lays_map name_takes.lays (fun w => [w]) fun _ _ _ _ => trivial
  · intro i ps j hi h
    obtain ⟨hj, hlt, -⟩ := lays_enclosed name_takes.lays (by decide) (by decide) false hi h
    exact ⟨hj, hlt, trivial⟩

/-- The statements of a block stand between its braces. -/
theorem block_laid :
    Lays text (fun lo body hi => Row text lo (exprsOfStmts body) hi) (block l) := by
  intro i body j hi h
  obtain ⟨_, k, h, hk, hlt, hskip, -⟩ := (sign_takes (by decide)).lays.step hi h
  rcases hbody : many l.stmt (skip k) with ⟨body', m⟩
  dsimp only at h
  rw [hbody] at h
  obtain ⟨hm, hle, hbody⟩ := many_along hl.stmt hk.skip hbody
  obtain ⟨_, n, h, hn, hlt', -⟩ := (sign_takes (by decide)).lays.step hm.skip h
  obtain ⟨rfl, rfl⟩ : body' = body ∧ n = j := Prod.mk.inj (Option.some.inj h)
  have hskip' := le_skip m
  exact ⟨hn, by omega, (row_of_stmts hbody).mono (by omega) (by omega)⟩

/-- The body of an arrow function is a block or an expression. -/
theorem arrowBody_laid : Lays text (fun lo body hi => Row text lo body.exprs hi) (arrowBody l) := by
  refine lays_orElse ?_ ?_
  · exact lays_map (block_laid hl) ArrowBody.block fun _ _ _ hbody => hbody
  · exact lays_map hl.expr ArrowBody.value fun _ _ _ he => he.row

/-- It stands behind the parameters and the arrow. -/
theorem arrow_laid : Lays text (Stands text) (arrow l) := by
  refine lays_spanned (R := fun lo (pb : List String × ArrowBody) hi => Row text lo pb.2.exprs hi)
    ?_ fun _ _ _ _ hbody => hbody
  intro i pb j hi h
  obtain ⟨params, k, h, hk, hlt, hskip, -⟩ := parameters_laid.step hi h
  obtain ⟨_, m, h, hm, hlt', hskip', -⟩ := (sign_takes (by decide)).lays.step hk.skip h
  obtain ⟨body, n, h, hn, hlt'', -, hbody⟩ := (arrowBody_laid hl).step hm.skip h
  obtain ⟨rfl, rfl⟩ := Prod.mk.inj (Option.some.inj h)
  exact ⟨hn, by omega, hbody.mono (by omega) (Nat.le_refl _)⟩

/-- An expression is an arrow function or a conditional. -/
theorem exprRule_laid : Lays text (Stands text) (exprRule l) :=
  lays_orElse (arrow_laid hl) (conditional_laid hl)

/-! ## Statements

  A statement is no expression and has no span that is asked about.  What it promises is the row
  of its expressions, those of the statements inside it included; so a block is the rows of its
  statements, put together. -/

/-- The value of a binding stands behind its name. -/
theorem binding_laid : Lays text (Stmt.Stands text) (binding l) := by
  intro i s j hi h
  obtain ⟨_, k, h, hk, hlt₁, hskip₁, -⟩ :=
    (lays_orElse (keyword_takes _).lays (keyword_takes _).lays).step hi h
  obtain ⟨w, m, h, hm, hlt₂, hskip₂, -⟩ := name_takes.lays.step hk.skip h
  obtain ⟨_, n, h, hn, hlt₃, hskip₃, -⟩ := (sign_takes (by decide)).lays.step hm.skip h
  obtain ⟨value, o, h, ho, hlt₄, -, hvalue⟩ := hl.expr.step hn.skip h
  obtain ⟨rfl, rfl⟩ := Prod.mk.inj (Option.some.inj h)
  obtain ⟨hend, hle⟩ := optionalSign_ahead ";" ho
  refine ⟨hend, by omega, ?_⟩
  rw [Stmt.Stands, Stmt.exprs]
  exact hvalue.row.mono (by omega) hle

/-- A returned value stands behind the keyword, if there is one. -/
theorem returning_laid : Lays text (Stmt.Stands text) (returning l) := by
  intro i s j hi h
  obtain ⟨_, k, h, hk, hlt, hskip, -⟩ := (keyword_takes _).lays.step hi h
  dsimp only at h
  split at h
  · rename_i value m hm
    obtain ⟨rfl, rfl⟩ := Prod.mk.inj (Option.some.inj h)
    split at hm
    · cases hm
    · obtain ⟨hm, hlt', hvalue⟩ := hl.expr hk.skip hm
      obtain ⟨hend, hle⟩ := optionalSign_ahead ";" hm
      refine ⟨hend, by omega, ?_⟩
      rw [Stmt.Stands, Stmt.exprs]
      exact hvalue.row.mono (by omega) hle
  · obtain ⟨rfl, rfl⟩ := Prod.mk.inj (Option.some.inj h)
    obtain ⟨hend, hle⟩ := optionalSign_ahead ";" hk.skip
    have hlt' : i.pos < (optionalSign ";" (skip k)).pos := by omega
    refine ⟨hend, hlt', ?_⟩
    rw [Stmt.Stands, Stmt.exprs]
    exact .nil (Nat.le_of_lt hlt')

/-- The condition of an `if`, its branch, and behind `else` the other one. -/
theorem choosing_laid : Lays text (Stmt.Stands text) (choosing l) := by
  intro i s j hi h
  obtain ⟨_, k, h, hk, hlt₁, hskip₁, -⟩ := (keyword_takes _).lays.step hi h
  obtain ⟨_, m, h, hm, hlt₂, hskip₂, -⟩ := (sign_takes (by decide)).lays.step hk.skip h
  obtain ⟨c, n, h, hn, hlt₃, hskip₃, hc⟩ := hl.expr.step hm.skip h
  obtain ⟨_, o, h, ho, hlt₄, hskip₄, -⟩ := (sign_takes (by decide)).lays.step hn.skip h
  obtain ⟨yes, p, h, hp, hlt₅, hskip₅, hyes⟩ := hl.stmt.step ho.skip h
  -- the condition, and the first branch behind it
  have hchoice : Row text i.pos (c :: yes.exprs) (skip p).pos := by
    refine .cons (by omega) hc ?_
    exact hyes.mono (by omega) hskip₅
  dsimp only at h
  split at h
  · rename_i no q hq
    obtain ⟨rfl, rfl⟩ := Prod.mk.inj (Option.some.inj h)
    obtain ⟨_, t, hq, ht, hlt₆, hskip₆, -⟩ := (keyword_takes _).lays.step hp.skip hq
    obtain ⟨hq, hlt₇, hno⟩ := hl.stmt ht.skip hq
    have hno' : Row text (skip p).pos no.exprs q.pos := hno.mono (by omega) (Nat.le_refl _)
    refine ⟨hq, by omega, ?_⟩
    rw [Stmt.Stands, Stmt.exprs, ← List.cons_append]
    exact hchoice.append hno'
  · obtain ⟨rfl, rfl⟩ := Prod.mk.inj (Option.some.inj h)
    refine ⟨hp.skip, by omega, ?_⟩
    rw [Stmt.Stands, Stmt.exprs]
    exact hchoice

/-- A statement of any of the six forms. -/
theorem stmtRule_laid : Lays text (Stmt.Stands text) (stmtRule l) := by
  refine lays_orElse (binding_laid hl) <| lays_orElse (returning_laid hl) <|
    lays_orElse (choosing_laid hl) <| lays_orElse ?block <| lays_orElse ?empty ?expr
  case block =>
    refine lays_map (block_laid hl) Stmt.block fun _ _ _ hbody => ?_
    rw [Stmt.Stands, Stmt.exprs]
    exact hbody
  case empty =>
    intro i s j hi h
    obtain ⟨⟨_, k⟩, hk, he⟩ := Option.map_eq_some_iff.mp h
    obtain ⟨rfl, rfl⟩ := Prod.mk.inj he
    obtain ⟨hk, hlt, -⟩ := (sign_takes (by decide)).lays hi hk
    refine ⟨hk, hlt, ?_⟩
    rw [Stmt.Stands, Stmt.exprs]
    exact .nil (Nat.le_of_lt hlt)
  case expr =>
    intro i s j hi h
    obtain ⟨⟨e, k⟩, hk, he⟩ := Option.map_eq_some_iff.mp h
    obtain ⟨rfl, rfl⟩ := Prod.mk.inj he
    obtain ⟨hk, hlt, he⟩ := exprRule_laid hl hi hk
    obtain ⟨hend, hle⟩ := optionalSign_ahead ";" hk
    refine ⟨hend, by omega, ?_⟩
    rw [Stmt.Stands, Stmt.exprs]
    exact he.row.mono (Nat.le_refl _) hle

end Level

/-! ## Snippets

  A level reads through the rules of the next one, so that the induction on the levels has
  nothing left to do.  The program is then a repetition of statements from the first place of
  the text. -/

/-- **Every level lays out what it reads**: what one level reads, it reads through the rules of the
    next. -/
theorem level_laid (n : Nat) : (level n).Laid text := by
  induction n with
  | zero => exact ⟨fun _ _ _ _ h => (nomatch h), fun _ _ _ _ h => (nomatch h)⟩
  | succ n ih => exact ⟨exprRule_laid ih, stmtRule_laid ih⟩

/-- **The expressions of a snippet that is read stand in a row**, each sound with everything in
    it. -/
theorem parse_laid {snippet : String} {p : Program} (h : parse snippet = .ok p) :
    ∃ hi, Row snippet.toList 0 (exprsOfStmts p.body) hi := by
  unfold parse at h
  split at h
  · rename_i q hq
    obtain rfl := Except.ok.inj h
    unfold programWith at hq
    rcases hbody : many (level (snippet.length + 1)).stmt (skip (Input.ofText snippet)) with
      ⟨body, i⟩
    rw [hbody] at hq
    dsimp only at hq
    split at hq
    · obtain rfl := Option.some.inj hq
      have hstart : Somewhere snippet.toList (skip (Input.ofText snippet)) :=
        (clear_ofText snippet).somewhere.skip
      obtain ⟨-, -, hrow⟩ := many_along (level_laid _).stmt hstart hbody
      exact ⟨i.pos, (row_of_stmts hrow).mono (Nat.zero_le _) (Nat.le_refl _)⟩
    · cases hq
  · cases h

end ExerciseGrading.Snippet
