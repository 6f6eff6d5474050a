/-
  READING ALONGSIDE: the grammar on a text and on the text with blanks after it.

  That blanks after a snippet do not matter is clear to everyone but the grammar, which looks ahead:
  rules try a sign and give up, repetitions stop where nothing more applies, words end where no name
  character follows.  At the end of the text each of these sees something else when blanks follow.
  So the two readings are followed side by side, rule by rule.

  1. `Padded n m i i'` — what is left of the second input is what is left of the first, padded, and
     the two are shorter than `n` and `m`.  `Matches n m R r r'` — on two such inputs either neither
     rule applies or both do, with results related by `R`, and leave two such inputs, each shorter.
  2. One law for each way to make a rule of others: `matches_orElse`, `Tie.bind`, `many_both`,
     `matches_enclosed`, ….  Optional parts at the end of a rule may take layout, and so may take
     blanks of the padding; what is left is padded again.  This is why `Padded` speaks of what is
     left and not of what was there.
  3. `matches_of_takes` — a rule for a sign, a word or a literal matches itself.

  The places in the text, and how many levels of the grammar there are, differ between the two
  readings throughout, so that nothing is said about either.  The rules of the levels follow in
  `Proofs.Snippet.Matching`.
-/
import ExerciseGrading.Proofs.Snippet.Laying
import ExerciseGrading.Proofs.Snippet.Padding
import Mathlib.Data.List.Forall2

namespace ExerciseGrading.Snippet

open ExerciseGrading.Snippet.Rule

/-! ## Two inputs, two readings

  Two results are tied if both are missing, or both are there, related, with inputs left that
  are padded again.  A rule is a row of ties. -/

/-- Two inputs of less than `n` and `m` characters, the second of them padded. -/
structure Padded (n m : Nat) (i i' : Input) : Prop where
  pads : Pads i.rest i'.rest
  left : i.rest.length < n
  right : i'.rest.length < m

/-- Related results, and padded inputs behind them. -/
def Both (n m : Nat) {α β : Type} (R : α → β → Prop) (p : α × Input) (q : β × Input) : Prop :=
  R p.1 q.1 ∧ Padded n m p.2 q.2

/-- Two readings that agree on whether there is a result. -/
def Tie (n m : Nat) {α β : Type} (R : α → β → Prop) :
    Option (α × Input) → Option (β × Input) → Prop :=
  Option.Rel (Both n m R)

/-- Two rules that agree on padded inputs, and take something when they apply. -/
def Matches (n m : Nat) {α β : Type} (R : α → β → Prop) (r : Rule α) (r' : Rule β) : Prop :=
  ∀ ⦃i i' : Input⦄, Padded n m i i' → Tie i.rest.length i'.rest.length R (r i) (r' i')

section Laws

variable {n m k k' : Nat} {α β γ δ : Type} {R : α → β → Prop} {S : γ → δ → Prop} {r : Rule α}
  {r' : Rule β} {i i' : Input}

theorem Padded.mono (h : Padded n m i i') (hk : n ≤ k) (hk' : m ≤ k') : Padded k k' i i' :=
  ⟨h.pads, by have := h.left; omega, by have := h.right; omega⟩

/-- Skipping layout leaves no more than there was. -/
theorem skipLayout_length (s : List Char) : (skipLayout s).length ≤ s.length := by
  obtain ⟨taken, hs, -⟩ := skipLayout_keepsApart [] s
  have hlength := congrArg List.length hs
  rw [List.length_append] at hlength
  omega

/-- Layout before a part is skipped in both; if that is the end, the blanks go with it. -/
theorem Padded.skip (h : Padded n m i i') : Padded n m (skip i) (skip i') where
  pads := skipLayout_pads h.pads
  left := Nat.lt_of_le_of_lt (skipLayout_length i.rest) h.left
  right := Nat.lt_of_le_of_lt (skipLayout_length i'.rest) h.right

/-- The bounds of what is left may be larger too. -/
theorem Tie.mono {o : Option (α × Input)} {o' : Option (β × Input)} (h : Tie n m R o o')
    (hk : n ≤ k) (hk' : m ≤ k') : Tie k k' R o o' := by
  cases h with
  | none => exact .none
  | some h => exact .some ⟨h.1, h.2.mono hk hk'⟩

/-- One rule of a sequence: what follows sees related results on padded inputs. -/
theorem Tie.bind {o : Option (α × Input)} {o' : Option (β × Input)}
    {f : α × Input → Option (γ × Input)} {f' : β × Input → Option (δ × Input)}
    (h : Tie n m R o o')
    (hf : ∀ a b j j', R a b → Padded n m j j' → Tie k k' S (f (a, j)) (f' (b, j'))) :
    Tie k k' S (o >>= f) (o' >>= f') := by
  cases h with
  | none => exact .none
  | some h => exact hf _ _ _ _ h.1 h.2

/-- A result is only made into another one. -/
theorem Tie.map {o : Option (α × Input)} {o' : Option (β × Input)}
    {f : α × Input → γ × Input} {f' : β × Input → δ × Input} (h : Tie n m R o o')
    (hf : ∀ a b j j', R a b → Padded n m j j' → Both k k' S (f (a, j)) (f' (b, j'))) :
    Tie k k' S (o.map f) (o'.map f') := by
  cases h with
  | none => exact .none
  | some h => exact .some (hf _ _ _ _ h.1 h.2)

/-- A rule that matches on long inputs matches on shorter ones. -/
theorem Matches.mono (h : Matches n m R r r') (hk : k ≤ n) (hk' : k' ≤ m) :
    Matches k k' R r r' := fun _ _ hi => h (hi.mono hk hk')

/-- Inside a rule: the bounds are those of the inputs with which it began. -/
theorem Matches.inside (h : Matches n m R r r') (hi : Padded k k' i i') (hk : k ≤ n)
    (hk' : k' ≤ m) : Tie k k' R (r i) (r' i') :=
  (h (hi.mono hk hk')).mono (Nat.le_of_lt hi.left) (Nat.le_of_lt hi.right)

/-- Inside a rule of the next level, which has taken something before. -/
theorem Matches.deeper {j j' : Input} (h : Matches n m R r r') (hi : Padded (n + 1) (m + 1) i i')
    (hj : Padded i.rest.length i'.rest.length j j') :
    Tie i.rest.length i'.rest.length R (r j) (r' j') :=
  h.inside hj (Nat.le_of_lt_succ hi.left) (Nat.le_of_lt_succ hi.right)

/-- At the beginning of a rule, where perhaps nothing has been taken yet. -/
theorem Matches.within (h : Matches n m R r r') (hi : Padded (k + 1) (k' + 1) i i') (hk : k < n)
    (hk' : k' < m) : Tie k k' R (r i) (r' i') :=
  (h (hi.mono hk hk')).mono (Nat.le_of_lt_succ hi.left) (Nat.le_of_lt_succ hi.right)

/-- Two padded inputs are shorter than one character more than they have. -/
theorem Padded.self (h : Padded n m i i') :
    Padded (i.rest.length + 1) (i'.rest.length + 1) i i' :=
  ⟨h.pads, Nat.lt_succ_self _, Nat.lt_succ_self _⟩

/-- A choice takes the same side in both readings, for the first rule applies in both or in neither.
    -/
theorem matches_orElse {s : Rule α} {s' : Rule β} (h : Matches n m R r r')
    (h' : Matches n m R s s') : Matches n m R (orElse r s) (orElse r' s') := by
  intro i i' hi
  have ho := h hi
  unfold orElse
  generalize r i = o at ho ⊢
  generalize r' i' = o' at ho ⊢
  cases ho with
  | none => exact h' hi
  | some hr => exact .some hr

/-- A rule whose result is made into another one. -/
theorem matches_map (h : Matches n m R r r') (f : α → γ) (f' : β → δ)
    (hf : ∀ a b, R a b → S (f a) (f' b)) :
    Matches n m S (fun i => (r i).map fun x => (f x.1, x.2))
      (fun i => (r' i).map fun x => (f' x.1, x.2)) :=
  fun _ _ hi => (h hi).map fun _ _ _ _ hab hj => ⟨hf _ _ hab, hj⟩

/-- Where a result was read is not compared. -/
theorem matches_placed (h : Matches n m R r r') :
    Matches n m (fun x y => R x.2 y.2) (placed r) (placed r') :=
  fun _ _ hi => (h hi).map fun _ _ _ _ hab hj => ⟨hab, hj⟩

/-! ### Repetition

  A repetition ends where its rule does not apply or takes nothing.  Matching rules stop at the
  same item, and each of them takes something when it applies, which is what the induction goes
  down with. -/

/-- A repetition goes as far in both readings. The induction is on what is left of the first. -/
theorem many_both (h : Matches n m R r r') (hi : Padded k k' i i') (hk : k ≤ n) (hk' : k' ≤ m) :
    Both k k' (List.Forall₂ R) (many r i) (many r' i') := by
  induction hn : i.rest.length using Nat.strong_induction_on generalizing i i' with
  | _ length ih =>
    subst hn
    have ho := h (hi.mono hk hk')
    rw [many, many]
    generalize r i = o at ho ⊢
    generalize r' i' = o' at ho ⊢
    cases ho with
    -- here both stop, and leave what they had before the layout
    | none => exact ⟨.nil, hi⟩
    | @some x y hr =>
      obtain ⟨a, j⟩ := x
      obtain ⟨b, j'⟩ := y
      obtain ⟨hab, hj⟩ := hr
      have hs := hj.skip
      have hin := hs.mono (Nat.le_of_lt hi.left) (Nat.le_of_lt hi.right)
      simp only [if_pos hs.left, if_pos hs.right]
      obtain ⟨hmore, hend⟩ := ih _ hs.left hin rfl
      exact ⟨.cons hab hmore, hend⟩

end Laws

/-! ## Signs, words and literals

  What is read from the front of a text is read from the front of the padded text
  (`Proofs.Snippet.Padding`).  Here that is said of rules, and that they take something. -/

section Tokens

variable {n m : Nat}

/-- A rule that takes characters, and as many of a padded text as of the text. -/
theorem matches_of_takes {α : Type} {r : Rule α} (hr : Takes r)
    (hpad : ∀ (i i' : Input) (u : List Char), Blanks u → i'.rest = i.rest ++ u →
      (r i').map (fun x => (x.1, x.2.rest)) = (r i).map fun x => (x.1, x.2.rest ++ u)) :
    Matches n m (fun a b : α => a = b) r r := by
  intro i i' hi
  obtain ⟨u, hu, hrest⟩ := hi.pads
  have h := hpad i i' u hu hrest
  have hshort : ∀ {i j : Input} {a : α}, r i = some (a, j) → j.rest.length < i.rest.length := by
    intro i j a hij
    obtain ⟨taken, rest, hne, hi, rfl⟩ := hr hij
    have hpos := List.length_pos_of_ne_nil hne
    rw [hi, List.length_append]
    show rest.length < taken.length + rest.length
    omega
  cases hx : r i with
  | none =>
    rw [hx, Option.map_none, Option.map_eq_none_iff] at h
    rw [h]
    exact .none
  | some x =>
    rw [hx, Option.map_some] at h
    obtain ⟨y, hy, he⟩ := Option.map_eq_some_iff.mp h
    obtain ⟨hvalue, hleft⟩ := Prod.mk.inj he
    rw [hy]
    exact .some ⟨hvalue.symm, ⟨u, hu, hleft⟩, hshort hx, hshort hy⟩

/-- Whether a sign has a character, and no blanks. -/
def isSolid (s : String) : Bool := !s.toList.isEmpty && s.toList.all fun c => !isSpace c

/-- A sign without blanks stands in the text or not; blanks behind it make no difference. -/
theorem sign_matches {s : String} (hs : isSolid s = true) :
    Matches n m (fun a b : Unit => a = b) (sign s) (sign s) := by
  simp only [isSolid, Bool.and_eq_true, Bool.not_eq_true', List.isEmpty_eq_false_iff] at hs
  refine matches_of_takes (sign_takes hs.1) fun i i' u hu hrest => ?_
  simp only [sign, hrest, dropStart?_pad hu hs.2, Option.map_map]
  rfl

/-- A keyword ends at a blank as it ends at the end of the text. -/
theorem keyword_matches (w : String) :
    Matches n m (fun a b : Unit => a = b) (keyword w) (keyword w) := by
  refine matches_of_takes (keyword_takes w) fun i i' u hu hrest => ?_
  simp only [keyword, hrest, keyword?_pad hu, Option.map_map]
  rfl

/-- So does a name, -/
theorem name_matches : Matches n m (fun a b : String => a = b) name name := by
  refine matches_of_takes name_takes fun i i' u hu hrest => ?_
  simp only [name, hrest, name?_pad hu, Option.map_map]
  rfl

/-- and a word. -/
theorem word_matches : Matches n m (fun a b : String => a = b) word word := by
  refine matches_of_takes word_takes fun i i' u hu hrest => ?_
  simp only [word, hrest, word?_pad hu, Option.map_map]
  rfl

/-- A numeral is not continued by a blank. -/
theorem numeral_matches : Matches n m (fun a b : List Char => a = b)
    (fun i => (numeral? i.rest).map fun x => (x.1, i.after x.2))
    (fun i => (numeral? i.rest).map fun x => (x.1, i.after x.2)) := by
  refine matches_of_takes numeral_takes fun i i' u hu hrest => ?_
  simp only [hrest, numeral?_pad hu, Option.map_map]
  rfl

/-- A quoted text is closed in both readings or in neither: blanks do not close it. -/
theorem stringText_matches : Matches n m (fun a b : String => a = b) stringText stringText := by
  refine matches_of_takes stringText_takes fun i i' u hu hrest => ?_
  simp only [stringText, hrest, quoted?_pad hu, Option.map_map]
  rfl

/-- Nor do they close a regular expression. -/
theorem slashed_matches : Matches n m (fun a b : String × String => a = b)
    (fun i => (slashed? i.rest).map fun x => ((x.1, x.2.1), i.after x.2.2))
    (fun i => (slashed? i.rest).map fun x => ((x.1, x.2.1), i.after x.2.2)) := by
  refine matches_of_takes slashed_takes fun i i' u hu hrest => ?_
  simp only [hrest, slashed?_pad hu, Option.map_map]
  rfl

end Tokens

/-! ## Parts between signs

  Items with commas between them end with a comma that no item follows, or before it.  The text
  then goes on before that comma, in both readings. -/

section Parts

variable {n m k k' : Nat} {α β : Type} {R : α → β → Prop} {r : Rule α} {r' : Rule β}
  {i i' : Input}

/-- Items behind a sign, as many in both readings. -/
theorem moreAfter_both {sep : String} (hsep : isSolid sep = true) (h : Matches n m R r r')
    (hi : Padded k k' i i') (hk : k ≤ n) (hk' : k' ≤ m) :
    Both k k' (List.Forall₂ R) (moreAfter sep r i) (moreAfter sep r' i') := by
  induction hn : i.rest.length using Nat.strong_induction_on generalizing i i' with
  | _ length ih =>
    subst hn
    have hsign := sign_matches hsep hi
    rw [moreAfter, moreAfter]
    generalize sign sep i = o at hsign ⊢
    generalize sign sep i' = o' at hsign ⊢
    cases hsign with
    | none => exact ⟨.nil, hi⟩
    | @some x y hxy =>
      obtain ⟨_, j⟩ := x
      obtain ⟨_, j'⟩ := y
      have hitem := h.inside hxy.2.skip (by have := hi.left; omega) (by have := hi.right; omega)
      dsimp only at hitem ⊢
      generalize r (skip j) = o at hitem ⊢
      generalize r' (skip j') = o' at hitem ⊢
      cases hitem with
      | none => exact ⟨.nil, hi⟩
      | @some x y hr =>
        obtain ⟨a, l⟩ := x
        obtain ⟨b, l'⟩ := y
        obtain ⟨hab, hl⟩ := hr
        have hs := hl.skip
        have hin := hs.mono (Nat.le_of_lt hi.left) (Nat.le_of_lt hi.right)
        simp only [if_pos hs.left, if_pos hs.right]
        obtain ⟨hmore, hend⟩ := ih _ hs.left hin rfl
        exact ⟨.cons hab hmore, hend⟩

/-- Items with commas between them. -/
theorem listed_both (h : Matches n m R r r') (hi : Padded k k' i i') (hk : k ≤ n) (hk' : k' ≤ m) :
    Both k k' (List.Forall₂ R) (listed r i) (listed r' i') := by
  have ho := h.inside hi hk hk'
  unfold listed
  generalize r i = o at ho ⊢
  generalize r' i' = o' at ho ⊢
  cases ho with
  | none => exact ⟨.nil, hi⟩
  | @some x y hr =>
    obtain ⟨hmore, hend⟩ := moreAfter_both (show isSolid "," = true by decide) h hr.2.skip hk hk'
    exact ⟨.cons hr.1 hmore, hend⟩

/-- An optional sign at the end is taken in both or in neither, with the layout before it. -/
theorem optionalSign_padded {s : String} (hs : isSolid s = true) (hi : Padded k k' i i') :
    Padded k k' (optionalSign s i) (optionalSign s i') := by
  have ho := (sign_matches hs).inside hi.skip (Nat.le_refl k) (Nat.le_refl k')
  unfold optionalSign
  generalize sign s (skip i) = o at ho ⊢
  generalize sign s (skip i') = o' at ho ⊢
  cases ho with
  | none => exact hi.skip
  | some h => exact h.2

/-- Items between signs; the sign in front takes a character before the first item. -/
theorem matches_enclosed {left right : String} (hleft : isSolid left = true)
    (hright : isSolid right = true) (trailing : Bool) (h : Matches n m R r r') :
    Matches (n + 1) (m + 1) (List.Forall₂ R) (enclosed left right trailing r)
      (enclosed left right trailing r') := by
  intro i i' hi
  have hk : i.rest.length ≤ n := Nat.le_of_lt_succ hi.left
  have hk' : i'.rest.length ≤ m := Nat.le_of_lt_succ hi.right
  refine (sign_matches hleft hi).bind fun _ _ j j' _ hj => ?_
  obtain ⟨hitems, hl⟩ := listed_both h hj.skip hk hk'
  dsimp only
  generalize listed r (skip j) = x at hitems hl ⊢
  generalize listed r' (skip j') = y at hitems hl ⊢
  obtain ⟨items, l⟩ := x
  obtain ⟨items', l'⟩ := y
  dsimp only at hitems hl ⊢
  -- whether a comma may follow depends on there being items
  have hempty : items.isEmpty = items'.isEmpty := by cases hitems <;> rfl
  have hend : Padded i.rest.length i'.rest.length
      (if trailing && !items.isEmpty then optionalSign "," l else l)
      (if trailing && !items'.isEmpty then optionalSign "," l' else l') := by
    rw [hempty]
    split
    · exact optionalSign_padded (by decide) hl
    · exact hl
  refine ((sign_matches hright).deeper hi hend.skip).bind fun _ _ e e' _ he => ?_
  exact .some ⟨hitems, he⟩

end Parts

end ExerciseGrading.Snippet
