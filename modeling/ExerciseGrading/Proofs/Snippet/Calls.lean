/-
  LIKENESS OF CALLS: native functions and methods give the same failure or related results for
  related arguments.

  A likeness relates values that a program cannot tell apart, however they came about.  That it
  cannot is a statement about everything that the program can do with a value, and most of that is
  to call something.  So there is one statement for each family of calls, and in each the proof goes
  member by member: read the arguments off (their texts, numbers and lists are equal or related),
  and the results are related.

  1. `frame_related`, `wholeArg?_eq` — arguments, by position; a missing one is `undefined` in both.
  2. `like_ofDocument` — what comes from a document is like itself.
  3. `textMethod_agree`, `listMethod_like`, `native_agree` — one statement for each family.  Only
     some of them can fail, and `Agree` says what then holds: the failure is the same, and it points
     to the place of the call or nowhere, so that it moves with the call.
  4. Methods that call back are left to `Proofs.Snippet.Simulation`, since they evaluate.
-/
import ExerciseGrading.Proofs.Snippet.Likeness

namespace ExerciseGrading.Snippet

/-! ## Lists related item by item -/

/-- What is read off related items in the same way is the same list. -/
theorem map_eq_of_forall₂ {α β γ : Type} {R : α → β → Prop} {f : α → γ} {g : β → γ}
    {xs : List α} {ys : List β} (h : List.Forall₂ R xs ys) (hfg : ∀ a b, R a b → f a = g b) :
    xs.map f = ys.map g := by
  induction h with
  | nil => rfl
  | cons h _ ih => rw [List.map_cons, List.map_cons, hfg _ _ h, ih]

/-- Items with their places, one by one. -/
theorem forall₂_mapIdx {α β γ δ : Type} {R : α → β → Prop} {S : γ → δ → Prop}
    {f : Nat → α → γ} {g : Nat → β → δ} {xs : List α} {ys : List β} (h : List.Forall₂ R xs ys)
    (hfg : ∀ i a b, R a b → S (f i a) (g i b)) : List.Forall₂ S (xs.mapIdx f) (ys.mapIdx g) := by
  induction h generalizing f g with
  | nil => exact .nil
  | cons h _ ih =>
    rw [List.mapIdx_cons, List.mapIdx_cons]
    exact .cons (hfg 0 _ _ h) (ih fun i => hfg (i + 1))

/-! ## Results that may be failures

  A failure in one evaluation is a failure in the other, at the place that corresponds to it.
  Where a function refuses its arguments, it points to the call or to nothing, and so the two
  failures are one up to the move. -/

/-- Whether a failure points to a place, if it points anywhere. -/
def PointsTo (span : Span) (f : Failure) : Prop := ∀ s, f.label? = some s → s = span

/-- Two results of a call at a place: related values, or a failure that points to the place, which
    is the other one but for that. -/
inductive Agree {α β : Type} (move : Span → Span) (span : Span) (S : α → β → Prop) :
    Except Failure α → Except Failure β → Prop
  | ok {a : α} {b : β} : S a b → Agree move span S (.ok a) (.ok b)
  | error {f : Failure} : PointsTo span f →
      Agree move span S (.error f) (.error (f.moved move))

variable {move : Span → Span} {span : Span}

/-- A pattern that is refused is refused without a place. -/
theorem compilePattern_agree (source flags : String) :
    Agree move span Eq (compilePattern source flags) (compilePattern source flags) := by
  unfold compilePattern
  split
  · refine .error fun s hs => ?_
    cases hs
  · dsimp only
    split
    · exact .ok rfl
    · refine .error fun s hs => ?_
      cases hs

/-- What is made of a result is made of both. -/
theorem Agree.map {α β γ δ : Type} {S : α → β → Prop} {T : γ → δ → Prop} {f : α → γ} {g : β → δ}
    {r : Except Failure α} {r' : Except Failure β} (h : Agree move span S r r')
    (hfg : ∀ a b, S a b → T (f a) (g b)) : Agree move span T (r.map f) (r'.map g) := by
  cases h with
  | ok hab => exact .ok (hfg _ _ hab)
  | error hf => exact .error hf

namespace Likeness

variable (L : Likeness) {v w : Value} {xs ys args args' : List Value}

/-- Texts, put into values, are like themselves. -/
theorem like_strings {α : Type} (f : α → String) (l : List α) :
    List.Forall₂ L.like (l.map fun a => .string (f a)) (l.map fun a => .string (f a)) := by
  induction l with
  | nil => exact .nil
  | cons a l ih => exact .cons (L.like_string (f a)) ih

/-- An argument by its position, `undefined` where there is none. -/
theorem arg_like (h : List.Forall₂ L.like args args') (i : Nat) :
    L.like (arg args i) (arg args' i) :=
  L.getD_like (L.getElem?_like h i)

/-- What a body sees is related, if binding a name keeps what is seen related. -/
theorem frame_related {Q : Env → Env → Prop}
    (hbind : ∀ (name : String) {v w : Value} {e e' : Env}, L.like v w → Q e e' →
      Q ((name, v) :: e) ((name, w) :: e'))
    {e e' : Env} (h : Q e e') (params : List String) (ha : List.Forall₂ L.like args args') :
    Q (frame e params args) (frame e' params args') := by
  induction params generalizing e e' args args' with
  | nil => exact h
  | cons p ps ih =>
    simp only [frame]
    refine ih (hbind p ?_ h) (List.forall₂_drop 1 ha)
    -- an argument that is missing is `undefined` in both
    cases ha with
    | nil => exact L.like_undefined
    | cons hv _ => exact hv

/-- An argument that counts or points to a place: it is the same number in both, or left out in
    both. -/
theorem wholeArg?_eq (h : List.Forall₂ L.like args args') (i : Nat) :
    wholeArg? args i = wholeArg? args' i := by
  have hi := L.getElem?_like h i
  unfold wholeArg?
  generalize args[i]? = o at hi ⊢
  generalize args'[i]? = p at hi ⊢
  cases hi with
  | none => rfl
  | some hv =>
    have hn := L.toNumber_eq _ hv
    cases L.shape hv <;> simp only [hn]

/-! ## Documents

  A value that was read from a text has no arrow function in it, at any depth.  So likeness,
  which is about these, has nothing to compare, and reading the same text twice gives related
  values. -/

mutual
/-- A document holds no functions, so that there is nothing in its value that could differ. -/
theorem like_ofDocument : ∀ d : Document, L.like (.ofDocument d) (.ofDocument d)
  | .null => by simpa only [Value.ofDocument] using L.like_null
  | .bool b => by simpa only [Value.ofDocument] using L.like_bool b
  | .number n => by simpa only [Value.ofDocument] using L.like_number _
  | .string s => by simpa only [Value.ofDocument] using L.like_string s
  | .sequence items => by
    simpa only [Value.ofDocument] using L.like_list (like_ofDocuments items)
  | .mapping members => by
    simpa only [Value.ofDocument] using L.like_object (L.ascending_like (like_ofMembers members))
  | .tagged _ d => by simpa only [Value.ofDocument] using like_ofDocument d
/-- Its items are like themselves, -/
theorem like_ofDocuments : ∀ ds : List Document,
    List.Forall₂ L.like (Value.ofDocuments ds) (Value.ofDocuments ds)
  | [] => by simp only [Value.ofDocuments]; exact .nil
  | d :: rest => by
    simp only [Value.ofDocuments]
    exact .cons (like_ofDocument d) (like_ofDocuments rest)
/-- and so are its members, under the same keys. -/
theorem like_ofMembers : ∀ ms : List (Document × Document),
    List.Forall₂ (SameKey L.like) (Value.ofMembers ms) (Value.ofMembers ms)
  | [] => by simp only [Value.ofMembers]; exact .nil
  | (k, v) :: rest => by
    simp only [Value.ofMembers]
    split
    · exact .cons ⟨_, like_ofDocument v⟩ (like_ofMembers rest)
    · exact like_ofMembers rest
end

/-! ## Methods of texts

  The text itself is equal in both evaluations.  An argument is used as a text, as a number, or
  as a pattern, and each of these is the same for related values; so the results are equal, and
  being made of texts, numbers and truth values they are like themselves. -/

/-- The pattern that an argument is, or that is made of its text: values that are alike have the
    same text. -/
theorem patternArg_agree (h : L.like v w) :
    Agree move span Eq (patternArg v) (patternArg w) := by
  have ht := L.text_eq v h
  cases L.shape h with
  | pattern p => exact .ok rfl
  | undefined => exact compilePattern_agree "" ""
  | null | bool | number | string | list | object | arrow | native =>
    simp only [patternArg, ht]
    exact compilePattern_agree _ _

/-- What a pattern matched is made of texts. -/
theorem matchResult_like (p : Pattern) (s : String) :
    L.like (matchResult p s) (matchResult p s) := by
  unfold matchResult
  split
  · refine L.like_list (List.forall₂_map_left_iff.mpr (List.forall₂_map_right_iff.mpr ?_))
    refine List.forall₂_same.mpr fun group _ => ?_
    cases group with
    | none => exact L.like_undefined
    | some g => exact L.like_string g
  · exact L.like_null

/-- The parts of a text are texts; what it is split at is the same. -/
theorem splitParts_like (s : String) (h : L.like v w) :
    List.Forall₂ L.like (TextMethod.splitParts s v) (TextMethod.splitParts s w) := by
  have ht := L.text_eq v h
  cases L.shape h with
  | undefined => exact .cons (L.like_string s) .nil
  | pattern p => exact L.like_strings id _
  | null | bool | number | string | list | object | arrow | native =>
    simp only [TextMethod.splitParts, ht]
    exact L.like_strings String.ofList _

/-- **A method of a text, called with related arguments.** -/
theorem textMethod_agree (m : TextMethod) (s : String) (h : List.Forall₂ L.like args args') :
    Agree move span L.like (m.call s args) (m.call s args') := by
  have h₀ := L.arg_like h 0
  have ht := L.text_eq _ h₀
  have ht' := L.text_eq _ (L.arg_like h 1)
  have hw := L.wholeArg?_eq h 0
  have hw' := L.wholeArg?_eq h 1
  cases m with
  -- the only method of texts that can fail: its argument may be no pattern
  | match_ =>
    refine (L.patternArg_agree h₀).map ?_
    rintro p _ rfl
    exact L.matchResult_like p s
  | replace =>
    simp only [TextMethod.call, ht, ht']
    generalize arg args 0 = a at h₀ ⊢
    generalize arg args' 0 = b at h₀ ⊢
    cases L.shape h₀ <;> exact .ok (L.like_string _)
  | replaceAll =>
    simp only [TextMethod.call, ht, ht']
    generalize arg args 0 = a at h₀ ⊢
    generalize arg args' 0 = b at h₀ ⊢
    cases L.shape h₀ <;> exact .ok (L.like_string _)
  | split =>
    have hp := L.splitParts_like s h₀
    simp only [TextMethod.call, hw']
    refine .ok (L.like_list ?_)
    split
    · exact List.forall₂_take _ hp
    · exact hp
  -- these look at the text of an argument and at a place
  | endsWith | includes | startsWith =>
    simp only [TextMethod.call, ht, hw']
    exact .ok (L.like_bool _)
  | indexOf =>
    simp only [TextMethod.call, ht]
    exact .ok (L.like_number _)
  | charAt | slice | toLowerCase | toUpperCase | trim | trimEnd | trimStart =>
    simp only [TextMethod.call, hw, hw']
    exact .ok (L.like_string _)

/-! ## Methods of lists

  Related lists have related items, in pairs.  A method takes some of them, joins their texts or
  looks for one that is equal to its argument; which ones it takes is settled by numbers that
  are the same in both. -/

/-- Whether a list has an item is a question of strict equality, and of what is no number. -/
theorem finds_eq (h : L.like v w) {v' w' : Value} (h' : L.like v' w') :
    ListMethod.finds v v' = ListMethod.finds w w' := by
  simp only [ListMethod.finds, L.strictEquals_eq h' h]
  cases L.shape h <;> cases L.shape h' <;> rfl

/-- A list gives its items, anything else is one item. -/
theorem asItems_like (h : L.like v w) :
    List.Forall₂ L.like (ListMethod.asItems v) (ListMethod.asItems w) := by
  cases L.shape h with
  | list hs => exact hs
  | undefined | null | bool | number | string | object | pattern | arrow | native =>
    exact .cons h .nil

/-- Joining sees only the texts of items. -/
theorem joined_eq (separator : String) (h : List.Forall₂ L.like xs ys) :
    ListMethod.joined separator xs = ListMethod.joined separator ys := by
  unfold ListMethod.joined
  rw [map_eq_of_forall₂ h fun a b hab => by rw [L.isNullish_eq hab, L.text_eq a hab]]

/-- **A method of a list that does not call back, for related lists and arguments.** -/
theorem listMethod_like (m : ListMethod) (hi : List.Forall₂ L.like xs ys)
    (h : List.Forall₂ L.like args args') : L.like (m.call xs args) (m.call ys args') := by
  have h₀ := L.arg_like h 0
  cases m with
  | concat =>
    refine L.like_list (List.rel_append hi ?_)
    exact List.rel_flatMap h fun _ _ => L.asItems_like
  | includes =>
    -- whether an item is found is the same for both, item by item
    have hm := map_eq_of_forall₂ hi fun a b hab => L.finds_eq h₀ hab
    have ha : ∀ (f : Value → Bool) (l : List Value), l.any f = (l.map f).any id := by
      intro f l
      rw [List.any_map, Function.id_comp]
    simp only [ListMethod.call]
    rw [ha, ha (ListMethod.finds (arg args' 0)), hm]
    exact L.like_bool _
  | indexOf =>
    have hm := map_eq_of_forall₂ hi fun a b hab => L.strictEquals_eq hab h₀
    have hf : ∀ (f : Value → Bool) (l : List Value), l.findIdx? f = (l.map f).findIdx? id := by
      intro f l
      rw [List.findIdx?_map, Function.id_comp]
    simp only [ListMethod.call]
    rw [hf, hf fun v => v.strictEquals (arg args' 0), hm]
    exact L.like_number _
  | join =>
    have ht := L.text_eq _ h₀
    simp only [ListMethod.call, L.joined_eq _ hi]
    generalize arg args 0 = a at h₀ ht ⊢
    generalize arg args' 0 = b at h₀ ht ⊢
    cases L.shape h₀ <;> simp only [ht] <;> exact L.like_string _
  | slice =>
    simp only [ListMethod.call, Text.slice, L.wholeArg?_eq h 0, L.wholeArg?_eq h 1, hi.length_eq]
    exact L.like_list (List.forall₂_take _ (List.forall₂_drop _ hi))

/-! ## Native functions

  Most take one argument and ask for its text or its number.  Those that list what is inside a
  value give related lists; those that read a text give a document, which is like itself, or
  fail. -/

/-- The entries of a value: members by their keys, items and characters by their places. -/
theorem ownEntries_like (h : L.like v w) :
    List.Forall₂ (SameKey L.like) (Native.ownEntries v) (Native.ownEntries w) := by
  cases L.shape h with
  | object hs => exact hs
  | list hs => exact forall₂_mapIdx hs fun i _ _ hab => ⟨Number.intText i, hab⟩
  | string s =>
    refine forall₂_mapIdx (R := (· = ·)) (List.forall₂_refl s.toList) fun i c _ hc => ?_
    rw [hc]
    exact ⟨Number.intText i, L.like_string _⟩
  | undefined | null | bool | number | pattern | arrow | native => exact .nil

/-- One step of a path in related values. -/
theorem step?_like (h : L.like v w) (segment : String) :
    Option.Rel L.like (Native.step? v segment) (Native.step? w segment) := by
  cases L.shape h with
  | object hs => exact L.find?_like hs segment
  | list hs =>
    simp only [Native.step?]
    cases Number.index? segment.toList with
    | none => exact .none
    | some i => exact L.getElem?_like hs i
  | undefined | null | bool | number | string | pattern | arrow | native => exact .none

/-- A whole path leads to related values, or nowhere in both. -/
theorem walk_like (segments : List String) {v w : Value} (h : L.like v w) :
    L.like (Native.walk v segments) (Native.walk w segments) := by
  induction segments generalizing v w with
  | nil => exact h
  | cons s rest ih =>
    have hs := L.step?_like h s
    simp only [Native.walk]
    generalize Native.step? v s = o at hs ⊢
    generalize Native.step? w s = p at hs ⊢
    cases hs with
    | none => exact L.like_undefined
    | some h' => exact ih h'

/-- A text is read as a document first, and it is the same text in both. -/
theorem valueAt_like (h : L.like v w) (p : Path) :
    L.like (Native.valueAt v p) (Native.valueAt w p) := by
  cases L.shape h with
  | string text =>
    simp only [Native.valueAt]
    split
    · exact L.like_ofDocument _
    · exact L.like_undefined
  | undefined | null | bool | number | list | object | pattern | arrow | native =>
    exact L.walk_like p.segments h

/-- Reading a text as a document gives the same value, or fails at the place of the call. -/
theorem parsed_agree (text : String) {failed : Failure} (h : PointsTo span failed) :
    Agree move span L.like (Native.parsed text failed)
      (Native.parsed text (failed.moved move)) := by
  unfold Native.parsed
  split
  · exact .ok (L.like_ofDocument _)
  · exact .error h

/-- What `RegExp` makes of related arguments. -/
theorem regExp_agree (h : List.Forall₂ L.like args args') (span : Span) :
    Agree move span L.like (Native.regExp.call args span)
      (Native.regExp.call args' (move span)) := by
  have h₀ := L.arg_like h 0
  have h₁ := L.arg_like h 1
  have ht := L.text_eq _ h₀
  have ht' := L.text_eq _ h₁
  simp only [Native.call]
  generalize arg args 0 = a at h₀ ht ⊢
  generalize arg args' 0 = a' at h₀ ht ⊢
  generalize arg args 1 = b at h₁ ht' ⊢
  generalize arg args' 1 = b' at h₁ ht' ⊢
  cases L.shape h₀ with
  | pattern p => exact .ok (L.like_pattern p)
  | undefined | null | bool | number | string | list | object | arrow | native =>
    -- everything else is compiled from its text, and the flags only have to be read
    simp only [ht]
    have hp : ∀ p q : Pattern, p = q → L.like (.pattern p) (.pattern q) := by
      rintro p _ rfl
      exact L.like_pattern p
    cases L.shape h₁ <;> simp only [ht'] <;> exact (compilePattern_agree _ _).map hp

/-- **A native function, called with related arguments.** -/
theorem native_agree (n : Native) (h : List.Forall₂ L.like args args') (span : Span) :
    Agree move span L.like (n.call args span) (n.call args' (move span)) := by
  have h₀ := L.arg_like h 0
  have hn := L.toNumber_eq _ h₀
  have ht := L.text_eq _ h₀
  have hns : args.map Value.toNumber = args'.map Value.toNumber :=
    map_eq_of_forall₂ h fun a _ hab => L.toNumber_eq a hab
  have he := L.ownEntries_like h₀
  cases n with
  -- the only function that fails for its argument being no pattern
  | regExp => exact L.regExp_agree h span
  | string =>
    cases h with
    | nil => exact .ok (L.like_string _)
    | cons hv _ =>
      simp only [Native.call, L.text_eq _ hv]
      exact .ok (L.like_string _)
  | number =>
    cases h with
    | nil => exact .ok (L.like_number _)
    | cons hv _ =>
      simp only [Native.call, L.toNumber_eq _ hv]
      exact .ok (L.like_number _)
  | isArray =>
    simp only [Native.call]
    generalize arg args 0 = a at h₀ ⊢
    generalize arg args' 0 = b at h₀ ⊢
    cases L.shape h₀ <;> exact .ok (L.like_bool _)
  | keys =>
    have hk : List.Forall₂ L.like ((Native.ownEntries (arg args 0)).map fun e => .string e.1)
        ((Native.ownEntries (arg args' 0)).map fun e => .string e.1) :=
      List.rel_map (fun _ _ ⟨key, _⟩ => L.like_string key) he
    exact .ok (L.like_list hk)
  | values =>
    have hv : List.Forall₂ L.like ((Native.ownEntries (arg args 0)).map (·.2))
        ((Native.ownEntries (arg args' 0)).map (·.2)) :=
      List.rel_map (fun _ _ ⟨_, hv⟩ => hv) he
    exact .ok (L.like_list hv)
  | entries =>
    have hv : List.Forall₂ L.like
        ((Native.ownEntries (arg args 0)).map fun e => .list [.string e.1, e.2])
        ((Native.ownEntries (arg args' 0)).map fun e => .list [.string e.1, e.2]) :=
      List.rel_map
        (fun _ _ ⟨key, hv⟩ => L.like_list (.cons (L.like_string key) (.cons hv .nil))) he
    exact .ok (L.like_list hv)
  | min | max =>
    simp only [Native.call, hns]
    exact .ok (L.like_number _)
  | abs | floor | ceil | round =>
    simp only [Native.call, hn]
    exact .ok (L.like_number _)
  | boolean =>
    simp only [Native.call, L.truthy_eq h₀]
    exact .ok (L.like_bool _)
  -- these fail if the text is no document
  | load | parse | parseYaml =>
    simp only [Native.call, ht]
    have hpoints (text : String) : PointsTo span (.badDocument text span) :=
      fun _ hs => (Option.some.inj hs).symm
    exact L.parsed_agree _ (hpoints _)
  | getPath =>
    simp only [Native.call, L.text_eq _ (L.arg_like h 1)]
    exact .ok (L.valueAt_like h₀ _)

end Likeness

end ExerciseGrading.Snippet
