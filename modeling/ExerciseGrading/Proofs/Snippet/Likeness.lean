/-
  LIKENESS: relations between values that a snippet cannot tell apart by looking.

  1. `Shape` says how two related values look at their outermost level.  What an arrow function sees
     is a parameter: it is where relations differ.  Its body may stand elsewhere.
  2. A `Likeness` is a relation that is its own shape, level by level.  Equality is one
     (`Likeness.equality`).
  3. Every conversion, comparison, operator and property gives the same for related values, or
     related values: `text_eq`, `truthy_eq`, `strictEquals_eq`, `binary_like`, `property_like`, ….
     Nothing here looks at what an arrow function sees, so the parameter never matters.

  **The crux (one level is enough).**  A function on values that is no recursion is decided by the
  outermost constructors, and `cases L.shape h` lists the ten pairs that there are: most proofs are
  that case split.  Only `text` and `toNumber` look further in, and they do so through lists alone:
  for these two the recursion of the definition is the recursion of the proof.  Strict equality is
  none: lists and objects equal nothing, and arrow functions are told apart by their numbers.

  Methods and native functions follow in `Proofs.Snippet.Calls`, evaluation in
  `Proofs.Snippet.Simulation`.
-/
import ExerciseGrading.Proofs.Snippet.Moved
import ExerciseGrading.Snippet.Evaluate
import Mathlib.Data.List.Forall2

namespace ExerciseGrading.Snippet

/-- Members with one key and related values. -/
inductive SameKey (R : Value → Value → Prop) : String × Value → String × Value → Prop
  | mk (key : String) {v w : Value} : R v w → SameKey R (key, v) (key, w)

/-- The outermost level of two values whose items and members are related by `R`, and whose arrow
    functions, with one body but for its spans, see environments related by `C`. -/
inductive Shape (move : Span → Span) (R : Value → Value → Prop)
    (C : ArrowBody → Env → Env → Prop) : Value → Value → Prop
  | undefined : Shape move R C .undefined .undefined
  | null : Shape move R C .null .null
  | bool (b : Bool) : Shape move R C (.bool b) (.bool b)
  | number (x : Float) : Shape move R C (.number x) (.number x)
  | string (s : String) : Shape move R C (.string s) (.string s)
  | list {xs ys : List Value} : List.Forall₂ R xs ys → Shape move R C (.list xs) (.list ys)
  | object {ms ns : List (String × Value)} :
      List.Forall₂ (SameKey R) ms ns → Shape move R C (.object ms) (.object ns)
  | pattern (p : Pattern) : Shape move R C (.pattern p) (.pattern p)
  | arrow (id : Nat) (params : List String) {body body' : ArrowBody} {seen seen' : Env} :
      body' = body.moved move → C body seen seen' →
      Shape move R C (.arrow id params body seen) (.arrow id params body' seen')
  | native (n : Native) : Shape move R C (.native n) (.native n)

/-- A relation between values that is its own shape. -/
structure Likeness where
  /-- Where things stand in the second evaluation. -/
  move : Span → Span
  like : Value → Value → Prop
  /-- What is required of the environments that two related arrow functions see. -/
  sees : ArrowBody → Env → Env → Prop
  like_iff : ∀ {v w : Value}, like v w ↔ Shape move like sees v w

/-- Members with one key and equal values are equal. -/
theorem sameKey_eq_iff {m n : String × Value} : SameKey (· = ·) m n ↔ m = n := by
  constructor
  · rintro ⟨key, rfl⟩; rfl
  · rintro rfl; exact ⟨m.1, rfl⟩

/-- So are lists of members that are equal in pairs. -/
theorem forall₂_sameKey_eq_iff {ms ns : List (String × Value)} :
    List.Forall₂ (SameKey (· = ·)) ms ns ↔ ms = ns := by
  have h : SameKey (· = ·) = Eq := funext fun m => funext fun n => propext sameKey_eq_iff
  rw [h, List.forall₂_eq_eq_eq]

/-- Equality looks inside values and finds them equal. -/
def Likeness.equality : Likeness where
  move := id
  like := (· = ·)
  sees := fun _ seen seen' => seen = seen'
  like_iff := by
    intro v w
    constructor
    · -- a value has the shape of itself: only what is inside needs a word
      rintro rfl
      cases v with
      | list items => exact .list (List.forall₂_eq_eq_eq ▸ rfl)
      | object members => exact .object (forall₂_sameKey_eq_iff.mpr rfl)
      | arrow id params body seen => exact .arrow id params body.moved_id.symm rfl
      | undefined => exact .undefined
      | null => exact .null
      | bool b => exact .bool b
      | number x => exact .number x
      | string s => exact .string s
      | pattern p => exact .pattern p
      | native n => exact .native n
    · intro h
      cases h with
      | list hs => rw [List.forall₂_eq_eq_eq] at hs; rw [hs]
      | object hs => rw [forall₂_sameKey_eq_iff.mp hs]
      | arrow id params hbody hs => rw [hbody, ArrowBody.moved_id, hs]
      | _ => rfl

namespace Likeness

variable (L : Likeness) {v w v' w' : Value} {xs ys : List Value} {ms ns : List (String × Value)}

theorem shape (h : L.like v w) : Shape L.move L.like L.sees v w := L.like_iff.mp h

theorem of_shape (h : Shape L.move L.like L.sees v w) : L.like v w := L.like_iff.mpr h

/-! ## Values without arrow functions are like themselves

  These are the values of `Shape`, one constructor each.  An arrow function is like itself only
  if the relation says what it may see. -/

theorem like_undefined : L.like .undefined .undefined := L.of_shape .undefined

theorem like_null : L.like .null .null := L.of_shape .null

theorem like_bool (b : Bool) : L.like (.bool b) (.bool b) := L.of_shape (.bool b)

theorem like_number (x : Float) : L.like (.number x) (.number x) := L.of_shape (.number x)

theorem like_string (s : String) : L.like (.string s) (.string s) := L.of_shape (.string s)

theorem like_pattern (p : Pattern) : L.like (.pattern p) (.pattern p) := L.of_shape (.pattern p)

theorem like_list (h : List.Forall₂ L.like xs ys) : L.like (.list xs) (.list ys) :=
  L.of_shape (.list h)

theorem like_object (h : List.Forall₂ (SameKey L.like) ms ns) :
    L.like (.object ms) (.object ns) :=
  L.of_shape (.object h)

/-! ## What is asked of one value

  A type, a truth, a text, a number.  Each is the same for values of one shape. -/

/-- The name of a type is told from the outermost level, as are the next four. -/
theorem typeName_eq (h : L.like v w) : v.typeName = w.typeName := by
  cases L.shape h <;> rfl

theorem isNullish_eq (h : L.like v w) : v.isNullish = w.isNullish := by
  cases L.shape h <;> rfl

theorem truthy_eq (h : L.like v w) : v.truthy = w.truthy := by
  cases L.shape h <;> rfl

theorem isPrimitive_eq (h : L.like v w) : v.isPrimitive = w.isPrimitive := by
  cases L.shape h <;> rfl

theorem joinsTexts_eq (h : L.like v w) : joinsTexts v = joinsTexts w := by
  cases L.shape h <;> rfl

-- Only lists have a text that looks inside, and of their items only the text.
mutual
/-- **Related values have one text.** A value without items has the text of its level. -/
theorem text_eq : ∀ (v : Value) {w : Value}, L.like v w → v.text = w.text
  -- the recursion of the text is the induction
  | .list items, w, h => by
    cases L.shape h with
    | list hs => simpa only [Value.text] using listText_eq items hs
  | .object _, _, h | .arrow .., _, h | .undefined, _, h | .null, _, h | .bool _, _, h
  | .number _, _, h | .string _, _, h | .pattern _, _, h | .native _, _, h => by
    cases L.shape h
    simp only [Value.text]
theorem listText_eq : ∀ (xs : List Value) {ys : List Value},
    List.Forall₂ L.like xs ys → Value.listText xs = Value.listText ys
  | [], _, .nil => rfl
  | [v], _, .cons h .nil => by
    simp only [Value.listText, text_eq v h, L.isNullish_eq h]
  | v :: v' :: rest, _, .cons h (.cons h' hs) => by
    simp only [Value.listText, text_eq v h, L.isNullish_eq h,
      listText_eq (v' :: rest) (.cons h' hs)]
end

/-- Related values count as one number. -/
theorem toNumber_eq : ∀ (v : Value) {w : Value}, L.like v w → v.toNumber = w.toNumber
  | .list [], _, h => by
    cases L.shape h with
    | list hs => cases hs; rfl
  | .list [v], _, h => by
    -- a list of one item counts as its item
    cases L.shape h with
    | list hs =>
      cases hs with
      | cons hv hnil =>
        cases hnil
        simpa only [Value.toNumber] using toNumber_eq v hv
  | .list (_ :: _ :: _), _, h => by
    cases L.shape h with
    | list hs =>
      cases hs with
      | cons _ hs => cases hs; rfl
  | .object _, _, h | .arrow .., _, h | .undefined, _, h | .null, _, h | .bool _, _, h
  | .number _, _, h | .string _, _, h | .pattern _, _, h | .native _, _, h => by
    cases L.shape h
    rfl

/-! ## What is asked of two values

  An operator looks at both operands.  Two case splits would give a hundred pairs, so the proofs
  go by way of what is asked of one value wherever they can. -/

/-- Lists and objects equal nothing, and arrow functions are told apart by their numbers, so that
    the outermost levels decide. -/
theorem strictEquals_eq (h : L.like v w) (h' : L.like v' w') :
    v.strictEquals v' = w.strictEquals w' := by
  cases L.shape h <;> cases L.shape h' <;> rfl

theorem comparedAsNumbers_eq (h : L.like v w) (h' : L.like v' w') :
    Value.comparedAsNumbers v v' = Value.comparedAsNumbers w w' := by
  cases L.shape h <;> cases L.shape h' <;> rfl

/-- Loose equality is made of what was asked so far. -/
theorem looseEquals_eq (h : L.like v w) (h' : L.like v' w') :
    v.looseEquals v' = w.looseEquals w' := by
  simp only [Value.looseEquals, L.isNullish_eq h, L.isNullish_eq h', L.comparedAsNumbers_eq h h',
    L.isPrimitive_eq h, L.isPrimitive_eq h', L.toNumber_eq v h, L.toNumber_eq v' h',
    L.strictEquals_eq h h']

/-- Two texts are compared as texts, all else by the numbers it counts as. -/
theorem orderOf_eq (h : L.like v w) (h' : L.like v' w') : orderOf v v' = orderOf w w' := by
  have hn := L.toNumber_eq v h
  have hn' := L.toNumber_eq v' h'
  cases L.shape h <;> cases L.shape h' <;> simp only [orderOf, hn, hn']

/-- An addition joins texts or adds numbers, and related operands agree on which. -/
theorem addition_like (h : L.like v w) (h' : L.like v' w') :
    L.like (addition v v') (addition w w') := by
  simp only [addition, L.joinsTexts_eq h, L.joinsTexts_eq h', L.text_eq v h, L.text_eq v' h',
    L.toNumber_eq v h, L.toNumber_eq v' h']
  split
  · exact L.like_string _
  · exact L.like_number _

/-- An operator between related operands. -/
theorem binary_like (op : BinaryOp) (h : L.like v w) (h' : L.like v' w') :
    L.like (op.apply v v') (op.apply w w') := by
  have hn := L.toNumber_eq v h
  have hn' := L.toNumber_eq v' h'
  -- all operators but the sum give the same value, of a kind that is related to itself
  cases op <;>
    simp only [BinaryOp.apply, ordered, L.strictEquals_eq h h', L.looseEquals_eq h h',
      L.orderOf_eq h h', hn, hn', like_bool, like_number, like_undefined]
  case add => exact L.addition_like h h'

/-- An operator in front of related operands. -/
theorem unary_like (op : UnaryOp) (h : L.like v w) : L.like (op.apply v) (op.apply w) := by
  cases op with
  | not => simpa only [UnaryOp.apply, L.truthy_eq h] using L.like_bool _
  | neg => simpa only [UnaryOp.apply, L.toNumber_eq v h] using L.like_number _

/-- Whether the first operand decides alone is a matter of its truth. -/
theorem decided?_eq (op : BinaryOp) (h : L.like v w) : op.decided? v = op.decided? w := by
  cases op <;> simp only [BinaryOp.decided?, L.truthy_eq h]

/-! ## Lists and members

  Lists are related in pairs, and so is what is found in them by place or by key: related
  values, or nothing on both sides. -/

/-- What is missing is `undefined` on both sides. -/
theorem getD_like {o p : Option Value} (h : Option.Rel L.like o p) :
    L.like (o.getD .undefined) (p.getD .undefined) := by
  cases h with
  | none => exact L.like_undefined
  | some h => exact h

/-- The items at one place are related, or both lists end before it. -/
theorem getElem?_like (h : List.Forall₂ L.like xs ys) (i : Nat) :
    Option.Rel L.like xs[i]? ys[i]? := by
  induction h generalizing i with
  | nil => exact .none
  | cons h _ ih =>
    cases i with
    | zero => exact .some h
    | succ i => simpa only [List.getElem?_cons_succ] using ih i

/-- So are the values of one key. -/
theorem find?_like (h : List.Forall₂ (SameKey L.like) ms ns) (key : String) :
    Option.Rel L.like (Keyed.find? key ms) (Keyed.find? key ns) := by
  induction h with
  | nil => exact .none
  | cons h _ ih =>
    obtain ⟨k, hv⟩ := h
    by_cases hk : k = key
    · simpa only [Keyed.find?, if_pos hk] using .some hv
    · simpa only [Keyed.find?, if_neg hk] using ih

/-- Members stay related when related values are put in under one key. -/
theorem insert_like (key : String) (hv : L.like v w) (h : List.Forall₂ (SameKey L.like) ms ns) :
    List.Forall₂ (SameKey L.like) (Keyed.insert key v ms) (Keyed.insert key w ns) := by
  induction h with
  | nil => exact .cons ⟨key, hv⟩ .nil
  | cons h hs ih =>
    obtain ⟨k, hk⟩ := h
    -- both insertions compare the same keys, so they take the same way
    by_cases hlt : key < k
    · simpa only [Keyed.insert, if_pos hlt] using .cons ⟨key, hv⟩ (.cons ⟨k, hk⟩ hs)
    · by_cases heq : key = k
      · simpa only [Keyed.insert, if_neg hlt, if_pos heq] using .cons ⟨key, hv⟩ hs
      · simpa only [Keyed.insert, if_neg hlt, if_neg heq] using .cons ⟨k, hk⟩ ih

/-- Related members stay related when they are put in ascending order. -/
theorem ascending_like (h : List.Forall₂ (SameKey L.like) ms ns) :
    List.Forall₂ (SameKey L.like) (Keyed.ascending ms) (Keyed.ascending ns) := by
  refine List.rel_foldl (P := List.Forall₂ (SameKey L.like)) ?_ .nil h
  rintro acc acc' hacc m n ⟨key, hv⟩
  exact L.insert_like key hv hacc

/-! ## Properties

  A property may be a value that was inside, and then what comes out is related and not equal. -/

theorem charAt_like (s : String) (i : Nat) : L.like (Value.charAt s i) (Value.charAt s i) := by
  unfold Value.charAt
  split
  · exact L.like_string _
  · exact L.like_undefined

/-- A property of related values. -/
theorem property_like (h : L.like v w) (name : String) :
    L.like (v.property name) (w.property name) := by
  cases L.shape h with
  | string s =>
    simp only [Value.property]
    split
    · exact L.like_number _
    · split
      · exact L.charAt_like s _
      · exact L.like_undefined
  | list hs =>
    simp only [Value.property, hs.length_eq]
    split
    · exact L.like_number _
    · split
      · exact L.getD_like (L.getElem?_like hs _)
      · exact L.like_undefined
  -- a member of an object is any value: this is where related values come out
  | object hs => exact L.getD_like (L.find?_like hs name)
  | pattern p =>
    simp only [Value.property]
    split
    · exact L.like_string _
    · exact L.like_undefined
  | undefined | null | bool | number | arrow | native => exact L.like_undefined

/-- What stands in brackets behind related values. -/
theorem at_like (h : L.like v w) (h' : L.like v' w') : L.like (v.at_ v') (w.at_ w') := by
  -- what stands in the brackets decides first, then what stands before them
  cases L.shape h' with
  | number x =>
    cases L.shape h with
    -- a number in range picks an item, any other value is the name of a property
    | list hs =>
      simp only [Value.at_]
      split
      · exact L.getD_like (L.getElem?_like hs _)
      · exact L.property_like h _
    | string s =>
      simp only [Value.at_]
      split
      · exact L.charAt_like s _
      · exact L.property_like h _
    | _ => exact L.property_like h (Value.number x).text
  | string s => cases L.shape h <;> exact L.property_like h s
  | undefined | null | bool | list | object | pattern | arrow | native =>
    cases L.shape h <;> exact L.like_undefined

end Likeness

end ExerciseGrading.Snippet
