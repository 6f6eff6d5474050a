/-
  SEARCHING IN TEXTS: the methods that look for a text, told by one question.

  1. `sliceFrom s i` — what the text has from a place on.  For a place that is not below zero it is
     the text without its first characters (`toList_sliceFrom`).
  2. `gives_startsWith`, `gives_includes` — with and without a place, what the methods answer.
  3. `gives_indexOf` — the place that a search finds is the first from which on the text begins
     with what is looked for.
  4. `searching_agrees` — the laws that follow for the calls of the methods.

  The one question is whether a text begins with another (`BeginsAt`), and it is asked through the
  calls: `indexOf` gives the least place where `startsWith` on the slice from there on is true.  A
  number is what comes out, so that its being minus one has to be told from its being a place; a
  place is a natural number, and none of these is minus one (`Number.Unsigned.ne_neg_one`).
-/
import ExerciseGrading.Proofs.Number.WholeParts
import ExerciseGrading.Proofs.Snippet.Methods
import ExerciseGrading.Proofs.Text.Occurrences
import ExerciseGrading.Proofs.Text.Slices

namespace ExerciseGrading.Snippet

/-! ## From a place on

  A place below zero counts from the end where a slice is taken, and is the start where a search
  begins.  So the lemmas ask for a place that is not below zero, where the two agree. -/

/-- What a text has from a place on. -/
def sliceFrom (s : String) (i : Int) : String := String.ofList (Text.slice s.toList (some i) none)

/-- A slice up to the end, from a place that is not below zero, leaves out what is before it. -/
theorem slice_from {s : List Char} {i : Int} (h : 0 ≤ i) :
    Text.slice s (some i) none = s.drop i.toNat := by
  rw [Text.slice_behind, Text.placeIn_of_nonneg _ h]
  -- a place behind the end is moved to the end, where nothing is left either
  rcases Nat.le_total i.toNat s.length with hle | hge
  · rw [Nat.min_eq_left hle]
  · rw [Nat.min_eq_right hge, List.drop_length, List.drop_eq_nil_of_le hge]

/-- So the characters of the slice are those from the place on. -/
theorem toList_sliceFrom (s : String) {i : Int} (h : 0 ≤ i) :
    (sliceFrom s i).toList = s.toList.drop i.toNat := by
  rw [sliceFrom, String.toList_ofList, slice_from h]

/-- To search from a place is to search the slice from there on. -/
theorem fromPlace_eq (s : String) {i : Int} (h : 0 ≤ i) :
    Text.fromPlace s.toList (some i) = Text.fromPlace (sliceFrom s i).toList none := by
  rw [toList_sliceFrom s h]
  show s.toList.drop (max i 0).toNat = s.toList.drop i.toNat
  rw [Int.max_eq_left h]

/-! ## The answers -/

section

variable (invoke : Invoke) (span : Span) (s p : String)

theorem gives_startsWith : Gives (callMethod invoke (.string s) "startsWith" [.string p] span)
    (.bool (p.toList.isPrefixOf s.toList)) :=
  gives_text invoke _ span .startsWith rfl

theorem gives_includes : Gives (callMethod invoke (.string s) "includes" [.string p] span)
    (.bool (Text.find? p.toList s.toList).isSome) :=
  gives_text invoke _ span .includes rfl

/-- A place is read off the second argument. -/
theorem wholeArg?_second (v k : Value) : wholeArg? [v, k] 1 = wholeArg? [k] 0 := rfl

variable {s p} {k : Value} {i : Int}

/-- A slice with one bound, read off the argument. -/
theorem gives_slice (hk : wholeArg? [k] 0 = some i) :
    Gives (callMethod invoke (.string s) "slice" [k] span) (.string (sliceFrom s i)) := by
  refine gives_text invoke _ span .slice ?_
  show Except.ok (TextMethod.ofChars (Text.slice s.toList (wholeArg? [k] 0) none)) = _
  rw [hk]
  rfl

/-- To begin at a place is to begin, after what is before the place. -/
theorem gives_startsWith_from (hk : wholeArg? [k] 0 = some i) (hi : 0 ≤ i) :
    Gives (callMethod invoke (.string s) "startsWith" [.string p, k] span)
      (.bool (p.toList.isPrefixOf (sliceFrom s i).toList)) := by
  refine gives_text invoke _ span .startsWith ?_
  show Except.ok (Value.bool (Text.startsFrom s.toList p.toList (wholeArg? [.string p, k] 1))) = _
  rw [wholeArg?_second, hk, Text.startsFrom, fromPlace_eq s hi]
  rfl

/-- To be included from a place on is to be included in the slice. -/
theorem gives_includes_from (hk : wholeArg? [k] 0 = some i) (hi : 0 ≤ i) :
    Gives (callMethod invoke (.string s) "includes" [.string p, k] span)
      (.bool (Text.find? p.toList (sliceFrom s i).toList).isSome) := by
  refine gives_text invoke _ span .includes ?_
  show Except.ok (Value.bool (Text.includesFrom s.toList p.toList (wholeArg? [.string p, k] 1))) = _
  rw [wholeArg?_second, hk, Text.includesFrom, fromPlace_eq s hi]
  rfl

end

/-! ## The place

  A search gives a number: that of a place, or minus one.  A place is a natural number, and as
  an argument it is read back exactly up to 53 bits. -/

/-- From the place on, the text begins with `p`. -/
def BeginsAt (invoke : Invoke) (span : Span) (s p : String) (i : Nat) : Prop :=
  Gives (callMethod invoke (.string (sliceFrom s i)) "startsWith" [.string p] span) (.bool true)

/-- The number of a place: the first from which on the text begins with `p`, or minus one if there
    is no such place. -/
def IsPlace (invoke : Invoke) (span : Span) (s p : String) (x : Float) : Prop :=
  (∃ i : Nat, x = Float.ofNat i ∧ BeginsAt invoke span s p i ∧
    ∀ j < i, ¬ BeginsAt invoke span s p j) ∨
  (x = -1.0 ∧ ∀ i, ¬ BeginsAt invoke span s p i)

section

variable {invoke : Invoke} {span : Span} {s p : String}

/-- The question in characters. -/
theorem beginsAt_iff {i : Nat} : BeginsAt invoke span s p i ↔ p.toList <+: s.toList.drop i := by
  have hgives := gives_startsWith invoke span (sliceFrom s i) p
  rw [toList_sliceFrom s (Int.natCast_nonneg i), Int.toNat_natCast] at hgives
  rw [← List.isPrefixOf_iff_prefix]
  constructor
  · intro h
    exact Value.bool.inj (hgives.unique h)
  · intro h
    rw [h] at hgives
    exact hgives

variable (invoke span s p) in
/-- **What a search for the place gives.**  It is minus one if and only if there is no place. -/
theorem gives_indexOf : ∃ x : Float,
    Gives (callMethod invoke (.string s) "indexOf" [.string p] span) (.number x) ∧
    IsPlace invoke span s p x ∧ ((Text.find? p.toList s.toList).isSome = true ↔ x ≠ -1.0) := by
  refine ⟨Number.ofInt (Text.indexOf s.toList p.toList), gives_text invoke _ span .indexOf rfl, ?_⟩
  rw [Text.indexOf]
  cases hfind : Text.find? p.toList s.toList with
  -- a place was found, and it is the least
  | some i =>
    obtain ⟨hi, hfirst⟩ := Text.find?_eq_some_iff.mp hfind
    refine ⟨.inl ⟨i, rfl, beginsAt_iff.mpr hi, fun j hj => ?_⟩, ?_⟩
    · exact mt beginsAt_iff.mp (hfirst j hj)
    · exact iff_of_true rfl (Number.unsigned_ofNat i).ne_neg_one
  -- no place was found, so that there is none
  | none =>
    have hone : Number.ofInt (-1) = -1.0 := by decide +kernel
    refine ⟨.inr ⟨hone, fun i => ?_⟩, ?_⟩
    · exact mt beginsAt_iff.mp (Text.find?_eq_none_iff.mp hfind i)
    · exact iff_of_false Bool.false_ne_true (not_not_intro hone)

end

/-- A natural number as an argument is a place that is not below zero; up to 53 bits it is the
    number itself. -/
theorem wholeArg?_ofNat (n : Nat) : ∃ i : Int, wholeArg? [.number (Float.ofNat n)] 0 = some i ∧
    0 ≤ i ∧ (n ≤ 2 ^ 53 → i = n) :=
  ⟨Number.toInt64 (Float.ofNat n), rfl, (Number.unsigned_ofNat n).toInt64_nonneg,
    fun h => Number.toInt64_ofInt (n := n) h⟩

/-- A text ends with its last characters. -/
theorem isSuffixOf_iff (p s : List Char) :
    p.isSuffixOf s = true ↔ p.length ≤ s.length ∧ s.drop (s.length - p.length) = p := by
  rw [List.isSuffixOf_iff_suffix]
  constructor
  · intro h
    exact ⟨h.length_le, (List.suffix_iff_eq_drop.mp h).symm⟩
  · rintro ⟨-, h⟩
    exact List.suffix_iff_eq_drop.mpr h.symm

/-- **The searches tell one story**, in characters.  The place of `p` is the first from which on the
    text begins with it; `p` is included if and only if there is one.  To search from a place on is
    to search in the slice from there on, also at the end of the text and behind it.  A text ends
    with `p` if and only if its last characters, as many as `p` has, are those of `p`. -/
theorem searching_agrees (invoke : Invoke) (span : Span) (s p : String) :
    (∃ x included, Gives (callMethod invoke (.string s) "indexOf" [.string p] span) (.number x) ∧
      IsPlace invoke span s p x ∧
      Gives (callMethod invoke (.string s) "includes" [.string p] span) (.bool included) ∧
      (included = true ↔ x ≠ -1.0)) ∧
    (∀ (k : Value) (i : Int), wholeArg? [k] 0 = some i → 0 ≤ i →
      Gives (callMethod invoke (.string s) "slice" [k] span) (.string (sliceFrom s i)) ∧
      (∃ begins,
        Gives (callMethod invoke (.string s) "startsWith" [.string p, k] span) (.bool begins) ∧
        Gives (callMethod invoke (.string (sliceFrom s i)) "startsWith" [.string p] span)
          (.bool begins)) ∧
      (∃ included,
        Gives (callMethod invoke (.string s) "includes" [.string p, k] span) (.bool included) ∧
        Gives (callMethod invoke (.string (sliceFrom s i)) "includes" [.string p] span)
          (.bool included))) ∧
    (∀ n : Nat, ∃ i : Int, wholeArg? [.number (Float.ofNat n)] 0 = some i ∧ 0 ≤ i ∧
      (n ≤ 2 ^ 53 → i = n)) ∧
    (∃ ends, Gives (callMethod invoke (.string s) "endsWith" [.string p] span) (.bool ends) ∧
      (ends = true ↔ p.length ≤ s.length ∧
        s.toList.drop (s.length - p.length) = p.toList)) := by
  refine ⟨?_, fun k i hk hi => ?_, wholeArg?_ofNat, ?_⟩
  · obtain ⟨x, hx, hplace, hincluded⟩ := gives_indexOf invoke span s p
    exact ⟨x, _, hx, hplace, gives_includes invoke span s p, hincluded⟩
  · exact ⟨gives_slice invoke span hk,
      ⟨_, gives_startsWith_from invoke span hk hi, gives_startsWith invoke span _ p⟩,
      ⟨_, gives_includes_from invoke span hk hi, gives_includes invoke span _ p⟩⟩
  · exact ⟨_, gives_text invoke _ span .endsWith rfl, isSuffixOf_iff p.toList s.toList⟩

/-- Behind the end of a text there is its end only, and the empty text is there. -/
theorem searching_agrees_behind :
    wholeArg? [.number 7.0] 0 = some 7 ∧ (0 : Int) ≤ 7 ∧ ∃ begins,
      Gives (callMethod (invokeArrow 0) (.string "zażółć") "startsWith"
        [.string "", .number 7.0] ⟨0, 0⟩) (.bool begins) ∧
      Gives (callMethod (invokeArrow 0) (.string (sliceFrom "zażółć" 7)) "startsWith"
        [.string ""] ⟨0, 0⟩) (.bool begins) := by
  have hk : wholeArg? [.number 7.0] 0 = some 7 := by decide +kernel
  have hi : (0 : Int) ≤ 7 := by decide
  obtain ⟨-, hfrom, -⟩ := searching_agrees (invokeArrow 0) ⟨0, 0⟩ "zażółć" ""
  exact ⟨hk, hi, (hfrom (.number 7.0) 7 hk hi).2.1⟩

example : Text.indexOf "zażółć".toList "ółć".toList = 3 ∧ Text.indexOf "".toList [] = 0 := by decide

end ExerciseGrading.Snippet
