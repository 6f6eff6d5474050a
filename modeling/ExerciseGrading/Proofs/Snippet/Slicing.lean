/-
  SLICING: the method that lists and texts have in common.

  1. `CountsAs k i` — as an argument, the value `k` is the whole number `i`.  Whatever the arguments
     are, what counts is words of 64 bits (`wholeArg?_word`), and whole numbers of 53 bits count as
     themselves (`countsAs_ofInt`).
  2. `Slices` — what `slice` gives is made of the items between two places, for lists
     (`list_slices`) and for texts (`text_slices`).
  3. `SlicingLaws` — slices are inside, a place divides a value in two, and two slices in a row are
     one.  This follows for whatever `Slices` (`Slices.laws`).
  4. `slicing_laws` — the laws for lists and texts, and for the bounds themselves.
-/
import ExerciseGrading.Proofs.Number.WholeParts
import ExerciseGrading.Proofs.Snippet.Methods
import ExerciseGrading.Proofs.Text.Slices

namespace ExerciseGrading.Snippet

/-! ## Arguments

  An argument may be any value.  What counts of it is a word, or nothing if it is left out, and
  a number of 53 bits is the word that it looks like. -/

/-- As an argument, the value is a whole number. -/
def CountsAs (k : Value) (i : Int) : Prop := wholeArg? [k] 0 = some i

instance (k : Value) (i : Int) : Decidable (CountsAs k i) :=
  inferInstanceAs (Decidable (wholeArg? [k] 0 = some i))

/-- **What counts of an argument is a word**, however large the number is. -/
theorem wholeArg?_word (args : List Value) (n : Nat) :
    ∃ w : Option Int64, wholeArg? args n = w.map Int64.toInt := by
  rw [wholeArg?]
  split
  · exact ⟨none, rfl⟩
  · exact ⟨none, rfl⟩
  · -- what is given counts as a number of 64 bits, the nearest one if it is larger
    rename_i v _ _
    obtain ⟨hlo, hhi⟩ := Number.toInt64_bounds v.toNumber
    have hhi' : Number.toInt64 v.toNumber < 2 ^ 63 := Int.lt_add_one_of_le hhi
    exact ⟨some (.ofInt (Number.toInt64 v.toNumber)),
      congrArg some (Int64.toInt_ofInt_of_le hlo hhi').symm⟩

/-- Up to 53 bits a whole number is held as it is. -/
theorem countsAs_ofInt {n : Int} (h : n.natAbs ≤ 2 ^ 53) :
    CountsAs (.number (Number.ofInt n)) n :=
  congrArg some (Number.toInt64_ofInt h)

/-! ## Slices of lists and texts

  A text is cut between characters and a list between items.  Both are made of items in some
  way, and the laws are about the items, so they are proved once for every way. -/

/-- The call of `slice` on what `made` makes of items gives what it makes of those from one place to
    another. -/
def Slices (invoke : Invoke) (span : Span) {α : Type} (made : List α → Value) : Prop :=
  ∀ items args, Gives (callMethod invoke (made items) "slice" args span)
    (made (Text.slice items (wholeArg? args 0) (wholeArg? args 1)))

/-- A slice of a list is a list. -/
theorem list_slices (invoke : Invoke) (span : Span) : Slices invoke span Value.list :=
  fun items args => gives_list invoke args span .slice items

/-- A slice of a text is a text, cut between characters. -/
theorem text_slices (invoke : Invoke) (span : Span) : Slices invoke span TextMethod.ofChars := by
  intro items args
  refine gives_text invoke args span .slice ?_
  show Except.ok (TextMethod.ofChars
    (Text.slice (String.ofList items).toList (wholeArg? args 0) (wholeArg? args 1))) = _
  rw [String.toList_ofList]

/-- The laws of `slice` for what `made` makes of items. -/
structure SlicingLaws (invoke : Invoke) (span : Span) {α : Type} (made : List α → Value) :
    Prop where
  /-- A slice is a piece, and stands just between its bounds. -/
  inside : ∀ items args, ∃ before piece after,
    Gives (callMethod invoke (made items) "slice" args span) (made piece) ∧
    items = before ++ piece ++ after ∧
    Text.sliceBounds items.length (wholeArg? args 0) (wholeArg? args 1) =
      (before.length, before.length + piece.length)
  /-- What stands before a place and what stands behind it is everything. -/
  divides : ∀ items zero k i, CountsAs zero 0 → CountsAs k i → ∃ front rest,
    Gives (callMethod invoke (made items) "slice" [zero, k] span) (made front) ∧
    Gives (callMethod invoke (made items) "slice" [k] span) (made rest) ∧ front ++ rest = items
  /-- To cut the end off and then the start is to cut off both. -/
  twice : ∀ items zero k l i j, CountsAs zero 0 → CountsAs k i → CountsAs l j → 0 ≤ i →
    ∃ front piece, Gives (callMethod invoke (made items) "slice" [zero, l] span) (made front) ∧
    Gives (callMethod invoke (made front) "slice" [k] span) (made piece) ∧
    Gives (callMethod invoke (made items) "slice" [k, l] span) (made piece)

section

variable {invoke : Invoke} {span : Span} {α : Type} {made : List α → Value}

/-- The slice from one place on. -/
theorem Slices.gives_rest (h : Slices invoke span made) (items : List α) {k : Value} {i : Int}
    (hk : CountsAs k i) : Gives (callMethod invoke (made items) "slice" [k] span)
      (made (Text.slice items (some i) none)) := by
  have hgives := h items [k]
  rw [hk] at hgives
  exact hgives

/-- The slice between two places. -/
theorem Slices.gives_between (h : Slices invoke span made) (items : List α) {k l : Value}
    {i j : Int} (hk : CountsAs k i) (hl : CountsAs l j) :
    Gives (callMethod invoke (made items) "slice" [k, l] span)
      (made (Text.slice items (some i) (some j))) := by
  have hgives := h items [k, l]
  have hfirst : wholeArg? [k, l] 0 = some i := hk
  have hsecond : wholeArg? [k, l] 1 = some j := hl
  rw [hfirst, hsecond] at hgives
  exact hgives

/-- **The laws for whatever has slices**: they are laws of the items. -/
theorem Slices.laws (h : Slices invoke span made) : SlicingLaws invoke span made where
  inside items args := by
    obtain ⟨before, after, hitems, hbounds⟩ :=
      Text.slice_piece items (wholeArg? args 0) (wholeArg? args 1)
    exact ⟨before, _, after, h items args, hitems, hbounds⟩
  divides items zero k i hzero hk :=
    ⟨_, _, h.gives_between items hzero hk, h.gives_rest items hk, Text.slice_append_slice items i⟩
  twice items zero k l i j hzero hk hl hi := by
    refine ⟨_, _, h.gives_between items hzero hl, h.gives_rest _ hk, ?_⟩
    rw [Text.slice_slice items hi j]
    exact h.gives_between items hk hl

end

/-- **Slices are inside, and divide what they are taken from.**  Whatever the length and the two
    places are, the start is not behind the end and the end not behind the length, and so it comes
    out on words of 64 bits.  For every list and every place, what stands before the place and what
    stands behind it is the list; and to cut the end off and then the start, at a place that is not
    below zero, is to cut off both.  So it is for the calls of the method on lists and on texts. -/
theorem slicing_laws (invoke : Invoke) (span : Span) :
    (∀ (length : Nat) (first last : Option Int),
      (Text.sliceBounds length first last).1 ≤ (Text.sliceBounds length first last).2 ∧
      (Text.sliceBounds length first last).2 ≤ length) ∧
    (∀ (length : UInt64) (first last : Option Int64),
      Text.sliceBounds length.toNat (first.map Int64.toInt) (last.map Int64.toInt) =
        ((Text.wordBounds length first last).1.toNat,
          (Text.wordBounds length first last).2.toNat)) ∧
    (∀ (α : Type) (items : List α) (i : Int),
      Text.slice items (some 0) (some i) ++ Text.slice items (some i) none = items ∧
      ∀ j, 0 ≤ i → Text.slice (Text.slice items (some 0) (some j)) (some i) none =
        Text.slice items (some i) (some j)) ∧
    (∀ args n, ∃ w : Option Int64, wholeArg? args n = w.map Int64.toInt) ∧
    (∀ n : Int, n.natAbs ≤ 2 ^ 53 → CountsAs (.number (Number.ofInt n)) n) ∧
    SlicingLaws invoke span Value.list ∧ SlicingLaws invoke span TextMethod.ofChars := by
  refine ⟨Text.sliceBounds_le, Text.sliceBounds_words, fun α items i => ⟨?_, fun j hi => ?_⟩,
    wholeArg?_word, fun n => countsAs_ofInt, ?_, ?_⟩
  · exact Text.slice_append_slice items i
  · exact Text.slice_slice items hi j
  · exact (list_slices invoke span).laws
  · exact (text_slices invoke span).laws

/-- The least of all numbers counts as the least word, so that nothing stands before it; a fraction
    is dropped, and a text counts as the number that it says. -/
theorem slicing_laws_least :
    let least : Value := .number (-1.0 / 0.0)
    let made := TextMethod.ofChars
    let items := "zażółć".toList
    CountsAs (.number 0.0) 0 ∧ CountsAs least Number.minInt64 ∧ CountsAs (.number 2.5) 2 ∧
      CountsAs (.string "4") 4 ∧ (0 : Int) ≤ 2 ∧
      (∃ front rest,
        Gives (callMethod (invokeArrow 0) (made items) "slice" [.number 0.0, least] ⟨0, 0⟩)
          (made front) ∧
        Gives (callMethod (invokeArrow 0) (made items) "slice" [least] ⟨0, 0⟩) (made rest) ∧
        front ++ rest = items) ∧
      ∃ front piece,
        Gives (callMethod (invokeArrow 0) (made items) "slice" [.number 0.0, .string "4"] ⟨0, 0⟩)
          (made front) ∧
        Gives (callMethod (invokeArrow 0) (made front) "slice" [.number 2.5] ⟨0, 0⟩)
          (made piece) ∧
        Gives (callMethod (invokeArrow 0) (made items) "slice" [.number 2.5, .string "4"] ⟨0, 0⟩)
          (made piece) := by
  intro least made items
  have hzero : CountsAs (.number 0.0) 0 := by decide +kernel
  have hleast : CountsAs least Number.minInt64 := by decide +kernel
  have hstart : CountsAs (.number 2.5) 2 := by decide +kernel
  have hend : CountsAs (.string "4") 4 := by decide +kernel
  have hnonneg : (0 : Int) ≤ 2 := by decide
  obtain ⟨-, -, -, -, -, -, htexts⟩ := slicing_laws (invokeArrow 0) ⟨0, 0⟩
  exact ⟨hzero, hleast, hstart, hend, hnonneg, htexts.divides items _ _ _ hzero hleast,
    htexts.twice items _ _ _ _ _ hzero hstart hend hnonneg⟩

end ExerciseGrading.Snippet
