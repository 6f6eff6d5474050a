/-
  SLICES: the items of a list from one place to another.

  1. `slice_piece` — a slice is a piece of the list, and stands just between its bounds.
  2. `slice_before`, `slice_behind` — with one bound left open, what stands before a place and what
     stands behind it.  Together they are the list (`slice_append_slice`).
  3. `slice_slice` — to cut the end off and then the start is to cut off both.
  4. `wordBounds` — the bounds computed on words of 64 bits.  They are the same
     (`sliceBounds_words`), also for the least word, whose distance from zero no signed word holds.
-/
import ExerciseGrading.Text.Place

namespace ExerciseGrading.Text

section

variable {α : Type}

/-! ## The piece between the bounds

  Everything that is said of slices further on is said of this piece: dropping from the front
  and taking what is left. -/

/-- **A slice stands between its bounds**, and has all the items that are there. -/
theorem slice_piece (items : List α) (first last : Option Int) : ∃ before after,
    items = before ++ slice items first last ++ after ∧
    sliceBounds items.length first last =
      (before.length, before.length + (slice items first last).length) := by
  have hle := sliceBounds_le items.length first last
  rw [slice]
  generalize sliceBounds items.length first last = bounds at hle
  obtain ⟨start, stop⟩ := bounds
  obtain ⟨hstart, hstop⟩ : start ≤ stop ∧ stop ≤ items.length := hle
  -- before the start, from there to the end, and behind it
  refine ⟨items.take start, items.drop stop, ?_, ?_⟩
  · have hdrop : items.drop stop = (items.drop start).drop (stop - start) := by
      rw [List.drop_drop, Nat.add_sub_cancel' hstart]
    rw [hdrop, List.append_assoc, List.take_append_drop, List.take_append_drop]
  · have hbefore : (items.take start).length = start :=
      List.length_take_of_le (Nat.le_trans hstart hstop)
    have hpiece : ((items.drop start).take (stop - start)).length = stop - start :=
      List.length_take_of_le (List.length_drop ▸ Nat.sub_le_sub_right hstop start)
    rw [hbefore]
    show (start, stop) = (start, start + ((items.drop start).take (stop - start)).length)
    rw [hpiece, Nat.add_sub_cancel' hstart]

/-! ## One bound left open

  A bound is a place, wherever it was counted from, and a place is between zero and the length. -/

theorem placeIn_zero (length : Nat) : placeIn length 0 = 0 := Nat.zero_min length

/-- A place that is not below zero counts from the start, and stops at the end. -/
theorem placeIn_of_nonneg (length : Nat) {i : Int} (h : 0 ≤ i) :
    placeIn length i = min i.toNat length :=
  if_neg (Int.not_lt.mpr h)

/-- What stands before a place. -/
theorem slice_before (items : List α) (i : Int) :
    slice items (some 0) (some i) = items.take (placeIn items.length i) := by
  show (items.drop (placeIn items.length 0)).take
    (max (placeIn items.length i) (placeIn items.length 0) - placeIn items.length 0) = _
  rw [placeIn_zero, List.drop_zero, Nat.max_zero, Nat.sub_zero]

/-- What stands behind a place. -/
theorem slice_behind (items : List α) (i : Int) :
    slice items (some i) none = items.drop (placeIn items.length i) := by
  show (items.drop (placeIn items.length i)).take
    (max items.length (placeIn items.length i) - placeIn items.length i) = _
  rw [Nat.max_eq_left (placeIn_le items.length i), List.take_of_length_le]
  exact Nat.le_of_eq List.length_drop

/-- **A place divides the list in two**, wherever it is. -/
theorem slice_append_slice (items : List α) (i : Int) :
    slice items (some 0) (some i) ++ slice items (some i) none = items := by
  rw [slice_before, slice_behind, List.take_append_drop]

/-! ## One slice after another

  The first place counts from the start, so that it means the same in the slice as in the list.
  Counted from the end it would not, and the law would be wrong. -/

/-- **To cut the end off and then the start is to cut off both.** -/
theorem slice_slice (items : List α) {i : Int} (hi : 0 ≤ i) (j : Int) :
    slice (slice items (some 0) (some j)) (some i) none = slice items (some i) (some j) := by
  have hj := placeIn_le items.length j
  have hlength : (items.take (placeIn items.length j)).length = placeIn items.length j :=
    List.length_take_of_le hj
  rw [slice_before, slice_behind, hlength, List.drop_take, placeIn_of_nonneg _ hi]
  show _ = (items.drop (placeIn items.length i)).take
    (max (placeIn items.length j) (placeIn items.length i) - placeIn items.length i)
  rw [placeIn_of_nonneg _ hi]
  rcases Nat.le_total i.toNat (placeIn items.length j) with hle | hge
  · rw [Nat.min_eq_left hle, Nat.min_eq_left (Nat.le_trans hle hj), Nat.max_eq_left hle]
  · -- the start is cut off behind the end that is left: nothing stands there
    rw [Nat.min_eq_right hge, Nat.sub_self, List.take_zero,
      Nat.max_eq_right (Nat.le_min.mpr ⟨hge, hj⟩), Nat.sub_self, List.take_zero]

end

/-! ## Bounds on words

  A place below zero counts from the end.  On words it is made positive first, and the least
  word is its own negative: read without a sign it is the distance after all. -/

/-- A difference of words that stops at zero. -/
def stoppedSub (a b : UInt64) : UInt64 := if b ≤ a then a - b else 0

/-- `placeIn` on words: what is below zero is taken off the length. -/
def wordPlace (length : UInt64) (i : Int64) : UInt64 :=
  if i < 0 then stoppedSub length (-i).toUInt64
  else if i.toUInt64 ≤ length then i.toUInt64 else length

/-- `sliceBounds` on words. -/
def wordBounds (length : UInt64) (first last : Option Int64) : UInt64 × UInt64 :=
  let start := match first with
    | some i => wordPlace length i
    | none => 0
  let stop := match last with
    | some i => wordPlace length i
    | none => length
  (start, if start ≤ stop then stop else start)

theorem toNat_stoppedSub (a b : UInt64) : (stoppedSub a b).toNat = a.toNat - b.toNat := by
  rw [stoppedSub]
  split
  · rename_i h
    exact UInt64.toNat_sub_of_le a b h
  · rename_i h
    rw [UInt64.le_iff_toNat_le, Nat.not_le] at h
    exact (Nat.sub_eq_zero_of_le (Nat.le_of_lt h)).symm

/-- The bits of a signed word, read without a sign. -/
theorem toNat_toUInt64 (i : Int64) : (i.toUInt64.toNat : Int) =
    if i.toInt < 0 then i.toInt + 0x1_0000_0000_0000_0000 else i.toInt := by
  have hbits := BitVec.toInt_eq_toNat_cond i.toBitVec
  rw [Int64.toInt_toBitVec, Int64.toNat_toBitVec] at hbits
  have hlt := i.toUInt64.toNat_lt
  split at hbits <;> split <;> omega

/-- **The distance of a word below zero from zero**, the least word included. -/
theorem toNat_neg_toUInt64 {i : Int64} (h : i.toInt < 0) :
    (-i).toUInt64.toNat = i.toInt.natAbs := by
  have hbits := toNat_toUInt64 i
  rw [if_pos h] at hbits
  have hle : -0x8000_0000_0000_0000 ≤ i.toInt := i.le_toInt
  -- a word below zero has a bit set
  have hpos : 0 < i.toUInt64.toNat := by omega
  rw [Int64.toUInt64_neg, UInt64.toNat_neg,
    Nat.mod_eq_of_lt (Nat.sub_lt (by decide) hpos)]
  show 0x1_0000_0000_0000_0000 - i.toUInt64.toNat = i.toInt.natAbs
  omega

/-- **A place on words is the place.** -/
theorem toNat_wordPlace (length : UInt64) (i : Int64) :
    (wordPlace length i).toNat = placeIn length.toNat i.toInt := by
  have hsign : i < 0 ↔ i.toInt < 0 := Int64.lt_iff_toInt_lt
  rw [wordPlace, placeIn]
  by_cases h : i.toInt < 0
  · rw [if_pos (hsign.mpr h), if_pos h, toNat_stoppedSub, toNat_neg_toUInt64 h]
  · rw [if_neg (mt hsign.mp h), if_neg h]
    have hbits := toNat_toUInt64 i
    rw [if_neg h] at hbits
    have hplace : i.toInt.toNat = i.toUInt64.toNat := by omega
    rw [hplace]
    split
    · rename_i hle
      exact (Nat.min_eq_left (UInt64.le_iff_toNat_le.mp hle)).symm
    · rename_i hgt
      rw [UInt64.le_iff_toNat_le, Nat.not_le] at hgt
      exact (Nat.min_eq_right (Nat.le_of_lt hgt)).symm

theorem toNat_later (a b : UInt64) : (if a ≤ b then b else a).toNat = max b.toNat a.toNat := by
  split
  · rename_i hle
    exact (Nat.max_eq_left (UInt64.le_iff_toNat_le.mp hle)).symm
  · rename_i hgt
    rw [UInt64.le_iff_toNat_le, Nat.not_le] at hgt
    exact (Nat.max_eq_right (Nat.le_of_lt hgt)).symm

/-- **On words the bounds are the same.** -/
theorem sliceBounds_words (length : UInt64) (first last : Option Int64) :
    sliceBounds length.toNat (first.map Int64.toInt) (last.map Int64.toInt) =
      ((wordBounds length first last).1.toNat, (wordBounds length first last).2.toNat) := by
  cases first <;> cases last <;>
    simp only [sliceBounds, wordBounds, Option.map_none, Option.map_some, toNat_later,
      toNat_wordPlace, UInt64.toNat_zero]

example : wordBounds 5 (some Int64.minValue) (some Int64.maxValue) = (0, 5) := by decide

end ExerciseGrading.Text
