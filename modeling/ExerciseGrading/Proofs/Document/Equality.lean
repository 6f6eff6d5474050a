/-
  EQUALITY of whole numbers in a document and in a check.

  Both are made doubles first, so that what is compared is the first 53 bits of each, rounded.

  1. `equalsScalar_whole` — two whole numbers count as equal if and only if they round to the same
     number.  So a number is equal to itself, the small ones are equal to nothing else, and what
     counts as equal is never far apart.
  2. `equalsScalar_not_strict` — beyond 53 bits different numbers count as equal.
-/
import ExerciseGrading.Document
import ExerciseGrading.Proofs.Number.Rounding

namespace ExerciseGrading.Document

open ExerciseGrading.Number

/-- Tags do not matter where a value is compared. -/
theorem equalsScalar_untagged (d : Document) (v : Json) :
    d.equalsScalar v = d.untagged.equalsScalar v := by
  induction d using untagged.induct with
  | case1 tag content ih => rw [equalsScalar, untagged, ih]
  | case2 d h => rw [untagged.eq_2 d h]

/-- **Which whole numbers count as equal.**  A document holds `a`, under tags or not, and a check
    names `b`; both fit 64 bits, with or without a sign.  They count as equal if and only if they
    round to the same number of 53 bits.  So
    1. a number equals itself;
    2. up to `2 ^ 53` on either side of zero it equals no other number of that size;
    3. numbers that count as equal are at most 2048 apart. -/
theorem equalsScalar_whole {d : Document} {a b : Int} (hd : d.untagged = .number (.whole a))
    (ha : minInt64 ≤ a) (ha' : a ≤ maxUInt64) (hb : minInt64 ≤ b) (hb' : b ≤ maxUInt64) :
    (d.equalsScalar (.number (.whole b)) = true ↔ roundedInt a = roundedInt b) ∧
    (a = b → d.equalsScalar (.number (.whole b)) = true) ∧
    (a.natAbs ≤ 2 ^ 53 → b.natAbs ≤ 2 ^ 53 →
      (d.equalsScalar (.number (.whole b)) = true ↔ a = b)) ∧
    (d.equalsScalar (.number (.whole b)) = true → a ≤ b + 2048 ∧ b ≤ a + 2048) := by
  have hiff : d.equalsScalar (.number (.whole b)) = true ↔ roundedInt a = roundedInt b := by
    rw [equalsScalar_untagged, hd, equalsScalar]
    exact ofInt_beq_iff ha ha' hb hb'
  refine ⟨hiff, fun h => hiff.mpr (h ▸ rfl), fun hsmall hsmall' => ?_, fun h => ?_⟩
  · rw [hiff, roundedInt_small hsmall, roundedInt_small hsmall']
  · have heq := hiff.mp h
    have hnear := roundedInt_near ha ha'
    have hnear' := roundedInt_near hb hb'
    omega

/-- Two numbers of 64 bits, the first under a tag, that round to the same number, and two that do
    not. -/
theorem equalsScalar_whole_max :
    (Document.tagged "!n" (.number (.whole maxUInt64))).untagged = .number (.whole maxUInt64) ∧
    (Document.tagged "!n" (.number (.whole maxUInt64))).equalsScalar
      (.number (.whole (maxUInt64 - 1023))) = true ∧
    (Document.tagged "!n" (.number (.whole maxUInt64))).equalsScalar
      (.number (.whole (maxUInt64 - 1024))) = false := by
  have hequal := equalsScalar_whole (d := .tagged "!n" (.number (.whole maxUInt64)))
    (a := maxUInt64) (b := maxUInt64 - 1023) rfl (by decide) (by decide) (by decide) (by decide)
  have hdiffer := equalsScalar_whole (d := .tagged "!n" (.number (.whole maxUInt64)))
    (a := maxUInt64) (b := maxUInt64 - 1024) rfl (by decide) (by decide) (by decide) (by decide)
  refine ⟨rfl, hequal.1.mpr (by decide), ?_⟩
  rw [← Bool.not_eq_true, hdiffer.1]
  decide

/-- The least whole numbers that differ and count as equal. -/
theorem equalsScalar_not_strict :
    ¬∀ a b : Int, minInt64 ≤ a → a ≤ maxUInt64 → minInt64 ≤ b → b ≤ maxUInt64 →
      ((Document.number (.whole a)).equalsScalar (.number (.whole b)) = true ↔ a = b) := by
  intro hstrict
  have hequal : (Document.number (.whole 9007199254740993)).equalsScalar
      (.number (.whole 9007199254740992)) = true := by decide +kernel
  have hsame := (hstrict _ _ (by decide) (by decide) (by decide) (by decide)).mp hequal
  exact absurd hsame (by decide)

end ExerciseGrading.Document
