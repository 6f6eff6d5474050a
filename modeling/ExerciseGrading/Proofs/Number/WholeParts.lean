/-
  WHOLE PARTS: the numbers that count and point to places are never below zero.

  Lengths and places go through doubles and are made words again.  Between the two nothing may
  become negative, also not where a double is rounded, is infinite or is no number; and a place must
  not become minus one, which means that there is none.

  1. `decompose_eq` — reading the bits of a double gives what the arithmetic of doubles works on.
     The program reads the word, the arithmetic of Proofs/Number/Rounding its own unpacked form.
  2. `Holds.toInt?` — the whole part of a double that is a whole number is that number.
  3. `Unsigned x` — `x` is written without a minus sign.  Its whole part is not below zero
     (`Unsigned.toInt64_nonneg`), and it is not minus one (`Unsigned.ne_neg_one`).
  4. `unsigned_ofNat` — so is every natural number, also where it is rounded or beyond all doubles:
     rounding and packing leave the sign alone.
  5. `toInt64_bounds` — the whole part, cut to what a word holds, is a word of any double.  Whole
     numbers of 53 bits are their own (`toInt64_ofInt`).
-/
import ExerciseGrading.Proofs.Number.Rounding

namespace ExerciseGrading.Number

open Float.Model (Format UnpackedFloat)
open Float.Model.UnpackedFloat

/-! ## The three fields of a double

  The program takes the word apart by shifts and remainders, the arithmetic by slices of bits.
  Field by field these are the same numbers, so that both come to the same of the three kinds of
  doubles. -/

section

variable (b : BitVec Format.binary64.numBits)

/-- The mantissa is the last 52 bits of the word. -/
theorem toNat_unpackMantissa : (unpackMantissa b).toNat = b.toNat % leadingBit := by
  rw [unpackMantissa, BitVec.toNat_cast, BitVec.extractLsb_toNat]
  rfl

/-- The exponent is the 11 bits in front of them. -/
theorem toNat_unpackExponent : (unpackExponent b).toNat = (b.toNat >>> 52) % 2048 := by
  rw [unpackExponent, BitVec.toNat_cast, BitVec.extractLsb_toNat]
  rfl

/-- The sign is the first bit. -/
theorem toNat_unpackSign : (unpackSign b).toNat = b.toNat >>> 63 := by
  have hb : b.toNat < 2 ^ 64 := b.isLt
  rw [unpackSign, BitVec.toNat_cast, BitVec.extractLsb_toNat]
  show (b.toNat >>> 63) % 2 = b.toNat >>> 63
  rw [Nat.shiftRight_eq_div_pow]
  omega

end

/-- A set bit is a minus sign. -/
theorem ofBitVec_beq_negative (b : BitVec 1) :
    (Sign.ofBitVec b == Sign.negative) = (b.toNat == 1) := by
  revert b
  decide

/-- What the arithmetic of doubles works on, as one of the three kinds. -/
def ofUnpacked : UnpackedFloat → Binary64
  | .notANumber => .nan
  | .infinity s => .infinite (s == .negative)
  | .zero s => .finite (s == .negative) 0 (-1074)
  | .finite s m e _ => .finite (s == .negative) m e

/-- Both readings make the same cases of the three fields. -/
theorem ofUnpacked_fields (s : Sign) (exponent : BitVec 11) (fraction : BitVec 52)
    (hpos : fraction ≠ 0#52 → 0 < fraction.toNat) (hleading : 0 < (1#1 ++ fraction).toNat) :
    ofUnpacked
      (if exponent = -1#11 then if fraction = 0#52 then .infinity s else .notANumber
        else if exponent = 0#11 then
          if h : fraction = 0#52 then .zero s
          else .finite s fraction.toNat (exponent.toNat - 1075 + 1) (hpos h)
        else .finite s (1#1 ++ fraction).toNat (exponent.toNat - 1075) hleading) =
    if exponent.toNat = 2047 then if fraction.toNat = 0 then .infinite (s == .negative) else .nan
    else if exponent.toNat = 0 then .finite (s == .negative) fraction.toNat (-1074)
    else
      .finite (s == .negative) (fraction.toNat + leadingBit) ((exponent.toNat : Int) - 1075) := by
  have htop : exponent.toNat = 2047 ↔ exponent = -1#11 := by
    rw [← BitVec.toNat_inj]
    rfl
  have hlow : exponent.toNat = 0 ↔ exponent = 0#11 := by
    rw [← BitVec.toNat_inj]
    rfl
  have hzero : fraction.toNat = 0 ↔ fraction = 0#52 := by
    rw [← BitVec.toNat_inj]
    rfl
  simp only [htop, hlow, hzero]
  split
  · split <;> rfl
  · split
    · rename_i hexponent
      split
      · rename_i hfraction
        rw [hfraction]
        rfl
      · rw [ofUnpacked, hlow.mpr hexponent]
        rfl
    · rw [ofUnpacked, toNat_leading, Nat.add_comm]
      rfl

/-- **Reading the bits gives what the arithmetic works on.** -/
theorem decompose_eq (x : Float) : decompose x = ofUnpacked x.toModel.unpack := by
  obtain ⟨b, hb⟩ : ∃ b : BitVec Format.binary64.numBits, b = x.toModel.toBits.toBitVec := ⟨_, rfl⟩
  have hbits : x.toBits.toNat = b.toNat := congrArg BitVec.toNat hb.symm
  have hsign := ofBitVec_beq_negative (unpackSign b)
  rw [toNat_unpackSign] at hsign
  rw [decompose, Float.Model.unpack, ← hb, hbits, ← hsign, ← toNat_unpackExponent,
    ← toNat_unpackMantissa]
  exact (ofUnpacked_fields (Sign.ofBitVec (unpackSign b)) (unpackExponent b) (unpackMantissa b)
    _ _).symm

/-! ## Whole numbers

  The whole part is a shift of the mantissa, to the left or to the right.  Where the double is a
  whole number, the bits that a shift to the right drops are zeros. -/

/-- The whole part of what is written with 53 bits. -/
theorem Stands.wholePart {m n : Nat} {e : Int} (h : Stands m e n) :
    (if e ≥ 0 then m <<< e.toNat else (splitFraction m e).1) = n := by
  have hvalue := h.value
  have hlo := h.lo
  split
  · rw [show (e + 52).toNat = e.toNat + 52 by omega, pow_add, ← mul_assoc] at hvalue
    rw [Nat.shiftLeft_eq]
    exact Nat.eq_of_mul_eq_mul_right (Nat.two_pow_pos 52) hvalue
  · have hunit : 2 ^ 52 = 2 ^ (-e).toNat * 2 ^ (e + 52).toNat := by
      rw [← pow_add]
      congr 1
      omega
    -- below zero the exponent says how many bits of the mantissa are zeros behind a point
    rw [hunit, ← mul_assoc] at hvalue
    have hmul : m = n * 2 ^ (-e).toNat := Nat.eq_of_mul_eq_mul_right (Nat.two_pow_pos _) hvalue
    show m / 1 <<< (-e).toNat = n
    rw [Nat.one_shiftLeft, hmul, Nat.mul_div_cancel _ (Nat.two_pow_pos _)]

/-- **The whole part of a double that is a whole number.** -/
theorem Holds.toInt? {x : Float} {v : Int} (h : Holds x v) : toInt? x = some v := by
  rw [Number.toInt?, decompose_eq]
  cases h with
  | @zero s hx =>
    rw [hx]
    cases s <;> rfl
  | @finite s m n e h hx =>
    rw [hx, ofUnpacked]
    dsimp only
    rw [h.wholePart]
    cases s <;> rfl

/-- **The whole part is a word.** -/
theorem toInt64_bounds (x : Float) : minInt64 ≤ toInt64 x ∧ toInt64 x ≤ maxInt64 := by
  have hends : minInt64 ≤ maxInt64 := by decide
  rw [Number.toInt64]
  cases decompose x with
  | nan =>
    show minInt64 ≤ 0 ∧ 0 ≤ maxInt64
    decide
  | infinite negative =>
    cases negative with
    | false => exact ⟨hends, le_refl _⟩
    | true => exact ⟨le_refl _, hends⟩
  | finite negative m e => exact ⟨le_max_left _ _, max_le hends (min_le_left _ _)⟩

/-- Inside its range, the whole part is a word as it is. -/
theorem Holds.toInt64 {x : Float} {v : Int} (h : Holds x v) (hlo : minInt64 ≤ v)
    (hhi : v ≤ maxInt64) : toInt64 x = v := by
  have hclamp : clamp minInt64 maxInt64 v = v := by
    rw [clamp, min_eq_right hhi, max_eq_right hlo]
  have hwhole := h.toInt?
  rw [Number.toInt64]
  -- what has a whole part is finite
  cases hx : decompose x with
  | nan =>
    rw [Number.toInt?, hx] at hwhole
    cases hwhole
  | infinite s =>
    rw [Number.toInt?, hx] at hwhole
    cases hwhole
  | finite s m e =>
    dsimp only
    rw [hwhole, Option.getD_some, hclamp]

/-! ## Numbers without a minus sign

  A sign survives rounding, packing and unpacking.  So a number that is made of a natural number
  has none, and this is enough to keep it apart from minus one, whatever its size. -/

/-- There is no minus sign in front. -/
def Binary64.unsigned : Binary64 → Bool
  | .nan => true
  | .infinite negative | .finite negative _ _ => !negative

/-- The double is written without a minus sign. -/
def Unsigned (x : Float) : Prop := (decompose x).unsigned = true

/-- **Without a minus sign, the whole part is not below zero.** -/
theorem Unsigned.toInt64_nonneg {x : Float} (h : Unsigned x) : 0 ≤ toInt64 x := by
  have hmax : (0 : Int) ≤ maxInt64 := by decide
  rw [Unsigned] at h
  rw [Number.toInt64]
  cases hx : decompose x with
  | nan => exact le_refl 0
  | infinite negative =>
    have hpositive : negative = false := by simpa [hx, Binary64.unsigned] using h
    rw [hpositive]
    exact hmax
  | finite negative m e =>
    have hpositive : negative = false := by simpa [hx, Binary64.unsigned] using h
    dsimp only
    rw [Number.toInt?, hx, hpositive, clamp]
    exact le_max_of_le_right (le_min hmax (Int.natCast_nonneg _))

/-- A number without a minus sign is not minus one. -/
theorem Unsigned.ne_neg_one {x : Float} (h : Unsigned x) : x ≠ -1.0 := by
  have hone : (decompose (-1.0)).unsigned = false := by decide +kernel
  rintro rfl
  exact absurd (hone.symm.trans h) Bool.false_ne_true

/-- Packing keeps the sign of what was rounded. -/
theorem unpackSign_pack_round (s : Sign) (m : Nat) (e : Int) :
    Sign.ofBitVec (unpackSign
      (UnpackedFloat.pack .binary64 (roundWithAccuracy .binary64 s m e .exact))) = s := by
  rw [roundWithAccuracy]
  dsimp only
  split
  · exact ofBitVec_unpackSign s 0#11 0#52
  · -- too large for a double, of the usual length, or shorter: the sign is packed all the same
    rw [UnpackedFloat.pack]
    dsimp only
    split
    · exact ofBitVec_unpackSign s (-1#11) 0#52
    · split <;> exact ofBitVec_unpackSign s _ _

/-- What was rounded without a minus sign is without one. -/
theorem unsigned_of_round {x : Float} {m : Nat} {e : Int} (h : x.toModel =
    Float.Model.pack (roundWithAccuracy .binary64 .positive m e .exact)) : Unsigned x := by
  have hsign := unpackSign_pack_round .positive m e
  generalize hb : UnpackedFloat.pack .binary64
    (roundWithAccuracy .binary64 .positive m e .exact) = b at hsign
  have hbits : x.toBits.toNat = b.toNat := by
    rw [← hb]
    exact congrArg (fun y => y.toBits.toBitVec.toNat) h
  have hpositive : (x.toBits.toNat >>> 63 == 1) = false := by
    rw [hbits, ← toNat_unpackSign, ← ofBitVec_beq_negative, hsign]
    rfl
  rw [Unsigned, decompose, hpositive]
  split
  · split <;> rfl
  · split <;> rfl

/-- **A natural number is written without a minus sign**, however far it is rounded. -/
theorem unsigned_ofNat (n : Nat) : Unsigned (Float.ofNat n) := by
  rcases Nat.eq_zero_or_pos n with rfl | hpos
  · exact rfl
  · -- either way the literal is made without a minus sign
    rcases Nat.lt_or_ge n (2 ^ 53) with hsmall | hlarge
    · obtain ⟨M, E, h, hunpack⟩ := ofNat_small_stands hpos hsmall
      rw [Unsigned, decompose_eq, hunpack]
      rfl
    · exact unsigned_of_round (ofNat_large_model hlarge)

/-- The whole part of a whole number that is not rounded. -/
theorem toInt64_ofInt {n : Int} (h : n.natAbs ≤ 2 ^ 53) : toInt64 (ofInt n) = n := by
  have hlo : -0x8000_0000_0000_0000 ≤ n := by omega
  have hhi : n ≤ 0x7FFF_FFFF_FFFF_FFFF := by omega
  have hunsigned : n ≤ 0xFFFF_FFFF_FFFF_FFFF := by omega
  have hholds := holds_ofInt hlo hunsigned
  rw [roundedInt_small h] at hholds
  exact hholds.toInt64 hlo hhi

end ExerciseGrading.Number
