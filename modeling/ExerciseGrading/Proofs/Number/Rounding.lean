/-
  ROUNDING: which whole number the double of a whole number is.

  A double has 53 bits.  A whole number of at most 64 bits that needs more loses its last ones: it
  goes to the nearest number that 53 bits can write, and of two that are equally near to the one
  whose last bit is zero.  The machine does this by shifts that keep two bits of memory, a round bit
  and a sticky bit; the proof has to say that this is division with rounding.

  1. **Specification** — `divideRounding n unit`: the quotient, rounded to the nearest whole number;
     of two that are equally near the even one.  `rounded n` keeps the first 53 bits of `n` in this
     way, and `divideRounding_near` bounds what it moves.
  2. **The crux (`Cut n k em`)** — what is known of `n` after `k` shifts to the right: the quotient,
     whether the rest reaches a half, and whether it is neither nothing nor a half.  One shift
     preserves it, so any number of them does, and it decides how the mantissa is rounded.
  3. `roundWithAccuracy_normal` — rounding leaves 53 bits; a carry out of them costs one more shift.
  4. **Packing** — a mantissa of 53 bits goes through the bits of the word and comes back
     (`Normal.unpack_pack`), so that what is rounded is what the arithmetic sees.
  5. `Holds x v` — the double `x` is the whole number `v`.  `beq_iff`: doubles that are whole
     numbers are equal if and only if the numbers are, for a number has one mantissa of 53 bits
     (`Stands.unique`).
  6. `holds_ofInt` — the double of a whole number is that number rounded.  Literals of up to 53 bits
     and longer ones go two different ways, and both end here.
-/
import ExerciseGrading.Number.Binary64
import Mathlib

namespace ExerciseGrading.Number

open Float.Model (Format UnpackedFloat totalExponent)
open Float.Model.UnpackedFloat

/-! ## Rounding in whole numbers

  What rounding is, without bits: a division, and the choice of the nearer of two whole numbers.
  Everything below is about how the machine comes to this choice. -/

/-- `n / unit`, rounded to the nearest whole number; of two that are equally near the even one. -/
def divideRounding (n unit : Nat) : Nat :=
  if 2 * (n % unit) < unit then n / unit
  else if 2 * (n % unit) = unit then n / unit + n / unit % 2
  else n / unit + 1

/-- The first 53 bits of `n`, rounded, and zeros behind them. -/
def rounded (n : Nat) : Nat :=
  let unit := 1 <<< (Nat.log2 n - 52)
  divideRounding n unit * unit

/-- A whole number rounded to 53 bits; the sign does not matter. -/
def roundedInt (n : Int) : Int := if n < 0 then -(rounded n.natAbs : Int) else rounded n.natAbs

/-- Dividing by one rounds nothing. -/
theorem divideRounding_one (n : Nat) : divideRounding n 1 = n := by
  rw [divideRounding, Nat.mod_one, Nat.div_one, if_pos (by decide)]

/-- Only the ratio counts: zeros behind both numbers change nothing. -/
theorem divideRounding_mul (n unit : Nat) {c : Nat} (hc : 0 < c) :
    divideRounding (n * c) (unit * c) = divideRounding n unit := by
  have hmod : n * c % (unit * c) = n % unit * c := Nat.mul_mod_mul_right c n unit
  have hdiv : n * c / (unit * c) = n / unit := Nat.mul_div_mul_right n unit hc
  have hlt : 2 * (n % unit * c) < unit * c ↔ 2 * (n % unit) < unit := by
    rw [← Nat.mul_assoc]
    exact Nat.mul_lt_mul_right hc
  have heq : 2 * (n % unit * c) = unit * c ↔ 2 * (n % unit) = unit := by
    rw [← Nat.mul_assoc]
    exact Nat.mul_left_inj hc.ne'
  simp only [divideRounding, hmod, hdiv, hlt, heq]

/-- A quotient is rounded down or up. -/
theorem divideRounding_bounds (n unit : Nat) :
    n / unit ≤ divideRounding n unit ∧ divideRounding n unit ≤ n / unit + 1 := by
  unfold divideRounding
  split
  · omega
  · -- the even one of two neighbours is one of the two
    split <;> omega

/-- Up to 53 bits, nothing is lost. -/
theorem rounded_small {n : Nat} (h : n < 2 ^ 53) : rounded n = n := by
  have hlog : Nat.log2 n - 52 = 0 := by
    rcases Nat.eq_zero_or_pos n with rfl | hn
    · rfl
    · have := (Nat.log2_lt hn.ne').mpr h
      omega
  rw [rounded, hlog]
  show divideRounding n 1 * 1 = n
  rw [Nat.mul_one, divideRounding_one]

/-- A rounded quotient is off by half a unit at most, to either side. -/
theorem divideRounding_near (n : Nat) {unit : Nat} (h : 0 < unit) :
    2 * n ≤ 2 * (divideRounding n unit * unit) + unit ∧
    2 * (divideRounding n unit * unit) ≤ 2 * n + unit := by
  have hrest : n % unit < unit := Nat.mod_lt n h
  have hsum : n / unit * unit + n % unit = n := by rw [Nat.mul_comm]; exact Nat.div_add_mod n unit
  have hnext : (n / unit + 1) * unit = n / unit * unit + unit := Nat.succ_mul _ _
  unfold divideRounding
  split
  · omega
  · split
    · rcases Nat.mod_two_eq_zero_or_one (n / unit) with hbit | hbit <;> rw [hbit]
      · rw [Nat.add_zero]
        omega
      · rw [hnext]
        omega
    · rw [hnext]
      omega

/-- Rounding moves a number of 64 bits by 1024 at most. -/
theorem rounded_near {n : Nat} (h : n < 2 ^ 64) : n ≤ rounded n + 1024 ∧ rounded n ≤ n + 1024 := by
  have hlog : n.log2 ≤ 63 := by
    rcases Nat.eq_zero_or_pos n with rfl | hn
    · exact Nat.zero_le 63
    · exact Nat.le_of_lt_succ ((Nat.log2_lt hn.ne').mpr h)
  have hunit : 1 <<< (n.log2 - 52) ≤ 2 ^ 11 := by
    rw [Nat.one_shiftLeft]
    exact Nat.pow_le_pow_right (by decide) (by omega)
  have hpos : 0 < 1 <<< (n.log2 - 52) := by
    rw [Nat.one_shiftLeft]
    exact Nat.two_pow_pos _
  have hnear := divideRounding_near n hpos
  unfold rounded
  dsimp only
  omega

/-- Nor does the sign matter to how far a number of 64 bits is moved. -/
theorem roundedInt_near {n : Int} (hlo : minInt64 ≤ n) (hhi : n ≤ maxUInt64) :
    n ≤ roundedInt n + 1024 ∧ roundedInt n ≤ n + 1024 := by
  have hlo' : -0x8000_0000_0000_0000 ≤ n := hlo
  have hhi' : n ≤ 0xFFFF_FFFF_FFFF_FFFF := hhi
  have hnear := rounded_near (n := n.natAbs) (by omega)
  unfold roundedInt
  split <;> omega

/-- Numbers of at most 53 bits stay as they are, and so does the next power of two. -/
theorem roundedInt_small {n : Int} (h : n.natAbs ≤ 2 ^ 53) : roundedInt n = n := by
  have hrounded : rounded n.natAbs = n.natAbs := by
    rcases Nat.lt_or_ge n.natAbs (2 ^ 53) with hlt | hge
    · exact rounded_small hlt
    · -- one more than fits, and even: the last bit that goes is zero
      rw [show n.natAbs = 2 ^ 53 by omega]
      decide
  unfold roundedInt
  rw [hrounded]
  split <;> omega

/-! ## Shifting to the right

  A shift drops the last bit into the round bit, and the round bit into the sticky one.  What
  the three parts say of the number together is `Cut`. -/

/-- What is known of `n` after `k` shifts: the quotient, whether the rest reaches a half, and
    whether it is something else than nothing or a half. -/
structure Cut (n k : Nat) (em : ExtendedMantissa) : Prop where
  mantissa : em.mantissa = n / 2 ^ k
  round : em.roundBit = true ↔ 2 ^ k ≤ 2 * (n % 2 ^ k)
  sticky : em.stickyBit = true ↔ n % 2 ^ k ≠ 0 ∧ 2 * (n % 2 ^ k) ≠ 2 ^ k

/-- Nothing has been cut off before the first shift. -/
theorem cut_none (n : Nat) : Cut n 0 ⟨n, false, false⟩ where
  mantissa := (Nat.div_one n).symm
  round := by simp [Nat.mod_one]
  sticky := by simp [Nat.mod_one]

/-- One shift more: the round bit becomes part of what sticks, and the last bit of the quotient
    takes its place. -/
theorem Cut.shift {n k : Nat} {em : ExtendedMantissa} (h : Cut n k em) :
    Cut n (k + 1) em.shiftRightOne := by
  have hpos : 0 < 2 ^ k := Nat.two_pow_pos k
  have hrest : n % 2 ^ k < 2 ^ k := Nat.mod_lt _ hpos
  have hmod : n % 2 ^ (k + 1) = n % 2 ^ k + 2 ^ k * (n / 2 ^ k % 2) := Nat.mod_pow_succ
  have hbit : n / 2 ^ k % 2 = 0 ∨ n / 2 ^ k % 2 = 1 := Nat.mod_two_eq_zero_or_one _
  have hpow : 2 ^ (k + 1) = 2 * 2 ^ k := by ring
  constructor
  · show em.mantissa / 2 = _
    rw [h.mantissa, Nat.div_div_eq_div_mul, ← pow_succ]
  · show (em.mantissa % 2 != 0) = true ↔ _
    rw [h.mantissa, hmod, hpow]
    -- the last bit of the quotient is what the rest gains
    rcases hbit with hbit | hbit
    · rw [hbit]
      simp only [Nat.mul_zero, Nat.add_zero, bne_self_eq_false, Bool.false_eq_true, false_iff]
      omega
    · rw [hbit]
      simp only [Nat.mul_one, bne_iff_ne, ne_eq, one_ne_zero, not_false_eq_true, true_iff]
      omega
  · show (em.roundBit || em.stickyBit) = true ↔ _
    rw [Bool.or_eq_true, h.round, h.sticky, hmod, hpow]
    -- either way it says that something was cut off before
    rcases hbit with hbit | hbit
    · rw [hbit, Nat.mul_zero, Nat.add_zero]
      omega
    · rw [hbit, Nat.mul_one]
      omega

/-- So any number of shifts is known by its length alone. -/
theorem cut_shiftRight (n k : Nat) :
    Cut n k (ExtendedMantissa.ofMantissaAndAccuracy n .exact >>> k) := by
  show Cut n k (k.repeat ExtendedMantissa.shiftRightOne ⟨n, false, false⟩)
  induction k with
  | zero => exact cut_none n
  | succ k ih => exact ih.shift

/-- **What was cut off decides how the mantissa is rounded.** -/
theorem Cut.rounded {n k : Nat} {em : ExtendedMantissa} (h : Cut n k em) :
    em.roundedMantissa = divideRounding n (2 ^ k) := by
  obtain ⟨m, halfBit, restBit⟩ := em
  obtain ⟨hm, hhalf, hrest⟩ := h
  dsimp only at hm hhalf hrest
  have hlt : n % 2 ^ k < 2 ^ k := Nat.mod_lt _ (Nat.two_pow_pos k)
  rw [divideRounding, ← hm]
  cases halfBit with
  | false =>
    have hbelow : 2 * (n % 2 ^ k) < 2 ^ k := by simpa using hhalf
    rw [if_pos hbelow]
    cases restBit <;> rfl
  | true =>
    have habove : 2 ^ k ≤ 2 * (n % 2 ^ k) := by simpa using hhalf
    rw [if_neg (by omega)]
    cases restBit with
    | false =>
      have hexact : 2 * (n % 2 ^ k) = 2 ^ k := by
        by_contra hne
        exact absurd (hrest.mpr ⟨by omega, hne⟩) Bool.false_ne_true
      rw [if_pos hexact]
      rfl
    | true =>
      rw [if_neg (hrest.mp rfl).2]
      rfl

/-! ## Rounding to 53 bits

  Rounding may carry into a bit more, and then the number is a power of two; one more shift
  drops a zero. -/

/-- A mantissa of 53 bits. -/
structure Normal (m : Nat) : Prop where
  le : 2 ^ 52 ≤ m
  lt : m < 2 ^ 53

/-- A mantissa of 53 bits is not zero. -/
theorem Normal.pos {m : Nat} (h : Normal m) : 0 < m := Nat.lt_of_lt_of_le (Nat.two_pow_pos 52) h.le

/-- It has 53 bits. -/
theorem Normal.log2 {m : Nat} (h : Normal m) : m.log2 = 52 :=
  (Nat.log2_eq_iff h.pos.ne').mpr ⟨h.le, h.lt⟩

/-- Zeros behind a number make it that much longer. -/
theorem log2_mul_two_pow {m : Nat} (hm : m ≠ 0) (k : Nat) : (m * 2 ^ k).log2 = m.log2 + k := by
  have hlo := Nat.log2_self_le hm
  have hhi : m < 2 ^ (m.log2 + 1) := Nat.lt_log2_self
  refine (Nat.log2_eq_iff (by positivity)).mpr ⟨?_, ?_⟩
  · rw [pow_add]
    exact Nat.mul_le_mul_right _ hlo
  · rw [show m.log2 + k + 1 = m.log2 + 1 + k by omega, pow_add]
    exact Nat.mul_lt_mul_of_pos_right hhi (Nat.two_pow_pos k)

/-- The exponent that leaves 53 bits, far enough from the smallest doubles. -/
theorem targetExponent_eq {m : Nat} {e : Int} (he : -1074 ≤ m.log2 + e - 52) :
    Format.binary64.targetExponent (totalExponent m e) = m.log2 + e - 52 := by
  show max ((m.log2 : Int) + 1 + e - 53) (-1074) = m.log2 + e - 52
  omega

/-- A number that is `k` bits too long is shifted by `k`. -/
theorem shiftToTargetExponent_eq {m k : Nat} {e : Int} (hlog : m.log2 = 52 + k)
    (he : -1074 ≤ e + k) :
    shiftToTargetExponent .binary64 m e .exact =
      (ExtendedMantissa.ofMantissaAndAccuracy m .exact >>> k, e + k) := by
  have htarget : Format.binary64.targetExponent (totalExponent m e) = e + k := by
    rw [targetExponent_eq (by omega)]
    omega
  have hk : (e + k - e).toNat = k := by omega
  rw [shiftToTargetExponent, htarget, shiftToExponent, hk]

/-- 53 bits are not shifted. -/
theorem Normal.shiftToTargetExponent {m : Nat} (h : Normal m) {e : Int} (he : -1074 ≤ e) :
    shiftToTargetExponent .binary64 m e .exact = (⟨m, false, false⟩, e) := by
  have hshift := shiftToTargetExponent_eq (k := 0) (e := e) h.log2 (by omega)
  rw [Int.natCast_zero, Int.add_zero] at hshift
  exact hshift

/-- What comes out of 53 bits by a carry is a power of two, and needs one shift more. -/
theorem shiftToTargetExponent_carry {e : Int} (he : -1074 ≤ e) :
    shiftToTargetExponent .binary64 (2 ^ 53) e .exact = (⟨2 ^ 52, false, false⟩, e + 1) :=
  shiftToTargetExponent_eq (k := 1) (e := e) (Nat.log2_two_pow) (by omega)

/-- **Rounding leaves 53 bits** of what is longer, and the exponent says how many went. -/
theorem roundWithAccuracy_normal (s : Sign) {m k : Nat} {e : Int} (hlog : m.log2 = 52 + k)
    (he : -1074 ≤ e + k) :
    ∃ M E h, roundWithAccuracy .binary64 s m e .exact = .finite s M E h ∧ Normal M ∧
      e + k ≤ E ∧ E ≤ e + k + 1 ∧ M * 2 ^ (E - (e + k)).toNat = divideRounding m (2 ^ k) := by
  have hm : m ≠ 0 := by
    rintro rfl
    rw [Nat.log2_zero] at hlog
    omega
  have hlo : 2 ^ 52 ≤ m / 2 ^ k := by
    rw [Nat.le_div_iff_mul_le (Nat.two_pow_pos k), ← pow_add, ← hlog]
    exact Nat.log2_self_le hm
  have hhi : m / 2 ^ k < 2 ^ 53 := by
    rw [Nat.div_lt_iff_lt_mul (Nat.two_pow_pos k), ← pow_add, show 53 + k = m.log2 + 1 by omega]
    exact Nat.lt_log2_self
  obtain ⟨hdown, hup⟩ := divideRounding_bounds m (2 ^ k)
  have hfirst := (cut_shiftRight m k).rounded
  -- from here on only the rounded quotient and its bounds count
  generalize divideRounding m (2 ^ k) = r at hdown hup hfirst
  rw [roundWithAccuracy, shiftToTargetExponent_eq hlog he]
  dsimp only
  rw [hfirst]
  -- without a carry there are 53 bits already; the second shift does nothing
  rcases Nat.lt_or_ge r (2 ^ 53) with hlt | hge
  · have hnormal : Normal r := ⟨by omega, hlt⟩
    rw [hnormal.shiftToTargetExponent he]
    refine ⟨r, e + k, hnormal.pos, dif_neg hnormal.pos.ne', hnormal, by omega, by omega, ?_⟩
    rw [Int.sub_self]
    exact Nat.mul_one r
  · obtain rfl : r = 2 ^ 53 := by omega
    have hnormal : Normal (2 ^ 52) := ⟨le_refl _, by norm_num⟩
    rw [shiftToTargetExponent_carry he]
    refine ⟨2 ^ 52, e + k + 1, hnormal.pos, dif_neg hnormal.pos.ne', hnormal, by omega, by omega,
      ?_⟩
    rw [show e + k + 1 - (e + k) = 1 by omega]
    rfl

/-! ## Packing

  A mantissa of 53 bits is stored without its leading one, and between the smallest and the
  largest exponent nothing else is lost. -/

/-- The sign comes back from the word. -/
theorem ofBitVec_unpackSign (s : Sign) (exponent : BitVec 11) (mantissa : BitVec 52) :
    Sign.ofBitVec (unpackSign (packComponents .binary64 s exponent mantissa)) = s := by
  show Sign.ofBitVec ((s.toBitVec ++ exponent ++ mantissa).extractLsb' 63 1) = s
  rw [BitVec.extractLsb'_append_eq_of_le (by decide),
    BitVec.extractLsb'_append_eq_of_le (by decide)]
  cases s <;> rfl

/-- How a mantissa of 53 bits is packed, between the smallest and the largest exponent. -/
theorem Normal.pack {m : Nat} (h : Normal m) (s : Sign) {e : Int} (hlo : -1074 ≤ e)
    (hhi : e ≤ 971) : UnpackedFloat.pack .binary64 (.finite s m e h.pos) =
      packComponents .binary64 s (BitVec.ofNat 11 (e + 1075).toNat) (BitVec.ofNat 52 m) := by
  have hbias :
      (e + Format.binary64.exponentBias + Format.binary64.mantissaBitsWithoutImplicit).toNat =
        (e + 1075).toNat := by
    show (e + (1023 : Nat) + (52 : Nat)).toNat = (e + 1075).toNat
    omega
  have hfits : ¬2 ^ Format.binary64.exponentBits ≤ (e + 1075).toNat + 1 := by
    show ¬2048 ≤ (e + 1075).toNat + 1
    omega
  rw [UnpackedFloat.pack]
  dsimp only
  rw [h.log2, hbias, if_neg hfits, if_pos (show 52 + 1 = Format.binary64.mantissaBits from rfl)]

/-- The leading bit is not stored. -/
theorem toNat_leading (fraction : BitVec 52) :
    (1#1 ++ fraction).toNat = 2 ^ 52 + fraction.toNat := by
  rw [BitVec.toNat_append, ← Nat.shiftLeft_add_eq_or_of_lt fraction.isLt]
  rfl

/-- What is unpacked from three fields, if the exponent is neither of the two that mean something
    else. -/
theorem unpack_packComponents (s : Sign) {exponent : BitVec 11} (fraction : BitVec 52)
    (hzero : exponent ≠ 0#11) (htop : exponent ≠ -1#11) :
    UnpackedFloat.unpack .binary64 (packComponents .binary64 s exponent fraction) =
      .finite s (1#1 ++ fraction).toNat (exponent.toNat - 1075)
        (by rw [toNat_leading]; omega) := by
  rw [UnpackedFloat.unpack]
  simp only [unpackMantissa_packComponents, unpackExponent_packComponents, ofBitVec_unpackSign]
  rw [if_neg htop, if_neg hzero]
  rfl

/-- A mantissa of 53 bits is packed without loss. -/
theorem Normal.unpack_pack {m : Nat} (h : Normal m) (s : Sign) {e : Int} (hlo : -1074 ≤ e)
    (hhi : e ≤ 971) :
    (Float.Model.pack (.finite s m e h.pos)).unpack = .finite s m e h.pos := by
  have hexponent : (BitVec.ofNat 11 (e + 1075).toNat).toNat = (e + 1075).toNat := by
    rw [BitVec.toNat_ofNat]
    omega
  have hzero : BitVec.ofNat 11 (e + 1075).toNat ≠ 0#11 := fun heq => by
    have htoNat := congrArg BitVec.toNat heq
    rw [hexponent, BitVec.toNat_ofNat] at htoNat
    omega
  have htop : BitVec.ofNat 11 (e + 1075).toNat ≠ -1#11 := fun heq => by
    have htoNat := congrArg BitVec.toNat heq
    rw [hexponent, show (-1#11).toNat = 2047 from rfl] at htoNat
    omega
  have hmantissa : (1#1 ++ BitVec.ofNat 52 m).toNat = m := by
    have := h.le
    have := h.lt
    rw [toNat_leading, BitVec.toNat_ofNat]
    omega
  have hexact : ((e + 1075).toNat : Int) - 1075 = e := by omega
  have hunpack := unpack_packComponents s (BitVec.ofNat 52 m) hzero htop
  rw [← h.pack s hlo hhi] at hunpack
  simp only [hmantissa, hexponent, hexact] at hunpack
  exact hunpack

/-! ## Doubles that are whole numbers

  A double is compared by its sign, its exponent and its mantissa.  That this compares numbers
  is due to the 53 bits: a number has one mantissa of that length, and one exponent that goes
  with it. -/

/-- The number `m * 2 ^ e` is `n`, and is written with 53 bits. -/
structure Stands (m : Nat) (e : Int) (n : Nat) : Prop where
  normal : Normal m
  lo : -52 ≤ e
  hi : e ≤ 971
  value : m * 2 ^ (e + 52).toNat = n * 2 ^ 52

/-- What is written with 53 bits is not zero. -/
theorem Stands.pos {m n : Nat} {e : Int} (h : Stands m e n) : 0 < n := by
  have hm : 0 < m * 2 ^ (e + 52).toNat := Nat.mul_pos h.normal.pos (Nat.two_pow_pos _)
  rw [h.value] at hm
  omega

/-- There is one way to write a number with 53 bits. -/
theorem Stands.unique {m m' n : Nat} {e e' : Int} (h : Stands m e n) (h' : Stands m' e' n) :
    e = e' ∧ m = m' := by
  have hvalue : m * 2 ^ (e + 52).toNat = m' * 2 ^ (e' + 52).toNat := h.value.trans h'.value.symm
  -- both mantissas have 53 bits, so that the lengths fix the exponents
  have hlog := congrArg Nat.log2 hvalue
  rw [log2_mul_two_pow h.normal.pos.ne', log2_mul_two_pow h'.normal.pos.ne', h.normal.log2,
    h'.normal.log2] at hlog
  have hlo := h.lo
  have hlo' := h'.lo
  have he : e = e' := by omega
  subst he
  exact ⟨rfl, Nat.eq_of_mul_eq_mul_right (Nat.two_pow_pos _) hvalue⟩

/-- The double `x` is the whole number `v`. -/
inductive Holds (x : Float) : Int → Prop
  | zero {s : Sign} : x.toModel.unpack = .zero s → Holds x 0
  | finite {s : Sign} {m n : Nat} {e : Int} (h : Stands m e n) :
      x.toModel.unpack = .finite s m e h.normal.pos → Holds x (s.apply n)

/-- A minus sign goes to the number. -/
theorem Holds.neg {x : Float} {v : Int} (h : Holds x v) : Holds (-x) (-v) := by
  have hneg : (-x).toModel = Float.Model.pack x.toModel.unpack.neg := rfl
  cases h with
  | @zero s hx =>
    rw [hx] at hneg
    refine .zero (s := -s) ?_
    rw [hneg]
    cases s <;> rfl
  | @finite s m n e h hx =>
    rw [hx] at hneg
    have hstands : Holds (-x) ((-s).apply n) := by
      refine .finite h ?_
      rw [hneg]
      exact h.normal.unpack_pack (-s) (by have := h.lo; omega) h.hi
    cases s with
    | negative => rw [Sign.apply, Int.neg_neg]; exact hstands
    | positive => exact hstands

/-- Two numbers of one sign are compared by their exponents, and then by their mantissas. -/
theorem Stands.then_eq_iff {m m' n n' : Nat} {e e' : Int} (h : Stands m e n)
    (h' : Stands m' e' n') : (compare e e').then (compare m m') = .eq ↔ n = n' := by
  rw [Ordering.then_eq_eq, Int.compare_eq_eq, Nat.compare_eq_eq]
  constructor
  · rintro ⟨rfl, rfl⟩
    exact Nat.eq_of_mul_eq_mul_right (Nat.two_pow_pos 52) (h.value.symm.trans h'.value)
  · rintro rfl
    exact h.unique h'

/-- **Doubles that are whole numbers are equal if and only if the numbers are.** -/
theorem Holds.beq_iff {x y : Float} {v w : Int} (hx : Holds x v) (hy : Holds y w) :
    (x == y) = true ↔ v = w := by
  have hbeq : (x == y) = (x.toModel.unpack.compare y.toModel.unpack == some .eq) := rfl
  rw [hbeq, beq_iff_eq]
  cases hx with
  | zero hx =>
    rw [hx]
    cases hy with
    | zero hy => rw [hy]; exact iff_of_true rfl rfl
    | @finite s m n e h hy =>
      have hn := h.pos
      rw [hy]
      cases s <;> rw [UnpackedFloat.compare, Sign.apply] <;>
        simp only [Option.some.injEq, reduceCtorEq, false_iff] <;> omega
  | @finite s m n e h hx =>
    have hn := h.pos
    rw [hx]
    cases hy with
    | zero hy =>
      rw [hy]
      cases s <;> rw [UnpackedFloat.compare, Sign.apply] <;>
        simp only [Option.some.injEq, reduceCtorEq, false_iff] <;> omega
    | @finite s' m' n' e' h' hy =>
      have hn' := h'.pos
      have hsame := h.then_eq_iff h'
      rw [hy]
      cases s with
      | negative =>
        cases s' with
        | negative =>
          rw [UnpackedFloat.compare, Option.some.injEq, Ordering.swap_eq_eq, hsame, Sign.apply,
            Sign.apply]
          omega
        | positive =>
          rw [UnpackedFloat.compare, Sign.apply, Sign.apply]
          simp only [Option.some.injEq, reduceCtorEq, false_iff]
          omega
      | positive =>
        cases s' with
        | negative =>
          rw [UnpackedFloat.compare, Sign.apply, Sign.apply]
          simp only [Option.some.injEq, reduceCtorEq, false_iff]
          omega
        | positive =>
          rw [UnpackedFloat.compare, Option.some.injEq, hsame, Sign.apply, Sign.apply]
          omega

/-! ## The double of a whole number

  Short numbers are shifted to the left until they have 53 bits, long ones go through the
  rounding of literals. -/

/-- A number that is long enough to be rounded is rounded to what its first 53 bits write. -/
theorem round_stands (s : Sign) {m k n : Nat} {e : Int} (hlog : m.log2 = 52 + k)
    (hlo : -52 ≤ e + k) (hhi : e + k ≤ 970)
    (hvalue : divideRounding m (2 ^ k) * 2 ^ (e + k + 52).toNat = n * 2 ^ 52) :
    ∃ M E, E ≤ e + k + 1 ∧ ∃ h : Stands M E n,
      roundWithAccuracy .binary64 s m e .exact = .finite s M E h.normal.pos := by
  obtain ⟨M, E, hM, hround, hnormal, hdown, hup, hexact⟩ :=
    roundWithAccuracy_normal s (e := e) hlog (by omega)
  refine ⟨M, E, hup, ⟨hnormal, by omega, by omega, ?_⟩, hround⟩
  rw [← hvalue, ← hexact, mul_assoc, ← pow_add]
  congr 2
  omega

/-- The double of a whole number of at most 53 bits. -/
theorem toFloat_stands {n : Nat} (hpos : 0 < n) (hlt : n < 2 ^ 53) :
    ∃ M E, E ≤ 1 ∧ ∃ h : Stands M E n,
      n.toUInt64.toFloat.toModel.unpack = .finite .positive M E h.normal.pos := by
  have hlog : n.log2 < 53 := (Nat.log2_lt hpos.ne').mpr hlt
  have htarget := targetExponent_eq (m := n) (e := 0) (by omega)
  -- the number is written with zeros behind it, so that it is 53 bits long
  have hlog' : (n * 2 ^ (52 - n.log2)).log2 = 52 + 0 := by
    rw [log2_mul_two_pow hpos.ne']
    omega
  obtain ⟨M, E, hE, h, hround⟩ := round_stands .positive (e := n.log2 - 52) (n := n) hlog'
    (by omega) (by omega) (by
      rw [pow_zero, divideRounding_one, mul_assoc, ← pow_add]
      congr 2
      omega)
  refine ⟨M, E, by omega, h, ?_⟩
  have hword : n.toUInt64.toNat = n := by
    rw [Nat.toUInt64, UInt64.toNat_ofNat']
    omega
  have hunpacked :
      UnpackedFloat.ofUInt64 .binary64 n.toUInt64 = .finite .positive M E h.normal.pos := by
    have hcompare : compare (n : Int) 0 = .gt := Int.compare_eq_gt.mpr (by omega)
    have hshift : (0 - ((n.log2 : Int) + 0 - 52)).toNat = 52 - n.log2 := by omega
    have hexponent : (0 : Int) - ((52 - n.log2 : Nat) : Int) = n.log2 - 52 := by omega
    rw [UnpackedFloat.ofUInt64, hword, UnpackedFloat.ofNat, UnpackedFloat.ofInt,
      UnpackedFloat.normalize, hcompare]
    dsimp only
    rw [Int.toNat_natCast, UnpackedFloat.round, htarget, decreaseExponent]
    dsimp only
    rw [hshift, hexponent, Nat.shiftLeft_eq]
    exact hround
  have hmodel : n.toUInt64.toFloat.toModel =
      Float.Model.pack (UnpackedFloat.ofUInt64 .binary64 n.toUInt64) := rfl
  rw [hmodel, hunpacked]
  exact h.normal.unpack_pack .positive (by have := h.lo; omega) h.hi

/-- A number of at most 53 bits is a double as it is. -/
theorem ofNat_small_stands {n : Nat} (hpos : 0 < n) (hlt : n < 2 ^ 53) :
    ∃ M E, ∃ h : Stands M E n,
      (Float.ofNat n).toModel.unpack = .finite .positive M E h.normal.pos := by
  obtain ⟨m, e, he, hm, hunpack⟩ := toFloat_stands hpos hlt
  -- the literal is multiplied with the power of ten that it stands for, and that is one
  have hmodel : (Float.ofNat n).toModel =
      (n.toUInt64.toFloat * Float.ofBits 0x3FF0000000000000).toModel := by
    show (Float.ofScientific n false 0).toModel = _
    rw [Float.ofScientific, dif_pos ⟨hlt, Nat.zero_le 22⟩]
    rfl
  have hone : (Float.ofBits 0x3FF0000000000000).toModel.unpack =
      .finite .positive (2 ^ 52) (-52) (by decide) := rfl
  have hlog : (m * 2 ^ 52).log2 = 52 + 52 := by
    rw [log2_mul_two_pow hm.normal.pos.ne', hm.normal.log2]
  have hlo := hm.lo
  have hmul : UnpackedFloat.mul .binary64 (.finite .positive m e hm.normal.pos)
      (.finite .positive (2 ^ 52) (-52) (by decide)) =
      roundWithAccuracy .binary64 .positive (m * 2 ^ 52) (e - 52) .exact := rfl
  obtain ⟨M, E, -, h, hround⟩ := round_stands .positive (e := e - 52) (n := n) hlog (by omega)
    (by omega) (by
      have hone : divideRounding (m * 2 ^ 52) (1 * 2 ^ 52) = m := by
        rw [divideRounding_mul _ _ (Nat.two_pow_pos 52), divideRounding_one]
      rw [Nat.one_mul] at hone
      rw [hone, ← hm.value]
      congr 2
      omega)
  refine ⟨M, E, h, ?_⟩
  rw [hmodel]
  show (Float.Model.pack (UnpackedFloat.mul .binary64 n.toUInt64.toFloat.toModel.unpack
    (Float.ofBits 0x3FF0000000000000).toModel.unpack)).unpack = _
  rw [hunpack, hone, hmul, hround]
  exact h.normal.unpack_pack .positive (by have := h.lo; omega) h.hi

/-- A number of more than 53 bits goes through the rounding of literals as it is. -/
theorem ofNat_large_model {n : Nat} (hge : 2 ^ 53 ≤ n) :
    (Float.ofNat n).toModel = Float.Model.pack
      (roundWithAccuracy .binary64 .positive (n * 2 ^ 53) (-53) .exact) := by
  have hn : n ≠ 0 := by omega
  show (Float.ofScientific n false 0).toModel = _
  rw [Float.ofScientific, dif_neg (by omega)]
  show Float.Model.pack (UnpackedFloat.ofScientific .binary64 n 0) = _
  rw [UnpackedFloat.ofScientific, dif_neg hn, if_neg (by decide),
    if_neg (by show ¬(0 : Int) < -((2048 : Int) + n.log2); omega), if_pos (by decide)]
  show Float.Model.pack (roundWithAccuracy .binary64 .positive (n <<< 53 * 1) (-53) .exact) = _
  rw [Nat.shiftLeft_eq, Nat.mul_one]

/-- A number of more than 53 bits is rounded. -/
theorem ofNat_large_stands {n : Nat} (hge : 2 ^ 53 ≤ n) (hlt : n < 2 ^ 64) :
    ∃ M E, ∃ h : Stands M E (rounded n),
      (Float.ofNat n).toModel.unpack = .finite .positive M E h.normal.pos := by
  have hn : n ≠ 0 := by omega
  have hlog : n.log2 < 64 := (Nat.log2_lt hn).mpr hlt
  have hlog' : 53 ≤ n.log2 := (Nat.le_log2 hn).mpr hge
  have hlogMul : (n * 2 ^ 53).log2 = 52 + (n.log2 + 1) := by
    rw [log2_mul_two_pow hn]
    omega
  have hdivide : divideRounding (n * 2 ^ 53) (2 ^ (n.log2 + 1)) =
      divideRounding n (2 ^ (n.log2 - 52)) := by
    rw [show n.log2 + 1 = n.log2 - 52 + 53 by omega, pow_add]
    exact divideRounding_mul n _ (Nat.two_pow_pos 53)
  obtain ⟨M, E, -, h, hround⟩ := round_stands .positive (e := -53) (n := rounded n) hlogMul
    (by omega) (by omega) (by
      rw [hdivide, rounded, Nat.one_shiftLeft, mul_assoc, ← pow_add]
      congr 2
      omega)
  refine ⟨M, E, h, ?_⟩
  rw [ofNat_large_model hge, hround]
  exact h.normal.unpack_pack .positive (by have := h.lo; omega) h.hi

/-- A natural number of 64 bits is rounded, if it needs to be. -/
theorem holds_ofNat {n : Nat} (hlt : n < 2 ^ 64) : Holds (Float.ofNat n) (rounded n) := by
  rcases Nat.eq_zero_or_pos n with rfl | hpos
  · rw [rounded_small (by decide)]
    exact .zero (s := .positive) rfl
  · -- literals are read in one way up to 53 bits, and in another beyond
    rcases Nat.lt_or_ge n (2 ^ 53) with hsmall | hlarge
    · obtain ⟨M, E, h, hunpack⟩ := ofNat_small_stands hpos hsmall
      rw [rounded_small hsmall]
      exact .finite h hunpack
    · obtain ⟨M, E, h, hunpack⟩ := ofNat_large_stands hlarge hlt
      exact .finite h hunpack

/-- **The double of a whole number is that number rounded to 53 bits.** -/
theorem holds_ofInt {n : Int} (hlo : minInt64 ≤ n) (hhi : n ≤ maxUInt64) :
    Holds (ofInt n) (roundedInt n) := by
  have hlo' : -0x8000_0000_0000_0000 ≤ n := hlo
  have hhi' : n ≤ 0xFFFF_FFFF_FFFF_FFFF := hhi
  cases n with
  | ofNat n =>
    have hcast : Int.ofNat n = (n : Int) := rfl
    have hnonneg : ¬(Int.ofNat n < 0) := by omega
    rw [ofInt, roundedInt, if_neg hnonneg]
    exact holds_ofNat (by omega)
  | negSucc n =>
    rw [ofInt, roundedInt, if_pos (Int.negSucc_lt_zero n)]
    exact (holds_ofNat (by omega)).neg

/-- **When two whole numbers have the same double**: when they are the same after rounding. -/
theorem ofInt_beq_iff {a b : Int} (ha : minInt64 ≤ a) (ha' : a ≤ maxUInt64) (hb : minInt64 ≤ b)
    (hb' : b ≤ maxUInt64) : (ofInt a == ofInt b) = true ↔ roundedInt a = roundedInt b :=
  (holds_ofInt ha ha').beq_iff (holds_ofInt hb hb')

end ExerciseGrading.Number
