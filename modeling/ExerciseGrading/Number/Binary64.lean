/-
  BINARY64: what a double is, in exact integers.

  1. `decompose` reads the bits: not a number, infinite, or `± mantissa * 2 ^ exponent`.
  2. `floor`, `ceil`, `truncate` cut the fraction off; the sign of zero stays.
  3. `remainder` is the exact remainder with the sign of the dividend.
  4. `toInt64`, `toIndex` are the whole number nearest to zero, kept inside their range.
  5. `ofDecimal` is the double nearest to `digits * 10 ^ exponent`.

  Everything is computed on natural numbers, so that a proof can follow it.
-/
import ExerciseGrading.Number.Word

namespace ExerciseGrading.Number

/-- The three kinds of double. -/
inductive Binary64 where
  | nan
  | infinite (negative : Bool)
  | finite (negative : Bool) (mantissa : Nat) (exponent : Int)
deriving Repr, DecidableEq

/-- The bit in front of the 52 bits of a fraction; only the smallest doubles go without. -/
def leadingBit : Nat := 1 <<< 52

/-- Reads the bits of a double. -/
def decompose (x : Float) : Binary64 :=
  let bits := x.toBits.toNat
  let negative := bits >>> 63 == 1
  let exponent : Nat := (bits >>> 52) % 2048
  let fraction := bits % leadingBit
  if exponent = 2047 then if fraction = 0 then .infinite negative else .nan
  else if exponent = 0 then .finite negative fraction (-1074)
  else .finite negative (fraction + leadingBit) ((exponent : Int) - 1075)

/-- `x` or `-x`. -/
def withSign (negative : Bool) (x : Float) : Float := if negative then -x else x

/-- The double `± mantissa * 2 ^ exponent`, for a value that is a double. -/
def compose (negative : Bool) (mantissa : Nat) (exponent : Int) : Float :=
  if mantissa = 0 then withSign negative 0.0
  else
    let top := (Nat.log2 mantissa : Int)
    let e := max (exponent + top - 52) (-1074)
    let m := if exponent ≥ e then mantissa <<< (exponent - e).toNat
             else mantissa >>> (e - exponent).toNat
    let bits := if m < leadingBit then m else (e + 1075).toNat * leadingBit + (m - leadingBit)
    withSign negative (Float.ofBits bits.toUInt64)

/-- Whole part and remainder of `mantissa * 2 ^ exponent` for a negative exponent. -/
def splitFraction (mantissa : Nat) (exponent : Int) : Nat × Nat :=
  let unit := 1 <<< (-exponent).toNat
  (mantissa / unit, mantissa % unit)

/-- Drops the fraction; `away` says whether the whole part then grows by one. -/
def cutFraction (away : Bool → Bool) (x : Float) : Float :=
  match decompose x with
  | .finite negative m e =>
    if e ≥ 0 then x
    else
      let (q, r) := splitFraction m e
      withSign negative (Float.ofNat (if r ≠ 0 && away negative then q + 1 else q))
  | _ => x

/-- The greatest whole number that is not above. -/
def floor : Float → Float := cutFraction fun negative => negative

/-- The least whole number that is not below. -/
def ceil : Float → Float := cutFraction fun negative => !negative

/-- The whole number next to it on the side of zero. -/
def truncate : Float → Float := cutFraction fun _ => false

/-- Whether a double is a whole number. -/
def isWhole (x : Float) : Bool :=
  match decompose x with
  | .finite _ m e => e ≥ 0 || (splitFraction m e).2 == 0
  | _ => false

/-- The whole part of a finite double. -/
def toInt? (x : Float) : Option Int :=
  match decompose x with
  | .finite negative m e =>
    let q : Nat := if e ≥ 0 then m <<< e.toNat else (splitFraction m e).1
    some (if negative then -(q : Int) else q)
  | _ => none

/-- The whole part as a signed word; not a number counts as zero, what is outside goes to the
    nearer end. -/
def toInt64 (x : Float) : Int :=
  match decompose x with
  | .nan => 0
  | .infinite negative => if negative then minInt64 else maxInt64
  | .finite .. => clamp minInt64 maxInt64 ((toInt? x).getD 0)

/-- The whole part as a place in a list; below zero counts as zero. -/
def toIndex (x : Float) : Nat :=
  match decompose x with
  | .nan => 0
  | .infinite negative => if negative then 0 else maxUInt64
  | .finite .. => (clamp 0 maxUInt64 ((toInt? x).getD 0)).toNat

/-- The remainder of a division whose quotient is cut towards zero. -/
def remainder (x y : Float) : Float :=
  match decompose x, decompose y with
  | .finite negative mx ex, .finite _ my ey =>
    if my = 0 then 0.0 / 0.0
    else
      let e := min ex ey
      let a := mx <<< (ex - e).toNat
      let b := my <<< (ey - e).toNat
      compose negative (a % b) e
  | .finite .., .infinite _ => x
  | _, _ => 0.0 / 0.0

/-- The nearest double to a whole number. -/
def ofInt (n : Int) : Float :=
  match n with
  | .ofNat n => Float.ofNat n
  | .negSucc n => -Float.ofNat (n + 1)

/-- The number of decimal digits; none for zero. -/
def decimalLength (n : Nat) : Nat := if n = 0 then 0 else (Nat.toDigits 10 n).length

/-- The double nearest to `± digits * 10 ^ exponent`.  What lies far outside the range of doubles
    is decided without computing the power. -/
def ofDecimal (negative : Bool) (digits : Nat) (exponent : Int) : Float :=
  let top := (decimalLength digits : Int) + exponent
  withSign negative <|
    if digits = 0 then 0.0
    else if top > 400 then 1.0 / 0.0
    else if top < -400 then 0.0
    else if exponent ≥ 0 then Float.ofScientific digits false exponent.toNat
    else Float.ofScientific digits true (-exponent).toNat

/-- The order of two doubles; none if one is not a number. -/
def order (x y : Float) : Option Ordering :=
  if x < y then some .lt else if x == y then some .eq else if y < x then some .gt else none

example : decompose 1.0 = .finite false leadingBit (-52) := by decide +kernel
example : compose true 5 (-1) = -2.5 := by decide +kernel
example : floor (-2.5) = -3.0 ∧ ceil (-0.5) = -0.0 ∧ truncate 7.9 = 7.0 := by decide +kernel
example : remainder (-7.5) 2.0 = -1.5 := by decide +kernel

end ExerciseGrading.Number
