/-
  SHORTEST decimal digits that read back as a double.

  A double stands for all reals that round to it.  `shortest` goes through the decimal grids
  `10 ^ p`, coarse ones first, and takes the first grid with a point that rounds to the double;
  of two such points it takes the nearer one, and `TieRule` decides when both are equally near.
  The ends of the interval round to the double exactly when its mantissa is even.
-/
import ExerciseGrading.Number.Binary64

namespace ExerciseGrading.Number

/-- Which of two equally near decimals is taken. -/
inductive TieRule where
  | up
  | toEven
deriving Repr, DecidableEq

/-- Four times the lower end, the value and the upper end of the reals that round to
    `mantissa * 2 ^ exponent`, in units of the mantissa. -/
def roundingInterval (mantissa : Nat) (exponent : Int) : Nat × Nat × Nat :=
  let below := if mantissa = leadingBit ∧ exponent > -1074 then 1 else 2
  (4 * mantissa - below, 4 * mantissa, 4 * mantissa + 2)

/-- The better of the two grid points around the value on the grid `10 ^ p`, if one of them
    rounds to the double. -/
def onGrid? (tie : TieRule) (mantissa : Nat) (exponent p : Int) : Option Nat :=
  let (lo, mid, hi) := roundingInterval mantissa exponent
  let scale := Nat.pow 10 (-p).toNat <<< exponent.toNat
  let unit := 4 * (Nat.pow 10 p.toNat <<< (-exponent).toNat)
  let inside (c : Nat) : Bool :=
    let x := c * unit
    if mantissa % 2 = 0 then lo * scale ≤ x && x ≤ hi * scale
    else lo * scale < x && x < hi * scale
  let below := mid * scale / unit
  let above := below + 1
  let toBelow := mid * scale - below * unit
  let toAbove := above * unit - mid * scale
  match inside below && below ≠ 0, inside above with
  | true, true =>
    if toBelow < toAbove then some below
    else if toAbove < toBelow then some above
    else match tie with
      | .up => some above
      | .toEven => some (if below % 2 = 0 then below else above)
  | true, false => some below
  | false, true => some above
  | false, false => none

/-- The first grid with a hit, from `10 ^ p` down, over at most `steps` grids. -/
def searchGrids (tie : TieRule) (mantissa : Nat) (exponent : Int) : Nat → Int → Nat × Int
  | 0, p => (0, p)
  | steps + 1, p =>
    match onGrid? tie mantissa exponent p with
    | some c => (c, p)
    | none => searchGrids tie mantissa exponent steps (p - 1)

/-- Digits and decimal exponent of the shortest decimal for `mantissa * 2 ^ exponent`, without
    zeros at the end of the digits. -/
def shortest (tie : TieRule) (mantissa : Nat) (exponent : Int) : Nat × Int :=
  let size := (Nat.log2 mantissa : Int) + exponent + 1
  searchGrids tie mantissa exponent 25 (size * 30103 / 100000 + 2)

example : shortest .up leadingBit (-52) = (1, 0) := by decide +kernel
example : shortest .up 1 (-1074) = (5, -324) := by decide +kernel

end ExerciseGrading.Number
