/-
  NOTATIONS of doubles: how the shortest digits are laid out.

  1. `positional`  — never an exponent: `0.000001`, and a 1 with 300 zeros for `1e300`.
  2. `compact`     — always a point or an exponent: `1.0`, `0.00001`, `1e-6`, `1e16`; the
                     positional form is used while the point stands within sixteen digits.
  3. `snippetText` — the string form of a number in a snippet: whole numbers below `1e15` without
                     a point, so that minus zero is `0`, and everything else positional.
-/
import ExerciseGrading.Number.Shortest

namespace ExerciseGrading.Number

def zeros (n : Nat) : List Char := List.replicate n '0'

def minus (negative : Bool) : List Char := if negative then ['-'] else []

/-- Decimal digits of a whole number. -/
def digits (n : Nat) : List Char := Nat.toDigits 10 n

/-- `n` in decimal, with a minus sign if it is negative. -/
def intText (n : Int) : String :=
  match n with
  | .ofNat n => String.ofList (digits n)
  | .negSucc n => String.ofList ('-' :: digits (n + 1))

/-- Lays digits out around the point that stands after `place` of them; `whole` is written after
    a number without a fraction. -/
def layOut (whole : List Char) (ds : List Char) (place : Int) : List Char :=
  if place ≤ 0 then ['0', '.'] ++ zeros (-place).toNat ++ ds
  else if (ds.length : Int) ≤ place then ds ++ zeros (place - ds.length).toNat ++ whole
  else ds.take place.toNat ++ '.' :: ds.drop place.toNat

/-- Positional notation of a finite double, without a point if it is whole. -/
def positional (negative : Bool) (mantissa : Nat) (exponent : Int) : List Char :=
  if mantissa = 0 then minus negative ++ ['0']
  else
    let (d, p) := shortest .up mantissa exponent
    let ds := digits d
    minus negative ++ layOut [] ds (ds.length + p)

/-- How an exponent is written after its `e`. -/
inductive ExponentStyle where
  /-- As a whole number. -/
  | short
  /-- With a sign, and two digits at least. -/
  | signed
deriving Repr, DecidableEq

def exponentText (style : ExponentStyle) (e : Int) : List Char :=
  match style with
  | .short => (intText e).toList
  | .signed =>
    let ds := digits e.natAbs
    (if e < 0 then '-' else '+') :: (if ds.length < 2 then '0' :: ds else ds)

/-- Compact notation of a finite double. -/
def compactFinite (style : ExponentStyle) (negative : Bool) (mantissa : Nat) (exponent : Int) :
    List Char :=
  if mantissa = 0 then minus negative ++ ['0', '.', '0']
  else
    let (d, p) := shortest .toEven mantissa exponent
    let ds := digits d
    let place := (ds.length : Int) + p
    minus negative ++
      if -5 < place ∧ place ≤ 16 then layOut ['.', '0'] ds place
      else
        let fraction := if ds.length = 1 then [] else '.' :: ds.drop 1
        ds.take 1 ++ fraction ++ 'e' :: exponentText style (place - 1)

/-- Compact notation; infinities and not-a-number have the given texts. -/
def compact (style : ExponentStyle) (nan infinity : String) (x : Float) : String :=
  match decompose x with
  | .nan => nan
  | .infinite negative => String.ofList (minus negative ++ infinity.toList)
  | .finite negative m e => String.ofList (compactFinite style negative m e)

/-- The string form of a number in a snippet. -/
def snippetText (x : Float) : String :=
  match decompose x with
  | .nan => "NaN"
  | .infinite negative => if negative then "-Infinity" else "Infinity"
  | .finite negative m e =>
    if isWhole x && x.abs < 1e15 then intText ((toInt? x).getD 0)
    else String.ofList (positional negative m e)

end ExerciseGrading.Number
