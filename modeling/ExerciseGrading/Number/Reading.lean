/-
  READING numbers from text.

  1. `float?` reads a double: a sign, digits with or without a point, an exponent; or the words
     `inf`, `infinity`, `nan` in any case.
  2. `natural?`, `integer?` read whole numbers in a base, with an optional sign.
-/
import ExerciseGrading.Number.Binary64

namespace ExerciseGrading.Number

def isDigit (c : Char) : Bool := '0' ≤ c && c ≤ '9'

/-- The value of a digit in a base up to 36. -/
def digitValue? (base : Nat) (c : Char) : Option Nat :=
  let v := if isDigit c then c.toNat - 48
    else if 'a' ≤ c ∧ c ≤ 'z' then c.toNat - 87
    else if 'A' ≤ c ∧ c ≤ 'Z' then c.toNat - 55
    else base
  if v < base then some v else none

/-- The number that digits of a base write, one digit at least. -/
def natural? (base : Nat) (s : List Char) : Option Nat :=
  if s = [] then none
  else s.foldlM (fun acc c => (digitValue? base c).map (acc * base + ·)) 0

/-- The sign in front of a number, and what follows it. -/
def splitSign : List Char → Bool × List Char
  | '-' :: s => (true, s)
  | '+' :: s => (false, s)
  | s => (false, s)

/-- A whole number in decimal with an optional sign. -/
def integer? (s : List Char) : Option Int :=
  let (negative, s) := splitSign s
  (natural? 10 s).map fun n => if negative then -(n : Int) else n

/-- A whole number in decimal that may have a plus sign, as an index is written. -/
def index? (s : List Char) : Option Nat :=
  let n? := natural? 10 (match s with | '+' :: s => s | s => s)
  n?.bind fun n => if n ≤ maxUInt64 then some n else none

/-! What a sign in front does to a whole number and to an index. -/

theorem natural?_minus (base : Nat) (s : List Char) : natural? base ('-' :: s) = none := by
  have hdigit : digitValue? base '-' = none := by simp [digitValue?, isDigit]
  simp [natural?, hdigit]

theorem integer?_minus (s : List Char) :
    integer? ('-' :: s) = (natural? 10 s).map fun n => -(n : Int) := by
  cases h : natural? 10 s <;> simp [integer?, splitSign, h]

theorem integer?_plus (s : List Char) : integer? ('+' :: s) = (natural? 10 s).map Int.ofNat := by
  cases h : natural? 10 s <;> simp [integer?, splitSign, h]

theorem integer?_unsigned {s : List Char} (hminus : ∀ r, s ≠ '-' :: r) (hplus : ∀ r, s ≠ '+' :: r) :
    integer? s = (natural? 10 s).map Int.ofNat := by
  have hsign : splitSign s = (false, s) := by
    unfold splitSign
    split
    · exact absurd rfl (hminus _)
    · exact absurd rfl (hplus _)
    · rfl
  cases h : natural? 10 s <;> simp [integer?, hsign, h]

theorem index?_minus (s : List Char) : index? ('-' :: s) = none := by
  simp [index?, natural?_minus]

theorem index?_plus (s : List Char) :
    index? ('+' :: s) = (natural? 10 s).bind fun n => if n ≤ maxUInt64 then some n else none := rfl

theorem index?_unsigned {s : List Char} (hplus : ∀ r, s ≠ '+' :: r) :
    index? s = (natural? 10 s).bind fun n => if n ≤ maxUInt64 then some n else none := by
  unfold index?
  split
  · exact absurd rfl (hplus _)
  · rfl

/-- The exponent part of a decimal: nothing, or `e` and a whole number. -/
def exponent? : List Char → Option Int
  | [] => some 0
  | c :: s => if c = 'e' ∨ c = 'E' then integer? s else none

/-- Digits and decimal exponent of an unsigned decimal. -/
def decimal? (s : List Char) : Option (Nat × Int) :=
  let whole := s.takeWhile isDigit
  let rest := s.dropWhile isDigit
  let (fraction, rest) := match rest with
    | '.' :: r => (r.takeWhile isDigit, r.dropWhile isDigit)
    | r => ([], r)
  match natural? 10 (whole ++ fraction), exponent? rest with
  | some n, some e => some (n, e - fraction.length)
  | _, _ => none

/-- A double as text gives it. -/
def float? (s : List Char) : Option Float :=
  let (negative, s) := splitSign s
  let word := s.map Char.toLower
  if word = "inf".toList ∨ word = "infinity".toList then some (withSign negative (1.0 / 0.0))
  else if word = "nan".toList then some (0.0 / 0.0)
  else (decimal? s).map fun (n, e) => ofDecimal negative n e

end ExerciseGrading.Number
