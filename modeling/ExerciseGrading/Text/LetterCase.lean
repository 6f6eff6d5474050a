/-
  LETTER CASE of whole texts, and the letters that differ only in case.

  1. `lower`, `upper` map one character to its lower or upper case, which may be several.
  2. `toLower`, `toUpper` map a text.  The one rule that looks around: a capital sigma that ends
     a word becomes the final sigma.
  3. `caseVariants` are the other letters with the same simple case folding.
-/
import ExerciseGrading.Text.Ranges
import ExerciseGrading.Text.LetterCase.Data
import ExerciseGrading.Text.Property.Binary

namespace ExerciseGrading.Text

/-- Code points `start`, `start + step`, ..., each mapped to itself plus `shift`. -/
structure CaseRun where
  start : Nat
  count : Nat
  step : Nat
  shift : Int
deriving Repr, Inhabited

namespace CaseRun

/-- The whole numbers of a text, separated by blanks. -/
def integers (s : List Char) : List Int :=
  let finish (st : List Int × Bool × Nat) : List Int :=
    (if st.2.1 then -(st.2.2 : Int) else st.2.2) :: st.1
  let last := s.foldl (fun (st : List Int × Bool × Nat) c =>
    if c = ' ' then (finish st, false, 0)
    else if c = '-' then (st.1, true, 0)
    else (st.1, st.2.1, st.2.2 * 10 + (c.toNat - 48))) ([], false, 0)
  (finish last).reverse

def group : List Int → List CaseRun
  | a :: n :: s :: d :: rest => ⟨a.toNat, n.toNat, s.toNat, d⟩ :: group rest
  | _ => []

def unpack (lines : List String) : List CaseRun := group (lines.flatMap fun s => integers s.toList)

/-- Where a run sends a code point, if the run has it. -/
def image? (r : CaseRun) (n : Nat) : Option Nat :=
  if r.start ≤ n ∧ n < r.start + r.count * r.step ∧ (n - r.start) % r.step = 0 then
    some ((n : Int) + r.shift).toNat
  else none

/-- All pairs of a run. -/
def pairs (r : CaseRun) : List (Nat × Nat) :=
  (List.range r.count).map fun i =>
    let n := r.start + i * r.step
    (n, ((n : Int) + r.shift).toNat)

end CaseRun

namespace LetterCase

def lowerTable : List CaseRun := CaseRun.unpack lowerRuns
def upperTable : List CaseRun := CaseRun.unpack upperRuns
def foldTable : List CaseRun := CaseRun.unpack foldRuns

/-- The mapped characters of `c`: from the table of several, else from the runs, else itself. -/
def mapChar (many : List (Nat × List Nat)) (runs : List CaseRun) (c : Char) : List Char :=
  match many.lookup c.toNat with
  | some ns => ns.map Char.ofNat
  | none =>
    match runs.findSome? (·.image? c.toNat) with
    | some n => [Char.ofNat n]
    | none => [c]

def lower (c : Char) : List Char :=
  if c.toNat < 128 then [c.toLower] else mapChar lowerMany lowerTable c

def upper (c : Char) : List Char :=
  if c.toNat < 128 then [c.toUpper] else mapChar upperMany upperTable c

/-- The members of a yes-or-no property, by name. -/
def propertyIndex (name : String) : RangeIndex :=
  match Property.binaries.find? fun e => (e.1.splitOn " ").contains name with
  | some e => RangeIndex.ofRanges (Ranges.unpack e.2)
  | none => ⟨#[]⟩

/-- Letters that have case. -/
def cased : RangeIndex := propertyIndex "cased"

/-- Characters that case rules look through, such as accents and apostrophes. -/
def caseIgnorable : RangeIndex := propertyIndex "caseignorable"

/-- Whether the nearest character that is not looked through has case. -/
def nearestCased (s : List Char) : Bool :=
  match s.dropWhile caseIgnorable.hasChar with
  | c :: _ => cased.hasChar c
  | [] => false

/-- Lower case of a text, given the characters before it, nearest first. -/
def lowerFrom (before : List Char) : List Char → List Char
  | [] => []
  | c :: rest =>
    let here :=
      if c.toNat = 0x3A3 then
        [if nearestCased before && !nearestCased rest then Char.ofNat 0x3C2 else Char.ofNat 0x3C3]
      else lower c
    here ++ lowerFrom (c :: before) rest

def toLower (s : String) : String := String.ofList (lowerFrom [] s.toList)

def toUpper (s : String) : String := String.ofList (s.toList.flatMap upper)

/-- Lower case of the letters A to Z alone. -/
def toLowerAscii (s : String) : String := String.ofList (s.toList.map Char.toLower)

/-- The common form of letters that differ only in case. -/
def fold (n : Nat) : Nat := (foldTable.findSome? (·.image? n)).getD n

/-- All code points with a folding of their own, with that folding. -/
def foldPairs : List (Nat × Nat) := foldTable.flatMap CaseRun.pairs

/-- A set together with all letters that differ from a member only in case. -/
def closeUnderCase (r : Ranges) : Ranges :=
  let index := RangeIndex.ofRanges r
  let forms := foldPairs.filterMap fun p =>
    if index.contains p.1 || index.contains p.2 then some p.2 else none
  let extra := foldPairs.filterMap fun p => if forms.contains p.2 then some (p.1, p.1) else none
  Ranges.normalize (r ++ forms.map (fun n => (n, n)) ++ extra)

end LetterCase

end ExerciseGrading.Text
