/-
  PLACES in a list or text: slicing, and searching from a place on.

  1. `slice`         — from one place to another; a place below zero counts from the end.
  2. `fromPlace`     — what stands from a place on; below zero is the start.
  3. `includesFrom`, `startsFrom`, `endsWith`, `indexOf` — where a text occurs.
  4. `splitBy`       — the parts between separators; the characters if the separator is empty.

  `sliceBounds_le` says that a slice never leaves the list.
-/
import ExerciseGrading.Text.Search

namespace ExerciseGrading.Text

/-- A place that counts from the end if it is below zero, kept inside `length`. -/
def placeIn (length : Nat) (i : Int) : Nat :=
  if i < 0 then length - i.natAbs else min i.toNat length

/-- Start and end of a slice. -/
def sliceBounds (length : Nat) (first last : Option Int) : Nat × Nat :=
  let start := match first with
    | some i => placeIn length i
    | none => 0
  let stop := match last with
    | some i => placeIn length i
    | none => length
  (start, max stop start)

theorem placeIn_le (length : Nat) (i : Int) : placeIn length i ≤ length := by
  simp only [placeIn]
  split <;> omega

theorem sliceBounds_le (length : Nat) (first last : Option Int) :
    (sliceBounds length first last).1 ≤ (sliceBounds length first last).2 ∧
    (sliceBounds length first last).2 ≤ length := by
  refine ⟨Nat.le_max_right .., Nat.max_le.2 ⟨?_, ?_⟩⟩
  · cases last with
    | some j => exact placeIn_le length j
    | none => exact Nat.le_refl length
  · cases first with
    | some i => exact placeIn_le length i
    | none => exact Nat.zero_le length

/-- The items from one place to before another. -/
def slice {α : Type} (items : List α) (first last : Option Int) : List α :=
  let (start, stop) := sliceBounds items.length first last
  (items.drop start).take (stop - start)

/-- What stands from a place on. -/
def fromPlace (s : List Char) (place : Option Int) : List Char :=
  s.drop (max (place.getD 0) 0).toNat

/-- Whether `p` occurs from a place on. -/
def includesFrom (s p : List Char) (place : Option Int) : Bool := occurs p (fromPlace s place)

/-- Whether `p` stands at a place. -/
def startsFrom (s p : List Char) (place : Option Int) : Bool :=
  p.isPrefixOf (fromPlace s place)

def endsWith (s p : List Char) : Bool := p.isSuffixOf s

/-- The characters before the first occurrence, or minus one. -/
def indexOf (s p : List Char) : Int :=
  match find? p s with
  | some n => n
  | none => -1

/-- The parts between separators; the characters if the separator is empty. -/
def splitBy (s p : List Char) : List (List Char) :=
  if p = [] then s.map fun c => [c] else splitAt p s

/-- The character at a place; nothing outside the text. -/
def charAt (s : List Char) (place : Int) : List Char :=
  if 0 ≤ place then s[place.toNat]?.toList else []

end ExerciseGrading.Text
