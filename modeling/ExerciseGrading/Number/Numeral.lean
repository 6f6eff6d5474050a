/-
  NUMERALS: the numbers of records and documents.

  Whole numbers stay whole as long as they fit 64 bits; everything else is a double.
-/
import ExerciseGrading.Number.Notation

namespace ExerciseGrading

/-- A number of a record or document. -/
inductive Numeral where
  /-- A whole number from `-2 ^ 63` to before `2 ^ 64`. -/
  | whole (n : Int)
  | real (x : Float)
deriving DecidableEq, Inhabited

namespace Numeral

/-- The nearest double. -/
def toFloat : Numeral → Float
  | .whole n => Number.ofInt n
  | .real x => x

/-- How JSON writes a number. -/
def jsonText : Numeral → String
  | .whole n => Number.intText n
  | .real x => Number.compact .signed "null" "null" x

/-- How a document writes a number. -/
def yamlText : Numeral → String
  | .whole n => Number.intText n
  | .real x => Number.compact .short ".nan" ".inf" x

/-- Equal as numbers of the same kind; not-a-number equals itself. -/
def same : Numeral → Numeral → Bool
  | .whole a, .whole b => a == b
  | .real a, .real b => a == b || (a.isNaN && b.isNaN)
  | _, _ => false

end Numeral

end ExerciseGrading
