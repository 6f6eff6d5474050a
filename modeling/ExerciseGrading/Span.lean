/-
  SPANS: stretches of a text, counted in bytes.
-/

namespace ExerciseGrading

/-- The bytes from `start` to before `stop`. -/
structure Span where
  start : Nat
  stop : Nat
deriving Repr, DecidableEq, Inhabited

namespace Span

/-- The least span that covers both. -/
def join (a b : Span) : Span := ⟨min a.start b.start, max a.stop b.stop⟩

/-- The length that a label shows; a label is never empty. -/
def labelLength (s : Span) : Nat := if s.start < s.stop then s.stop - s.start else 1

end Span

end ExerciseGrading
