/-
  WORDS: the whole numbers that 32 or 64 bits hold.

  `clamp` is how a number that is out of range becomes one that is not: it goes to the nearer end.
-/

namespace ExerciseGrading.Number

def minInt32 : Int := -0x8000_0000
def maxInt32 : Int := 0x7FFF_FFFF
def maxUInt32 : Nat := 0xFFFF_FFFF

def minInt64 : Int := -0x8000_0000_0000_0000
def maxInt64 : Int := 0x7FFF_FFFF_FFFF_FFFF
def maxUInt64 : Nat := 0xFFFF_FFFF_FFFF_FFFF

/-- `n`, or the nearer end of the range from `lo` to `hi`. -/
def clamp (lo hi n : Int) : Int := max lo (min hi n)

end ExerciseGrading.Number
