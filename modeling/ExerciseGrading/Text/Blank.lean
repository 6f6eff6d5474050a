/-
  BLANKS: the characters that count as white space, and trimming.

  The class is the `White_Space` property, 25 characters; `trim` drops it at both ends and
  `words` splits at it.
-/

namespace ExerciseGrading.Text

/-- White space: tabs and line ends, the next-line character, spaces of every width. -/
def isBlank (c : Char) : Bool :=
  let n := c.toNat
  (9 ≤ n && n ≤ 13) || n == 0x20 || n == 0x85 || n == 0xA0 || n == 0x1680 ||
  (0x2000 ≤ n && n ≤ 0x200A) || n == 0x2028 || n == 0x2029 || n == 0x202F ||
  n == 0x205F || n == 0x3000

/-- Every blank that the core library knows is one here. -/
theorem isBlank_of_isWhitespace {c : Char} (h : c.isWhitespace = true) : isBlank c = true := by
  simp only [Char.isWhitespace, Bool.or_eq_true, decide_eq_true_eq] at h
  rcases h with ((h | h) | h) | h <;> subst h <;> decide

def trimStart (s : List Char) : List Char := s.dropWhile isBlank

def trimEnd (s : List Char) : List Char := (s.reverse.dropWhile isBlank).reverse

def trim (s : List Char) : List Char := trimEnd (trimStart s)

/-- The text without the blanks at its ends. -/
def trimmed (s : String) : String := String.ofList (trim s.toList)

/-- The first run of characters that are not blank; empty if there is none. -/
def firstWord (s : String) : String :=
  String.ofList ((trimStart s.toList).takeWhile fun c => !isBlank c)

end ExerciseGrading.Text
