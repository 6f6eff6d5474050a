/-
  The CURSOR: a place in the text of a document.

  1. A place has the text after it, the number of characters before it, its line and its column.
  2. Five characters break lines; a carriage return with the line feed after it is one break.
  3. A break stands for a line feed, except the two Unicode separators, which stand for
     themselves.

  `readWhile_rest` says that reading loses nothing.
-/

namespace ExerciseGrading.Yaml

/-- Characters that a document may hold. -/
def isAllowed (c : Char) : Bool :=
  let n := c.toNat
  n == 0x09 || n == 0x0A || n == 0x0D || (0x20 ≤ n && n ≤ 0x7E) || n == 0x85 ||
  (0xA0 ≤ n && n ≤ 0xFFFD) || 0x10000 ≤ n

def isSpaceOrTab (c : Char) : Bool := c = ' ' || c = '\t'

def isBreak (c : Char) : Bool :=
  c = '\n' || c = '\r' || c = '\x85' || c = '\u2028' || c = '\u2029'

/-- Blanks and breaks. -/
def isGap (c : Char) : Bool := isSpaceOrTab c || isBreak c

/-- Characters of names. -/
def isWordChar (c : Char) : Bool := c.isAlphanum || c = '_' || c = '-'

/-- Whether a gap or the end comes next. -/
def gapNext : List Char → Bool
  | [] => true
  | c :: _ => isGap c

/-- Whether a line ends here. -/
def lineEnds : List Char → Bool
  | [] => true
  | c :: _ => isBreak c

/-- The character that a break stands for. -/
def breakValue (c : Char) : Char := if c = '\u2028' || c = '\u2029' then c else '\n'

/-- A place in a text. -/
structure Cursor where
  rest : List Char
  index : Nat
  line : Nat
  column : Nat
deriving Repr, DecidableEq, Inhabited

namespace Cursor

def ofText (s : String) : Cursor := ⟨s.toList, 0, 0, 0⟩

/-- Passes over `n` characters of a line. -/
def skip (c : Cursor) (n : Nat) : Cursor :=
  ⟨c.rest.drop n, c.index + n, c.line, c.column + n⟩

/-- Passes over a break, if there is one: the character it stands for, and the next line. -/
def nextLine (c : Cursor) : List Char × Cursor :=
  match c.rest with
  | '\r' :: '\n' :: r => (['\n'], ⟨r, c.index + 2, c.line + 1, 0⟩)
  | b :: r =>
    if isBreak b then ([breakValue b], ⟨r, c.index + 1, c.line + 1, 0⟩) else ([], c)
  | [] => ([], c)

/-- Reads on the line while `p` holds. -/
def readWhile (p : Char → Bool) (c : Cursor) : List Char × Cursor :=
  let taken := c.rest.takeWhile p
  (taken, c.skip taken.length)

/-- What is read and what is left make up the text. -/
theorem readWhile_rest (p : Char → Bool) (c : Cursor) :
    (c.readWhile p).1 ++ (c.readWhile p).2.rest = c.rest := by
  obtain ⟨rest, index, line, column⟩ := c
  simp only [readWhile, skip]
  induction rest with
  | nil => rfl
  | cons ch r ih => by_cases h : p ch <;> simp [h, ih]

def skipWhile (p : Char → Bool) (c : Cursor) : Cursor := (c.readWhile p).2

/-- The rest of the line. -/
def readLine (c : Cursor) : List Char × Cursor := c.readWhile fun ch => !isBreak ch

/-- Passes over blanks, a comment and the break at the end of a line; none if something else
    stands there. -/
def finishLine? (c : Cursor) : Option Cursor :=
  let c := c.skipWhile isSpaceOrTab
  let c := match c.rest with
    | '#' :: _ => c.readLine.2
    | _ => c
  if lineEnds c.rest then some c.nextLine.2 else none

/-- Whether three equal characters and a gap stand at the start of a line. -/
def atMarker (c : Cursor) (mark : Char) : Bool :=
  c.column == 0 &&
  match c.rest with
  | a :: b :: d :: r => a == mark && b == mark && d == mark && gapNext r
  | _ => false

/-- Whether a document begins or ends here. -/
def atBoundary (c : Cursor) : Bool := c.atMarker '-' || c.atMarker '.'

end Cursor

end ExerciseGrading.Yaml
