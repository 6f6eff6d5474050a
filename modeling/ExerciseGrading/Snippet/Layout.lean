/-
  LAYOUT: what may stand between the parts of a snippet.

  1. `Input` is the text that is left and the number of bytes before it.
  2. `skip` passes over blanks, line comments and closed block comments.  A block comment that is
     never closed is not passed over: its slash is read as something else, or refused.
-/
import ExerciseGrading.Text.Search

namespace ExerciseGrading.Snippet

/-- The text that is left, and the number of bytes before it. -/
structure Input where
  pos : Nat
  rest : List Char
deriving Repr, DecidableEq, Inhabited

namespace Input

def ofText (s : String) : Input := ⟨0, s.toList⟩

/-- What is left when `rest`, an end of the text, is still to be read. -/
def after (i : Input) (rest : List Char) : Input :=
  ⟨i.pos + (Text.byteLength i.rest - Text.byteLength rest), rest⟩

end Input

/-- The blanks between parts; no others count. -/
def isSpace (c : Char) : Bool := c = ' ' || c = '\t' || c = '\r' || c = '\n'

/-- What follows the end of a block comment. -/
def afterComment? : List Char → Option (List Char)
  | '*' :: '/' :: s => some s
  | _ :: s => afterComment? s
  | [] => none

theorem afterComment?_length {s r : List Char} (h : afterComment? s = some r) :
    r.length < s.length := by
  fun_induction afterComment? s with
  | case1 s => simp at h; subst h; simp only [List.length_cons]; omega
  | case2 c s _ ih => have := ih h; simp; omega
  | case3 => simp at h

/-- The text after blanks and comments. -/
def skipLayout (s : List Char) : List Char :=
  match s with
  | '/' :: '/' :: r => skipLayout (r.dropWhile (· ≠ '\n'))
  | '/' :: '*' :: r =>
    match _h : afterComment? r with
    | some r' => skipLayout r'
    | none => '/' :: '*' :: r
  | c :: r => if isSpace c then skipLayout r else c :: r
  | [] => []
termination_by s.length
decreasing_by
  · have := (List.dropWhile_sublist (fun c => decide (c ≠ '\n')) (l := r)).length_le
    simp only [List.length_cons]; omega
  · have := afterComment?_length _h
    simp only [List.length_cons]; omega
  · simp

/-- Passes over blanks and comments. -/
def skip (i : Input) : Input := i.after (skipLayout i.rest)

end ExerciseGrading.Snippet
