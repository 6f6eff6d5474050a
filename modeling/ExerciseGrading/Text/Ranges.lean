/-
  RANGES of code points: sets of characters written as ascending, disjoint ranges.

  1. `Ranges` is a list of pairs, both ends included.
  2. `unpack` reads the packed form of the property tables.
  3. `negate`, `union`, `intersect`, `diff`, `symmDiff` are the set operations, all by one sweep.
  4. `contains` decides membership in the list; `RangeIndex` is the same set laid out for a
     binary search.
-/

namespace ExerciseGrading.Text

/-- A set of code points: ascending, disjoint ranges, both ends included. -/
abbrev Ranges := List (Nat × Nat)

/-- The greatest code point. -/
def maxCodePoint : Nat := 0x10FFFF

/-- The value of a hexadecimal digit, in either case. -/
def hexDigit? (c : Char) : Option Nat :=
  if '0' ≤ c ∧ c ≤ '9' then some (c.toNat - 48)
  else if 'a' ≤ c ∧ c ≤ 'f' then some (c.toNat - 87)
  else if 'A' ≤ c ∧ c ≤ 'F' then some (c.toNat - 55)
  else none

namespace Ranges

/-- The hexadecimal numbers of a text, separated by blanks. -/
def numbers (s : List Char) : List Nat :=
  let (out, cur) := s.foldl (fun (st : List Nat × Nat) c =>
    match hexDigit? c with
    | some d => (st.1, st.2 * 16 + d)
    | none => (st.2 :: st.1, 0)) ([], 0)
  (cur :: out).reverse

/-- Pairs up the places where membership changes, starting at code point `pos`. -/
def pair (pos : Nat) : List Nat → Ranges
  | gap :: len :: rest => (pos + gap, pos + gap + len - 1) :: pair (pos + gap + len) rest
  | _ => []

/-- Reads the packed form: lines of distances between the places where membership changes. -/
def unpack (lines : List String) : Ranges := pair 0 (lines.flatMap fun s => numbers s.toList)

/-- Membership in a set of ranges. -/
def contains (r : Ranges) (n : Nat) : Bool := r.any fun p => p.1 ≤ n && n ≤ p.2

/-- Adds a range that begins no earlier than those before it, the last of which stands first: it
    joins that one if there is no gap between them. -/
def joinTo (acc : Ranges) (p : Nat × Nat) : Ranges :=
  match acc with
  | [] => [p]
  | q :: rest => if p.1 ≤ q.2 + 1 then (q.1, max q.2 p.2) :: rest else p :: q :: rest

/-- Ascending, disjoint ranges with the same members as any list of ranges. -/
def normalize (r : Ranges) : Ranges :=
  let sorted := r.mergeSort fun a b => a.1 < b.1 || (a.1 == b.1 && a.2 ≤ b.2)
  (sorted.foldl joinTo []).reverse

/-- The code points of neither range, from `pos` on. -/
def gaps (pos : Nat) : Ranges → Ranges
  | [] => if pos ≤ maxCodePoint then [(pos, maxCodePoint)] else []
  | p :: rest =>
    if pos < p.1 then (pos, p.1 - 1) :: gaps (p.2 + 1) rest else gaps (p.2 + 1) rest

/-- The numbers below the surrogates and above them: all that a character can be. -/
def scalars : Ranges := [(0, 0xD7FF), (0xE000, maxCodePoint)]

/-- The common part of two sets of ascending ranges. -/
def intersect (a b : Ranges) : Ranges :=
  a.flatMap fun p => b.filterMap fun q =>
    let lo := max p.1 q.1
    let hi := min p.2 q.2
    if lo ≤ hi then some (lo, hi) else none

/-- All characters outside a set. -/
def negate (r : Ranges) : Ranges := intersect scalars (gaps 0 (normalize r))

/-- The members of either set. -/
def union (a b : Ranges) : Ranges := normalize (a ++ b)

/-- The members of `a` that are not in `b`. -/
def diff (a b : Ranges) : Ranges := normalize (intersect a (gaps 0 (normalize b)))

/-- The members of exactly one of the sets. -/
def symmDiff (a b : Ranges) : Ranges := union (diff a b) (diff b a)

end Ranges

/-- A set of code points laid out for a binary search. -/
structure RangeIndex where
  table : Array (Nat × Nat)
deriving Repr, DecidableEq, Inhabited

namespace RangeIndex

def ofRanges (r : Ranges) : RangeIndex := ⟨(Ranges.normalize r).toArray⟩

/-- Looks for the range of `n` among the entries from `lo` to before `hi`. -/
def search (table : Array (Nat × Nat)) (n lo hi : Nat) : Bool :=
  if lo < hi then
    let mid := (lo + hi) / 2
    match table[mid]? with
    | none => false
    | some p =>
      if n < p.1 then search table n lo mid
      else if p.2 < n then search table n (mid + 1) hi
      else true
  else false
termination_by hi - lo
decreasing_by all_goals omega

def contains (r : RangeIndex) (n : Nat) : Bool := search r.table n 0 r.table.size

def hasChar (r : RangeIndex) (c : Char) : Bool := r.contains c.toNat

end RangeIndex

example : Ranges.unpack ["0 20", "5f 21"] = [(0, 31), (127, 159)] := by decide

end ExerciseGrading.Text
