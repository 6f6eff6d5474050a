/-
  SEARCHING in texts, on lists of characters.

  Everything here comes from one question: where does a pattern occur first?

  1. `cut p s`        — the text before and after the leftmost occurrence of `p` in `s`.
  2. `find? p s`      — the number of characters before it.
  3. `splitAt p s`    — the parts between the occurrences, found left to right without overlap.
  4. `replaceFirst`, `replaceAll` — the text with one or all of them replaced.

  `cut_eq_some` says that the pieces of a cut make up the text; `cut_length` that a cut by a
  pattern that is not empty leaves something shorter, which is why splitting ends.
-/

namespace ExerciseGrading.Text

/-- What is left of `s` after `p` at its start. -/
def dropStart? : List Char → List Char → Option (List Char)
  | [], s => some s
  | _ :: _, [] => none
  | a :: p, b :: s => if a = b then dropStart? p s else none

/-- The text before and after the leftmost occurrence of `p`. -/
def cut (p : List Char) : List Char → Option (List Char × List Char)
  | [] => if p = [] then some ([], []) else none
  | c :: s =>
    match dropStart? p (c :: s) with
    | some rest => some ([], rest)
    | none => (cut p s).map fun (a, b) => (c :: a, b)

theorem dropStart?_eq_some {p s r : List Char} : dropStart? p s = some r ↔ s = p ++ r := by
  induction p generalizing s with
  | nil => simp [dropStart?, eq_comm]
  | cons a p ih =>
    cases s with
    | nil => simp [dropStart?]
    | cons b s =>
      by_cases h : a = b
      · subst h; simp [dropStart?, ih]
      · have h' : ¬ b = a := fun e => h e.symm
        simp [dropStart?, h, h']

theorem cut_eq_some {p s a b : List Char} (h : cut p s = some (a, b)) : s = a ++ p ++ b := by
  induction s generalizing a b with
  | nil =>
    simp only [cut] at h
    split at h
    · rename_i hp; subst hp; simp_all
    · simp at h
  | cons c s ih =>
    simp only [cut] at h
    split at h
    · rename_i r hr
      obtain ⟨rfl, rfl⟩ : a = [] ∧ r = b := by simpa [eq_comm] using h
      simpa using dropStart?_eq_some.1 hr
    · cases hc : cut p s with
      | none => simp [hc] at h
      | some ab =>
        obtain ⟨a', b'⟩ := ab
        simp only [hc, Option.map_some, Option.some.injEq, Prod.mk.injEq] at h
        obtain ⟨rfl, rfl⟩ := h
        have := ih hc
        simp [this]

theorem cut_length {p s a b : List Char} (hp : p ≠ []) (h : cut p s = some (a, b)) :
    b.length < s.length := by
  have := cut_eq_some h
  subst this
  have : 0 < p.length := List.length_pos_iff.2 hp
  simp only [List.length_append]
  omega

/-- The number of characters before the leftmost occurrence of `p`. -/
def find? (p : List Char) : List Char → Option Nat
  | [] => if p = [] then some 0 else none
  | c :: s => if p.isPrefixOf (c :: s) then some 0 else (find? p s).map (· + 1)

/-- Whether `p` occurs in `s`. -/
def occurs (p s : List Char) : Bool := (find? p s).isSome

/-- The parts of `s` between the occurrences of `p`; all of `s` if `p` is empty. -/
def splitAt (p s : List Char) : List (List Char) :=
  if _hp : p = [] then [s]
  else
    match _h : cut p s with
    | none => [s]
    | some (a, b) => a :: splitAt p b
termination_by s.length
decreasing_by exact cut_length _hp _h

/-- `s` with the leftmost occurrence of `p` replaced by `r`. -/
def replaceFirst (p r s : List Char) : List Char :=
  match cut p s with
  | none => s
  | some (a, b) => a ++ r ++ b

/-- `s` with every occurrence of `p` replaced by `r`, left to right without overlap.  The empty
    pattern occurs before every character and at the end. -/
def replaceAll (p r s : List Char) : List Char :=
  if _hp : p = [] then r ++ s.flatMap fun c => c :: r
  else
    match _h : cut p s with
    | none => s
    | some (a, b) => a ++ r ++ replaceAll p r b
termination_by s.length
decreasing_by exact cut_length _hp _h

/-- The texts in order with a separator between neighbours. -/
def join (sep : List Char) : List (List Char) → List Char
  | [] => []
  | [s] => s
  | s :: t :: rest => s ++ sep ++ join sep (t :: rest)

/-- The number of bytes of a text in UTF-8. -/
def byteLength : List Char → Nat
  | [] => 0
  | c :: s => c.utf8Size + byteLength s

@[simp] theorem byteLength_append (s t : List Char) :
    byteLength (s ++ t) = byteLength s + byteLength t := by
  induction s with
  | nil => simp [byteLength]
  | cons c s ih => simp [byteLength, ih, Nat.add_assoc]

end ExerciseGrading.Text
