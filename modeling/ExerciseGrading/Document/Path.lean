/-
  PATHS into documents: segments with dots between them.

  1. A segment that is a whole number is an index into a list; every segment is a key of a mapping.
  2. A path that leads nowhere finds nothing; it is never a mistake.
  3. Tags are looked through at every step.

  `text_ofText` says that a path is written as it was read, `walk?_append` that paths compose.
-/
import ExerciseGrading.Document
import ExerciseGrading.Text.Search

namespace ExerciseGrading

/-- The segments of a path. -/
structure Path where
  segments : List String
deriving Repr, DecidableEq

namespace Path

/-- The parts of a text between dots. -/
def cutAtDots : List Char → List (List Char)
  | [] => [[]]
  | c :: s =>
    if c = '.' then [] :: cutAtDots s
    else
      match cutAtDots s with
      | [] => [[c]]
      | p :: ps => (c :: p) :: ps

def ofText (s : String) : Path := ⟨(cutAtDots s.toList).map String.ofList⟩

def text (p : Path) : String :=
  String.ofList (Text.join ['.'] (p.segments.map String.toList))

theorem cutAtDots_ne_nil (s : List Char) : cutAtDots s ≠ [] := by
  cases s with
  | nil => simp [cutAtDots]
  | cons c s =>
    simp only [cutAtDots]
    split
    · simp
    · split <;> simp

theorem join_cutAtDots (s : List Char) : Text.join ['.'] (cutAtDots s) = s := by
  induction s with
  | nil => rfl
  | cons c s ih =>
    have hne := cutAtDots_ne_nil s
    simp only [cutAtDots]
    cases hs : cutAtDots s with
    | nil => exact absurd hs hne
    | cons p ps =>
      rw [hs] at ih
      by_cases hc : c = '.'
      · subst hc
        simp [Text.join, ih]
      · cases ps with
        | nil => simp_all [Text.join]
        | cons q qs =>
          simp only [hc, if_false, Text.join, List.cons_append, List.append_assoc] at ih ⊢
          rw [ih]

theorem text_ofText (s : String) : (ofText s).text = s := by
  simp [text, ofText, List.map_map, Function.comp_def, join_cutAtDots]

/-! ## Finding -/

/-- The item of a list that a segment means. -/
def item? {α : Type} (segment : String) (items : List α) : Option α :=
  match Number.integer? segment.toList with
  | some n => if 0 ≤ n ∧ n ≤ Number.maxInt64 then items[n.toNat]? else none
  | none => none

/-- What a segment leads to. -/
def step? (d : Document) (segment : String) : Option Document :=
  match d with
  | .sequence items => item? segment items
  | .mapping members => Document.member? segment members
  | _ => none

/-- What segments lead to, from a document without a tag of its own. -/
def walk? (d : Document) : List String → Option Document
  | [] => some d
  | s :: rest =>
    match step? d s with
    | some next => walk? next.untagged rest
    | none => none

/-- What a path leads to. -/
def find? (p : Path) (d : Document) : Option Document := walk? d.untagged p.segments

theorem walk?_append (d : Document) (p q : List String) :
    walk? d (p ++ q) = (walk? d p).bind fun e => walk? e q := by
  induction p generalizing d with
  | nil => rfl
  | cons s p ih =>
    simp only [List.cons_append, walk?]
    cases step? d s with
    | none => rfl
    | some next => exact ih next.untagged

end Path

namespace Document

/-- What the path text leads to. -/
def query? (path : String) (d : Document) : Option Document := (Path.ofText path).find? d

end Document

end ExerciseGrading
