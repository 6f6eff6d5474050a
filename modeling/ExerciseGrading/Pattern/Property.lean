/-
  PROPERTY CLASSES: the sets that `\p` names.

  1. `looseName` drops what does not count in a name: case, blanks, hyphens, underscores, and a
     leading `is`.
  2. `named?` finds a yes-or-no property, a general category or a script, in that order; three
     short names that also abbreviate other properties always mean the category or script.
  3. `valued?` finds a value of a property that has values.
-/
import ExerciseGrading.Text.Ranges
import ExerciseGrading.Text.Property.Category
import ExerciseGrading.Text.Property.Script
import ExerciseGrading.Text.Property.Age
import ExerciseGrading.Text.Property.Segmentation
import ExerciseGrading.Text.Property.Binary

namespace ExerciseGrading.Pattern.Property

open Text Text.Property

/-- A name without what does not count in it. -/
def looseName (s : String) : String :=
  let keep (s : List Char) : List Char :=
    (s.filter fun c => c.toNat < 128 && c ≠ ' ' && c ≠ '_' && c ≠ '-').map Char.toLower
  match s.toList with
  | a :: b :: rest =>
    if a.toLower = 'i' ∧ b.toLower = 's' then
      let name := keep rest
      if name = ['c'] then "isc" else String.ofList name
    else String.ofList (keep s.toList)
  | cs => String.ofList (keep cs)

/-- The set that a table gives for a loose name. -/
def lookup? (table : List (String × List String)) (name : String) : Option Ranges :=
  (table.find? fun e => (e.1.splitOn " ").contains name).map fun e => Ranges.unpack e.2

def category? (name : String) : Option Ranges :=
  match name with
  | "any" => some [(0, maxCodePoint)]
  | "ascii" => some [(0, 127)]
  | "assigned" => (lookup? categories "cn").map Ranges.negate
  | _ => lookup? categories name

/-- Names that abbreviate both a category or script and another property. -/
def ambiguous : List String := ["cf", "sc", "lc"]

def named? (name : String) : Option Ranges :=
  let name := looseName name
  let binary := if ambiguous.contains name then none else lookup? binaries name
  binary <|> category? name <|> lookup? scripts name

/-- A version as two numbers, from its name `major.minor`. -/
def version? (names : String) : Option (Nat × Nat) :=
  (names.splitOn " ").findSome? fun n =>
    match n.splitOn "." with
    | [a, b] => match a.toNat?, b.toNat? with
      | some a, some b => some (a, b)
      | _, _ => none
    | _ => none

/-- All characters that a version or an earlier one assigned. -/
def assignedBy? (name : String) : Option Ranges := do
  let entry ← ages.find? fun e => (e.1.splitOn " ").contains name
  let (major, minor) ← version? entry.1
  let earlier := ages.filter fun e =>
    match version? e.1 with
    | some (a, b) => a < major || (a == major && b ≤ minor)
    | none => false
  return Ranges.normalize (earlier.flatMap fun e => Ranges.unpack e.2)

def valued? (name value : String) : Option Ranges :=
  let value := looseName value
  match looseName name with
  | "gc" | "generalcategory" => category? value
  | "sc" | "script" => lookup? scripts value
  | "scx" | "scriptextensions" => lookup? scriptExtensions value
  | "age" => assignedBy? value
  | "gcb" | "graphemeclusterbreak" => lookup? graphemeBreaks value
  | "wb" | "wordbreak" => lookup? wordBreaks value
  | "sb" | "sentencebreak" => lookup? sentenceBreaks value
  | _ => none

/-! ## Classes with one-letter escapes -/

def require (r : Option Ranges) : Ranges := r.getD []

def decimalDigits : Ranges := require (lookup? categories "nd")

def whiteSpace : Ranges := require (lookup? binaries "whitespace")

/-- Letters, marks, decimal digits, connecting punctuation and joiners. -/
def wordChars : Ranges :=
  Ranges.normalize <|
    require (lookup? binaries "alphabetic") ++ require (lookup? categories "m") ++
    decimalDigits ++ require (lookup? categories "pc") ++ require (lookup? binaries "joinc")

/-- The class names in `[:name:]`. -/
def asciiClass (name : String) : Ranges :=
  let r (lo hi : Char) : Nat × Nat := (lo.toNat, hi.toNat)
  match name with
  | "alnum" => [r '0' '9', r 'A' 'Z', r 'a' 'z']
  | "alpha" => [r 'A' 'Z', r 'a' 'z']
  | "ascii" => [(0, 127)]
  | "blank" => [(9, 9), (32, 32)]
  | "cntrl" => [(0, 31), (127, 127)]
  | "digit" => [r '0' '9']
  | "graph" => [r '!' '~']
  | "lower" => [r 'a' 'z']
  | "print" => [r ' ' '~']
  | "punct" => [r '!' '/', r ':' '@', r '[' '\x60', r '{' '~']
  | "space" => [(9, 13), (32, 32)]
  | "upper" => [r 'A' 'Z']
  | "word" => [r '0' '9', r 'A' 'Z', r '_' '_', r 'a' 'z']
  | "xdigit" => [r '0' '9', r 'A' 'F', r 'a' 'f']
  | _ => []

end ExerciseGrading.Pattern.Property
