/-
  FOLDERS IN MEMORY.

  1. A file stands at a place, the names on the way to it.  There is a folder wherever a file
     stands below, and at the top.
  2. A path is walked part by part from the top: nothing and one dot stay, two dots go back, a name
     goes on.  Only a folder has anywhere to go, so that a path with a slash at its end is no file.
  3. `mem_below` says what stands below a place.
-/
import ExerciseGrading.Keyed
import ExerciseGrading.Storage
import ExerciseGrading.Text.Search

namespace ExerciseGrading

/-- The names on the way from the top. -/
abbrev Place := List String

/-- Texts by place. -/
structure Folder where
  files : List (Place × String)
deriving Repr

namespace Folder

/-- The parts of a path between its slashes. -/
def parts (path : String) : List String :=
  (Text.splitAt ['/'] path.toList).map String.ofList

/-- The place of a path that goes only down. -/
def placeOf (path : String) : Place := (parts path).filter fun p => p ≠ "" ∧ p ≠ "."

/-- The folder with these files, by their paths. -/
def ofList (files : List (String × String)) : Folder :=
  ⟨files.foldl (fun acc f => Keyed.put (placeOf f.1) f.2 acc) []⟩

/-- The file at a place. -/
def fileAt? (f : Folder) (place : Place) : Option String := Keyed.find? place f.files

/-- What stands below a place, by the way from there; each with at least one name. -/
def below (f : Folder) (place : Place) : List Place :=
  f.files.filterMap fun file =>
    if place.isPrefixOf file.1 ∧ place.length < file.1.length then some (file.1.drop place.length)
    else none

/-- Whether there is a folder at a place. -/
def isFolderAt (f : Folder) (place : Place) : Bool := place.isEmpty || !(f.below place).isEmpty

/-- Goes on from a place along the parts of a path. -/
def walk? (f : Folder) : Place → List String → Option Place
  | place, [] => some place
  | place, p :: rest =>
    if !f.isFolderAt place then none
    else if p = "" ∨ p = "." then walk? f place rest
    else if p = ".." then if place.isEmpty then none else walk? f place.dropLast rest
    else walk? f (place ++ [p]) rest

/-- The place that a path leads to; a path from the root of all files leads nowhere. -/
def locate? (f : Folder) (path : String) : Option Place :=
  if path = "" ∨ path.toList.head? = some '/' then none else f.walk? [] (parts path)

/-- The text of the file that a path leads to. -/
def read? (f : Folder) (path : String) : Option String := (f.locate? path).bind f.fileAt?

/-- Whether a place is met no later than another: the names on the way are compared one by one. -/
def noLater : Place → Place → Bool
  | [], _ => true
  | _ :: _, [] => false
  | a :: p, b :: q => a < b || (a == b && noLater p q)

/-- The order in which files below a folder are met. -/
def inOrder (places : List Place) : List Place := places.mergeSort noLater

/-- The files at a path or below it, as paths that begin with that path. -/
def filesBelow? (f : Folder) (path : String) : Option (List String) := do
  let place ← f.locate? path
  if (f.fileAt? place).isSome then return [path]
  else if f.isFolderAt place then
    return (inOrder (f.below place)).map fun way => Storage.joined path ("/".intercalate way)
  else none

/-- A folder and an input, as a storage. -/
def storage (f : Folder) (input : String) : Storage Id where
  read? path := f.read? path
  isFile path := (f.read? path).isSome
  filesBelow? path := f.filesBelow? path
  input? := some input

/-- What stands below a place is a file there. -/
theorem mem_below {f : Folder} {place way : Place} :
    way ∈ f.below place ↔ way ≠ [] ∧ ∃ text, (place ++ way, text) ∈ f.files := by
  simp only [below, List.mem_filterMap]
  constructor
  · rintro ⟨⟨p, text⟩, hm, h⟩
    split at h
    · rename_i hp
      obtain ⟨hp, hl⟩ := hp
      obtain ⟨rest, rfl⟩ := List.isPrefixOf_iff_prefix.1 hp
      simp only [List.drop_left, Option.some.injEq] at h
      subst h
      refine ⟨?_, text, hm⟩
      rintro rfl
      simp at hl
    · simp at h
  · rintro ⟨hne, text, hm⟩
    refine ⟨_, hm, ?_⟩
    have : 0 < way.length := List.length_pos_iff.2 hne
    simp [List.isPrefixOf_iff_prefix, this]

end Folder

end ExerciseGrading
