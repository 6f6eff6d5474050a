/-
  STORAGE: the files that a program can look at.

  1. `Storage m` is whatever answers questions about files in a monad `m`: the disk, or a folder
     kept in memory.
  2. Paths are texts with slashes.  `suffix?` is what the last part of a path says about the kind
     of file; `joined` is a name inside a folder.
-/

namespace ExerciseGrading

/-- Answers to questions about files. -/
structure Storage (m : Type → Type) where
  /-- The text of a file; none if there is no such file or it is no text. -/
  read? : String → m (Option String)
  isFile : String → m Bool
  /-- The files at a path or below it, each folder in the order of its names; none if there is
      nothing there. -/
  filesBelow? : String → m (Option (List String))
  /-- What is typed or piped in. -/
  input? : m (Option String)

namespace Storage

/-- The part of a path after its last slash. -/
def lastPart (path : String) : List Char :=
  (path.toList.reverse.takeWhile (· ≠ '/')).reverse

/-- The part of a name after its last dot; a name has none without a dot, nor with nothing before
    it. -/
def suffixOf? (name : List Char) : Option String :=
  let backwards := name.reverse
  match backwards.dropWhile (· ≠ '.') with
  | [] | [_] => none
  | _ => some (String.ofList (backwards.takeWhile (· ≠ '.')).reverse)

/-- What a path says about the kind of its file. -/
def suffix? (path : String) : Option String := suffixOf? (lastPart path)

/-- A name inside a folder. -/
def joined (folder name : String) : String :=
  if folder = "" ∨ folder.toList.getLast? = some '/' then folder ++ name
  else folder ++ "/" ++ name

end Storage

end ExerciseGrading
