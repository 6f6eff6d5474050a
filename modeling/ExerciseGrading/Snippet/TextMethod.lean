/-
  METHODS OF TEXTS.

  Places and lengths count characters.  A method reads its arguments as texts, places or patterns
  and leaves the work to the functions on lists of characters.
-/
import ExerciseGrading.Failure
import ExerciseGrading.Snippet.Value
import ExerciseGrading.Text.Place

namespace ExerciseGrading.Snippet

/-! ## Arguments -/

/-- The argument at a place; `undefined` if there is none. -/
def arg (args : List Value) (i : Nat) : Value := args[i]?.getD .undefined

/-- An optional whole number; the fraction is dropped. -/
def wholeArg? (args : List Value) (i : Nat) : Option Int :=
  match args[i]? with
  | none | some .undefined => none
  | some v => some (Number.toInt64 v.toNumber)

/-! ## Patterns -/

/-- The flags that a pattern may have; three of them change nothing here. -/
def flagNames : List Char := ['g', 'i', 'm', 's', 'u', 'y']

/-- A pattern with its flags. -/
def compilePattern (source flags : String) : Except Failure Pattern :=
  match flags.toList.find? fun f => !flagNames.contains f with
  | some f => .error (.badPatternFlag f)
  | none =>
    let has (c : Char) : Bool := flags.toList.contains c
    match Pattern.compile? source ⟨has 'i', has 'm', has 's'⟩ with
    | some p => .ok p
    | none => .error (.badPattern source)

/-- The argument of `match` as a pattern. -/
def patternArg (v : Value) : Except Failure Pattern :=
  match v with
  | .pattern p => .ok p
  | .undefined => compilePattern "" ""
  | v => compilePattern v.text ""

/-- The first match and its groups, or `null`. -/
def matchResult (p : Pattern) (s : String) : Value :=
  match p.captures? s with
  | some groups =>
    .list <| groups.map fun
      | some g => .string g
      | none => .undefined
  | none => .null

/-- The methods of texts. -/
inductive TextMethod where
  | charAt
  | endsWith
  | includes
  | indexOf
  | match_
  | replace
  | replaceAll
  | slice
  | split
  | startsWith
  | toLowerCase
  | toUpperCase
  | trim
  | trimEnd
  | trimStart
deriving Repr, DecidableEq

namespace TextMethod

def name : TextMethod → String
  | .charAt => "charAt"
  | .endsWith => "endsWith"
  | .includes => "includes"
  | .indexOf => "indexOf"
  | .match_ => "match"
  | .replace => "replace"
  | .replaceAll => "replaceAll"
  | .slice => "slice"
  | .split => "split"
  | .startsWith => "startsWith"
  | .toLowerCase => "toLowerCase"
  | .toUpperCase => "toUpperCase"
  | .trim => "trim"
  | .trimEnd => "trimEnd"
  | .trimStart => "trimStart"

/-- All of them, by name in ascending order. -/
def all : List TextMethod :=
  [.charAt, .endsWith, .includes, .indexOf, .match_, .replace, .replaceAll, .slice, .split,
   .startsWith, .toLowerCase, .toUpperCase, .trim, .trimEnd, .trimStart]

/-- A text value. -/
def ofChars (s : List Char) : Value := .string (String.ofList s)

/-- The parts of a text for a separator. -/
def splitParts (s : String) (separator : Value) : List Value :=
  match separator with
  | .undefined => [.string s]
  | .pattern p => (p.split s).map .string
  | v => (Text.splitBy s.toList v.text.toList).map ofChars

/-- Calls a method on a text. -/
def call (m : TextMethod) (s : String) (args : List Value) : Except Failure Value :=
  let cs := s.toList
  let first := arg args 0
  let pattern := first.text.toList
  match m with
  | .charAt => .ok (ofChars (Text.charAt cs ((wholeArg? args 0).getD 0)))
  | .endsWith => .ok (.bool (Text.endsWith cs pattern))
  | .includes => .ok (.bool (Text.includesFrom cs pattern (wholeArg? args 1)))
  | .indexOf => .ok (.number (Number.ofInt (Text.indexOf cs pattern)))
  | .match_ => (patternArg first).map fun p => matchResult p s
  | .replace =>
    let replacement := (arg args 1).text
    match first with
    | .pattern p => .ok (.string (p.replaceFirst s replacement))
    | _ => .ok (ofChars (Text.replaceFirst pattern replacement.toList cs))
  | .replaceAll =>
    let replacement := (arg args 1).text
    match first with
    | .pattern p => .ok (.string (p.replaceAll s replacement))
    | _ => .ok (ofChars (Text.replaceAll pattern replacement.toList cs))
  | .slice => .ok (ofChars (Text.slice cs (wholeArg? args 0) (wholeArg? args 1)))
  | .split =>
    let parts := splitParts s first
    .ok (.list (match wholeArg? args 1 with
      | some n => parts.take (max n 0).toNat
      | none => parts))
  | .startsWith => .ok (.bool (Text.startsFrom cs pattern (wholeArg? args 1)))
  | .toLowerCase => .ok (.string (Text.LetterCase.toLower s))
  | .toUpperCase => .ok (.string (Text.LetterCase.toUpper s))
  | .trim => .ok (ofChars (Text.trim cs))
  | .trimEnd => .ok (ofChars (Text.trimEnd cs))
  | .trimStart => .ok (ofChars (Text.trimStart cs))

end TextMethod

end ExerciseGrading.Snippet
