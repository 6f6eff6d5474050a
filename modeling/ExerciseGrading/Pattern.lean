/-
  PATTERNS: regular expressions, ready to use.

  1. `Pattern.compile?` reads a pattern; none if the text is no regular expression, or too large.
  2. `isMatch`, `captures?`, `group?` ask for the first match.
  3. `split`, `replaceFirst`, `replaceAll` work with the matches from left to right.  A match that
     is empty and ends where the last one ended does not count.
  4. `escape` writes a text as a pattern that matches just that text.
  5. A replacement may name groups: `$1`, `$name`, `$\x7bname\x7d`; two dollar signs stand for one.
-/
import ExerciseGrading.Pattern.Reader
import ExerciseGrading.Pattern.Search
import ExerciseGrading.Number.Reading
import ExerciseGrading.Span
import ExerciseGrading.Text.Search

namespace ExerciseGrading

open Pattern in
/-- A regular expression, ready to use. -/
structure Pattern where
  source : String
  machine : Machine
  /-- Indexes and names of the capture groups. -/
  groups : List (Nat × Option String)
deriving Inhabited

namespace Pattern

/-- The switches that stand outside a pattern. -/
structure Options where
  ignoreCase : Bool := false
  multiLine : Bool := false
  dotAll : Bool := false
deriving Repr, DecidableEq

/-- Reads a pattern. -/
def compile? (source : String) (o : Options) : Option Pattern := do
  let tree ← Tree.ofText? source
  let (node, _) ← Node.ofTree?
    ⟨o.ignoreCase, o.multiLine, o.dotAll, false, true, false⟩ tree
  if node.storage ≤ sizeLimit then
    return ⟨source, Machine.ofNode node, node.groups tree.captureNames⟩
  else none

/-- A text as a pattern: a backslash before every character with a meaning of its own. -/
def escape (s : String) : String :=
  String.ofList <| s.toList.flatMap fun c => if Reader.isMeta c then ['\\', c] else [c]

def groupCount (p : Pattern) : Nat := p.groups.length + 1

def slotsAt? (p : Pattern) (text : Array Char) (place : Nat) : Option Slots :=
  firstMatch p.machine (2 * p.groupCount) text place

/-- Whether the pattern occurs in a text. -/
def isMatch (p : Pattern) (s : String) : Bool := (p.slotsAt? s.toList.toArray 0).isSome

/-- The text of a group, if it took part in the match. -/
def groupText? (text : Array Char) (slots : Slots) (index : Nat) : Option (List Char) :=
  match slots.getD (2 * index) none, slots.getD (2 * index + 1) none with
  | some a, some b => some (text.extract a b).toList
  | _, _ => none

/-- The whole first match and its groups. -/
def captures? (p : Pattern) (s : String) : Option (List (Option String)) :=
  let text := s.toList.toArray
  (p.slotsAt? text 0).map fun slots =>
    (List.range p.groupCount).map fun i => (groupText? text slots i).map String.ofList

/-- The text of a group and the bytes where it stands, if it took part in the match. -/
def groupAt? (text : Array Char) (index : Nat) (slots : Slots) : Option (String × Span) :=
  match slots.getD (2 * index) none, slots.getD (2 * index + 1) none with
  | some a, some b =>
    let bytesTo (place : Nat) : Nat := Text.byteLength (text.extract 0 place).toList
    some (String.ofList (text.extract a b).toList, ⟨bytesTo a, bytesTo b⟩)
  | _, _ => none

/-- A group of the first match. -/
def group? (p : Pattern) (s : String) (index : Nat) : Option (String × Span) :=
  let text := s.toList.toArray
  (p.slotsAt? text 0).bind (groupAt? text index)

/-- Where a match begins and ends. -/
def bounds (slots : Slots) : Nat × Nat :=
  ((slots.getD 0 none).getD 0, (slots.getD 1 none).getD 0)

/-- All matches from `place` on, at most `limit` of them; `last` is where the one before ended. -/
def matchesFrom (p : Pattern) (text : Array Char) (limit : Option Nat) :
    Nat → Nat → Option Nat → List Slots
  | 0, _, _ => []
  | fuel + 1, place, last =>
    if limit = some 0 then []
    else
      match p.slotsAt? text place with
      | none => []
      | some slots =>
        let (a, b) := bounds slots
        if a = b ∧ last = some b then
          if b < text.size then
            match p.slotsAt? text (b + 1) with
            | none => []
            | some slots =>
              slots :: matchesFrom p text (limit.map (· - 1)) fuel (bounds slots).2
                (some (bounds slots).2)
          else []
        else slots :: matchesFrom p text (limit.map (· - 1)) fuel b (some b)

/-- The matches in a text from left to right. -/
def matchesIn (p : Pattern) (text : Array Char) (limit : Option Nat) : List Slots :=
  matchesFrom p text limit (text.size + 2) 0 none

/-- The text from `place` on, cut at the matches. -/
def pieces (text : Array Char) (place : Nat) : List Slots → List (List Char)
  | [] => [(text.extract place text.size).toList]
  | m :: rest =>
    let (a, b) := bounds m
    (text.extract place a).toList :: pieces text b rest

/-- The parts of a text between the matches. -/
def split (p : Pattern) (s : String) : List String :=
  let text := s.toList.toArray
  (pieces text 0 (p.matchesIn text none)).map String.ofList

/-! ## Replacements -/

/-- A piece of a replacement. -/
inductive Part where
  | text (s : List Char)
  | group (name : List Char)

def isGroupChar (c : Char) : Bool := c.isAlphanum || c = '_'

/-- Reads a replacement; the fuel is its length. -/
def parts : Nat → List Char → List Part
  | 0, _ => []
  | _, [] => []
  | fuel + 1, '$' :: '$' :: rest => .text ['$'] :: parts fuel rest
  | fuel + 1, '$' :: '{' :: rest =>
    match rest.dropWhile (· ≠ '}') with
    | _ :: after => .group (rest.takeWhile (· ≠ '}')) :: parts fuel after
    | [] => .text ['$'] :: parts fuel ('{' :: rest)
  | fuel + 1, '$' :: rest =>
    match rest.takeWhile isGroupChar with
    | [] => .text ['$'] :: parts fuel rest
    | name => .group name :: parts fuel (rest.dropWhile isGroupChar)
  | fuel + 1, c :: rest => .text [c] :: parts fuel rest

/-- The index that a group reference means. -/
def groupIndex? (p : Pattern) (name : List Char) : Option Nat :=
  match Number.index? name with
  | some i => some i
  | none => (p.groups.find? fun g => g.2 = some (String.ofList name)).map (·.1)

/-- The text that takes the place of a match. -/
def replacement (p : Pattern) (parts : List Part) (text : Array Char) (slots : Slots) :
    List Char :=
  parts.flatMap fun
    | .text s => s
    | .group name =>
      match p.groupIndex? name with
      | some i => if i < p.groupCount then (groupText? text slots i).getD [] else []
      | none => []

/-- The text from `place` on with the matches replaced. -/
def substitute (p : Pattern) (parts : List Part) (text : Array Char) (place : Nat) :
    List Slots → List Char
  | [] => (text.extract place text.size).toList
  | m :: rest =>
    let (a, b) := bounds m
    (text.extract place a).toList ++ p.replacement parts text m ++
      substitute p parts text b rest

def replace (p : Pattern) (limit : Option Nat) (s r : String) : String :=
  let text := s.toList.toArray
  String.ofList <|
    p.substitute (parts (r.length + 1) r.toList) text 0 (p.matchesIn text limit)

/-- The text with the first match replaced. -/
def replaceFirst (p : Pattern) (s r : String) : String := p.replace (some 1) s r

/-- The text with all matches replaced. -/
def replaceAll (p : Pattern) (s r : String) : String := p.replace none s r

end Pattern

end ExerciseGrading
