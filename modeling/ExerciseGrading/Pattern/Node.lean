/-
  PATTERN NODES: what a regular expression matches.

  Flags and names are gone: every class is a set of code points, every assertion one of the
  `Look`s, and greed is settled.  `Node.ofTree?` refuses what cannot match text: a class that does
  not exist, and with Unicode off whatever could match a part of a character.
-/
import ExerciseGrading.Pattern.Tree
import ExerciseGrading.Pattern.Property
import ExerciseGrading.Text.LetterCase

namespace ExerciseGrading.Pattern

open Text

/-- Which sides of a place must hold a word character. -/
inductive WordLook where
  | boundary
  | notBoundary
  | start
  | stop
  | startHalf
  | stopHalf
deriving Repr, DecidableEq

/-- Conditions on a place in the text. -/
inductive Look where
  | start
  | stop
  | startLine (crlf : Bool)
  | endLine (crlf : Bool)
  | word (unicode : Bool) (look : WordLook)
deriving Repr, DecidableEq

/-- A regular expression as what it matches. -/
inductive Node where
  | empty
  | oneOf (r : Ranges)
  | look (l : Look)
  | repetition (min : Nat) (max : Option Nat) (greedy : Bool) (body : Node)
  | capture (index : Nat) (body : Node)
  | choice (branches : List Node)
  | sequence (parts : List Node)
deriving Inhabited

/-- The flags in force at a place of the pattern. -/
structure Flags where
  ignoreCase : Bool
  multiLine : Bool
  dotAll : Bool
  swapGreed : Bool
  unicode : Bool
  crlf : Bool
deriving Repr, DecidableEq

namespace Flags

def change (f : Flags) (c : FlagChange) : Flags :=
  match c.flag with
  | .ignoreCase => { f with ignoreCase := c.on }
  | .multiLine => { f with multiLine := c.on }
  | .dotAll => { f with dotAll := c.on }
  | .swapGreed => { f with swapGreed := c.on }
  | .unicode => { f with unicode := c.on }
  | .crlf => { f with crlf := c.on }
  | .verbose => f

def changes (f : Flags) (cs : List FlagChange) : Flags := cs.foldl change f

end Flags

namespace Node

/-- All letters A to Z in the other case too. -/
def closeUnderAsciiCase (r : Ranges) : Ranges :=
  let shift (lo hi : Nat) (d : Int) : Ranges :=
    (Ranges.intersect r [(lo, hi)]).map fun p => ((p.1 + d).toNat, (p.2 + d).toNat)
  Ranges.normalize (r ++ shift 65 90 32 ++ shift 97 122 (-32))

def foldSet (f : Flags) (r : Ranges) : Ranges :=
  if !f.ignoreCase then r
  else if f.unicode then LetterCase.closeUnderCase r
  else closeUnderAsciiCase r

/-- The complement: of all characters, or of all bytes where Unicode is off. -/
def negateSet (f : Flags) (r : Ranges) : Ranges :=
  if f.unicode then Ranges.negate r
  else Ranges.intersect [(0, 255)] (Ranges.gaps 0 (Ranges.normalize r))

/-- Where Unicode is off a set must not reach beyond ASCII. -/
def textual? (f : Flags) (r : Ranges) : Option Ranges :=
  if f.unicode || r.all (·.2 ≤ 127) then some r else none

/-- A set under the flags in force, perhaps negated. -/
def foldAndNegate? (f : Flags) (negated : Bool) (r : Ranges) : Option Ranges :=
  let r := foldSet f r
  textual? f (if negated then negateSet f r else Ranges.normalize r)

def shortSet? (f : Flags) (negated : Bool) (cls : ShortClass) : Option Ranges :=
  let r := match cls, f.unicode with
    | .digit, true => Property.decimalDigits
    | .space, true => Property.whiteSpace
    | .word, true => Property.wordChars
    | .digit, false => Property.asciiClass "digit"
    | .space, false => Property.asciiClass "space"
    | .word, false => Property.asciiClass "word"
  textual? f (if negated then negateSet f r else r)

def propertySet? (f : Flags) (negated : Bool) (q : PropertyQuery) : Option Ranges := do
  if !f.unicode then failure
  let r ← match q with
    | .named name => Property.named? name
    | .valued name value => Property.valued? name value
  foldAndNegate? f negated (Ranges.intersect Ranges.scalars r)

/-- The code point of a class member. -/
def member? (f : Flags) (c : Literal) : Option Nat :=
  if f.unicode || c.char.toNat ≤ 127 then some c.char.toNat else none

mutual
def itemSet? (f : Flags) : SetItem → Option Ranges
  | .char c => do let n ← member? f c; return [(n, n)]
  | .range lo hi => do
    let a ← member? f lo
    let b ← member? f hi
    return Ranges.intersect Ranges.scalars [(a, b)]
  | .ascii negated name => foldAndNegate? f negated (Property.asciiClass name)
  | .short negated cls => shortSet? f negated cls
  | .property negated q => propertySet? f negated q
  | .nested negated set => do foldAndNegate? f negated (← exprSet? f set)
def itemSets? (f : Flags) : List SetItem → Option Ranges
  | [] => some []
  | i :: rest => do return (← itemSet? f i) ++ (← itemSets? f rest)
def exprSet? (f : Flags) : SetExpr → Option Ranges
  | .items items => itemSets? f items
  | .combine op lhs rhs => do
    let l := foldSet f (Ranges.normalize (← exprSet? f lhs))
    let r := foldSet f (Ranges.normalize (← exprSet? f rhs))
    return match op with
      | .intersection => Ranges.normalize (Ranges.intersect l r)
      | .difference => Ranges.diff l r
      | .symmetricDifference => Ranges.symmDiff l r
end

/-- A single character: itself, or all its cases. -/
def literal? (f : Flags) (c : Literal) : Option Node :=
  let n := c.char.toNat
  if !f.unicode && c.twoDigits && 127 < n && n ≤ 255 then none
  else if f.ignoreCase && (f.unicode || n ≤ 127) then some (.oneOf (foldSet f [(n, n)]))
  else some (.oneOf [(n, n)])

def anyChar? (f : Flags) : Option Node :=
  if !f.unicode then none
  else if f.dotAll then some (.oneOf Ranges.scalars)
  else if f.crlf then some (.oneOf (Ranges.negate [(10, 10), (13, 13)]))
  else some (.oneOf (Ranges.negate [(10, 10)]))

def lookOf (f : Flags) : Assertion → Look
  | .startLine => if f.multiLine then .startLine f.crlf else .start
  | .endLine => if f.multiLine then .endLine f.crlf else .stop
  | .startText => .start
  | .endText => .stop
  | .wordBoundary => .word f.unicode .boundary
  | .notWordBoundary => .word f.unicode .notBoundary
  | .wordStart => .word f.unicode .start
  | .wordEnd => .word f.unicode .stop
  | .wordStartHalf => .word f.unicode .startHalf
  | .wordEndHalf => .word f.unicode .stopHalf

mutual
/-- Whether no match takes a character. -/
def takesNothing : Node → Bool
  | .empty | .look _ => true
  | .oneOf _ => false
  | .repetition _ max _ body => max.isSome && body.takesNothing
  | .capture _ body => body.takesNothing
  | .choice branches => takeNothing branches
  | .sequence parts => takeNothing parts
def takeNothing : List Node → Bool
  | [] => true
  | n :: rest => n.takesNothing && takeNothing rest
end

/-- A repetition of a body.  What takes no character is repeated once at most; a body that is
    repeated no times is dropped with its groups, and one that is repeated just once stands for
    itself. -/
def repeated (min : Nat) (max : Option Nat) (greedy : Bool) (body : Node) : Node :=
  let (min, max) :=
    if body.takesNothing then (Nat.min min 1, some (Nat.min (max.getD 1) 1)) else (min, max)
  match min, max with
  | 0, some 0 => .empty
  | 1, some 1 => body
  | _, _ => .repetition min max greedy body

mutual
/-- What a tree matches under the flags in force, and the flags in force after it. -/
def ofTree? (f : Flags) : Tree → Option (Node × Flags)
  | .empty => some (.empty, f)
  | .flags cs => some (.empty, f.changes cs)
  | .literal c => (literal? f c).map fun n => (n, f)
  | .anyChar => (anyChar? f).map fun n => (n, f)
  | .assertion a => some (.look (lookOf f a), f)
  | .short negated cls => (shortSet? f negated cls).map fun r => (.oneOf r, f)
  | .property negated q => (propertySet? f negated q).map fun r => (.oneOf r, f)
  | .bracketed negated set => do
    let r ← foldAndNegate? f negated (← exprSet? f set)
    return (.oneOf r, f)
  | .repetition min max greedy body => do
    let (n, f') ← ofTree? f body
    return (repeated min max (greedy != f'.swapGreed) n, f')
  | .capture index _ body => do
    let (n, _) ← ofTree? f body
    return (.capture index n, f)
  | .group cs body => do
    let (n, _) ← ofTree? (f.changes cs) body
    return (n, f)
  | .alternation branches => do
    let (ns, f') ← ofTrees? f branches
    return (.choice ns, f')
  | .concat parts => do
    let (ns, f') ← ofTrees? f parts
    return (.sequence ns, f')
def ofTrees? (f : Flags) : List Tree → Option (List Node × Flags)
  | [] => some ([], f)
  | t :: rest => do
    let (n, f') ← ofTree? f t
    let (ns, f'') ← ofTrees? f' rest
    return (n :: ns, f'')
end

mutual
/-- Whether every match takes at least one character. -/
def consumes : Node → Bool
  | .oneOf r => !r.isEmpty
  | .repetition min _ _ body => 0 < min && body.consumes
  | .capture _ body => body.consumes
  | .choice branches => consumesAll branches
  | .sequence parts => consumesAny parts
  | _ => false
def consumesAll : List Node → Bool
  | [] => true
  | n :: rest => n.consumes && consumesAll rest
def consumesAny : List Node → Bool
  | [] => false
  | n :: rest => n.consumes || consumesAny rest
end

mutual
/-- The indexes of the capture groups that are there. -/
def captures : Node → List Nat
  | .repetition _ _ _ body => body.captures
  | .capture index body => index :: body.captures
  | .choice branches => capturesAll branches
  | .sequence parts => capturesAll parts
  | _ => []
def capturesAll : List Node → List Nat
  | [] => []
  | n :: rest => n.captures ++ capturesAll rest
end

/-- The capture groups up to the last that is there.  A dropped one before it keeps its index, but
    not its name. -/
def groups (n : Node) (names : List (Nat × Option String)) : List (Nat × Option String) :=
  (names.filter fun g => n.captures.any (g.1 ≤ ·)).map fun g =>
    if n.captures.contains g.1 then g else (g.1, none)

end Node

mutual
/-- The names of the capture groups as they are written, in the order of their indexes. -/
def Tree.captureNames : Tree → List (Nat × Option String)
  | .repetition _ _ _ body => body.captureNames
  | .capture index name body => (index, name) :: body.captureNames
  | .group _ body => body.captureNames
  | .alternation branches => Tree.captureNamesAll branches
  | .concat parts => Tree.captureNamesAll parts
  | _ => []
def Tree.captureNamesAll : List Tree → List (Nat × Option String)
  | [] => []
  | t :: rest => t.captureNames ++ Tree.captureNamesAll rest
end

end ExerciseGrading.Pattern
