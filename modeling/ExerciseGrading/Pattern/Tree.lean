/-
  PATTERN TREES: regular expressions as they are written.

  A tree keeps everything that the text says: flag changes where they stand, classes with their
  set operations, capture groups with index and name.  What it means is `Pattern.Node`.
-/

namespace ExerciseGrading.Pattern

/-- What a flag letter switches. -/
inductive Flag where
  | ignoreCase
  | multiLine
  | dotAll
  | swapGreed
  | unicode
  | crlf
  | verbose
deriving Repr, DecidableEq

structure FlagChange where
  flag : Flag
  on : Bool
deriving Repr, DecidableEq

/-- Conditions on a place in the text. -/
inductive Assertion where
  | startLine
  | endLine
  | startText
  | endText
  | wordBoundary
  | notWordBoundary
  | wordStart
  | wordEnd
  | wordStartHalf
  | wordEndHalf
deriving Repr, DecidableEq

/-- The classes with one-letter escapes. -/
inductive ShortClass where
  | digit
  | space
  | word
deriving Repr, DecidableEq

/-- The class named between `\p` braces. -/
inductive PropertyQuery where
  | named (name : String)
  | valued (name value : String)
deriving Repr, DecidableEq

/-- One character; `twoDigits` if it was written as `\x` and two digits, which names a byte where
    Unicode is off. -/
structure Literal where
  char : Char
  twoDigits : Bool
deriving Repr, DecidableEq

inductive SetOp where
  | intersection
  | difference
  | symmetricDifference
deriving Repr, DecidableEq

mutual
/-- A member of a bracketed class. -/
inductive SetItem where
  | char (c : Literal)
  | range (lo hi : Literal)
  | ascii (negated : Bool) (name : String)
  | short (negated : Bool) (cls : ShortClass)
  | property (negated : Bool) (query : PropertyQuery)
  | nested (negated : Bool) (set : SetExpr)
/-- The inside of a bracketed class. -/
inductive SetExpr where
  | items (items : List SetItem)
  | combine (op : SetOp) (lhs rhs : SetExpr)
end

/-- A regular expression as written. -/
inductive Tree where
  | empty
  | flags (changes : List FlagChange)
  | literal (c : Literal)
  | anyChar
  | assertion (a : Assertion)
  | short (negated : Bool) (cls : ShortClass)
  | property (negated : Bool) (query : PropertyQuery)
  | bracketed (negated : Bool) (set : SetExpr)
  | repetition (min : Nat) (max : Option Nat) (greedy : Bool) (body : Tree)
  | capture (index : Nat) (name : Option String) (body : Tree)
  | group (changes : List FlagChange) (body : Tree)
  | alternation (branches : List Tree)
  | concat (parts : List Tree)

/-- How deep a tree may nest. -/
def nestLimit : Nat := 250

mutual
def SetItem.depth : SetItem → Nat
  | .nested _ set => set.depth + 1
  | _ => 0
def SetItem.depths : List SetItem → Nat
  | [] => 0
  | i :: rest => max i.depth (SetItem.depths rest)
def SetExpr.depth : SetExpr → Nat
  | .items items => SetItem.depths items + (if items.length > 1 then 1 else 0)
  | .combine _ l r => max l.depth r.depth + 1
end

mutual
/-- The nesting depth: groups, repetitions, brackets, sequences and choices count one each. -/
def Tree.depth : Tree → Nat
  | .bracketed _ set => set.depth + 1
  | .repetition _ _ _ body => body.depth + 1
  | .capture _ _ body => body.depth + 1
  | .group _ body => body.depth + 1
  | .alternation branches => Tree.depths branches + 1
  | .concat parts => Tree.depths parts + 1
  | _ => 0
def Tree.depths : List Tree → Nat
  | [] => 0
  | t :: rest => max t.depth (Tree.depths rest)
end

/-- A sequence of parts as one tree. -/
def Tree.ofParts : List Tree → Tree
  | [] => .empty
  | [t] => t
  | ts => .concat ts

/-- A choice between branches as one tree. -/
def Tree.ofBranches : List Tree → Tree
  | [t] => t
  | ts => .alternation ts

end ExerciseGrading.Pattern
