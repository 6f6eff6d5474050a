/-
  READING a regular expression.

  The reader goes through the text once; there is no backing up except for `\b` before a brace
  and for `[` inside brackets, which may or may not open a named class.  It fails on everything
  that is no regular expression: a group or class without its end, a repetition of nothing, an
  unknown escape or flag, look-around and back-references.

  Recursion is on fuel; every step takes at least one character, so that the length of the text
  is enough.
-/
import ExerciseGrading.Number.Word
import ExerciseGrading.Pattern.Tree
import ExerciseGrading.Text.Blank
import ExerciseGrading.Text.Ranges
import ExerciseGrading.Text.Property.Binary
import ExerciseGrading.Text.Property.Category
import ExerciseGrading.Text.LetterCase

namespace ExerciseGrading.Pattern

open Text

/-- What is left to read, and what reading so far has settled. -/
structure Cursor where
  rest : List Char
  /-- Blanks and comments are skipped. -/
  verbose : Bool
  /-- The index of the next capture group. -/
  nextGroup : Nat
  names : List String

/-- A reading step: the rest of the text changes, or the text is refused. -/
abbrev Reader := StateT Cursor Option

namespace Reader

def peek : Reader (Option Char) := return (← get).rest.head?

/-- The next character, which must be there. -/
def char : Reader Char := do
  match (← get).rest with
  | c :: _ => return c
  | [] => failure

def bump : Reader Unit := modify fun s => { s with rest := s.rest.tail }

/-- The text after blanks and comments. -/
def afterSpace : Nat → List Char → List Char
  | 0, s => s
  | fuel + 1, c :: s =>
    if isBlank c then afterSpace fuel s
    else if c = '#' then afterSpace fuel ((s.dropWhile (· ≠ '\n')).drop 1)
    else c :: s
  | _, [] => []

def skipSpace : Reader Unit :=
  modify fun s => if s.verbose then { s with rest := afterSpace s.rest.length s.rest } else s

/-- Takes one character and the blanks after it. -/
def bumpSpace : Reader Unit := do bump; skipSpace

/-- The character after the next one and the blanks between. -/
def peekSpace : Reader (Option Char) := do
  let s ← get
  let rest := s.rest.tail
  return (if s.verbose then afterSpace rest.length rest else rest).head?

def expect (c : Char) : Reader Unit := do
  if (← char) = c then bump else failure

/-- Takes `text` if it comes next. -/
def bumpIf (text : String) : Reader Bool := do
  let s ← get
  if text.toList.isPrefixOf s.rest then
    set { s with rest := s.rest.drop text.length }
    return true
  else return false

/-- Takes characters while they satisfy `p`, and the blanks after each. -/
def takeSpaced (p : Char → Bool) : Nat → Reader (List Char)
  | 0 => return []
  | fuel + 1 => do
    match ← peek with
    | some c => if p c then bumpSpace; return c :: (← takeSpaced p fuel) else return []
    | none => return []

/-- Takes characters while they satisfy `p`. -/
def takeWhile (p : Char → Bool) : Reader (List Char) := do
  let s ← get
  set { s with rest := s.rest.dropWhile p }
  return s.rest.takeWhile p

def remaining : Reader Nat := return (← get).rest.length

/-! ## Escapes -/

/-- Characters with a meaning of their own. -/
def isMeta (c : Char) : Bool := "\\.+*?()|[]\x7b\x7d^$#&-~".toList.contains c

/-- Characters that a backslash may stand before without need. -/
def isEscapable (c : Char) : Bool :=
  isMeta c || (c.toNat < 128 && !c.isAlphanum && c ≠ '<' && c ≠ '>')

def isHex (c : Char) : Bool := (hexDigit? c).isSome

def hexValue (s : List Char) : Nat := s.foldl (fun n c => n * 16 + (hexDigit? c).getD 0) 0

/-- A code point that is a character. -/
def scalar? (n : Nat) : Option Char := if n.isValidChar then some (Char.ofNat n) else none

/-- Digits of a fixed number. -/
def fixedDigits : Nat → Reader (List Char)
  | 0 => return []
  | n + 1 => do
    let c ← char
    if !isHex c then failure
    bumpSpace
    return c :: (← fixedDigits n)

/-- A character by its code point: the letter says how many digits there are without braces. -/
def hexEscape (letter : Char) : Reader Literal := do
  bumpSpace
  let inBraces := (← char) == '{'
  let digits ←
    if inBraces then
      bumpSpace
      let ds ← takeSpaced isHex (← remaining)
      if (← char) ≠ '}' ∨ ds = [] then failure
      bumpSpace
      pure ds
    else
      fixedDigits (if letter = 'x' then 2 else if letter = 'u' then 4 else 8)
  match scalar? (hexValue digits) with
  | some c => return ⟨c, letter == 'x' && !inBraces⟩
  | none => failure

/-- Where a text stands in another, as the two parts around it. -/
def splitOnce (sep s : List Char) : Option (List Char × List Char) :=
  (List.range s.length).findSome? fun i =>
    if sep.isPrefixOf (s.drop i) then some (s.take i, s.drop (i + sep.length)) else none

/-- The class after `\p` or `\P`, with its negation.  The sign between a property and its value
    makes no difference; only the letter negates. -/
def propertyEscape (letter : Char) : Reader (Bool × PropertyQuery) := do
  let negated := letter == 'P'
  bumpSpace
  let c ← char
  if c = '{' then
    bumpSpace
    let name ← takeSpaced (· ≠ '}') (← remaining)
    expect '}'
    match splitOnce ['!', '='] name, splitOnce [':'] name, splitOnce ['='] name with
    | some (n, v), _, _ => return (negated, .valued (String.ofList n) (String.ofList v))
    | none, some (n, v), _ => return (negated, .valued (String.ofList n) (String.ofList v))
    | none, none, some (n, v) => return (negated, .valued (String.ofList n) (String.ofList v))
    | none, none, none => return (negated, .named (String.ofList name))
  else if c = '\\' then failure
  else
    bumpSpace
    return (negated, .named (String.singleton c))

/-- The special word boundary in braces after `\b`, if there is one. -/
def specialBoundary : Reader Assertion := do
  let before ← get
  if (← peek) ≠ some '{' then return .wordBoundary
  bumpSpace
  let valid (c : Char) : Bool := c.isAlpha || c = '-'
  if !valid (← char) then
    set before
    return .wordBoundary
  let name ← takeSpaced valid (← remaining)
  expect '}'
  match String.ofList name with
  | "start" => return .wordStart
  | "end" => return .wordEnd
  | "start-half" => return .wordStartHalf
  | "end-half" => return .wordEndHalf
  | _ => failure

def lit (c : Char) : Tree := .literal ⟨c, false⟩

/-- What follows a backslash. -/
def escape : Reader Tree := do
  expect '\\'
  let c ← char
  match c with
  | 'x' | 'u' | 'U' => return .literal (← hexEscape c)
  | 'p' | 'P' => let (negated, q) ← propertyEscape c; return .property negated q
  | _ =>
    bump
    match c with
    | 'd' => return .short false .digit
    | 'D' => return .short true .digit
    | 's' => return .short false .space
    | 'S' => return .short true .space
    | 'w' => return .short false .word
    | 'W' => return .short true .word
    | 'a' => return lit '\x07'
    | 'f' => return lit '\x0c'
    | 't' => return lit '\t'
    | 'n' => return lit '\n'
    | 'r' => return lit '\r'
    | 'v' => return lit '\x0b'
    | 'A' => return .assertion .startText
    | 'z' => return .assertion .endText
    | 'b' => return .assertion (← specialBoundary)
    | 'B' => return .assertion .notWordBoundary
    | '<' => return .assertion .wordStart
    | '>' => return .assertion .wordEnd
    | _ => if isEscapable c then return lit c else failure

/-- A single character, an escape, or one of the three signs that stand for more. -/
def primitive : Reader Tree := do
  let c ← char
  match c with
  | '\\' => escape
  | '.' => bump; return .anyChar
  | '^' => bump; return .assertion .startLine
  | '$' => bump; return .assertion .endLine
  | _ => bump; return lit c

/-! ## Bracketed classes -/

def asciiClassNames : List String :=
  ["alnum", "alpha", "ascii", "blank", "cntrl", "digit", "graph", "lower", "print", "punct",
   "space", "upper", "word", "xdigit"]

/-- A named class such as `[:alpha:]` at the start of a text, and what follows it. -/
def namedClass? (s : List Char) : Option (SetItem × List Char) :=
  match s with
  | '[' :: ':' :: s =>
    let (negated, s) := match s with
      | '^' :: s => (true, s)
      | s => (false, s)
    let name := String.ofList (s.takeWhile (· ≠ ':'))
    match s.dropWhile (· ≠ ':') with
    | ':' :: ']' :: rest =>
      if asciiClassNames.contains name then some (.ascii negated name, rest) else none
    | _ => none
  | _ => none

/-- A member of a class that may begin a range. -/
def setAtom : Reader Tree := do
  if (← char) = '\\' then escape
  else
    let c ← char
    bump
    return lit c

def Tree.setItem? : Tree → Option SetItem
  | .literal c => some (.char c)
  | .short negated cls => some (.short negated cls)
  | .property negated q => some (.property negated q)
  | _ => none

/-- A member of a class, or a range of members. -/
def setRange : Reader SetItem := do
  let first ← setAtom
  skipSpace
  let c ← char
  let next ← peekSpace
  if c ≠ '-' ∨ next = some ']' ∨ next = some '-' then
    match Tree.setItem? first with
    | some item => return item
    | none => failure
  else
    bumpSpace
    let _ ← char
    match first, ← setAtom with
    | .literal lo, .literal hi => if lo.char ≤ hi.char then return .range lo hi else failure
    | _, _ => failure

/-- The hyphens that stand for themselves at the start of a class. -/
def leadingHyphens : Nat → Reader (List SetItem)
  | 0 => return []
  | fuel + 1 => do
    if (← char) = '-' then
      bumpSpace
      return .char ⟨'-', false⟩ :: (← leadingHyphens fuel)
    else return []

/-- The start of a class: its negation, and the characters that stand for themselves there. -/
def setOpen : Reader (Bool × List SetItem) := do
  expect '['
  skipSpace
  let negated := (← char) == '^'
  if negated then bumpSpace
  let items ← leadingHyphens (← remaining)
  if items = [] ∧ (← char) = ']' then
    bumpSpace
    let _ ← char
    return (negated, [.char ⟨']', false⟩])
  let _ ← char
  return (negated, items)

/-- Closes a pending set operation with its right side. -/
def closeOp (pending : Option (SetOp × SetExpr)) (rhs : SetExpr) : SetExpr :=
  match pending with
  | none => rhs
  | some (op, lhs) => .combine op lhs rhs

/-- The rest of a class up to its bracket; `items` are in reverse. -/
def setBody : Nat → Option (SetOp × SetExpr) → List SetItem → Reader SetExpr
  | 0, _, _ => failure
  | fuel + 1, pending, items => do
    skipSpace
    let c ← char
    let next := ((← get).rest.drop 1).head?
    let operator (op : SetOp) : Reader SetExpr := do
      bump; bump
      setBody fuel (some (op, closeOp pending (.items items.reverse))) []
    if c = '[' then
      match namedClass? (← get).rest with
      | some (item, rest) =>
        modify fun s => { s with rest := rest }
        setBody fuel pending (item :: items)
      | none =>
        let (negated, first) ← setOpen
        let set ← setBody fuel none first.reverse
        setBody fuel pending (.nested negated set :: items)
    else if c = ']' then
      bump
      return closeOp pending (.items items.reverse)
    else if c = '&' ∧ next = some '&' then operator .intersection
    else if c = '-' ∧ next = some '-' then operator .difference
    else if c = '~' ∧ next = some '~' then operator .symmetricDifference
    else
      let item ← setRange
      setBody fuel pending (item :: items)

def bracketed : Reader Tree := do
  let fuel ← remaining
  let (negated, first) ← setOpen
  return .bracketed negated (← setBody fuel none first.reverse)

/-! ## Repetitions -/

/-- A number in braces, with blanks around it. -/
def count : Reader (Option Nat) := do
  let _ ← takeWhile isBlank
  let digits ← takeSpaced Char.isDigit (← remaining)
  let _ ← takeSpaced isBlank (← remaining)
  if digits = [] then return none
  let n := digits.foldl (fun n c => n * 10 + (c.toNat - 48)) 0
  if n ≤ Number.maxUInt32 then return some n else failure

/-- A question mark after a repetition makes it take as little as it can. -/
def greedy : Reader Bool := do
  if (← peek) = some '?' then bump; return false else return true

/-- The limits between braces. -/
def counted : Reader (Nat × Option Nat) := do
  expect '{'
  skipSpace
  let _ ← char
  let min? ← count
  let limits ←
    if (← char) = ',' then
      bumpSpace
      if (← char) = '}' then
        match min? with
        | some n => pure (n, none)
        | none => failure
      else
        match min?, ← count with
        | some n, some m => pure (n, some m)
        | _, _ => failure
    else
      match min? with
      | some n => pure (n, some n)
      | none => failure
  if (← char) ≠ '}' then failure
  bumpSpace
  match limits with
  | (n, some m) => if n ≤ m then return limits else failure
  | _ => return limits

/-- What may be repeated: anything but nothing and a change of flags. -/
def repeatable : Tree → Bool
  | .empty | .flags _ => false
  | _ => true

/-! ## Groups -/

def alphabetic : RangeIndex := LetterCase.propertyIndex "alphabetic"

def numeric : RangeIndex :=
  match Property.categories.find? fun e => (e.1.splitOn " ").contains "n" with
  | some e => RangeIndex.ofRanges (Ranges.unpack e.2)
  | none => ⟨#[]⟩

/-- The characters of a group name. -/
def isNameChar (first : Bool) (c : Char) : Bool :=
  c = '_' || alphabetic.hasChar c ||
    (!first && (c = '.' || c = '[' || c = ']' || numeric.hasChar c))

def groupName : Reader String := do
  let name ← takeWhile (· ≠ '>')
  expect '>'
  match name with
  | [] => failure
  | c :: rest =>
    if !(isNameChar true c && rest.all (isNameChar false)) then failure
    let name := String.ofList name
    let s ← get
    if s.names.contains name then failure
    set { s with names := name :: s.names }
    return name

def nextIndex : Reader Nat := do
  let s ← get
  set { s with nextGroup := s.nextGroup + 1 }
  return s.nextGroup

def flag? : Char → Option Flag
  | 'i' => some .ignoreCase
  | 'm' => some .multiLine
  | 's' => some .dotAll
  | 'U' => some .swapGreed
  | 'u' => some .unicode
  | 'R' => some .crlf
  | 'x' => some .verbose
  | _ => none

/-- Flag letters up to a colon or a closing parenthesis; one minus sign, each letter once. -/
def flagChanges : Nat → (on : Bool) → (last : Option Char) → List FlagChange →
    Reader (List FlagChange)
  | 0, _, _, _ => failure
  | fuel + 1, on, last, acc => do
    let c ← char
    if c = ':' ∨ c = ')' then
      if last = some '-' then failure
      return acc.reverse
    else if c = '-' then
      if !on then failure
      bump
      let _ ← char
      flagChanges fuel false (some '-') acc
    else
      match flag? c with
      | none => failure
      | some f =>
        if acc.any (·.flag = f) then failure
        bump
        let _ ← char
        flagChanges fuel on (some c) (⟨f, on⟩ :: acc)

/-- What an opening parenthesis starts. -/
inductive Opened where
  | changes (flags : List FlagChange)
  | group (flags : List FlagChange)
  | capture (index : Nat) (name : Option String)

def groupOpen : Reader Opened := do
  expect '('
  skipSpace
  let rest := (← get).rest
  if ["?=", "?!", "?<=", "?<!"].any fun p => p.toList.isPrefixOf rest then failure
  if ← bumpIf "?P<" then return .capture (← nextIndex) (some (← groupName))
  if ← bumpIf "?<" then return .capture (← nextIndex) (some (← groupName))
  if ← bumpIf "?" then
    let changes ← flagChanges (← remaining) true none []
    let c ← char
    bump
    if c = ')' then
      if changes = [] then failure
      return .changes changes
    return .group changes
  return .capture (← nextIndex) none

/-- How changes of flags leave the skipping of blanks. -/
def verboseAfter (changes : List FlagChange) (verbose : Bool) : Bool :=
  match changes.find? (·.flag = .verbose) with
  | some c => c.on
  | none => verbose

/-! ## Sequences and choices -/

/-- The rest of a choice, up to its closing parenthesis or the end; both lists are in reverse. -/
def choice : Nat → List Tree → List Tree → Reader Tree
  | 0, _, _ => failure
  | fuel + 1, branches, parts => do
    skipSpace
    let finish : Tree := Tree.ofBranches ((Tree.ofParts parts.reverse :: branches).reverse)
    let repetition (limits : Nat × Option Nat) : Reader Tree := do
      match parts with
      | t :: before =>
        if !repeatable t then failure
        let greedy ← greedy
        choice fuel branches (.repetition limits.1 limits.2 greedy t :: before)
      | [] => failure
    match ← peek with
    | none => return finish
    | some ')' => return finish
    | some '|' => bump; choice fuel (Tree.ofParts parts.reverse :: branches) []
    | some '[' => let t ← bracketed; choice fuel branches (t :: parts)
    | some '?' => bump; repetition (0, some 1)
    | some '*' => bump; repetition (0, none)
    | some '+' => bump; repetition (1, none)
    | some '{' => if parts = [] then failure else repetition (← counted)
    | some '(' =>
      let outer := (← get).verbose
      let body (changes : List FlagChange) : Reader Tree := do
        modify fun s => { s with verbose := verboseAfter changes outer }
        let t ← choice fuel [] []
        expect ')'
        modify fun s => { s with verbose := outer }
        return t
      match ← groupOpen with
      | .changes changes =>
        modify fun s => { s with verbose := verboseAfter changes s.verbose }
        choice fuel branches (.flags changes :: parts)
      | .group changes =>
        let t ← body changes
        choice fuel branches (.group changes t :: parts)
      | .capture index name =>
        let t ← body []
        choice fuel branches (.capture index name t :: parts)
    | some _ => let t ← primitive; choice fuel branches (t :: parts)

end Reader

/-- The tree of a regular expression, if the text is one. -/
def Tree.ofText? (s : String) : Option Tree :=
  match (Reader.choice (s.length + 1) [] []).run ⟨s.toList, false, 1, []⟩ with
  | some (t, cursor) =>
    if cursor.rest = [] && t.depth ≤ nestLimit then some t else none
  | none => none

end ExerciseGrading.Pattern
