/-
  TOKENS of a document.

  A `Scanner` goes through the text and keeps the tokens found so far, the indentation levels
  that are open, and for every open flow bracket the place where a key may have started.

  1. A key is known as such only at the colon after it.  `markKey` then puts a `key` token in
     front of it, and the start of a mapping if its column opens a new level.
  2. Such a key stands on one line and is at most 1024 characters long.
  3. `closeLevels` ends the levels that are deeper than a column.

  `tokens?` scans a whole text; a text that holds something that is no token has none.
-/
import ExerciseGrading.Yaml.Scalar
import ExerciseGrading.Yaml.Tag
import ExerciseGrading.Record

namespace ExerciseGrading.Yaml

inductive Token where
  | directive (d : Directive)
  | documentStart
  | documentEnd
  | blockSequenceStart
  | blockMappingStart
  | blockEnd
  | flowSequenceStart
  | flowSequenceEnd
  | flowMappingStart
  | flowMappingEnd
  | blockEntry
  | flowEntry
  | key
  | value
  | alias (name : String)
  | anchor (name : String)
  | tag (handle suffix : String)
  | scalar (text : String) (style : ScalarStyle)
deriving Repr, DecidableEq, Inhabited

/-- A place where a key may have started. -/
structure KeyStart where
  /-- It must turn out to be a key. -/
  required : Bool
  /-- The number of tokens before it. -/
  number : Nat
  index : Nat
  line : Nat
  column : Nat
deriving Repr, DecidableEq, Inhabited

structure Scanner where
  at_ : Cursor
  /-- The tokens found, the last one first. -/
  found : List Token
  /-- Columns of the open levels, the deepest first. -/
  levels : List Nat
  /-- A key may start here. -/
  keyAllowed : Bool
  /-- Where a key may have started, innermost bracket first; the last entry is for the block
      around all brackets. -/
  keys : List (Option KeyStart)
deriving Repr, DecidableEq, Inhabited

namespace Scanner

def ofText (s : String) : Scanner := ⟨Cursor.ofText s, [], [], true, [none]⟩

/-- Whether a bracket is open. -/
def inFlow (s : Scanner) : Bool := 1 < s.keys.length

def emit (s : Scanner) (t : Token) : Scanner := { s with found := t :: s.found }

/-- Adds a token and passes over the `n` characters that write it. -/
def emitSign (s : Scanner) (t : Token) (n : Nat) : Scanner :=
  { s with found := t :: s.found, at_ := s.at_.skip n }

/-- Puts a token in front of all but the first `n` tokens. -/
def insertAt (s : Scanner) (n : Nat) (t : Token) : Scanner :=
  let after := s.found.length - n
  { s with found := s.found.take after ++ t :: s.found.drop after }

/-! ## Levels -/

/-- Opens a level at a column that is deeper than the open ones; its start is put after the first
    `n` tokens. -/
def openLevel (s : Scanner) (column n : Nat) (start : Token) : Scanner :=
  if s.inFlow then s
  else
    let deeper := match s.levels with | [] => true | l :: _ => l < column
    if deeper then { s.insertAt n start with levels := column :: s.levels } else s

/-- Ends the levels deeper than a column; all of them if none is given. -/
def closeLevels (s : Scanner) (column : Option Nat) : Scanner :=
  if s.inFlow then s
  else
    let deeper (l : Nat) : Bool := match column with | some c => c < l | none => true
    let closed := (s.levels.takeWhile deeper).length
    { s with
      levels := s.levels.drop closed
      found := List.replicate closed Token.blockEnd ++ s.found }

/-! ## Keys -/

/-- Gives up the innermost place where a key may have started. -/
def dropKey? (s : Scanner) : Option Scanner :=
  match s.keys with
  | some k :: rest => if k.required then none else some { s with keys := none :: rest }
  | _ => some s

/-- Notes that a key may start here. -/
def noteKey? (s : Scanner) : Option Scanner :=
  if s.keyAllowed then do
    let required := !s.inFlow && s.levels.head? = some s.at_.column
    let start : KeyStart :=
      ⟨required, s.found.length, s.at_.index, s.at_.line, s.at_.column⟩
    let s ← s.dropKey?
    return { s with keys := some start :: s.keys.drop 1 }
  else some s

/-- A place that is too far back for a key. -/
def KeyStart.stale (k : KeyStart) (c : Cursor) : Bool :=
  k.line < c.line || k.index + 1024 < c.index

/-- Gives up all places that are too far back. -/
def dropStale? (s : Scanner) : Option Scanner :=
  if s.keys.any fun k =>
      match k with | some k => KeyStart.stale k s.at_ && k.required | none => false
  then none
  else some { s with keys := s.keys.map fun k => k.filter fun k => !KeyStart.stale k s.at_ }

/-! ## Between tokens -/

/-- Passes over blanks, comments and breaks.  Tabs count as blanks in brackets, and where no key
    may start. -/
def passLayout : Nat → Scanner → Scanner
  | 0, s => s
  | fuel + 1, s =>
    let c := match s.at_.rest with
      | '\ufeff' :: _ => if s.at_.column = 0 then s.at_.skip 1 else s.at_
      | _ => s.at_
    let c := c.skipWhile fun ch =>
      ch = ' ' || ((s.inFlow || !s.keyAllowed) && ch = '\t')
    let c := match c.rest with
      | '#' :: _ => c.readLine.2
      | _ => c
    match c.rest with
    | [] => { s with at_ := c }
    | ch :: _ =>
      if isBreak ch then
        passLayout fuel { s with at_ := c.nextLine.2, keyAllowed := s.keyAllowed || !s.inFlow }
      else { s with at_ := c }

/-! ## One token after another -/

/-- What comes between documents closes everything. -/
def reset? (s : Scanner) : Option Scanner := do
  let s ← (s.closeLevels none).dropKey?
  return { s with keyAllowed := false }

/-- An opening bracket. -/
def openFlow? (s : Scanner) (t : Token) : Option Scanner := do
  let s ← s.noteKey?
  return { s.emitSign t 1 with keys := none :: s.keys, keyAllowed := true }

/-- A closing bracket. -/
def closeFlow? (s : Scanner) (t : Token) : Option Scanner := do
  let s ← s.dropKey?
  let keys := match s.keys with
    | _ :: k :: rest => k :: rest
    | ks => ks
  return { s.emitSign t 1 with keys := keys, keyAllowed := false }

/-- The dash of a list item. -/
def blockEntry? (s : Scanner) : Option Scanner := do
  let s ←
    if s.inFlow then some s
    else if s.keyAllowed then
      some (s.openLevel s.at_.column s.found.length .blockSequenceStart)
    else none
  let s ← s.dropKey?
  return { s.emitSign .blockEntry 1 with keyAllowed := true }

/-- The question mark of a key of any shape. -/
def explicitKey? (s : Scanner) : Option Scanner := do
  let s ←
    if s.inFlow then some s
    else if s.keyAllowed then
      some (s.openLevel s.at_.column s.found.length .blockMappingStart)
    else none
  let s ← s.dropKey?
  return { s.emitSign .key 1 with keyAllowed := !s.inFlow }

/-- Marks what started at `k` as a key. -/
def markKey (s : Scanner) (k : KeyStart) : Scanner :=
  (s.insertAt k.number .key).openLevel k.column k.number .blockMappingStart

/-- The colon of a value. -/
def value? (s : Scanner) : Option Scanner :=
  match s.keys with
  | some k :: rest =>
    let s := s.markKey k
    some { s.emitSign .value 1 with keys := none :: rest, keyAllowed := false }
  | _ =>
    if s.inFlow then some { s.emitSign .value 1 with keyAllowed := false }
    else if s.keyAllowed then
      let s := s.openLevel s.at_.column s.found.length .blockMappingStart
      some { s.emitSign .value 1 with keyAllowed := true }
    else none

/-- A token that may start a key, read by `f` after its first `n` characters. -/
def content? {α : Type} (s : Scanner) (n : Nat) (f : Cursor → Option (α × Cursor))
    (token : α → Token) : Option Scanner := do
  let s ← s.noteKey?
  let (a, c) ← f (s.at_.skip n)
  return { s with found := token a :: s.found, at_ := c, keyAllowed := false }

/-- A block scalar. -/
def block? (s : Scanner) (folded : Bool) : Option Scanner := do
  let s ← s.dropKey?
  let (text, c) ← blockScalar? folded s.levels.head? (s.at_.skip 1)
  let style := if folded then ScalarStyle.folded else .literal
  return { s with
    found := .scalar (String.ofList text) style :: s.found, at_ := c, keyAllowed := true }

/-- A scalar in quotes. -/
def quoted? (s : Scanner) (single : Bool) : Option Scanner :=
  s.content? 1 (quotedScalar? single) fun text => .scalar (String.ofList text) .quoted

/-- A scalar without quotes. -/
def plain? (s : Scanner) : Option Scanner := do
  let s ← s.noteKey?
  let indent := match s.levels with | [] => 0 | l :: _ => l + 1
  let (text, broken, c) ← plainScalar? s.inFlow indent s.at_
  return { s with
    found := .scalar (String.ofList text) .plain :: s.found, at_ := c, keyAllowed := broken }

/-- The token that starts with `ch`, of which `r` is what follows. -/
def token? (s : Scanner) (ch : Char) (r : List Char) : Option Scanner :=
  let flow := s.inFlow
  let separate := gapNext r
  if ch = '[' then s.openFlow? .flowSequenceStart
  else if ch = '{' then s.openFlow? .flowMappingStart
  else if ch = ']' then s.closeFlow? .flowSequenceEnd
  else if ch = '}' then s.closeFlow? .flowMappingEnd
  else if ch = ',' then do
    let s ← s.dropKey?
    return { s.emitSign .flowEntry 1 with keyAllowed := true }
  else if ch = '-' && separate then s.blockEntry?
  else if ch = '?' && (flow || separate) then s.explicitKey?
  else if ch = ':' && (flow || separate) then s.value?
  else if ch = '*' then s.content? 1 anchorName? .alias
  else if ch = '&' then s.content? 1 anchorName? .anchor
  else if ch = '!' then s.content? 0 (tag? flow) fun (h, t) => .tag h t
  else if ch = '|' && !flow then s.block? false
  else if ch = '>' && !flow then s.block? true
  else if ch = '\x27' then s.quoted? true
  else if ch = '\"' then s.quoted? false
  else if isGap ch || "#|>%@\x60".toList.contains ch then none
  else s.plain?

/-- Scans one token after another to the end. -/
def run? : Nat → Scanner → Option Scanner
  | 0, _ => none
  | fuel + 1, s => do
    let s := s.passLayout (s.at_.rest.length + 1)
    let s := (← s.dropStale?).closeLevels (some s.at_.column)
    match s.at_.rest with
    | [] => s.reset?
    | ch :: r =>
      if s.at_.column = 0 && ch = '%' then do
        let s ← s.reset?
        let (d, c) ← directive? (s.at_.skip 1)
        run? fuel { s.emit (.directive d) with at_ := c }
      else if s.at_.atMarker '-' then do
        run? fuel ((← s.reset?).emitSign .documentStart 3)
      else if s.at_.atMarker '.' then do
        run? fuel ((← s.reset?).emitSign .documentEnd 3)
      else do
        run? fuel (← s.token? ch r)

end Scanner

/-- The tokens of a text. -/
def tokens? (text : String) : Option (List Token) :=
  if text.toList.all isAllowed then
    ((Scanner.ofText text).run? (text.toList.length + 2)).map fun s => s.found.reverse
  else none

end ExerciseGrading.Yaml
