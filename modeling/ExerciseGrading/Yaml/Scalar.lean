/-
  SCALARS of a document: the five ways to write one.

  1. `blockScalar?`  — literal and folded blocks: the indentation is that of the first line with
                       content unless it is given, and a mark says what becomes of the breaks at
                       the end.
  2. `quotedScalar?` — between single or double quotes.
  3. `plainScalar?`  — without any quotes.

  In the last two a gap with breaks is folded: one break becomes a blank, and of more breaks the
  first is dropped.  A scalar that is not well-formed is no scalar.
-/
import ExerciseGrading.Yaml.Cursor
import ExerciseGrading.Text.Ranges

namespace ExerciseGrading.Yaml

/-! ## Gaps -/

/-- The values of the breaks in a gap. -/
def breaksOf : List Char → List Char
  | '\r' :: '\n' :: r => '\n' :: breaksOf r
  | b :: r => if isBreak b then breakValue b :: breaksOf r else breaksOf r
  | [] => []

/-- What a gap between two parts of a scalar stands for. -/
def foldGap (gap : List Char) : List Char :=
  match breaksOf gap with
  | [] => gap
  | ['\n'] => [' ']
  | '\n' :: more => more
  | breaks => breaks

/-- Passes over a gap; none if a tab stands left of `indent` after a break. -/
def passGap? (indent : Nat) : Nat → Bool → Cursor → Option Cursor
  | 0, _, c => some c
  | fuel + 1, broken, c =>
    match c.rest with
    | [] => some c
    | ch :: _ =>
      if isBreak ch then passGap? indent fuel true c.nextLine.2
      else if isSpaceOrTab ch then
        if broken && c.column < indent && ch = '\t' then none
        else passGap? indent fuel broken (c.skip 1)
      else some c

/-- Reads a gap. -/
def gap? (indent : Nat) (c : Cursor) : Option (List Char × Cursor) :=
  (passGap? indent c.rest.length false c).map fun after => (c.rest.takeWhile isGap, after)

/-! ## Block scalars -/

/-- What becomes of the breaks at the end of a block. -/
inductive Chomping where
  | strip
  | clip
  | keep
deriving Repr, DecidableEq, Inhabited

/-- A mark in the head of a block. -/
def chomping? : List Char → Option Chomping
  | '+' :: _ => some .keep
  | '-' :: _ => some .strip
  | _ => none

/-- The digit for the indentation in the head of a block: none if it is zero, nothing if there is
    no digit. -/
def indentDigit? (s : List Char) : Option (Option Nat) :=
  match s with
  | c :: _ =>
    if c = '0' then none
    else if c.isDigit then some (some (c.toNat - 48))
    else some none
  | [] => some none

/-- The head of a block: mark and digit in any order. -/
def blockHead? (c : Cursor) : Option (Chomping × Option Nat × Cursor) := do
  match chomping? c.rest with
  | some chomping =>
    let c := c.skip 1
    match ← indentDigit? c.rest with
    | some d => return (chomping, some d, ← (c.skip 1).finishLine?)
    | none => return (chomping, none, ← c.finishLine?)
  | none =>
    match ← indentDigit? c.rest with
    | none => return (.clip, none, ← c.finishLine?)
    | some d =>
      let c := c.skip 1
      match chomping? c.rest with
      | some chomping => return (chomping, some d, ← (c.skip 1).finishLine?)
      | none => return (.clip, some d, ← c.finishLine?)

/-- Passes over indentation and empty lines: the breaks, the widest column, and the place.
    Indentation ends at `indent` if it is known. -/
def emptyLines? (indent : Option Nat) :
    Nat → Nat → Cursor → Option (List Char × Nat × Cursor)
  | 0, widest, c => some ([], widest, c)
  | fuel + 1, widest, c =>
    let blanks := (c.rest.takeWhile (· = ' ')).length
    let c := c.skip (match indent with | none => blanks | some n => min blanks (n - c.column))
    let widest := max widest c.column
    let open_ := match indent with | none => true | some n => c.column < n
    match c.rest with
    | ch :: _ =>
      if open_ && ch = '\t' then none
      else if isBreak ch then
        let (b, c) := c.nextLine
        (emptyLines? indent fuel widest c).map fun (bs, w, c) => (b ++ bs, w, c)
      else some ([], widest, c)
    | [] => some ([], widest, c)

/-- The lines of a block.  `pending` is the break before the line, `empties` the empty lines after
    it, and `blankBefore` says that the line before started with a blank. -/
def blockLines? (folded : Bool) (chomping : Chomping) (indent : Nat) :
    Nat → List Char → List Char → Bool → Cursor → Option (List Char × Cursor)
  | 0, _, _, _, _ => none
  | fuel + 1, pending, empties, blankBefore, c =>
    if c.column = indent ∧ c.rest ≠ [] then do
      let blank := match c.rest with | ch :: _ => isSpaceOrTab ch | [] => false
      let between :=
        if folded && pending = ['\n'] && !blankBefore && !blank then
          if empties = [] then [' '] else empties
        else pending ++ empties
      let (line, c) := c.readLine
      let (pending, c) := c.nextLine
      let (empties, _, c) ← emptyLines? (some indent) (c.rest.length + 1) 0 c
      let (more, c) ← blockLines? folded chomping indent fuel pending empties blank c
      return (between ++ line ++ more, c)
    else
      some (match chomping with
        | .strip => ([], c)
        | .clip => (pending, c)
        | .keep => (pending ++ empties, c))

/-- A block after its first character; `parent` is the indentation of what it stands in, if it
    stands in anything. -/
def blockScalar? (folded : Bool) (parent : Option Nat) (c : Cursor) :
    Option (List Char × Cursor) := do
  let (chomping, digit, c) ← blockHead? c
  let known := digit.map fun d => match parent with | some p => p + d | none => d
  let (empties, widest, c) ← emptyLines? known (c.rest.length + 1) 0 c
  let least := match parent with | some p => p + 1 | none => 1
  let indent := known.getD (max widest least)
  blockLines? folded chomping indent (c.rest.length + 1) [] empties false c

/-! ## Quoted scalars -/

/-- The value of an escape of one letter. -/
def escapeValue? : Char → Option Char
  | '0' => some '\x00'
  | 'a' => some '\x07'
  | 'b' => some '\x08'
  | 't' => some '\t'
  | '\t' => some '\t'
  | 'n' => some '\n'
  | 'v' => some '\x0b'
  | 'f' => some '\x0c'
  | 'r' => some '\r'
  | 'e' => some '\x1b'
  | ' ' => some ' '
  | '\"' => some '\"'
  | '/' => some '/'
  | '\\' => some '\\'
  | 'N' => some '\x85'
  | '_' => some '\xa0'
  | 'L' => some '\u2028'
  | 'P' => some '\u2029'
  | _ => none

/-- How many hexadecimal digits follow an escape letter. -/
def escapeWidth? : Char → Option Nat
  | 'x' => some 2
  | 'u' => some 4
  | 'U' => some 8
  | _ => none

/-- The number that digits in base 16 write. -/
def hexValue? (ds : List Char) : Option Nat :=
  ds.foldlM (fun n d => (Text.hexDigit? d).map (n * 16 + ·)) 0

/-- An escape after its backslash: its value and its length. -/
def escape? (s : List Char) : Option (Char × Nat) :=
  match s with
  | [] => none
  | l :: r =>
    match escapeWidth? l with
    | some w => do
      let ds := r.take w
      let n ← if ds.length = w then hexValue? ds else none
      if n.isValidChar then some (Char.ofNat n, w + 1) else none
    | none => (escapeValue? l).map fun c => (c, 1)

/-- The rest of a quoted scalar. -/
def quotedFrom? (single : Bool) : Nat → Cursor → Option (List Char × Cursor)
  | 0, _ => none
  | fuel + 1, c =>
    if c.atBoundary then none
    else
      match c.rest with
      | [] => none
      | ch :: r =>
        if isGap ch then do
          let (gap, c) ← gap? 0 c
          let (more, c) ← quotedFrom? single fuel c
          return (foldGap gap ++ more, c)
        else if single && ch = '\x27' then
          match r with
          | '\x27' :: _ => do
            let (more, c) ← quotedFrom? single fuel (c.skip 2)
            return ('\x27' :: more, c)
          | _ => some ([], c.skip 1)
        else if !single && ch = '\"' then some ([], c.skip 1)
        else if !single && ch = '\\' then
          if !r.isEmpty && lineEnds r then do
            let (gap, c) ← gap? 0 (c.skip 1).nextLine.2
            let (more, c) ← quotedFrom? single fuel c
            return (breaksOf gap ++ more, c)
          else do
            let (value, length) ← escape? r
            let (more, c) ← quotedFrom? single fuel (c.skip (1 + length))
            return (value :: more, c)
        else do
          let (more, c) ← quotedFrom? single fuel (c.skip 1)
          return (ch :: more, c)

/-- A quoted scalar after its opening quote. -/
def quotedScalar? (single : Bool) (c : Cursor) : Option (List Char × Cursor) :=
  quotedFrom? single (c.rest.length + 1) c

/-! ## Plain scalars -/

/-- The characters of a plain scalar up to a gap or its end; none if a colon stands where it is
    neither text nor a separator. -/
def plainWord? (flow : Bool) : List Char → Option (List Char)
  | [] => some []
  | c :: r =>
    if isGap c then some []
    else if flow && c = ':' &&
        (match r with | d :: _ => ",?[]\x7b\x7d".toList.contains d | [] => false) then none
    else if c = ':' && gapNext r then some []
    else if flow && ",[]\x7b\x7d".toList.contains c then some []
    else (plainWord? flow r).map (c :: ·)

/-- A plain scalar from the start of a word: its text, whether a gap with a break ends it, and
    the place. -/
def plainFrom? (flow : Bool) (indent : Nat) :
    Nat → Cursor → Option (List Char × Bool × Cursor)
  | 0, _ => none
  | fuel + 1, c =>
    if c.atBoundary || c.rest.head? = some '#' then some ([], false, c)
    else do
      let word ← plainWord? flow c.rest
      let c := c.skip word.length
      match c.rest with
      | ch :: _ =>
        if isGap ch then do
          let (gap, c) ← gap? indent c
          let broken := !(breaksOf gap).isEmpty
          if !flow && c.column < indent then return (word, broken, c)
          else
            let (more, brokenAfter, c) ← plainFrom? flow indent fuel c
            if more = [] then return (word, broken, c)
            else return (word ++ foldGap gap ++ more, brokenAfter, c)
        else return (word, false, c)
      | [] => return (word, false, c)

/-- A plain scalar; `indent` is the least column of its further lines. -/
def plainScalar? (flow : Bool) (indent : Nat) (c : Cursor) :
    Option (List Char × Bool × Cursor) :=
  plainFrom? flow indent (c.rest.length + 1) c

end ExerciseGrading.Yaml
