/-
  TAGS, ANCHORS and DIRECTIVES: the parts of a document that are not content.

  1. A tag is written with a handle and a suffix; the handle stands for what a directive says.
  2. A suffix may hold octets in hexadecimal, which together write characters.
  3. An anchor and an alias are a word.
-/
import ExerciseGrading.Yaml.Cursor
import ExerciseGrading.Text.Ranges

namespace ExerciseGrading.Yaml

/-- Characters that a suffix may hold; `wide` adds brackets and the comma. -/
def isUriChar (wide : Bool) (c : Char) : Bool :=
  isWordChar c || ";/?:@&=+$.%!~*\x27()".toList.contains c || (wide && ",[]".toList.contains c)

/-- The number of octets of a character whose first octet is `n`. -/
def octetCount (n : Nat) : Nat :=
  if n < 0x80 then 1
  else if n / 32 = 6 then 2
  else if n / 16 = 14 then 3
  else if n / 8 = 30 then 4
  else 0

/-- One octet in hexadecimal. -/
def octet? : List Char → Option (Nat × List Char)
  | '%' :: a :: b :: r => do return ((← Text.hexDigit? a) * 16 + (← Text.hexDigit? b), r)
  | _ => none

/-- The further octets of a character. -/
def moreOctets? : Nat → Nat → List Char → Option (Nat × List Char)
  | 0, n, s => some (n, s)
  | k + 1, n, s =>
    match octet? s with
    | some (o, r) => if o / 64 = 2 then moreOctets? k (n * 64 + o % 64) r else none
    | none => none

/-- A character written in octets, and how much text writes it. -/
def octets? (s : List Char) : Option (Char × Nat) := do
  let (first, r) ← octet? s
  let count := octetCount first
  if count = 0 then none
  else
    let (n, _) ←
      moreOctets? (count - 1) (if count = 1 then first else first % (1 <<< (7 - count))) r
    return (Char.ofNat n, 3 * count)

/-- The characters of a suffix. -/
def uriFrom? (wide : Bool) : Nat → Cursor → Option (List Char × Cursor)
  | 0, _ => none
  | fuel + 1, c =>
    match c.rest with
    | [] => some ([], c)
    | ch :: _ =>
      if ch = '%' then do
        let (value, length) ← octets? c.rest
        let (more, c) ← uriFrom? wide fuel (c.skip length)
        return (value :: more, c)
      else if isUriChar wide ch then do
        let (more, c) ← uriFrom? wide fuel (c.skip 1)
        return (ch :: more, c)
      else some ([], c)

/-- A suffix that continues `head`; together they may not be empty. -/
def uri? (wide : Bool) (head : List Char) (c : Cursor) : Option (String × Cursor) := do
  let (tail, after) ← uriFrom? wide (c.rest.length + 1) c
  if head = [] && after.rest.length = c.rest.length then none
  else return (String.ofList (head.drop 1 ++ tail), after)

/-- A handle: a word between two exclamation marks, or the first of them and a word. -/
def handle? (c : Cursor) : Option (List Char × Cursor) :=
  match c.rest with
  | '!' :: _ =>
    let (word, c) := (c.skip 1).readWhile isWordChar
    match c.rest with
    | '!' :: _ => some ('!' :: word ++ ['!'], c.skip 1)
    | _ => some ('!' :: word, c)
  | _ => none

/-- Whether a handle has both its marks. -/
def isClosedHandle (h : List Char) : Bool := 1 < h.length && h.getLast? = some '!'

/-- The handle and the suffix of a tag. -/
def tag? (flow : Bool) (c : Cursor) : Option ((String × String) × Cursor) := do
  let (tag, c) ←
    match c.rest with
    | '!' :: '<' :: _ => do
      let (suffix, c) ← uri? true [] (c.skip 2)
      match c.rest with
      | '>' :: _ => pure (("", suffix), c.skip 1)
      | _ => none
    | _ => do
      let (handle, c) ← handle? c
      if isClosedHandle handle then
        let (suffix, c) ← uri? false [] c
        pure ((String.ofList handle, suffix), c)
      else
        let (suffix, c) ← uri? false handle c
        if suffix = "" then pure (("", "!"), c) else pure (("!", suffix), c)
  if gapNext c.rest || (flow && c.rest.head? = some ',') then return (tag, c) else none

/-- The word of an anchor or alias, after its mark. -/
def anchorName? (c : Cursor) : Option (String × Cursor) :=
  let (word, c) := c.readWhile isWordChar
  let closed := match c.rest with
    | [] => true
    | ch :: _ => isGap ch || "?:,]\x7d%@\x60".toList.contains ch
  if word ≠ [] && closed then some (String.ofList word, c) else none

/-! ## Directives -/

/-- What a directive says. -/
inductive Directive where
  | version (major minor : Nat)
  | tag (handle expansion : String)
deriving Repr, DecidableEq

/-- A number of at most nine digits. -/
def versionNumber? (c : Cursor) : Option (Nat × Cursor) :=
  let (ds, c) := c.readWhile Char.isDigit
  if ds = [] || 9 < ds.length then none
  else some (ds.foldl (fun n d => n * 10 + (d.toNat - 48)) 0, c)

/-- A directive after its percent sign, with the end of its line. -/
def directive? (c : Cursor) : Option (Directive × Cursor) := do
  let (name, c) := c.readWhile isWordChar
  if !gapNext c.rest then none
  else if name = "YAML".toList then
    let (major, c) ← versionNumber? (c.skipWhile isSpaceOrTab)
    match c.rest with
    | '.' :: _ =>
      let (minor, c) ← versionNumber? (c.skip 1)
      return (.version major minor, ← c.finishLine?)
    | _ => none
  else if name = "TAG".toList then
    let (handle, c) ← handle? (c.skipWhile isSpaceOrTab)
    if !(isClosedHandle handle || handle = ['!']) then none
    else
      match c.rest with
      | ch :: _ =>
        if isSpaceOrTab ch then
          let (expansion, c) ← uri? true [] (c.skipWhile isSpaceOrTab)
          if gapNext c.rest then return (.tag (String.ofList handle) expansion, ← c.finishLine?)
          else none
        else none
      | [] => none
  else none

end ExerciseGrading.Yaml
