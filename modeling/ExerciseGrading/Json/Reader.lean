/-
  READING JSON text into a record.

  1. The whole text must be one value; layout is blank, tab, line feed and carriage return.
  2. Numbers keep the first digits that fit 64 bits; the others count as zeros.  A number without
     point and exponent that fits 64 bits is whole, except minus zero.
  3. Some things are well-formed and yet mean nothing: a string with half a surrogate pair, a
     number beyond all doubles, a list or object nested too deeply.  They are `unusable`.

  Recursion is on fuel; every step takes a character, so that the length of the text is enough.
-/
import ExerciseGrading.Record

namespace ExerciseGrading.Json

open Text

/-- Lists and objects may nest this deep. -/
def depthLimit : Nat := 127

def skipBlank (s : List Char) : List Char :=
  s.dropWhile fun c => c = ' ' || c = '\n' || c = '\t' || c = '\r'

/-! ## Strings -/

/-- What a string holds: its characters, or that half a surrogate pair makes it unusable. -/
abbrev Contents := Option (List Char)

/-- The number of four hexadecimal digits, and what follows them. -/
def hex4? : List Char → Option (Nat × List Char)
  | a :: b :: c :: d :: rest => do
    let a ← hexDigit? a
    let b ← hexDigit? b
    let c ← hexDigit? c
    let d ← hexDigit? d
    return (((a * 16 + b) * 16 + c) * 16 + d, rest)
  | _ => none

def isHighSurrogate (n : Nat) : Bool := 0xD800 ≤ n && n ≤ 0xDBFF
def isLowSurrogate (n : Nat) : Bool := 0xDC00 ≤ n && n ≤ 0xDFFF

/-- The character of an escape with a known letter. -/
def shortEscape? : Char → Option Char
  | '\"' => some '\"'
  | '\\' => some '\\'
  | '/' => some '/'
  | 'b' => some '\x08'
  | 'f' => some '\x0c'
  | 'n' => some '\n'
  | 'r' => some '\r'
  | 't' => some '\t'
  | _ => none

/-- The rest of a string, after its opening quote. -/
def stringFrom? : Nat → List Char → Option (Contents × List Char)
  | 0, _ => none
  | _, [] => none
  | fuel + 1, '\\' :: 'u' :: s => do
    let (n, s) ← hex4? s
    let pair? : Option (Nat × List Char) :=
      match s with
      | '\\' :: 'u' :: t =>
        match hex4? t with
        | some (m, t) => if isHighSurrogate n && isLowSurrogate m then some (m, t) else none
        | none => none
      | _ => none
    match pair? with
    | some (m, t) =>
      let (rest, after) ← stringFrom? fuel t
      return (rest.map (Char.ofNat (0x10000 + (n - 0xD800) * 0x400 + (m - 0xDC00)) :: ·), after)
    | none =>
      let (rest, after) ← stringFrom? fuel s
      if isHighSurrogate n || isLowSurrogate n then return (none, after)
      else return (rest.map (Char.ofNat n :: ·), after)
  | fuel + 1, '\\' :: c :: s => do
    let c ← shortEscape? c
    let (rest, after) ← stringFrom? fuel s
    return (rest.map (c :: ·), after)
  | fuel + 1, c :: s =>
    if c = '\"' then some (some [], s)
    else if c = '\\' || c.toNat < 32 then none
    else do
      let (rest, after) ← stringFrom? fuel s
      return (rest.map (c :: ·), after)

def stringRecord (c : Contents) : Record :=
  match c with
  | some s => Record.ofText (String.ofList s)
  | none => .unusable

/-! ## Numbers -/

/-- The digits that are kept, and how many after them are dropped. -/
def keepDigits (acc : Nat) : List Char → Nat × Nat
  | [] => (acc, 0)
  | d :: rest =>
    let next := acc * 10 + (d.toNat - 48)
    if next ≤ Number.maxUInt64 then keepDigits next rest else (acc, rest.length + 1)

/-- `f * 10 ^ exponent`, computed as a product or quotient of two doubles; none beyond all doubles.
    A power too small for a double is taken in steps, of which a few lead to zero. -/
def scaled? : Nat → Float → Int → Option Float
  | 0, f, _ => some f
  | fuel + 1, f, exponent =>
    if exponent.natAbs ≤ 308 then
      let power := Number.ofDecimal false 1 exponent.natAbs
      if exponent ≥ 0 then
        let product := f * power
        if product.isFinite then some product else none
      else some (f / power)
    else if f == 0.0 then some f
    else if exponent ≥ 0 then none
    else scaled? fuel (f / 1e308) (exponent + 308)

/-- A number from its parts: sign, digits before and after the point, exponent. -/
def numeral? (negative : Bool) (whole : List Char) (fraction : Option (List Char))
    (exponent : Option (Bool × List Char)) : Option Numeral :=
  let (significand, dropped) := keepDigits 0 whole
  match fraction, exponent with
  | none, none =>
    if dropped = 0 then
      if !negative then some (.whole significand)
      else if 0 < significand ∧ Number.minInt64 ≤ -(significand : Int) then
        some (.whole (-(significand : Int)))
      else some (.real (-(Float.ofNat significand)))
    else
      (scaled? 8 (Float.ofNat significand) dropped).map fun x =>
        .real (Number.withSign negative x)
  | _, _ =>
    let digits := fraction.getD []
    let (significand, late) := keepDigits significand digits
    let base : Int := dropped - ((digits.length - late : Nat) : Int)
    let e? : Option Int :=
      match exponent with
      | none => some 0
      | some (minus, ds) =>
        let n := (Number.natural? 10 ds).getD 0
        if n ≤ Number.maxInt32 then some (if minus then -(n : Int) else n)
        else if minus then some Number.minInt32 else none
    match e? with
    | some e =>
      (scaled? 8 (Float.ofNat significand)
        (Number.clamp Number.minInt32 Number.maxInt32 (base + e))).map fun x =>
          .real (Number.withSign negative x)
    | none => if significand = 0 then some (.real (Number.withSign negative 0.0)) else none

/-- A number at the start of a text; none if the text is not JSON. -/
def number? (s : List Char) : Option (Option Numeral × List Char) := do
  let (negative, s) := match s with
    | '-' :: s => (true, s)
    | s => (false, s)
  let whole := s.takeWhile Number.isDigit
  let s := s.dropWhile Number.isDigit
  match whole with
  | [] => failure
  | '0' :: _ :: _ => failure
  | _ =>
    let (fraction, s) ← match s with
      | '.' :: r =>
        let ds := r.takeWhile Number.isDigit
        if ds = [] then failure
        pure (some ds, r.dropWhile Number.isDigit)
      | _ => pure (none, s)
    let (exponent, s) ← match s with
      | c :: r =>
        if c = 'e' ∨ c = 'E' then
          let (minus, r) := match r with
            | '-' :: r => (true, r)
            | '+' :: r => (false, r)
            | r => (false, r)
          let ds := r.takeWhile Number.isDigit
          if ds = [] then failure
          pure (some (minus, ds), r.dropWhile Number.isDigit)
        else pure (none, s)
      | [] => pure (none, s)
    return (numeral? negative whole fraction exponent, s)

/-! ## Values -/

/-- A container within the limit of nesting, or nothing usable beyond it. -/
def nested (depth : Nat) (r : Record) : Record := if depth ≤ depthLimit then r else .unusable

mutual
/-- A value at the start of a text, inside `depth` lists and objects. -/
def value? : Nat → Nat → List Char → Option (Record × List Char)
  | 0, _, _ => none
  | fuel + 1, depth, s =>
    match skipBlank s with
    | '\"' :: s => (stringFrom? (s.length + 1) s).map fun (c, r) => (stringRecord c, r)
    | '[' :: s =>
      match skipBlank s with
      | ']' :: r => some (nested (depth + 1) (.list []), r)
      | s => (items? fuel (depth + 1) s).map fun (rs, r) => (nested (depth + 1) (.list rs), r)
    | '{' :: s =>
      match skipBlank s with
      | '}' :: r => some (nested (depth + 1) (.fields none []), r)
      | s =>
        (members? fuel (depth + 1) s).map fun (ms, r) => (nested (depth + 1) (.fields none ms), r)
    | 't' :: 'r' :: 'u' :: 'e' :: r => some (.leaf (.bool true), r)
    | 'f' :: 'a' :: 'l' :: 's' :: 'e' :: r => some (.leaf (.bool false), r)
    | 'n' :: 'u' :: 'l' :: 'l' :: r => some (.leaf .null, r)
    | s =>
      (number? s).map fun (n, r) =>
        (match n with | some n => .leaf (.number n) | none => .unusable, r)
def items? : Nat → Nat → List Char → Option (List Record × List Char)
  | 0, _, _ => none
  | fuel + 1, depth, s => do
    let (v, s) ← value? fuel depth s
    match skipBlank s with
    | ',' :: s => let (vs, r) ← items? fuel depth s; return (v :: vs, r)
    | ']' :: r => return ([v], r)
    | _ => failure
def members? : Nat → Nat → List Char → Option (List (Record × Record) × List Char)
  | 0, _, _ => none
  | fuel + 1, depth, s => do
    match skipBlank s with
    | '\"' :: s =>
      let (key, s) ← stringFrom? (s.length + 1) s
      match skipBlank s with
      | ':' :: s =>
        let (v, s) ← value? fuel depth s
        let m := (stringRecord key, v)
        match skipBlank s with
        | ',' :: s => let (ms, r) ← members? fuel depth s; return (m :: ms, r)
        | '}' :: r => return ([m], r)
        | _ => failure
      | _ => failure
    | _ => failure
end

end Json

namespace Record

/-- The record that a JSON text writes. -/
def ofJsonText? (text : String) : Option Record :=
  let s := text.toList
  match Json.value? (2 * s.length + 2) 0 s with
  | some (r, rest) => if Json.skipBlank rest = [] then some r else none
  | none => none

end Record

/-- The value that a JSON text writes. -/
def Json.ofText? (text : String) : Option Json := do (← Record.ofJsonText? text).json?

end ExerciseGrading
