/-
  RECORDS as they are written, before anyone asks what they mean.

  A record comes from JSON, where every leaf has a type, or from a YAML document, where a leaf is
  text in some style and what it means depends on what is wanted.  Both become a `Record`, and the
  functions here are the questions that readers of checks, rules and exercises ask:

  1. `text?`, `bool?`, `whole?` — the leaf as a value of that type.
  2. `present?`   — the record unless it says that there is nothing.
  3. `items?`     — a list.
  4. `entries?`   — keys with values, in the order written.
  5. `fields?`    — the values of named fields, from keys in any order or from a list by position.
  6. `json?`      — a value of any shape.

  What is well-formed but means nothing, such as a number out of range, is `unusable`: it does no
  harm in a field that nobody reads.
-/
import ExerciseGrading.Json
import ExerciseGrading.Number.Reading

namespace ExerciseGrading

/-- How a YAML scalar is written. -/
inductive ScalarStyle where
  | plain
  | quoted
  | literal
  | folded
deriving Repr, DecidableEq, Inhabited

/-- A YAML scalar before its type is known. -/
structure Scalar where
  text : String
  style : ScalarStyle
  tag : Option String
deriving Repr, DecidableEq, Inhabited

inductive Leaf where
  | null
  | bool (b : Bool)
  | number (n : Numeral)
  | text (s : String)
  | scalar (s : Scalar)
deriving DecidableEq, Inhabited

/-- A record as written. -/
inductive Record where
  | leaf (l : Leaf)
  /-- A list of JSON, whose items may also stand for named fields. -/
  | list (items : List Record)
  /-- A list of a document. -/
  | sequence (tag : Option String) (items : List Record)
  | fields (tag : Option String) (members : List (Record × Record))
  | unusable
deriving Inhabited

/-! ## Scalars -/

namespace Scalar

def boolTag : String := "tag:yaml.org,2002:bool"
def intTag : String := "tag:yaml.org,2002:int"
def floatTag : String := "tag:yaml.org,2002:float"
def nullTag : String := "tag:yaml.org,2002:null"

def isNullText (s : String) : Bool := ["null", "Null", "NULL", "~"].contains s

def boolText? (s : String) : Option Bool :=
  if ["true", "True", "TRUE"].contains s then some true
  else if ["false", "False", "FALSE"].contains s then some false
  else none

/-- Digits after a leading zero make a text, not a number. -/
def isZeroPadded (s : List Char) : Bool :=
  match (Number.splitSign s).2 with
  | '0' :: d :: rest => (d :: rest).all Number.isDigit
  | _ => false

/-- Digits in the base that their first two characters name. -/
def based? (s : List Char) : Option Nat :=
  match s with
  | '0' :: 'x' :: r => Number.natural? 16 r
  | '0' :: 'o' :: r => Number.natural? 8 r
  | '0' :: 'b' :: r => Number.natural? 2 r
  | _ => none

/-- A whole number that is not negative, with an optional plus sign. -/
def unsigned? (s : List Char) : Option Nat :=
  let t := match s with
    | '+' :: t => t
    | _ => s
  based? t <|> if isZeroPadded s then none else Number.natural? 10 t

/-- A whole number behind a minus sign. -/
def negative? (s : List Char) : Option Nat :=
  match s with
  | '-' :: t => based? t <|> if isZeroPadded s then none else Number.natural? 10 t
  | _ => none

/-- A whole number of any sign. -/
def integer? (s : List Char) : Option Int :=
  (unsigned? s).map Int.ofNat <|> (negative? s).map fun n => -(n : Int)

/-- A double: the words for infinity and not-a-number, or a finite decimal. -/
def float? (s : List Char) : Option Float :=
  let t := String.ofList s
  if [".inf", ".Inf", ".INF", "+.inf", "+.Inf", "+.INF"].contains t then some (1.0 / 0.0)
  else if ["-.inf", "-.Inf", "-.INF"].contains t then some (-(1.0 / 0.0))
  else if [".nan", ".NaN", ".NAN"].contains t then some (0.0 / 0.0)
  else
    match s with
    | '+' :: '+' :: _ | '+' :: '-' :: _ => none
    | _ => (Number.float? s).filter Float.isFinite

/-- What a scalar without a tag of its own stands for. -/
inductive Meaning where
  | null
  | bool (b : Bool)
  | number (n : Numeral)
  | text (s : String)
  /-- A number that no numeral holds. -/
  | outOfRange

/-- A whole number as a numeral, if it fits. -/
def numeralOf (n : Int) : Meaning :=
  if Number.minInt64 ≤ n ∧ n ≤ Number.maxUInt64 then .number (.whole n)
  else .outOfRange

/-- Whether 128 bits hold a whole number; others are text. -/
def fitsWide (n : Int) : Bool :=
  if n < 0 then n.natAbs ≤ 1 <<< 127 else n.natAbs < 1 <<< 128

/-- The meaning of plain text. -/
def plainMeaning (s : String) : Meaning :=
  let cs := s.toList
  if s = "" || isNullText s then .null
  else
    match boolText? s, (integer? cs).filter fitsWide with
    | some b, _ => .bool b
    | none, some n => numeralOf n
    | none, none =>
      match if isZeroPadded cs then none else float? cs with
      | some x => .number (.real x)
      | none => .text s

/-- The meaning of a scalar; none if its tag does not fit its text.  `tagged` says that its tag
    has been taken care of. -/
def meaning? (s : Scalar) (tagged : Bool) : Option Meaning :=
  match if tagged then none else s.tag with
  | none => some (if s.style = .plain then plainMeaning s.text else .text s.text)
  | some tag =>
    if tag = boolTag then (boolText? s.text).map .bool
    else if tag = intTag then ((integer? s.text.toList).filter fitsWide).map numeralOf
    else if tag = floatTag then (float? s.text.toList).map fun x => .number (.real x)
    else if tag = nullTag then if isNullText s.text then some .null else none
    else some (if tag.startsWith "!" && s.style = .plain then plainMeaning s.text
      else .text s.text)

/-- The name of a tag of the author's own, without its mark. -/
def ownTag? (tag : Option String) : Option String :=
  match tag with
  | none => none
  | some t =>
    match t.toList with
    | ['!'] => some "!"
    | '!' :: rest => some (String.ofList rest)
    | _ => none

/-- Nothing at all is written. -/
def isEmptyPlain (s : Scalar) : Bool := s.style = .plain && s.text = ""

/-- Written so that it may be a value of the type `tag`. -/
def mayBe (s : Scalar) (tag : String) : Bool :=
  s.style = .plain || (s.style = .literal && s.tag = some tag)

end Scalar

/-! ## Questions to a record -/

namespace Record

def ofText (s : String) : Record := .leaf (.text s)

/-- A leaf as text. -/
def text? : Record → Option String
  | .leaf (.text s) => some s
  | .leaf (.scalar s) => some s.text
  | _ => none

def bool? : Record → Option Bool
  | .leaf (.bool b) => some b
  | .leaf (.scalar s) => if s.mayBe Scalar.boolTag then Scalar.boolText? s.text else none
  | _ => none

/-- A leaf as a whole number within limits. -/
def whole? (lo hi : Int) (r : Record) : Option Int :=
  let n? := match r with
    | .leaf (.number (.whole n)) => some n
    | .leaf (.scalar s) => if s.mayBe Scalar.intTag then Scalar.integer? s.text.toList else none
    | _ => none
  n?.filter fun n => lo ≤ n && n ≤ hi

/-- Whether a scalar says that there is nothing; none if its tag says so and its text does not. -/
def absentScalar? (s : Scalar) : Option Bool :=
  if s.style ≠ .plain then some false
  else
    match s.tag with
    | some tag =>
      if tag = Scalar.nullTag then if Scalar.isNullText s.text then some true else none
      else some false
    | none => some (s.text = "" || Scalar.isNullText s.text)

/-- Reads an optional value: nothing if the record says so, else what `f` reads. -/
def optional? {α : Type} (f : Record → Option α) (r : Record) : Option (Option α) :=
  match r with
  | .leaf .null => some none
  | .leaf (.scalar s) =>
    match absentScalar? s with
    | some true => some none
    | some false => (f r).map some
    | none => none
  | _ => (f r).map some

/-- The items of a list. -/
def items? : Record → Option (List Record)
  | .list items | .sequence _ items => some items
  | .leaf (.scalar s) => if s.isEmptyPlain then some [] else none
  | _ => none

/-- Keys and values in the order written. -/
def entries? : Record → Option (List (Record × Record))
  | .fields _ members => some members
  | .leaf (.scalar s) => if s.isEmptyPlain then some [] else none
  | _ => none

/-- Puts a value into the first slot whose names include the key; none if that slot is taken, or
    if no slot has the key and every key must have one. -/
def fill? (closed : Bool) (key : String) (value : Record) :
    List (List String × Option Record) → Option (List (List String × Option Record))
  | [] => if closed then none else some []
  | (names, slot) :: rest =>
    if names.contains key then
      match slot with
      | none => some ((names, some value) :: rest)
      | some _ => none
    else (fill? closed key value rest).map ((names, slot) :: ·)

/-- Values by position. -/
def align : List (List String) → List Record → Option (List (Option Record))
  | [], [] => some []
  | [], _ :: _ => none
  | _ :: ns, [] => (align ns []).map (none :: ·)
  | _ :: ns, r :: rs => (align ns rs).map (some r :: ·)

/-- Values by key. -/
def slots? (closed : Bool) (names : List (List String)) (members : List (Record × Record)) :
    Option (List (Option Record)) := do
  let slots ← members.foldlM (fun slots m => do fill? closed (← m.1.text?) m.2 slots)
    (names.map fun n => (n, none))
  return slots.map (·.2)

/-- The values of named fields, in the order of the names.  A key may stand once; keys without a
    field are refused if `closed`. -/
def fields? (closed : Bool) (names : List (List String)) (r : Record) :
    Option (List (Option Record)) :=
  match r with
  | .list items => align names items
  | _ => do slots? closed names (← r.entries?)

mutual
/-- How deeply a record is nested. -/
def depth : Record → Nat
  | .leaf _ | .unusable => 0
  | .list items | .sequence _ items => depths items + 1
  | .fields _ members => memberDepths members + 1
def depths : List Record → Nat
  | [] => 0
  | r :: rest => max (depth r) (depths rest)
def memberDepths : List (Record × Record) → Nat
  | [] => 0
  | (k, v) :: rest => max (max (depth k) (depth v)) (memberDepths rest)
end

/-- A list of texts. -/
def texts? (r : Record) : Option (List String) := do (← r.items?).mapM text?

/-- A field that may be missing. -/
def orElse {α : Type} (default : α) (read : Record → Option α) (slot : Option Record) : Option α :=
  match slot with
  | some r => read r
  | none => some default

mutual
/-- A value of any shape; own tags have no place in it. -/
def json? : Record → Option Json
  | .leaf .null => some .null
  | .leaf (.bool b) => some (.bool b)
  | .leaf (.number n) => some (.number n)
  | .leaf (.text s) => some (.string s)
  | .leaf (.scalar s) =>
    if (Scalar.ownTag? s.tag).isSome then none
    else
      match s.meaning? false with
      | none => none
      | some .null => some .null
      | some (.bool b) => some (.bool b)
      | some (.number (.real x)) => some (if x.isFinite then .number (.real x) else .null)
      | some (.number n) => some (.number n)
      | some (.text t) => some (.string t)
      | some .outOfRange => none
  | .list items => (jsons? items).map .array
  | .sequence tag items =>
    if (Scalar.ownTag? tag).isSome then none else (jsons? items).map .array
  | .fields tag members =>
    if (Scalar.ownTag? tag).isSome then none
    else (jsonMembers? members).map fun ms => .object (Keyed.ascending ms)
  | .unusable => none
def jsons? : List Record → Option (List Json)
  | [] => some []
  | r :: rest => do return (← json? r) :: (← jsons? rest)
def jsonMembers? : List (Record × Record) → Option (List (String × Json))
  | [] => some []
  | (k, v) :: rest => do return ((← k.text?), (← json? v)) :: (← jsonMembers? rest)
end

mutual
/-- A JSON value as a record. -/
def ofJson : Json → Record
  | .null => .leaf .null
  | .bool b => .leaf (.bool b)
  | .number n => .leaf (.number n)
  | .string s => .leaf (.text s)
  | .array items => .list (ofJsons items)
  | .object members => .fields none (ofMembers members)
def ofJsons : List Json → List Record
  | [] => []
  | v :: rest => ofJson v :: ofJsons rest
def ofMembers : List (String × Json) → List (Record × Record)
  | [] => []
  | (k, v) :: rest => (ofText k, ofJson v) :: ofMembers rest
end

end Record

end ExerciseGrading
