/-
  VALUES of snippets.

  1. `undefined` and `null` are two values; both, `false`, zero, not-a-number and the empty text
     count as false, and everything else as true.
  2. `strictEquals` never converts; lists, objects and patterns equal nothing, and an arrow
     function only itself.  `looseEquals` compares numbers, texts and booleans as numbers.
  3. `text` and `toNumber` are the conversions; `ofDocument` brings a document in.
-/
import ExerciseGrading.Snippet.Expr
import ExerciseGrading.Document
import ExerciseGrading.Pattern
import ExerciseGrading.Text.Blank
import ExerciseGrading.Text.Search

namespace ExerciseGrading.Snippet

/-- The functions that every snippet has. -/
inductive Native where
  | string
  | regExp
  | isArray
  | keys
  | values
  | entries
  | min
  | max
  | abs
  | floor
  | ceil
  | round
  | number
  | boolean
  | load
  | parse
  | parseYaml
  | getPath
deriving Repr, DecidableEq

namespace Native

def name : Native → String
  | string => "String"
  | regExp => "RegExp"
  | isArray => "isArray"
  | keys => "keys"
  | values => "values"
  | entries => "entries"
  | min => "min"
  | max => "max"
  | abs => "abs"
  | floor => "floor"
  | ceil => "ceil"
  | round => "round"
  | number => "Number"
  | boolean => "Boolean"
  | load => "load"
  | parse => "parse"
  | parseYaml => "parseYaml"
  | getPath => "getPath"

end Native

inductive Value where
  | undefined
  | null
  | bool (b : Bool)
  | number (x : Float)
  | string (s : String)
  | list (items : List Value)
  /-- Members in ascending order of their keys. -/
  | object (members : List (String × Value))
  | pattern (p : Pattern)
  /-- An arrow function with the names it sees; `id` tells apart what was made at different
      times. -/
  | arrow (id : Nat) (params : List String) (body : ArrowBody) (seen : List (String × Value))
  | native (n : Native)

instance : Inhabited Value := ⟨.undefined⟩

namespace Value

def typeName : Value → String
  | .undefined => "undefined"
  | .null => "null"
  | .bool _ => "boolean"
  | .number _ => "number"
  | .string _ => "string"
  | .list _ => "array"
  | .object _ => "object"
  | .pattern _ => "regexp"
  | .arrow .. | .native _ => "function"

/-- Whether a value is `undefined` or `null`. -/
def isNullish : Value → Bool
  | .undefined | .null => true
  | _ => false

/-- Whether a value counts as true. -/
def truthy : Value → Bool
  | .undefined | .null => false
  | .bool b => b
  | .number x => !(x == 0.0) && !x.isNaN
  | .string s => s ≠ ""
  | _ => true

def isPrimitive : Value → Bool
  | .undefined | .null | .bool _ | .number _ | .string _ => true
  | _ => false

/-! ## Conversions -/

/-- Not a number. -/
def nan : Float := 0.0 / 0.0

/-- A text as a number; blanks around it do not count, and no text at all is zero. -/
def numberOfText (s : String) : Float :=
  match Text.trim s.toList with
  | [] => 0.0
  | cs => (Number.float? cs).getD nan

/-- A value as a number. -/
def toNumber : Value → Float
  | .undefined => nan
  | .null => 0.0
  | .bool b => if b then 1.0 else 0.0
  | .number x => x
  | .string s => numberOfText s
  | .list [] => 0.0
  | .list [v] => toNumber v
  | _ => nan

mutual
/-- The text form of a value. -/
def text : Value → String
  | .undefined => "undefined"
  | .null => "null"
  | .bool b => if b then "true" else "false"
  | .number x => Number.snippetText x
  | .string s => s
  | .list items => listText items
  | .object _ => "[object Object]"
  | .pattern p => "/" ++ p.source ++ "/"
  | .arrow .. | .native _ => "function"
/-- Items with commas between them; what is nullish leaves its place empty. -/
def listText : List Value → String
  | [] => ""
  | [v] => if v.isNullish then "" else text v
  | v :: w :: rest => (if v.isNullish then "" else text v) ++ "," ++ listText (w :: rest)
end

mutual
/-- A document as a value.  Keys become texts; a key that has none is left out, and of keys with
    the same text the last counts. -/
def ofDocument : Document → Value
  | .null => .null
  | .bool b => .bool b
  | .number n => .number n.toFloat
  | .string s => .string s
  | .sequence items => .list (ofDocuments items)
  | .mapping members => .object (Keyed.ascending (ofMembers members))
  | .tagged _ d => ofDocument d
def ofDocuments : List Document → List Value
  | [] => []
  | d :: rest => ofDocument d :: ofDocuments rest
def ofMembers : List (Document × Document) → List (String × Value)
  | [] => []
  | (k, v) :: rest =>
    match k.keyText? with
    | some key => (key, ofDocument v) :: ofMembers rest
    | none => ofMembers rest
end

/-! ## Equality -/

/-- Equality without any conversion. -/
def strictEquals : Value → Value → Bool
  | .undefined, .undefined => true
  | .null, .null => true
  | .bool a, .bool b => a == b
  | .number x, .number y => x == y
  | .string a, .string b => a == b
  | .arrow i .., .arrow j .. => i == j
  | .native a, .native b => a == b
  | _, _ => false

/-- Whether two values of different types are compared as numbers. -/
def comparedAsNumbers : Value → Value → Bool
  | .string _, .number _ => true
  | .number _, .string _ => true
  | .bool _, _ => true
  | _, .bool _ => true
  | _, _ => false

/-- Equality with conversions. -/
def looseEquals (a b : Value) : Bool :=
  if a.isNullish && b.isNullish then true
  else if a.isNullish || b.isNullish then false
  else if comparedAsNumbers a b then
    a.isPrimitive && b.isPrimitive && a.toNumber == b.toNumber
  else strictEquals a b

/-! ## Properties -/

/-- The character at a place, as a text. -/
def charAt (s : String) (i : Nat) : Value :=
  match s.toList[i]? with
  | some c => .string (String.singleton c)
  | none => .undefined

/-- A property by name; one that a value does not have is `undefined`. -/
def property (v : Value) (name : String) : Value :=
  match v with
  | .string s =>
    if name = "length" then .number (Float.ofNat s.length)
    else match Number.index? name.toList with
      | some i => charAt s i
      | none => .undefined
  | .list items =>
    if name = "length" then .number (Float.ofNat items.length)
    else match Number.index? name.toList with
      | some i => items[i]?.getD .undefined
      | none => .undefined
  | .object members => (Keyed.find? name members).getD .undefined
  | .pattern p => if name = "source" then .string p.source else .undefined
  | _ => .undefined

/-- What stands at a place in brackets: an item of a list or text at a whole number, otherwise the
    property with that name. -/
def at_ (v key : Value) : Value :=
  match v, key with
  | .list items, .number x =>
    if Number.isWhole x && 0.0 ≤ x then items[Number.toIndex x]?.getD .undefined
    else v.property key.text
  | .string s, .number x =>
    if Number.isWhole x && 0.0 ≤ x then charAt s (Number.toIndex x)
    else v.property key.text
  | _, .number _ => v.property key.text
  | _, .string _ => v.property key.text
  | _, _ => .undefined

end Value

end ExerciseGrading.Snippet
