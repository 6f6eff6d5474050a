/-
  JSON values, and writing them.

  1. The members of an object have an order, which writing keeps.  What is read as a value has
     them in ascending order of their keys, each key once.
  2. `text` writes without any layout, `pretty` with two blanks a level.
-/
import ExerciseGrading.Number.Numeral
import ExerciseGrading.Text.Quoted
import ExerciseGrading.Keyed

namespace ExerciseGrading

inductive Json where
  | null
  | bool (b : Bool)
  | number (n : Numeral)
  | string (s : String)
  | array (items : List Json)
  | object (members : List (String × Json))
deriving Inhabited

namespace Json

/-- A character inside a JSON string. -/
def escapeChar (c : Char) : List Char :=
  if c = '\"' then ['\\', '\"']
  else if c = '\\' then ['\\', '\\']
  else if c = '\x08' then ['\\', 'b']
  else if c = '\x0c' then ['\\', 'f']
  else if c = '\n' then ['\\', 'n']
  else if c = '\r' then ['\\', 'r']
  else if c = '\t' then ['\\', 't']
  else if c.toNat < 32 then
    ['\\', 'u', '0', '0', (if c.toNat < 16 then '0' else '1')] ++ Text.hexDigits (c.toNat % 16)
  else [c]

def quote (s : String) : String :=
  String.ofList ('\"' :: s.toList.flatMap escapeChar ++ ['\"'])

mutual
/-- A value without any layout. -/
def text : Json → String
  | .null => "null"
  | .bool b => if b then "true" else "false"
  | .number n => n.jsonText
  | .string s => quote s
  | .array items => "[" ++ texts items ++ "]"
  | .object members => "\x7b" ++ memberTexts members ++ "\x7d"
def texts : List Json → String
  | [] => ""
  | [v] => text v
  | v :: w :: rest => text v ++ "," ++ texts (w :: rest)
def memberTexts : List (String × Json) → String
  | [] => ""
  | [(k, v)] => quote k ++ ":" ++ text v
  | (k, v) :: m :: rest => quote k ++ ":" ++ text v ++ "," ++ memberTexts (m :: rest)
end

/-- A new line with the blanks of a level. -/
def newLine (level : Nat) : String := "\n" ++ String.ofList (List.replicate (2 * level) ' ')

mutual
/-- A value with two blanks for each level, from a level on. -/
def prettyAt (level : Nat) : Json → String
  | .array [] => "[]"
  | .array (v :: rest) =>
    "[" ++ newLine (level + 1) ++ prettyItems (level + 1) (v :: rest) ++ newLine level ++ "]"
  | .object [] => "\x7b\x7d"
  | .object (m :: rest) =>
    "\x7b" ++ newLine (level + 1) ++ prettyMembers (level + 1) (m :: rest) ++
      newLine level ++ "\x7d"
  | .null => "null"
  | .bool b => if b then "true" else "false"
  | .number n => n.jsonText
  | .string s => quote s
def prettyItems (level : Nat) : List Json → String
  | [] => ""
  | [v] => prettyAt level v
  | v :: w :: rest => prettyAt level v ++ "," ++ newLine level ++ prettyItems level (w :: rest)
def prettyMembers (level : Nat) : List (String × Json) → String
  | [] => ""
  | [(k, v)] => quote k ++ ": " ++ prettyAt level v
  | (k, v) :: m :: rest =>
    quote k ++ ": " ++ prettyAt level v ++ "," ++ newLine level ++ prettyMembers level (m :: rest)
end

/-- A value laid out for reading. -/
def pretty (v : Json) : String := prettyAt 0 v

/-- The member of an object with a key. -/
def get? (v : Json) (key : String) : Option Json :=
  match v with
  | .object members => members.lookup key
  | _ => none

end Json

end ExerciseGrading
