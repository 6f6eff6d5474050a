/-
  CHECKS IN RECORDS: a flat record whose fields all have to hold.

  1. Each field is one check.  The fields count in a fixed order, whatever the order in which they
     are written.
  2. A record with one field is the check of that field; otherwise it is `all` of its fields, so
     that an empty record always holds.
  3. `toJson` writes a check as a record again.

  A record holds further records in three of its fields.  `readLevel` reads one level of a record,
  given how to read those inside; `read n` has `n` levels.
-/
import ExerciseGrading.Check
import ExerciseGrading.Record

namespace ExerciseGrading

namespace Check

/-! ## Reading -/

/-- What a field means: the checks that it adds. -/
abbrev FieldReader := Record → Option (List Check)

/-- A field that may be absent although it is written. -/
def field {α : Type} (read : Record → Option α) (make : α → List Check) : FieldReader :=
  fun r => (r.optional? read).map fun
    | some a => make a
    | none => []

/-- A field that holds a text. -/
def textField (make : String → Check) : FieldReader := field Record.text? fun s => [make s]

/-- A path and a value to compare with. -/
def equals? (r : Record) : Option (String × Json) := do
  match ← r.fields? false [["path"], ["value"]] with
  | [some path, some value] => return (← path.text?, ← value.json?)
  | _ => none

/-- A path and the names of fields. -/
def itemsHave? (r : Record) : Option (String × List String) := do
  match ← r.fields? false [["path"], ["fields"]] with
  | [some path, some fields] => return (← path.text?, ← fields.texts?)
  | _ => none

/-- The fields of a check record, in the order in which they count. -/
def fieldReaders (inner : Record → Option Check) : List (String × FieldReader) :=
  let checks (r : Record) : Option (List Check) := do (← r.items?).mapM inner
  [("contains", textField .contains),
   ("notContains", textField .lacks),
   ("matches", textField .pattern),
   ("notMatches", textField .noPattern),
   ("yamlValid", field Record.bool? fun b => if b then [.isDocument] else []),
   ("yamlHas", textField .hasPath),
   ("yamlNotHas", textField .lacksPath),
   ("yamlIsArray", textField .isList),
   ("yamlEquals", field equals? fun (path, value) => [.equals path value]),
   ("yamlItemsHave", field itemsHave? fun (path, fields) => [.itemsHave path fields]),
   ("custom", textField .snippet),
   ("all", field checks fun cs => [.all cs]),
   ("any", field checks fun cs => [.any cs]),
   ("not", field inner fun c => [.not c])]

/-- Checks that all have to hold, as one check. -/
def together : List Check → Check
  | [c] => c
  | cs => .all cs

/-- The checks of the fields that are written. -/
def readSlots : List FieldReader → List (Option Record) → Option (List Check)
  | f :: fs, some r :: slots => do return (← f r) ++ (← readSlots fs slots)
  | _ :: fs, none :: slots => readSlots fs slots
  | _, _ => some []

/-- One level of a check record. -/
def readLevel (inner : Record → Option Check) (r : Record) : Option Check := do
  let readers := fieldReaders inner
  let slots ← r.fields? false (readers.map fun f => [f.1])
  return together (← readSlots (readers.map (·.2)) slots)

/-- A check record with at most `n` levels. -/
def read : Nat → Record → Option Check
  | 0 => fun _ => none
  | n + 1 => readLevel (read n)

/-- The check that a record is. -/
def ofRecord? (r : Record) : Option Check := read (r.depth + 1) r

/-! ## Writing -/

mutual
/-- A check as a record. -/
def toJson : Check → Json
  | .contains text => .object [("contains", .string text)]
  | .lacks text => .object [("notContains", .string text)]
  | .pattern source => .object [("matches", .string source)]
  | .noPattern source => .object [("notMatches", .string source)]
  | .isDocument => .object [("yamlValid", .bool true)]
  | .hasPath path => .object [("yamlHas", .string path)]
  | .lacksPath path => .object [("yamlNotHas", .string path)]
  | .isList path => .object [("yamlIsArray", .string path)]
  | .equals path value =>
    .object [("yamlEquals", .object [("path", .string path), ("value", value)])]
  | .itemsHave path fields =>
    .object [("yamlItemsHave",
      .object [("path", .string path), ("fields", .array (fields.map .string))])]
  | .snippet source => .object [("custom", .string source)]
  | .all [] => .object []
  | .all (c :: rest) => .object [("all", .array (toJson c :: toJsons rest))]
  | .any checks => .object [("any", .array (toJsons checks))]
  | .not check => .object [("not", toJson check)]
def toJsons : List Check → List Json
  | [] => []
  | c :: rest => toJson c :: toJsons rest
end

end Check

end ExerciseGrading
