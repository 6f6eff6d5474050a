/-
  DOCUMENTS: submitted text as data.

  1. `Document.ofText?` reads a text as one document; none if it is not one.
  2. No two keys of a mapping are the `same`: numbers by value, texts by their characters, mappings
     whatever the order of their keys.
  3. `keyText?` is the text form of a key that is no list and no mapping.
  4. `equalsScalar` compares with a value that a check names, without any conversion.
-/
import ExerciseGrading.Yaml.Node

namespace ExerciseGrading

inductive Document where
  | null
  | bool (b : Bool)
  | number (n : Numeral)
  | string (s : String)
  | sequence (items : List Document)
  | mapping (members : List (Document × Document))
  | tagged (tag : String) (content : Document)
deriving Inhabited

namespace Document

/-! ## Sameness -/

mutual
/-- Whether two documents count as the same key. -/
def same : Document → Document → Bool
  | .null, .null => true
  | .bool a, .bool b => a == b
  | .number a, .number b => a.same b
  | .string a, .string b => a == b
  | .sequence xs, .sequence ys => allSame xs ys
  | .mapping ms, .mapping ns => ms.length == ns.length && allFound ms ns
  | .tagged s a, .tagged t b => s == t && same a b
  | _, _ => false
def allSame : List Document → List Document → Bool
  | [], [] => true
  | x :: xs, y :: ys => same x y && allSame xs ys
  | _, _ => false
def allFound : List (Document × Document) → List (Document × Document) → Bool
  | [], _ => true
  | (k, v) :: ms, ns => (ns.any fun n => same k n.1 && same v n.2) && allFound ms ns
end

/-! ## Reading -/

/-- A tag without the mark that it is shown with. -/
def tagName (name : String) : String :=
  match name.toList with
  | '!' :: c :: rest => String.ofList (c :: rest)
  | _ => name

/-- A tag as it is shown. -/
def tagText (tag : String) : String := "!" ++ tag

/-- What a scalar means. -/
def ofMeaning? : Scalar.Meaning → Option Document
  | .null => some .null
  | .bool b => some (.bool b)
  | .number n => some (.number n)
  | .text s => some (.string s)
  | .outOfRange => none

/-- A document under the tag of its own, if it has one. -/
def underTag (tag : Option String) (d : Document) : Document :=
  match Scalar.ownTag? tag with
  | some name => .tagged (tagName name) d
  | none => d

def ofScalar? (s : Scalar) : Option Document := do
  let meaning ← s.meaning? (Scalar.ownTag? s.tag).isSome
  return underTag s.tag (← ofMeaning? meaning)

mutual
/-- The document that a record is. -/
def ofRecord? : Record → Option Document
  | .leaf .null => some .null
  | .leaf (.bool b) => some (.bool b)
  | .leaf (.number n) => some (.number n)
  | .leaf (.text s) => some (.string s)
  | .leaf (.scalar s) => ofScalar? s
  | .list items => (ofRecords? items).map .sequence
  | .sequence tag items => (ofRecords? items).map fun ds => underTag tag (.sequence ds)
  | .fields tag members => (ofMembers? members).map fun ms => underTag tag (.mapping ms)
  | .unusable => none
def ofRecords? : List Record → Option (List Document)
  | [] => some []
  | r :: rest => do return (← ofRecord? r) :: (← ofRecords? rest)
def ofMembers? : List (Record × Record) → Option (List (Document × Document))
  | [] => some []
  | (k, v) :: rest => do
    let k ← ofRecord? k
    let v ← ofRecord? v
    let ms ← ofMembers? rest
    if ms.any fun m => same k m.1 then none else return (k, v) :: ms
end

/-- The document that a text is. -/
def ofText? (text : String) : Option Document := do ofRecord? (← Yaml.record? text)

/-! ## Access -/

/-- The content under all tags. -/
def untagged : Document → Document
  | .tagged _ d => untagged d
  | d => d

theorem untagged_untagged (d : Document) : d.untagged.untagged = d.untagged := by
  fun_induction untagged d with
  | case1 _ _ ih => exact ih
  | case2 d h =>
    cases d with
    | tagged t c => exact absurd rfl (h t c)
    | _ => rfl

/-- The text form of a key; lists and mappings have none. -/
def keyText? (key : Document) : Option String :=
  match key.untagged with
  | .string s => some s
  | .number n => some n.yamlText
  | .bool b => some (if b then "true" else "false")
  | .null => some "null"
  | _ => none

/-- Whether a text stands under all tags. -/
def isText (d : Document) : Bool :=
  match d.untagged with
  | .string _ => true
  | _ => false

/-- Whether a document is just this text. -/
def isExactly (key : String) : Document → Bool
  | .string s => s == key
  | _ => false

/-- The value of a key: the text itself as key, else the first key with that text form that is no
    text. -/
def member? (key : String) (members : List (Document × Document)) : Option Document :=
  match members.find? fun m => m.1.isExactly key with
  | some m => some m.2
  | none => (members.find? fun m => !m.1.isText && m.1.keyText? = some key).map (·.2)

/-- The field of a mapping. -/
def field? (name : String) (d : Document) : Option Document :=
  match d.untagged with
  | .mapping members => (member? name members).map untagged
  | _ => none

/-- Equality with a value that a check names.  Lists and mappings equal nothing; numbers are
    compared as doubles. -/
def equalsScalar : Document → Json → Bool
  | .null, .null => true
  | .bool a, .bool b => a == b
  | .string a, .string b => a == b
  | .number a, .number b => a.toFloat == b.toFloat
  | .tagged _ d, v => equalsScalar d v
  | _, _ => false

end Document

end ExerciseGrading
