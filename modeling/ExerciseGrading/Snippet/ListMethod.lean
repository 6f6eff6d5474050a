/-
  METHODS OF LISTS.

  The first group needs nothing but the list and the arguments.  The second calls back: a function
  is called with each item and its place, from the front, until the answer is known; what stops
  the function stops the method.
-/
import ExerciseGrading.Snippet.Context
import ExerciseGrading.Snippet.TextMethod

namespace ExerciseGrading.Snippet

/-- The methods of lists that only look at their arguments. -/
inductive ListMethod where
  | concat
  | includes
  | indexOf
  | join
  | slice
deriving Repr, DecidableEq

namespace ListMethod

def name : ListMethod → String
  | .concat => "concat"
  | .includes => "includes"
  | .indexOf => "indexOf"
  | .join => "join"
  | .slice => "slice"

def all : List ListMethod := [.concat, .includes, .indexOf, .join, .slice]

/-- Equality in a search: as `===`, but not-a-number is found. -/
def finds (needle item : Value) : Bool :=
  item.strictEquals needle ||
  match item, needle with
  | .number a, .number b => a.isNaN && b.isNaN
  | _, _ => false

/-- The items of a list, or the value as one item. -/
def asItems : Value → List Value
  | .list items => items
  | v => [v]

/-- The texts of items with a separator between them; what is nullish is empty. -/
def joined (separator : String) (items : List Value) : String :=
  String.ofList <| Text.join separator.toList <|
    items.map fun v => if v.isNullish then [] else v.text.toList

/-- Calls a method on a list. -/
def call (m : ListMethod) (items : List Value) (args : List Value) : Value :=
  let first := arg args 0
  match m with
  | .concat => .list (items ++ args.flatMap asItems)
  | .includes => .bool (items.any (finds first))
  | .indexOf =>
    .number (match items.findIdx? fun v => v.strictEquals first with
      | some i => Float.ofNat i
      | none => -1.0)
  | .join =>
    let separator := match first with
      | .undefined => ","
      | v => v.text
    .string (joined separator items)
  | .slice => .list (Text.slice items (wholeArg? args 0) (wholeArg? args 1))

end ListMethod

/-! ## Methods that call back -/

/-- The methods of lists that call a function with each item. -/
inductive ListSearch where
  | every
  | filter
  | find
  | findIndex
  | map
  | some_
deriving Repr, DecidableEq

namespace ListSearch

def name : ListSearch → String
  | .every => "every"
  | .filter => "filter"
  | .find => "find"
  | .findIndex => "findIndex"
  | .map => "map"
  | .some_ => "some"

def all : List ListSearch := [.every, .filter, .find, .findIndex, .map, .some_]

section

variable {m : Type → Type} [Monad m] (f : Value → Nat → m Value)

/-- The first item, with its place, for which the function answers `wanted`. -/
def firstWhere (wanted : Bool) : List Value → Nat → m (Option (Value × Nat))
  | [], _ => pure none
  | v :: rest, i => do
    let r ← f v i
    if r.truthy = wanted then pure (some (v, i)) else firstWhere wanted rest (i + 1)

/-- The items for which the function answers something true. -/
def kept : List Value → Nat → m (List Value)
  | [], _ => pure []
  | v :: rest, i => do
    let r ← f v i
    let more ← kept rest (i + 1)
    pure (if r.truthy then v :: more else more)

/-- The answers for all items. -/
def mapped : List Value → Nat → m (List Value)
  | [], _ => pure []
  | v :: rest, i => do
    let r ← f v i
    let more ← mapped rest (i + 1)
    pure (r :: more)

/-- Calls a method with the function `f`. -/
def call (s : ListSearch) (items : List Value) : m Value :=
  match s with
  | .every => do return .bool (← firstWhere f false items 0).isNone
  | .some_ => do return .bool (← firstWhere f true items 0).isSome
  | .find => do
    return match ← firstWhere f true items 0 with
      | some (v, _) => v
      | none => .undefined
  | .findIndex => do
    return .number <| match ← firstWhere f true items 0 with
      | some (_, i) => Float.ofNat i
      | none => -1.0
  | .filter => do return .list (← kept f items 0)
  | .map => do return .list (← mapped f items 0)

end

end ListSearch

end ExerciseGrading.Snippet
