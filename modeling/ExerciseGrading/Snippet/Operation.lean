/-
  OPERATIONS on values that are already there: everything between two operands but `&&` and `||`,
  which do not always need both.
-/
import ExerciseGrading.Snippet.Value

namespace ExerciseGrading.Snippet

/-- The order of two values: texts by their characters, everything else as numbers; none if one is
    not a number. -/
def orderOf (a b : Value) : Option Ordering :=
  match a, b with
  | .string s, .string t => some (if s < t then .lt else if s = t then .eq else .gt)
  | _, _ => Number.order a.toNumber b.toNumber

/-- Whether two values are in one of the given orders. -/
def ordered (allowed : List Ordering) (a b : Value) : Value :=
  .bool <| match orderOf a b with
    | some o => allowed.contains o
    | none => false

/-- Whether adding this value joins texts. -/
def joinsTexts : Value → Bool
  | .string _ | .list _ | .object _ => true
  | _ => false

/-- A sum of numbers, or the texts of both values one after the other. -/
def addition (a b : Value) : Value :=
  if joinsTexts a || joinsTexts b then .string (a.text ++ b.text)
  else .number (a.toNumber + b.toNumber)

/-- The value of an operator for two operands; `&&` and `||` are decided elsewhere. -/
def BinaryOp.apply (op : BinaryOp) (a b : Value) : Value :=
  match op with
  | .strictEq => .bool (a.strictEquals b)
  | .strictNe => .bool (!a.strictEquals b)
  | .eq => .bool (a.looseEquals b)
  | .ne => .bool (!a.looseEquals b)
  | .lt => ordered [.lt] a b
  | .le => ordered [.lt, .eq] a b
  | .gt => ordered [.gt] a b
  | .ge => ordered [.gt, .eq] a b
  | .add => addition a b
  | .sub => .number (a.toNumber - b.toNumber)
  | .mul => .number (a.toNumber * b.toNumber)
  | .div => .number (a.toNumber / b.toNumber)
  | .rem => .number (Number.remainder a.toNumber b.toNumber)
  | .and | .or => .undefined

def UnaryOp.apply (op : UnaryOp) (v : Value) : Value :=
  match op with
  | .not => .bool !v.truthy
  | .neg => .number (-v.toNumber)

/-- The first operand, if it decides the operator alone. -/
def BinaryOp.decided? (op : BinaryOp) (a : Value) : Option Bool :=
  match op with
  | .and => some !a.truthy
  | .or => some a.truthy
  | _ => none

end ExerciseGrading.Snippet
