/-
  OPERATOR CHAINS: which operand an operator takes.

  The grammar reads a chain as a flat row of tokens: operators in front of an operand, the operand,
  what follows it, an operator, and so on.  A tree is made of the row by binding powers.

  1. `levels` is the table of all operators, from the loosest level to the tightest; `binding?`
     looks an operator up in it.  The power of a level is a multiple of `powerStep`, so that there
     is room below each for the bound of an operator that takes one of equal power to its right.
  2. `expression` begins a tree at the head of a row, and `extend` goes on with the tokens that
     bind more tightly than a bound.  An operator passes on its own power as the bound for what
     stands behind it.  Each call takes a token, so that as much fuel is enough as there are tokens.
  3. A row that no chain has, such as one with two operands side by side, makes no tree.
-/
import ExerciseGrading.Snippet.Expr

namespace ExerciseGrading.Snippet

/-! ## Tokens -/

/-- What may follow a primary expression. -/
inductive Postfix where
  | member (property : String) (optional : Bool)
  | index (e : Expr)
  | call (args : List Expr)

/-- What an operand becomes by what follows it. -/
def Postfix.form (e : Expr) : Postfix → Form
  | .member p o => .member e p o
  | .index k => .index e k
  | .call args => .call e args

/-- A token of a chain; what becomes a part of a span comes with its place. -/
inductive Token where
  | sign (op : Span × UnaryOp)
  | primary (e : Expr)
  | part (p : Span × Postfix)
  | operator (op : BinaryOp)

/-! ## The table -/

/-- What an operator is known by in the table. -/
inductive Operator where
  | unary (op : UnaryOp)
  | binary (op : BinaryOp)
  | member
  | optionalMember
  | index
  | call
deriving Repr, DecidableEq

/-- Which of two operators of equal power takes the operand between them. -/
inductive Side where
  | left
  | right
deriving Repr, DecidableEq

/-- Where an operator stands: in front of its operand, between two operands, or behind one. -/
inductive Affix where
  | before
  | between (side : Side)
  | after
deriving Repr, DecidableEq

/-- Operators between two operands, the first of which goes with the operator to the left. -/
def leftward (ops : List BinaryOp) : List (Operator × Affix) :=
  ops.map fun op => (.binary op, .between .left)

/-- All operators, from the loosest level to the tightest; those of one level bind alike. -/
def levels : List (List (Operator × Affix)) :=
  [leftward [.or],
   leftward [.and],
   leftward [.strictEq, .strictNe, .eq, .ne],
   leftward [.lt, .le, .gt, .ge],
   leftward [.add, .sub],
   leftward [.mul, .div, .rem],
   [(.unary .not, .before), (.unary .neg, .before)],
   [(.member, .after), (.optionalMember, .after), (.index, .after), (.call, .after)]]

/-- How far the levels are apart. -/
def powerStep : Nat := 10

/-- How an operator binds: where it stands, and how tightly. -/
structure Binding where
  affix : Affix
  power : Nat
deriving Repr, DecidableEq

/-- What a table says of an operator; the power of the first level is given. -/
def bindingFrom? (o : Operator) (power : Nat) : List (List (Operator × Affix)) → Option Binding
  | [] => none
  | level :: more =>
    match level.find? fun x => x.1 = o with
    | some x => some ⟨x.2, power⟩
    | none => bindingFrom? o (power + powerStep) more

/-- What the table of all operators says of one; the first level is a step above the least. -/
def binding? (o : Operator) : Option Binding := bindingFrom? o (2 * powerStep) levels

/-- The operator that a token is; a primary expression is none. -/
def Token.operator? : Token → Option Operator
  | .sign op => some (.unary op.2)
  | .primary _ => none
  | .part (_, .member _ false) => some .member
  | .part (_, .member _ true) => some .optionalMember
  | .part (_, .index _) => some .index
  | .part (_, .call _) => some .call
  | .operator op => some (.binary op)

def Token.binding? (t : Token) : Option Binding := t.operator?.bind Snippet.binding?

/-! ## Trees -/

/-- A primary expression by itself. -/
def Token.alone? : Token → Option Expr
  | .primary e => some e
  | _ => none

/-- A sign in front of an operand; the span covers both. -/
def Token.before? (t : Token) (operand : Expr) : Option Expr :=
  match t with
  | .sign (span, op) => some (.mk (span.join operand.span) (.unary op operand))
  | _ => none

/-- An operand with what follows it. -/
def Token.after? (t : Token) (operand : Expr) : Option Expr :=
  match t with
  | .part (span, p) => some (.mk (operand.span.join span) (p.form operand))
  | _ => none

/-- An operator between two operands. -/
def Token.between? (t : Token) (lhs rhs : Expr) : Option Expr :=
  match t with
  | .operator op => some (.mk (lhs.span.join rhs.span) (.binary op lhs rhs))
  | _ => none

/-- The bound behind an operator: one of equal power is only taken if the right one goes first. -/
def Side.bound : Side → Nat → Nat
  | .left, power => power
  | .right, power => power - 1

mutual
/-- The tree at the head of a row, as far as operators bind more tightly than `bound`, and the
    tokens behind it. -/
def expression : (fuel bound : Nat) → List Token → Option (Expr × List Token)
  | 0, _, _ => none
  | _ + 1, _, [] => none
  | n + 1, bound, t :: ts =>
    match t.binding? with
    | none => do extend n bound (← t.alone?) ts
    | some ⟨.before, power⟩ => do
      let (operand, rest) ← expression n (power - 1) ts
      extend n bound (← t.before? operand) rest
    | some _ => none
/-- The tree so far, with the tokens that bind more tightly than `bound`. -/
def extend : (fuel bound : Nat) → Expr → List Token → Option (Expr × List Token)
  | _, _, lhs, [] => some (lhs, [])
  | 0, _, _, _ :: _ => none
  | n + 1, bound, lhs, t :: ts =>
    match t.binding? with
    | none => none
    | some ⟨affix, power⟩ =>
      if bound < power then
        match affix with
        | .between side => do
          let (rhs, rest) ← expression n (side.bound power) ts
          extend n bound (← t.between? lhs rhs) rest
        | .after => do extend n bound (← t.after? lhs) ts
        | .before => none
      else some (lhs, t :: ts)
end

/-- The tree of a whole row. -/
def tree? (row : List Token) : Option Expr := (expression row.length 0 row).map (·.1)

end ExerciseGrading.Snippet
