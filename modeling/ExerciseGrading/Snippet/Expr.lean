/-
  SNIPPETS as trees: the expressions and statements of the check language.

  An `Expr` is a `Form` at its place in the text.  Statements are few: a binding, a return, a
  choice, a block, an expression.  There are no loops and no assignments.
-/
import ExerciseGrading.Span

namespace ExerciseGrading.Snippet

inductive UnaryOp where
  | not
  | neg
deriving Repr, DecidableEq

inductive BinaryOp where
  | or
  | and
  | strictEq
  | strictNe
  | eq
  | ne
  | lt
  | le
  | gt
  | ge
  | add
  | sub
  | mul
  | div
  | rem
deriving Repr, DecidableEq

/-- How an operator is written. -/
def BinaryOp.symbol : BinaryOp → String
  | .or => "||"
  | .and => "&&"
  | .strictEq => "==="
  | .strictNe => "!=="
  | .eq => "=="
  | .ne => "!="
  | .lt => "<"
  | .le => "<="
  | .gt => ">"
  | .ge => ">="
  | .add => "+"
  | .sub => "-"
  | .mul => "*"
  | .div => "/"
  | .rem => "%"

/-- How an operator is written. -/
def UnaryOp.symbol : UnaryOp → String
  | .not => "!"
  | .neg => "-"

mutual
/-- An expression at its place in the snippet. -/
inductive Expr where
  | mk (span : Span) (form : Form)
/-- What an expression is. -/
inductive Form where
  | undefined
  | null
  | bool (b : Bool)
  | number (x : Float)
  | string (s : String)
  | regex (pattern flags : String)
  | name (s : String)
  | array (items : List Expr)
  | object (members : List Member)
  | member (object : Expr) (property : String) (optional : Bool)
  | index (object index : Expr)
  | call (callee : Expr) (args : List Expr)
  | unary (op : UnaryOp) (operand : Expr)
  | binary (op : BinaryOp) (lhs rhs : Expr)
  | conditional (condition yes no : Expr)
  | arrow (params : List String) (body : ArrowBody)
/-- A key and its value in an object. -/
inductive Member where
  | mk (key : String) (value : Expr)
/-- The body of an arrow function. -/
inductive ArrowBody where
  | value (e : Expr)
  | block (body : List Stmt)
inductive Stmt where
  /-- `const` or `let`. -/
  | bind (span : Span) (name : String) (value : Expr)
  | returnValue (span : Span) (value : Expr)
  | returnNothing (span : Span)
  | ifThen (condition : Expr) (yes : Stmt)
  | ifElse (condition : Expr) (yes no : Stmt)
  | block (body : List Stmt)
  | expr (e : Expr)
  | empty
end

instance : Inhabited Expr := ⟨.mk default .undefined⟩
instance : Inhabited Stmt := ⟨.empty⟩

namespace Expr

def span : Expr → Span
  | .mk s _ => s

def form : Expr → Form
  | .mk _ f => f

end Expr

/-- A snippet that was read: its statements. -/
structure Program where
  body : List Stmt
deriving Inhabited

end ExerciseGrading.Snippet
