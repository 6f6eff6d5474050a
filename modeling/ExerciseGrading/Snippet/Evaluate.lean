/-
  EVALUATION of snippets.

  1. Expressions and statements are evaluated by recursion on the tree.  The body of an arrow
     function is no part of the tree that calls it; it comes in through `invoke`, the function that
     evaluates bodies.
  2. `invokeArrow` ties the knot with fuel.  One unit for each call in flight is enough, since more
     calls than the limit are refused.
  3. `run` evaluates a program: the value of the first `return`, else of the last statement that is
     an expression.
-/
import ExerciseGrading.Snippet.ListMethod
import ExerciseGrading.Snippet.Native
import ExerciseGrading.Snippet.Operation

namespace ExerciseGrading.Snippet

/-- Evaluates the body of an arrow function in a frame, for a call at a place. -/
abbrev Invoke := ArrowBody → Env → Span → Eval Value

/-- How a statement ends. -/
inductive Flow where
  /-- The next one follows; the value is that of the last expression, if there was one. -/
  | next (last : Option Value)
  | done (v : Value)
deriving Inhabited

namespace Flow

/-- What the body of an arrow function gives. -/
def bodyValue : Flow → Value
  | .done v => v
  | .next _ => .undefined

/-- What a program gives. -/
def programValue : Flow → Value
  | .done v => v
  | .next (some v) => v
  | .next none => .undefined

end Flow

open Eval

/-! ## Calls -/

/-- The names that the body of an arrow function sees; an argument that is missing is
    `undefined`. -/
def frame (seen : Env) : List String → List Value → Env
  | [], _ => seen
  | p :: ps, args => frame ((p, args.head?.getD .undefined) :: seen) ps (args.drop 1)

/-- Calls a value. -/
def callValue (invoke : Invoke) (f : Value) (args : List Value) (span : Span) : Eval Value :=
  match f with
  | .native n => settle (n.call args span)
  | .arrow _ params body seen => invoke body (frame seen params args) span
  | v => fail (.notFunction v.typeName span)

/-- A method of a value by name, as a function of its arguments. -/
def method? (invoke : Invoke) (v : Value) (name : String) :
    Option (List Value → Span → Eval Value) :=
  match v with
  | .string s =>
    (TextMethod.all.find? (·.name = name)).map fun (m : TextMethod) args _ => settle (m.call s args)
  | .list items =>
    match ListMethod.all.find? (·.name = name), ListSearch.all.find? (·.name = name) with
    | some m, _ => some fun args _ => pure (m.call items args)
    | none, some m => some fun args span =>
      m.call (fun v i => callValue invoke (arg args 0) [v, .number (Float.ofNat i)] span) items
    | none, none => none
  | .object members =>
    if name = "hasOwnProperty" then
      some fun args _ => pure (.bool (Keyed.find? (arg args 0).text members).isSome)
    else none
  | .pattern p =>
    if name = "test" then some fun args _ => pure (.bool (p.isMatch (arg args 0).text)) else none
  | _ => none

/-- The names of the methods that values of a type have, in ascending order. -/
def methodNames (type : String) : List String :=
  if type = "string" then TextMethod.all.map (·.name)
  else if type = "array" then
    ["concat", "every", "filter", "find", "findIndex", "includes", "indexOf", "join", "map",
     "slice", "some"]
  else if type = "object" then ["hasOwnProperty"]
  else if type = "regexp" then ["test"]
  else []

/-- Calls a method; a member of an object goes before the methods. -/
def callMethod (invoke : Invoke) (v : Value) (name : String) (args : List Value) (span : Span) :
    Eval Value :=
  let own := match v with
    | .object members => Keyed.find? name members
    | _ => none
  match own, method? invoke v name with
  | some f, _ => callValue invoke f args span
  | none, some m => m args span
  | none, none => fail (.noMethod v.typeName name span)

/-- A property of `undefined` or `null`: nothing if the reading is optional. -/
def readNullish (v : Value) (property : String) (optional : Bool) (span : Span) : Eval Value :=
  if optional then pure .undefined else fail (.nullishRead v.typeName property span)

/-! ## Expressions and statements -/

mutual
/-- Evaluates an expression. -/
def evalExpr (invoke : Invoke) : Expr → Eval Value
  | .mk span form => nested span (evalForm invoke span form)

def evalForm (invoke : Invoke) (span : Span) : Form → Eval Value
  | .undefined => pure .undefined
  | .null => pure .null
  | .bool b => pure (.bool b)
  | .number x => pure (.number x)
  | .string s => pure (.string s)
  | .regex source flags => settle ((compilePattern source flags).map .pattern)
  | .name s => look s span
  | .array items => do return .list (← evalExprs invoke items)
  | .object members => do return .object (← evalMembers invoke members [])
  | .member object property optional => do
    let v ← evalExpr invoke object
    if v.isNullish then readNullish v property optional span
    else return v.property property
  | .index object index => do
    let v ← evalExpr invoke object
    let key ← evalExpr invoke index
    if v.isNullish then readNullish v key.text false span
    else return v.at_ key
  | .call (.mk _ (.member object property optional)) args => do
    let v ← evalExpr invoke object
    if v.isNullish then readNullish v property optional span
    else
      let values ← evalExprs invoke args
      callMethod invoke v property values span
  | .call callee args => do
    let f ← evalExpr invoke callee
    let values ← evalExprs invoke args
    callValue invoke f values span
  | .unary op operand => do return op.apply (← evalExpr invoke operand)
  | .binary op lhs rhs => do
    let a ← evalExpr invoke lhs
    match op.decided? a with
    | some true => return a
    | some false => evalExpr invoke rhs
    | none => return op.apply a (← evalExpr invoke rhs)
  | .conditional condition yes no => do
    let c ← evalExpr invoke condition
    if c.truthy then evalExpr invoke yes else evalExpr invoke no
  | .arrow params body => do
    let id ← newId
    return .arrow id params body (← inSight)

/-- Evaluates expressions from left to right. -/
def evalExprs (invoke : Invoke) : List Expr → Eval (List Value)
  | [] => pure []
  | e :: rest => do
    let v ← evalExpr invoke e
    return v :: (← evalExprs invoke rest)

/-- Evaluates the members of an object; of members with one key the last counts. -/
def evalMembers (invoke : Invoke) :
    List Member → List (String × Value) → Eval (List (String × Value))
  | [], acc => pure acc
  | .mk key e :: rest, acc => do
    let v ← evalExpr invoke e
    evalMembers invoke rest (Keyed.insert key v acc)
end

mutual
/-- Carries out a statement. -/
def execStmt (invoke : Invoke) : Stmt → Eval Flow
  | .bind _ name value => do
    bindName name (← evalExpr invoke value)
    return .next none
  | .returnValue _ value => do return .done (← evalExpr invoke value)
  | .returnNothing _ => return .done .undefined
  | .ifThen condition yes => do
    let c ← evalExpr invoke condition
    if c.truthy then execStmt invoke yes else return .next none
  | .ifElse condition yes no => do
    let c ← evalExpr invoke condition
    if c.truthy then execStmt invoke yes else execStmt invoke no
  | .block body => inBlock (execStmts invoke body none)
  | .expr e => do return .next (some (← evalExpr invoke e))
  | .empty => return .next none

/-- Carries out statements up to the first that returns; `last` is the value of the last expression
    so far. -/
def execStmts (invoke : Invoke) : List Stmt → Option Value → Eval Flow
  | [], last => return .next last
  | s :: rest, last => do
    match ← execStmt invoke s with
    | .done v => return .done v
    | .next (some v) => execStmts invoke rest (some v)
    | .next none => execStmts invoke rest last
end

/-! ## Arrow functions -/

/-- Evaluates the body of an arrow function. -/
def evalBody (invoke : Invoke) : ArrowBody → Eval Value
  | .value e => evalExpr invoke e
  | .block body => do return (← execStmts invoke body none).bodyValue

/-- Calls arrow functions, with fuel for so many calls inside one another. -/
def invokeArrow : Nat → Invoke
  | 0, _, _, _ => throw .outOfFuel
  | fuel + 1, body, env, span => inFrame env span (evalBody (invokeArrow fuel) body)

/-! ## Programs -/

/-- The limits of an evaluation. -/
structure Limits where
  depth : Nat := 128
  callDepth : Nat := 32
deriving Repr, DecidableEq

/-- The context in which a program starts. -/
def Context.start (env : Env) (limits : Limits) : Context :=
  ⟨env, 0, 0, limits.depth, limits.callDepth, 0⟩

/-- Evaluates a program with so much fuel. -/
def runWith (fuel : Nat) (p : Program) : Eval Value := do
  return (← execStmts (invokeArrow fuel) p.body none).programValue

/-- The failure that stopped an evaluation.  Fuel never runs out before the limit on calls is
    reached. -/
def Halt.failure : Halt → Failure
  | .failed f => f
  | .outOfFuel => .callLimit ⟨0, 0⟩

/-- Evaluates a program where `env` is in sight. -/
def run (p : Program) (env : Env) (limits : Limits) : Except Failure Value :=
  let (r, _) := (runWith (limits.callDepth + 1) p).run.run (Context.start env limits)
  match r with
  | .ok v => .ok v
  | .error h => .error h.failure

theorem run_of_ok {p : Program} {env : Env} {limits : Limits} {v : Value} {c : Context}
    (h : runWith (limits.callDepth + 1) p (Context.start env limits) = (.ok v, c)) :
    run p env limits = .ok v := by
  simp only [run, ExceptT.run, StateT.run, h]

theorem run_of_error {p : Program} {env : Env} {limits : Limits} {halt : Halt} {c : Context}
    (h : runWith (limits.callDepth + 1) p (Context.start env limits) = (.error halt, c)) :
    run p env limits = .error halt.failure := by
  simp only [run, ExceptT.run, StateT.run, h]

end ExerciseGrading.Snippet
