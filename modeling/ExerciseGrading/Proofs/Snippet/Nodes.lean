/-
  THE NODES of a snippet: all its expressions with their places, however deep they stand.

  1. `nodes` lists them for an expression, a statement, the body of an arrow function, a program.
  2. `names` are the identifiers among them: what a snippet mentions.

  A requirement on the nodes of a tree is one on the nodes of each of its parts, since the lists are
  appended; this is how an induction over a tree hands it down.
-/
import ExerciseGrading.Snippet.Expr

namespace ExerciseGrading.Snippet

/-- An expression at its place. -/
abbrev Node := Span × Form

mutual
/-- An expression and all expressions inside it. -/
def Expr.nodes : Expr → List Node
  | .mk span form => (span, form) :: form.parts
/-- All expressions inside a form. -/
def Form.parts : Form → List Node
  | .array items => nodesOfExprs items
  | .object members => nodesOfMembers members
  | .member object _ _ => object.nodes
  | .index object index => object.nodes ++ index.nodes
  | .call callee args => callee.nodes ++ nodesOfExprs args
  | .unary _ operand => operand.nodes
  | .binary _ lhs rhs => lhs.nodes ++ rhs.nodes
  | .conditional condition yes no => condition.nodes ++ (yes.nodes ++ no.nodes)
  | .arrow _ body => body.nodes
  | .undefined | .null | .bool _ | .number _ | .string _ | .regex .. | .name _ => []
/-- All nodes of some expressions, one after the other. -/
def nodesOfExprs : List Expr → List Node
  | [] => []
  | e :: rest => e.nodes ++ nodesOfExprs rest
def nodesOfMembers : List Member → List Node
  | [] => []
  | .mk _ e :: rest => e.nodes ++ nodesOfMembers rest
def ArrowBody.nodes : ArrowBody → List Node
  | .value e => e.nodes
  | .block body => nodesOfStmts body
def Stmt.nodes : Stmt → List Node
  | .bind _ _ value => value.nodes
  | .returnValue _ value => value.nodes
  | .returnNothing _ => []
  | .ifThen condition yes => condition.nodes ++ yes.nodes
  | .ifElse condition yes no => condition.nodes ++ (yes.nodes ++ no.nodes)
  | .block body => nodesOfStmts body
  | .expr e => e.nodes
  | .empty => []
def nodesOfStmts : List Stmt → List Node
  | [] => []
  | s :: rest => s.nodes ++ nodesOfStmts rest
end

/-- All nodes of a program. -/
def Program.nodes (p : Program) : List Node := nodesOfStmts p.body

/-- The identifier that a node is, if it is one. -/
def Node.name? : Node → Option String
  | (_, .name s) => some s
  | _ => none

/-- The identifiers among nodes. -/
def namesOf (nodes : List Node) : List String := nodes.filterMap Node.name?

/-- The identifiers that a program mentions. -/
def Program.names (p : Program) : List String := namesOf p.nodes

/-- The identifiers that the body of an arrow function mentions. -/
def ArrowBody.names (b : ArrowBody) : List String := namesOf b.nodes

/-- A name is among the names if some node is that identifier. -/
theorem mem_namesOf {nodes : List Node} {s : String} :
    s ∈ namesOf nodes ↔ ∃ span, (span, .name s) ∈ nodes := by
  constructor
  · intro h
    obtain ⟨⟨span, form⟩, hn, hname⟩ := List.mem_filterMap.mp h
    cases form with
    -- no other form is an identifier
    | name s' =>
      obtain rfl := Option.some.inj hname
      exact ⟨span, hn⟩
    | _ => cases hname
  · rintro ⟨span, hn⟩
    exact List.mem_filterMap.mpr ⟨_, hn, rfl⟩

/-- Whether all nodes of a list meet a requirement. -/
def AllNodes (P : Span → Form → Prop) (nodes : List Node) : Prop := ∀ n ∈ nodes, P n.1 n.2

/-- The requirement to be one of these nodes. -/
def Among (nodes : List Node) (span : Span) (form : Form) : Prop := (span, form) ∈ nodes

theorem allNodes_among (nodes : List Node) : AllNodes (Among nodes) nodes := fun _ hn => hn

/-- The requirement that all nodes meet. -/
def Anywhere (_ : Span) (_ : Form) : Prop := True

theorem allNodes_anywhere (nodes : List Node) : AllNodes Anywhere nodes := fun _ _ => trivial

namespace AllNodes

variable {P : Span → Form → Prop} {a b : List Node}

/-- A requirement on all nodes of two parts is one on each part (`left`, `right`); of an expression
    and what is inside it, on both (`head`, `tail`). -/
theorem left (h : AllNodes P (a ++ b)) : AllNodes P a :=
  fun n hn => h n (List.mem_append_left b hn)

theorem right (h : AllNodes P (a ++ b)) : AllNodes P b :=
  fun n hn => h n (List.mem_append_right a hn)

theorem head {span : Span} {form : Form} (h : AllNodes P ((span, form) :: a)) : P span form :=
  h _ List.mem_cons_self

theorem tail {n : Node} (h : AllNodes P (n :: a)) : AllNodes P a :=
  fun m hm => h m (List.mem_cons_of_mem n hm)

end AllNodes

end ExerciseGrading.Snippet
