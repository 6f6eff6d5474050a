/-
  MENTIONS: all names that stand in a snippet, and what each is there for.

  Besides the identifiers among its expressions a snippet names what it binds, the parameters of its
  arrow functions, the properties that it reads and the keys of its objects.  `mentions` lists them
  all, in the order of the tree; the identifiers among them are the `names` of the nodes.

  `SameNames` compares a list of nodes and a list of mentions through their identifiers alone, so
  that the recursion over the tree (`Expr.sameNames` to `sameNamesOfStmts`) has three steps to
  choose from: two parts in a row (`append`), an expression that is no identifier (`node`), and a
  mention that is none (`mention`).  `Program.names_eq_mentions` is the case of a program.
-/
import ExerciseGrading.Proofs.Snippet.Nodes

namespace ExerciseGrading.Snippet

/-- A name that stands in a snippet. -/
inductive Mention where
  /-- An identifier. -/
  | name (span : Span) (word : String)
  /-- What a `const` or `let` binds. -/
  | binding (span : Span) (word : String)
  /-- A parameter of the arrow function at a place. -/
  | parameter (span : Span) (word : String)
  /-- The property that the expression at a place reads. -/
  | property (span : Span) (word : String)
  /-- The key of a member, with the value of the member. -/
  | key (word : String) (value : Expr)

/-- The word that is mentioned. -/
def Mention.word : Mention → String
  | .name _ w | .binding _ w | .parameter _ w | .property _ w | .key w _ => w

mutual
/-- All names in an expression. -/
def Expr.mentions : Expr → List Mention
  | .mk span form => form.mentions span
/-- All names in a form that stands at a place. -/
def Form.mentions (span : Span) : Form → List Mention
  | .name w => [.name span w]
  | .array items => mentionsOfExprs items
  | .object members => mentionsOfMembers members
  | .member object property _ => object.mentions ++ [.property span property]
  | .index object index => object.mentions ++ index.mentions
  | .call callee args => callee.mentions ++ mentionsOfExprs args
  | .unary _ operand => operand.mentions
  | .binary _ lhs rhs => lhs.mentions ++ rhs.mentions
  | .conditional condition yes no => condition.mentions ++ (yes.mentions ++ no.mentions)
  | .arrow params body => params.map (.parameter span) ++ body.mentions
  | .undefined | .null | .bool _ | .number _ | .string _ | .regex .. => []
def mentionsOfExprs : List Expr → List Mention
  | [] => []
  | e :: rest => e.mentions ++ mentionsOfExprs rest
def Member.mentions : Member → List Mention
  | .mk key value => .key key value :: value.mentions
def mentionsOfMembers : List Member → List Mention
  | [] => []
  | m :: rest => m.mentions ++ mentionsOfMembers rest
def ArrowBody.mentions : ArrowBody → List Mention
  | .value e => e.mentions
  | .block body => mentionsOfStmts body
def Stmt.mentions : Stmt → List Mention
  | .bind span name value => .binding span name :: value.mentions
  | .returnValue _ value => value.mentions
  | .returnNothing _ => []
  | .ifThen condition yes => condition.mentions ++ yes.mentions
  | .ifElse condition yes no => condition.mentions ++ (yes.mentions ++ no.mentions)
  | .block body => mentionsOfStmts body
  | .expr e => e.mentions
  | .empty => []
def mentionsOfStmts : List Stmt → List Mention
  | [] => []
  | s :: rest => s.mentions ++ mentionsOfStmts rest
end

/-- All names in a program. -/
def Program.mentions (p : Program) : List Mention := mentionsOfStmts p.body

/-! ## Lists, part by part -/

/-- A list mentions what one of its expressions mentions. -/
theorem mem_mentionsOfExprs {m : Mention} {es : List Expr} :
    m ∈ mentionsOfExprs es ↔ ∃ e ∈ es, m ∈ e.mentions := by
  induction es with
  | nil => simp [mentionsOfExprs]
  | cons e rest ih => simp [mentionsOfExprs, ih]

/-- So do members … -/
theorem mem_mentionsOfMembers {m : Mention} {ms : List Member} :
    m ∈ mentionsOfMembers ms ↔ ∃ member ∈ ms, m ∈ member.mentions := by
  induction ms with
  | nil => simp [mentionsOfMembers]
  | cons member rest ih => simp [mentionsOfMembers, ih]

/-- … and statements. -/
theorem mem_mentionsOfStmts {m : Mention} {body : List Stmt} :
    m ∈ mentionsOfStmts body ↔ ∃ s ∈ body, m ∈ s.mentions := by
  induction body with
  | nil => simp [mentionsOfStmts]
  | cons s rest ih => simp [mentionsOfStmts, ih]

/-! ## Identifiers -/

/-- The identifier that a mention is, if it is one. -/
def Mention.identifier? : Mention → Option String
  | .name _ w => some w
  | _ => none

/-- An identifier is the word that is mentioned. -/
theorem Mention.word_of_identifier? {w : String} (m : Mention) (h : m.identifier? = some w) :
    m.word = w := by
  cases m with
  | name span w' => exact Option.some.inj h
  | _ => cases h

/-- Nodes and mentions with the same identifiers, in the same order. -/
def SameNames (nodes : List Node) (mentions : List Mention) : Prop :=
  namesOf nodes = mentions.filterMap Mention.identifier?

namespace SameNames

variable {a b : List Node} {ms ns : List Mention}

theorem nil : SameNames [] [] := rfl

theorem append (h : SameNames a ms) (h' : SameNames b ns) : SameNames (a ++ b) (ms ++ ns) := by
  unfold SameNames namesOf at *
  rw [List.filterMap_append, List.filterMap_append, h, h']

/-- An expression that is no identifier adds none. -/
theorem node {span : Span} {form : Form} (hform : Node.name? (span, form) = none)
    (h : SameNames a ms) : SameNames ((span, form) :: a) ms := by
  unfold SameNames namesOf at *
  rw [List.filterMap_cons_none hform, h]

/-- A mention that is no identifier adds none. -/
theorem mention {m : Mention} (hm : m.identifier? = none) (h : SameNames a ms) :
    SameNames a (m :: ms) := by
  unfold SameNames at *
  rw [List.filterMap_cons_none hm, h]

end SameNames

mutual
/-- The identifiers of an expression, by the form that it has. -/
theorem Expr.sameNames : ∀ e : Expr, SameNames e.nodes e.mentions
  | .mk span (.name w) => by
    rw [Expr.nodes, Form.parts, Expr.mentions, Form.mentions]
    rfl
  | .mk span (.array items) => by
    rw [Expr.nodes, Form.parts, Expr.mentions, Form.mentions]
    exact .node rfl (sameNamesOfExprs items)
  | .mk span (.object members) => by
    rw [Expr.nodes, Form.parts, Expr.mentions, Form.mentions]
    exact .node rfl (sameNamesOfMembers members)
  -- the property stands behind its object, and is no identifier
  | .mk span (.member object property _) => by
    rw [Expr.nodes, Form.parts, Expr.mentions, Form.mentions, ← List.append_nil object.nodes]
    exact .node rfl (object.sameNames.append (.mention rfl .nil))
  | .mk span (.index object index) => by
    rw [Expr.nodes, Form.parts, Expr.mentions, Form.mentions]
    exact .node rfl (object.sameNames.append index.sameNames)
  | .mk span (.call callee args) => by
    rw [Expr.nodes, Form.parts, Expr.mentions, Form.mentions]
    exact .node rfl (callee.sameNames.append (sameNamesOfExprs args))
  | .mk span (.unary _ operand) => by
    rw [Expr.nodes, Form.parts, Expr.mentions, Form.mentions]
    exact .node rfl operand.sameNames
  | .mk span (.binary _ lhs rhs) => by
    rw [Expr.nodes, Form.parts, Expr.mentions, Form.mentions]
    exact .node rfl (lhs.sameNames.append rhs.sameNames)
  | .mk span (.conditional condition yes no) => by
    rw [Expr.nodes, Form.parts, Expr.mentions, Form.mentions]
    exact .node rfl (condition.sameNames.append (yes.sameNames.append no.sameNames))
  | .mk span (.arrow params body) => by
    rw [Expr.nodes, Form.parts, Expr.mentions, Form.mentions, ← List.nil_append body.nodes]
    refine .node rfl (.append ?_ body.sameNames)
    -- parameters are mentioned in front of the body, and none is an identifier
    induction params with
    | nil => exact .nil
    | cons w params ih => exact .mention rfl ih
  | .mk span .undefined | .mk span .null | .mk span (.bool _) | .mk span (.number _)
  | .mk span (.string _) | .mk span (.regex ..) => by
    rw [Expr.nodes, Form.parts, Expr.mentions, Form.mentions]
    exact .node rfl .nil
theorem sameNamesOfExprs : ∀ es : List Expr, SameNames (nodesOfExprs es) (mentionsOfExprs es)
  | [] => by
    rw [nodesOfExprs, mentionsOfExprs]
    exact .nil
  | e :: rest => by
    rw [nodesOfExprs, mentionsOfExprs]
    exact e.sameNames.append (sameNamesOfExprs rest)
/-- A key is mentioned, but it is no identifier. -/
theorem sameNamesOfMembers :
    ∀ ms : List Member, SameNames (nodesOfMembers ms) (mentionsOfMembers ms)
  | [] => by
    rw [nodesOfMembers, mentionsOfMembers]
    exact .nil
  | .mk key value :: rest => by
    rw [nodesOfMembers, mentionsOfMembers, Member.mentions]
    exact .mention rfl (value.sameNames.append (sameNamesOfMembers rest))
theorem ArrowBody.sameNames : ∀ b : ArrowBody, SameNames b.nodes b.mentions
  | .value e => by
    rw [ArrowBody.nodes, ArrowBody.mentions]
    exact e.sameNames
  | .block body => by
    rw [ArrowBody.nodes, ArrowBody.mentions]
    exact sameNamesOfStmts body
/-- What a statement binds is mentioned, but it is no identifier. -/
theorem Stmt.sameNames : ∀ s : Stmt, SameNames s.nodes s.mentions
  | .bind _ _ value => by
    rw [Stmt.nodes, Stmt.mentions]
    exact .mention rfl value.sameNames
  | .returnValue _ value => by
    rw [Stmt.nodes, Stmt.mentions]
    exact value.sameNames
  | .returnNothing _ | .empty => by
    rw [Stmt.nodes, Stmt.mentions]
    exact .nil
  | .ifThen condition yes => by
    rw [Stmt.nodes, Stmt.mentions]
    exact condition.sameNames.append yes.sameNames
  | .ifElse condition yes no => by
    rw [Stmt.nodes, Stmt.mentions]
    exact condition.sameNames.append (yes.sameNames.append no.sameNames)
  | .block body => by
    rw [Stmt.nodes, Stmt.mentions]
    exact sameNamesOfStmts body
  | .expr e => by
    rw [Stmt.nodes, Stmt.mentions]
    exact e.sameNames
theorem sameNamesOfStmts : ∀ body : List Stmt, SameNames (nodesOfStmts body) (mentionsOfStmts body)
  | [] => by
    rw [nodesOfStmts, mentionsOfStmts]
    exact .nil
  | s :: rest => by
    rw [nodesOfStmts, mentionsOfStmts]
    exact s.sameNames.append (sameNamesOfStmts rest)
end

/-- **The names of a program are the identifiers among its mentions.** -/
theorem Program.names_eq_mentions (p : Program) :
    p.names = p.mentions.filterMap Mention.identifier? :=
  sameNamesOfStmts p.body

end ExerciseGrading.Snippet
