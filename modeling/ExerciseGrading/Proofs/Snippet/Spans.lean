/-
  SPANS in the tree of a snippet: what it means that they are sound.

  1. `Stretch text span` — the span is a stretch of the text that is not empty, and begins and ends
     between characters.
  2. `Form.children` — the expressions right inside a form, in the order of the text.  Those of an
     arrow function are the expressions of its statements, however deep these are nested, since
     statements are no expressions.
  3. `SoundAt text span form` — the span is a stretch of the text, the children lie inside it, and
     each ends before the next one begins.
  4. `Along R lo as hi` — some things stand one after the other between two places; `R` says that
     one of them stands between two.  A `Row` of expressions, each sound with everything in it, is
     what every rule of the grammar leaves behind, and `stands_mk` makes of the row of its children
     one expression.

  **The crux (a row says everything).**  Being inside, being in order and being sound below are
  three statements about one list of children.  A row holds all three, and it is built from the left
  as a rule reads: `Along.cons` needs only that the next thing begins where the last one ended or
  later.  `Row.between`, `Row.inOrder` and `Row.sound` take them apart again, once, in `stands_mk`.
-/
import ExerciseGrading.Proofs.Snippet.Nodes
import ExerciseGrading.Proofs.Snippet.Places

namespace ExerciseGrading.Snippet

/-! ## Stretches of a text

  Spans count bytes, and a text is made of characters, so not every span is a stretch.  Those
  that rules make begin and end at places of inputs, and these are cuts. -/

/-- Whether a text can be cut behind so many bytes: between two characters, or at an end. -/
def Boundary (text : List Char) (n : Nat) : Prop :=
  ∃ before after, text = before ++ after ∧ n = Text.byteLength before

/-- A stretch of a text that is not empty. -/
structure Stretch (text : List Char) (span : Span) : Prop where
  start : Boundary text span.start
  stop : Boundary text span.stop
  nonempty : span.start < span.stop
  inside : span.stop ≤ Text.byteLength text

variable {text : List Char} {span span' : Span} {lo mid hi : Nat}

/-- A cut is inside the text. -/
theorem Boundary.le {n : Nat} (h : Boundary text n) : n ≤ Text.byteLength text := by
  obtain ⟨before, after, rfl, rfl⟩ := h
  rw [Text.byteLength_append]
  exact Nat.le_add_right _ _

/-- The place of an input is a cut, for it was counted in characters. -/
theorem Somewhere.boundary {i : Input} (h : Somewhere text i) : Boundary text i.pos := by
  obtain ⟨before, hat⟩ := h
  exact ⟨before, i.rest, hat.text_eq, hat.pos_eq⟩

theorem stretch_of_boundaries {start stop : Nat} (h : Boundary text start)
    (h' : Boundary text stop) (hlt : start < stop) : Stretch text ⟨start, stop⟩ :=
  ⟨h, h', hlt, h'.le⟩

/-- Two stretches and what is between them. -/
theorem join_of_le (h : Stretch text span) (h' : Stretch text span')
    (hle : span.stop ≤ span'.start) : span.join span' = ⟨span.start, span'.stop⟩ := by
  have hlt := h.nonempty
  have hlt' := h'.nonempty
  rw [Span.join, Nat.min_eq_left (by omega), Nat.max_eq_right (by omega)]

/-! ## Children

  A child is an expression right inside, with no expression between.  Statements stand between
  an arrow function and its expressions, and are gone through here so that nobody else has to. -/

/-- The value of a member. -/
def Member.value : Member → Expr
  | .mk _ e => e

mutual
/-- The expressions of a statement, and of the statements inside it, in the order of the text. -/
def Stmt.exprs : Stmt → List Expr
  | .bind _ _ value => [value]
  | .returnValue _ value => [value]
  | .returnNothing _ => []
  | .ifThen condition yes => condition :: yes.exprs
  | .ifElse condition yes no => condition :: (yes.exprs ++ no.exprs)
  | .block body => exprsOfStmts body
  | .expr e => [e]
  | .empty => []
def exprsOfStmts : List Stmt → List Expr
  | [] => []
  | s :: rest => s.exprs ++ exprsOfStmts rest
end

/-- The expressions of the body of an arrow function, in the order of the text. -/
def ArrowBody.exprs : ArrowBody → List Expr
  | .value e => [e]
  | .block body => exprsOfStmts body

/-- The expressions right inside a form, in the order of the text. -/
def Form.children : Form → List Expr
  | .array items => items
  | .object members => members.map Member.value
  | .member target _ _ => [target]
  | .index target key => [target, key]
  | .call callee args => callee :: args
  | .unary _ e => [e]
  | .binary _ lhs rhs => [lhs, rhs]
  | .conditional condition yes no => [condition, yes, no]
  | .arrow _ body => body.exprs
  | .undefined | .null | .bool _ | .number _ | .string _ | .regex .. | .name _ => []

/-! ### The nodes inside a form are those of its children -/

/-- The nodes of two lists in a row. -/
theorem nodesOfExprs_append (es fs : List Expr) :
    nodesOfExprs (es ++ fs) = nodesOfExprs es ++ nodesOfExprs fs := by
  induction es with
  | nil => rfl
  | cons e es ih => rw [List.cons_append, nodesOfExprs, nodesOfExprs, ih, List.append_assoc]

theorem nodesOfExprs_singleton (e : Expr) : nodesOfExprs [e] = e.nodes := by
  rw [nodesOfExprs, nodesOfExprs, List.append_nil]

mutual
/-- The nodes of a statement are those of its expressions. -/
theorem Stmt.nodes_eq_exprs : ∀ s : Stmt, s.nodes = nodesOfExprs s.exprs
  | .bind _ _ value => by rw [Stmt.nodes, Stmt.exprs, nodesOfExprs_singleton]
  | .returnValue _ value => by rw [Stmt.nodes, Stmt.exprs, nodesOfExprs_singleton]
  | .returnNothing _ => by rw [Stmt.nodes, Stmt.exprs, nodesOfExprs]
  | .ifThen condition yes => by
    rw [Stmt.nodes, Stmt.exprs, nodesOfExprs, Stmt.nodes_eq_exprs yes]
  | .ifElse condition yes no => by
    rw [Stmt.nodes, Stmt.exprs, nodesOfExprs, nodesOfExprs_append, Stmt.nodes_eq_exprs yes,
      Stmt.nodes_eq_exprs no]
  | .block body => by rw [Stmt.nodes, Stmt.exprs, nodesOfStmts_eq_exprs body]
  | .expr e => by rw [Stmt.nodes, Stmt.exprs, nodesOfExprs_singleton]
  | .empty => by rw [Stmt.nodes, Stmt.exprs, nodesOfExprs]
theorem nodesOfStmts_eq_exprs : ∀ body : List Stmt,
    nodesOfStmts body = nodesOfExprs (exprsOfStmts body)
  | [] => by rw [nodesOfStmts, exprsOfStmts, nodesOfExprs]
  | s :: rest => by
    rw [nodesOfStmts, exprsOfStmts, nodesOfExprs_append, Stmt.nodes_eq_exprs s,
      nodesOfStmts_eq_exprs rest]
end

/-- Keys are no nodes. -/
theorem nodesOfMembers_eq_values (members : List Member) :
    nodesOfMembers members = nodesOfExprs (members.map Member.value) := by
  induction members with
  | nil => rfl
  | cons m rest ih =>
    obtain ⟨key, e⟩ := m
    rw [nodesOfMembers, List.map_cons, nodesOfExprs, ih, Member.value]

theorem ArrowBody.nodes_eq_exprs (body : ArrowBody) : body.nodes = nodesOfExprs body.exprs := by
  cases body with
  | value e => rw [ArrowBody.nodes, ArrowBody.exprs, nodesOfExprs_singleton]
  | block body => rw [ArrowBody.nodes, ArrowBody.exprs, nodesOfStmts_eq_exprs]

/-- **The nodes inside a form are the nodes of its children.** -/
theorem Form.parts_eq_children (form : Form) : form.parts = nodesOfExprs form.children := by
  cases form with
  | object members => rw [Form.parts, Form.children, nodesOfMembers_eq_values]
  -- the statements of a body are no nodes, their expressions are
  | arrow params body => rw [Form.parts, Form.children, ArrowBody.nodes_eq_exprs]
  | _ => simp only [Form.parts, Form.children, nodesOfExprs, List.append_nil]

/-! ## Sound nodes -/

/-- Whether expressions stand in the order of the text, without overlap. -/
def InOrder (es : List Expr) : Prop := es.Pairwise fun a b => a.span.stop ≤ b.span.start

/-- The requirement that a node stands where its span says: the span is a stretch of the text, the
    children lie inside it, and each of them ends before the next begins. -/
structure SoundAt (text : List Char) (span : Span) (form : Form) : Prop where
  stretch : Stretch text span
  contains : ∀ c ∈ form.children, span.start ≤ c.span.start ∧ c.span.stop ≤ span.stop
  ordered : InOrder form.children

/-! ## One after the other

  `Along` is a list with the places between its items threaded through.  It grows at the front,
  as a rule reads, and can be cut where the list can. -/

/-- Things that stand one after the other between two places; `R lo a hi` says that `a` stands
    between two. -/
inductive Along {α : Type} (R : Nat → α → Nat → Prop) : Nat → List α → Nat → Prop where
  | nil {lo hi : Nat} : lo ≤ hi → Along R lo [] hi
  | cons {lo m n hi : Nat} {a : α} {as : List α} :
    lo ≤ m → R m a n → Along R n as hi → Along R lo (a :: as) hi

namespace Along

variable {α β : Type} {R R' : Nat → α → Nat → Prop} {lo' hi' : Nat} {a : α} {as bs : List α}

/-- There may be more room on both sides. -/
theorem mono (h : Along R lo as hi) (hlo : lo' ≤ lo) (hhi : hi ≤ hi') : Along R lo' as hi' := by
  induction h generalizing lo' with
  | nil hle => exact .nil (by omega)
  | cons hle ha _ ih => exact .cons (by omega) ha (ih (Nat.le_refl _) hhi)

/-- Two rows, the second where the first one ends. -/
theorem append (h : Along R lo as mid) (h' : Along R mid bs hi) : Along R lo (as ++ bs) hi := by
  induction h with
  | nil hle => exact h'.mono hle (Nat.le_refl _)
  | cons hle ha _ ih => exact .cons hle ha (ih h')

/-- What stands in a row can be cut between any two items. -/
theorem of_append (h : Along R lo (as ++ bs) hi) :
    ∃ mid, Along R lo as mid ∧ Along R mid bs hi := by
  induction as generalizing lo with
  | nil => exact ⟨lo, .nil (Nat.le_refl lo), h⟩
  | cons a as ih =>
    cases h with
    | cons hle ha htail =>
      obtain ⟨mid, has, hbs⟩ := ih htail
      exact ⟨mid, .cons hle ha has, hbs⟩

theorem map {R : Nat → β → Nat → Prop} {f : α → β}
    (h : Along (fun lo a hi => R lo (f a) hi) lo as hi) : Along R lo (as.map f) hi := by
  induction h with
  | nil hle => exact .nil hle
  | cons hle ha _ ih => exact .cons hle ha ih

end Along

/-! ## Rows of expressions

  A row of the expressions inside a form, within its span, is all that soundness asks of the
  form. -/

/-- An expression between two places, sound with everything inside it. -/
structure Stands (text : List Char) (lo : Nat) (e : Expr) (hi : Nat) : Prop where
  after : lo ≤ e.span.start
  sound : AllNodes (SoundAt text) e.nodes
  before : e.span.stop ≤ hi

/-- Expressions one after the other. -/
abbrev Row (text : List Char) : Nat → List Expr → Nat → Prop := Along (Stands text)

theorem Stands.mono {e : Expr} {lo' hi' : Nat} (h : Stands text lo e hi) (hlo : lo' ≤ lo)
    (hhi : hi ≤ hi') : Stands text lo' e hi' :=
  ⟨Nat.le_trans hlo h.after, h.sound, Nat.le_trans h.before hhi⟩

/-- What stands has a stretch of the text. -/
theorem Stands.stretch {e : Expr} (h : Stands text lo e hi) : Stretch text e.span := by
  obtain ⟨span, form⟩ := e
  have hsound := h.sound
  rw [Expr.nodes] at hsound
  exact hsound.head.stretch

theorem Stands.lt {e : Expr} (h : Stands text lo e hi) : lo < hi :=
  Nat.lt_of_le_of_lt h.after (Nat.lt_of_lt_of_le h.stretch.nonempty h.before)

/-- One expression is a row. -/
theorem Stands.row {e : Expr} (h : Stands text lo e hi) : Row text lo [e] hi :=
  .cons (Nat.le_refl lo) h (.nil (Nat.le_refl hi))

namespace Row

variable {es : List Expr}

/-- All nodes of a row are sound. -/
theorem sound (h : Row text lo es hi) : AllNodes (SoundAt text) (nodesOfExprs es) := by
  induction h with
  | nil _ => exact fun _ hn => absurd hn List.not_mem_nil
  | cons _ he _ ih =>
    intro n hn
    rw [nodesOfExprs] at hn
    rcases List.mem_append.mp hn with hn | hn
    · exact he.sound n hn
    · exact ih n hn

/-- All of a row lies between its ends. -/
theorem between (h : Row text lo es hi) :
    ∀ e ∈ es, lo ≤ e.span.start ∧ e.span.stop ≤ hi := by
  induction h with
  | nil _ => exact fun _ he => absurd he List.not_mem_nil
  | @cons lo m n hi e es hle he htail ih =>
    have hlt := he.lt
    have hafter := he.after
    have hbefore := he.before
    -- the place behind the first expression is no later than the end
    have hend : n ≤ hi := by
      cases htail with
      | nil hle => exact hle
      | cons hle he' _ =>
        have hlast := ih _ List.mem_cons_self
        have hlt' := he'.stretch.nonempty
        have hafter' := he'.after
        omega
    intro e' he'
    rcases List.mem_cons.mp he' with rfl | hmem
    · omega
    · have hwithin := ih e' hmem
      omega

/-- In a row each ends before the next begins, and so before all that follow. -/
theorem inOrder (h : Row text lo es hi) : InOrder es := by
  induction h with
  | nil _ => exact .nil
  | cons _ he htail ih =>
    refine List.pairwise_cons.mpr ⟨fun e' he' => ?_, ih⟩
    exact Nat.le_trans he.before (Row.between htail e' he').1

end Row

/-- **An expression made of a row**: if its children stand in a row inside its span, it is sound
    with all that is inside it. -/
theorem stands_mk {form : Form} (hspan : Stretch text span)
    (hrow : Row text span.start form.children span.stop) :
    Stands text span.start (.mk span form) span.stop where
  after := Nat.le_refl _
  before := Nat.le_refl _
  sound := by
    intro n hn
    rw [Expr.nodes, Form.parts_eq_children] at hn
    rcases List.mem_cons.mp hn with rfl | hn
    · exact ⟨hspan, hrow.between, hrow.inOrder⟩
    · exact hrow.sound n hn

/-- An expression whose span is joined from two stretches. -/
theorem stands_join {form : Form} (h : Stretch text span) (h' : Stretch text span')
    (hle : span.stop ≤ span'.start) (hrow : Row text span.start form.children span'.stop) :
    Stands text span.start (.mk (span.join span') form) span'.stop := by
  have hlt := h.nonempty
  have hlt' := h'.nonempty
  have hspan : Stretch text ⟨span.start, span'.stop⟩ :=
    stretch_of_boundaries h.start h'.stop (by omega)
  rw [join_of_le h h' hle]
  exact stands_mk hspan hrow

/-- A statement between two places: its expressions are a row there. -/
def Stmt.Stands (text : List Char) (lo : Nat) (s : Stmt) (hi : Nat) : Prop :=
  Row text lo s.exprs hi

/-- The expressions of statements that stand one after the other. -/
theorem row_of_stmts {body : List Stmt} (h : Along (Stmt.Stands text) lo body hi) :
    Row text lo (exprsOfStmts body) hi := by
  induction h with
  | nil hle =>
    rw [exprsOfStmts]
    exact .nil hle
  | cons hle hs _ ih =>
    rw [exprsOfStmts]
    exact (hs.mono hle (Nat.le_refl _)).append ih

end ExerciseGrading.Snippet
