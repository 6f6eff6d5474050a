/-
  MOVED SNIPPETS: the same trees with other spans.

  1. `moved g` puts `g span` in the place of every span, in trees and in what stops a run.
  2. `unplaced` forgets where everything stands: programs with one `unplaced` form differ in nothing
     but their spans.
  3. Moving by nothing changes nothing (`moved_id`), and what a failure says does not depend on
     where it points (`Failure.kind_moved`, `Failure.message_moved`).

  One function serves both uses: `Span.later d` for a snippet that stands further on in a text, and
  `Span.nowhere` to compare two trees that need not have spans that correspond.  A failure of the
  grammar keeps its text and is not moved, for it is the text that fixes where it points.
-/
import ExerciseGrading.Snippet.Context

namespace ExerciseGrading

/-- No place at all, whatever the place was. -/
def Span.nowhere (_ : Span) : Span := ⟨0, 0⟩

/-- The place that is `d` bytes further on. -/
def Span.later (d : Nat) (s : Span) : Span := ⟨d + s.start, d + s.stop⟩

/-- The failure, pointing elsewhere. -/
def Failure.moved (g : Span → Span) : Failure → Failure
  | .deniedName word span => .deniedName word (g span)
  | .recursionLimit span => .recursionLimit (g span)
  | .callLimit span => .callLimit (g span)
  | .notDefined name span => .notDefined name (g span)
  | .badDocument text span => .badDocument text (g span)
  | .notFunction type span => .notFunction type (g span)
  | .noMethod type name span => .noMethod type name (g span)
  | .nullishRead type property span => .nullishRead type property (g span)
  | .snippetSyntax source => .snippetSyntax source
  | .badPattern source => .badPattern source
  | .badPatternFlag flag => .badPatternFlag flag
  | .noFields => .noFields
  | .badRecord name => .badRecord name
  | .badConfig file => .badConfig file
  | .io action => .io action

namespace Failure

theorem moved_id (f : Failure) : f.moved id = f := by
  cases f <;> rfl

/-- What kind of failure it is does not depend on where it points, and neither does what it says. -/
theorem kind_moved (g : Span → Span) (f : Failure) : (f.moved g).kind = f.kind := by
  cases f <;> rfl

theorem message_moved (g : Span → Span) (f : Failure) : (f.moved g).message = f.message := by
  cases f <;> rfl

end Failure

namespace Snippet

/-- The reason to stop, pointing elsewhere. -/
def Halt.moved (g : Span → Span) : Halt → Halt
  | .failed f => .failed (f.moved g)
  | .outOfFuel => .outOfFuel

theorem Halt.moved_id (h : Halt) : h.moved id = h := by
  cases h with
  | failed f => exact congrArg Halt.failed f.moved_id
  | outOfFuel => rfl

/-! ## Trees -/

mutual
/-- An expression with other spans. -/
def Expr.moved (g : Span → Span) : Expr → Expr
  | .mk span form => .mk (g span) (form.moved g)
/-- A form has no place of its own, only its parts have. -/
def Form.moved (g : Span → Span) : Form → Form
  | .array items => .array (movedExprs g items)
  | .object members => .object (movedMembers g members)
  | .member object property optional => .member (object.moved g) property optional
  | .index object index => .index (object.moved g) (index.moved g)
  | .call callee args => .call (callee.moved g) (movedExprs g args)
  | .unary op operand => .unary op (operand.moved g)
  | .binary op lhs rhs => .binary op (lhs.moved g) (rhs.moved g)
  | .conditional condition yes no =>
    .conditional (condition.moved g) (yes.moved g) (no.moved g)
  | .arrow params body => .arrow params (body.moved g)
  | .undefined => .undefined
  | .null => .null
  | .bool b => .bool b
  | .number x => .number x
  | .string s => .string s
  | .regex pattern flags => .regex pattern flags
  | .name s => .name s
def movedExprs (g : Span → Span) : List Expr → List Expr
  | [] => []
  | e :: rest => e.moved g :: movedExprs g rest
def movedMembers (g : Span → Span) : List Member → List Member
  | [] => []
  | m :: rest => m.moved g :: movedMembers g rest
def Member.moved (g : Span → Span) : Member → Member
  | .mk key e => .mk key (e.moved g)
def ArrowBody.moved (g : Span → Span) : ArrowBody → ArrowBody
  | .value e => .value (e.moved g)
  | .block body => .block (movedStmts g body)
def Stmt.moved (g : Span → Span) : Stmt → Stmt
  | .bind span name value => .bind (g span) name (value.moved g)
  | .returnValue span value => .returnValue (g span) (value.moved g)
  | .returnNothing span => .returnNothing (g span)
  | .ifThen condition yes => .ifThen (condition.moved g) (yes.moved g)
  | .ifElse condition yes no => .ifElse (condition.moved g) (yes.moved g) (no.moved g)
  | .block body => .block (movedStmts g body)
  | .expr e => .expr (e.moved g)
  | .empty => .empty
def movedStmts (g : Span → Span) : List Stmt → List Stmt
  | [] => []
  | s :: rest => s.moved g :: movedStmts g rest
end

mutual
/-- Moving by nothing, over the tree. -/
theorem Expr.moved_id : ∀ e : Expr, e.moved id = e
  | .mk span form => by rw [Expr.moved, form.moved_id]; rfl
theorem Form.moved_id : ∀ form : Form, form.moved id = form
  | .array items => by rw [Form.moved, movedExprs_id items]
  | .object members => by rw [Form.moved, movedMembers_id members]
  | .member object _ _ => by rw [Form.moved, object.moved_id]
  | .index object index => by rw [Form.moved, object.moved_id, index.moved_id]
  | .call callee args => by rw [Form.moved, callee.moved_id, movedExprs_id args]
  | .unary _ operand => by rw [Form.moved, operand.moved_id]
  | .binary _ lhs rhs => by rw [Form.moved, lhs.moved_id, rhs.moved_id]
  | .conditional condition yes no => by
    rw [Form.moved, condition.moved_id, yes.moved_id, no.moved_id]
  | .arrow _ body => by rw [Form.moved, body.moved_id]
  | .undefined | .null | .bool _ | .number _ | .string _ | .regex .. | .name _ => by
    rw [Form.moved]
/-- Lists of them, and so on through the six kinds of trees. -/
theorem movedExprs_id : ∀ es : List Expr, movedExprs id es = es
  | [] => by rw [movedExprs]
  | e :: rest => by rw [movedExprs, e.moved_id, movedExprs_id rest]
theorem movedMembers_id : ∀ ms : List Member, movedMembers id ms = ms
  | [] => by rw [movedMembers]
  | m :: rest => by rw [movedMembers, m.moved_id, movedMembers_id rest]
theorem Member.moved_id : ∀ m : Member, m.moved id = m
  | .mk _ e => by rw [Member.moved, e.moved_id]
theorem ArrowBody.moved_id : ∀ body : ArrowBody, body.moved id = body
  | .value e => by rw [ArrowBody.moved, e.moved_id]
  | .block body => by rw [ArrowBody.moved, movedStmts_id body]
theorem Stmt.moved_id : ∀ s : Stmt, s.moved id = s
  | .bind _ _ value => by rw [Stmt.moved, value.moved_id]; rfl
  | .returnValue _ value => by rw [Stmt.moved, value.moved_id]; rfl
  | .returnNothing _ => by rw [Stmt.moved]; rfl
  | .ifThen condition yes => by rw [Stmt.moved, condition.moved_id, yes.moved_id]
  | .ifElse condition yes no => by
    rw [Stmt.moved, condition.moved_id, yes.moved_id, no.moved_id]
  | .block body => by rw [Stmt.moved, movedStmts_id body]
  | .expr e => by rw [Stmt.moved, e.moved_id]
  | .empty => by rw [Stmt.moved]
theorem movedStmts_id : ∀ body : List Stmt, movedStmts id body = body
  | [] => by rw [movedStmts]
  | s :: rest => by rw [movedStmts, s.moved_id, movedStmts_id rest]
end

/-- What reads a member in a moved tree reads one in the tree. -/
theorem Expr.eq_member_of_moved {g : Span → Span} {e object : Expr} {span : Span}
    {property : String} {optional : Bool}
    (h : e.moved g = .mk span (.member object property optional)) :
    ∃ span object, e = .mk span (.member object property optional) := by
  obtain ⟨place, form⟩ := e
  simp only [Expr.moved, Expr.mk.injEq] at h
  obtain ⟨-, hform⟩ := h
  -- only a member becomes a member, for moving keeps the form
  cases form <;> simp only [Form.moved, Form.member.injEq, reduceCtorEq] at hform
  obtain ⟨-, rfl, rfl⟩ := hform
  exact ⟨place, _, rfl⟩

/-- The functions for lists are there for the recursion alone: they are maps. -/
theorem movedExprs_eq_map (g : Span → Span) (es : List Expr) :
    movedExprs g es = es.map (·.moved g) := by
  induction es with
  | nil => rfl
  | cons e rest ih => rw [movedExprs, ih, List.map_cons]

theorem movedMembers_eq_map (g : Span → Span) (ms : List Member) :
    movedMembers g ms = ms.map (·.moved g) := by
  induction ms with
  | nil => rfl
  | cons m rest ih => rw [movedMembers, ih, List.map_cons]

theorem movedStmts_eq_map (g : Span → Span) (body : List Stmt) :
    movedStmts g body = body.map (·.moved g) := by
  induction body with
  | nil => rfl
  | cons s rest ih => rw [movedStmts, ih, List.map_cons]

/-! ## Programs -/

/-- A program with other spans. -/
def Program.moved (g : Span → Span) (p : Program) : Program := ⟨movedStmts g p.body⟩

theorem Program.moved_id (p : Program) : p.moved id = p := by
  rw [Program.moved, movedStmts_id]

/-- A program without its places. -/
def Program.unplaced (p : Program) : Program := p.moved Span.nowhere

end Snippet

end ExerciseGrading
