/-
  EVALUATION of checks.

  1. A submission is never at fault: a text that is no document fails what asks for something in
     the document, and passes what asks for its absence.
  2. The author may be at fault, with a pattern that is none or a snippet that is refused.  Such a
     failure is the result as soon as evaluation comes to it.
  3. `all` stops at the first check that fails, `any` at the first that holds.
-/
import ExerciseGrading.Check
import ExerciseGrading.Document.Path
import ExerciseGrading.Snippet.Outcome

namespace ExerciseGrading

/-- A submitted text, and the document that it is, if it is one. -/
structure Submission where
  text : String
  document? : Option Document

namespace Submission

def ofText (text : String) : Submission := ⟨text, Document.ofText? text⟩

/-- A question about the document; `default` is the answer if there is none. -/
def onDocument (s : Submission) (default : Bool) (ask : Document → Bool) : Bool :=
  match s.document? with
  | some d => ask d
  | none => default

end Submission

namespace Check

/-- The pattern that a check names. -/
def compilePattern (source : String) : Except Failure Pattern :=
  match Pattern.compile? source {} with
  | some p => .ok p
  | none => .error (.badPattern source)

/-- Whether all items of the list at a path are mappings with all these fields. -/
def itemsHaveFields (path : String) (fields : List String) (d : Document) : Bool :=
  match d.query? path with
  | some (.sequence items) => items.all fun item => fields.all fun f => (item.field? f).isSome
  | _ => false

/-- Whether there is a list at a path. -/
def listAt (path : String) (d : Document) : Bool :=
  match d.query? path with
  | some (.sequence _) => true
  | _ => false

/-- Whether what is found at a path equals a value. -/
def equalAt (path : String) (value : Json) (d : Document) : Bool :=
  match d.query? path with
  | some found => found.equalsScalar value
  | none => false

mutual
/-- Whether a submission passes a check. -/
def evaluate (s : Submission) : Check → Except Failure Bool
  | .contains text => .ok (Text.occurs text.toList s.text.toList)
  | .lacks text => .ok (!Text.occurs text.toList s.text.toList)
  | .pattern source => do return (← compilePattern source).isMatch s.text
  | .noPattern source => do return !(← compilePattern source).isMatch s.text
  | .isDocument => .ok s.document?.isSome
  | .hasPath path => .ok (s.onDocument false fun d => (d.query? path).isSome)
  | .lacksPath path => .ok (s.onDocument true fun d => (d.query? path).isNone)
  | .isList path => .ok (s.onDocument false (listAt path))
  | .equals path value => .ok (s.onDocument false (equalAt path value))
  | .itemsHave path fields => .ok (s.onDocument false (itemsHaveFields path fields))
  | .snippet source => do return (← Snippet.judge source s.text {}).passed
  | .all checks => evaluateAll s checks
  | .any checks => evaluateAny s checks
  | .not check => do return !(← evaluate s check)
/-- Whether a submission passes all of the checks. -/
def evaluateAll (s : Submission) : List Check → Except Failure Bool
  | [] => .ok true
  | c :: rest => do if ← evaluate s c then evaluateAll s rest else return false
/-- Whether a submission passes one of the checks. -/
def evaluateAny (s : Submission) : List Check → Except Failure Bool
  | [] => .ok false
  | c :: rest => do if ← evaluate s c then return true else evaluateAny s rest
end

/-- Whether a condition holds; a snippet alone is asked itself, and a condition that is at fault
    never holds. -/
def holds (s : Submission) (c : Check) : Bool :=
  let answer : Except Failure Bool := match c with
    | .snippet source => (Snippet.judge source s.text {}).map (·.passed)
    | c => evaluate s c
  match answer with
  | .ok b => b
  | .error _ => false

end Check

end ExerciseGrading
