/-
  THE TERMINAL of an exercise: commands and their answers.

  1. A typed line is trimmed.  It selects the first pattern, in the order of the exercise, of which
     it is an end or a beginning.  An empty line is the beginning of every pattern.
  2. A line that selects nothing may be `help` or `?`, `clear`, or empty; otherwise there is no
     such command.
  3. A command answers with its first reply whose condition holds, or which has none.
-/
import ExerciseGrading.Check.Evaluate
import ExerciseGrading.Exercise

namespace ExerciseGrading

/-- What a terminal shows. -/
structure Response where
  output : String
  exitCode : Int
  /-- The screen is to be cleared first. -/
  clear : Bool
deriving Repr, DecidableEq

namespace Response

def empty : Response := ⟨"", 0, false⟩

def text (output : String) (exitCode : Int) : Response := ⟨output, exitCode, false⟩

def cleared : Response := ⟨"", 0, true⟩

/-- A response as a record. -/
def toJson (r : Response) : Json :=
  .object <| [("output", .string r.output), ("exitCode", .number (.whole r.exitCode))] ++
    if r.clear then [("clear", .bool true)] else []

end Response

/-- What a typed line means. -/
inductive Route where
  | exact (pattern : String)
  /-- The pattern is a beginning of the line, or the line of the pattern. -/
  | extends_ (pattern : String)
  | help
  | clear
  | empty
  | notFound
deriving Repr, DecidableEq

namespace Reply

def applies (s : Submission) (r : Reply) : Bool :=
  match r.condition? with
  | none => true
  | some c => c.holds s

/-- The answer of the first reply that applies. -/
def answer (replies : List Reply) (s : Submission) : Response :=
  match replies.find? (applies s) with
  | some r => .text r.output r.exitCode
  | none => .empty

end Reply

namespace Terminal

/-- The exit code of a command that there is not. -/
def notFoundCode : Int := 127

/-- Whether one of two texts is a beginning of the other. -/
def overlaps (typed pattern : String) : Bool :=
  pattern.toList.isPrefixOf typed.toList || typed.toList.isPrefixOf pattern.toList

/-- What a trimmed line means where there are these patterns. -/
def resolveIn (patterns : List String) (typed : String) : Route :=
  match patterns.find? (overlaps typed) with
  | some p => if p = typed then .exact p else .extends_ p
  | none =>
    if typed = "help" ∨ typed = "?" then .help
    else if typed = "clear" then .clear
    else if typed = "" then .empty
    else .notFound

def helpText (patterns : List String) : String :=
  "Available commands:" ++
    String.join ((patterns ++ ["clear", "help"]).map fun p => "\n  " ++ p)

end Terminal

namespace Exercise

/-- What a typed line means in the terminal of an exercise. -/
def resolve (e : Exercise) (typed : String) : Route :=
  Terminal.resolveIn e.patterns (Text.trimmed typed)

/-- The replies to a command. -/
def replies (e : Exercise) (pattern : String) : List Reply :=
  (Keyed.find? pattern e.commands).getD []

/-- The answer to a typed line. -/
def route (e : Exercise) (typed : String) (s : Submission) : Response :=
  match e.resolve typed with
  | .exact p | .extends_ p => Reply.answer (e.replies p) s
  | .help => .text (Terminal.helpText e.patterns) 0
  | .clear => .cleared
  | .empty => .empty
  | .notFound => .text (Text.firstWord typed ++ ": command not found") Terminal.notFoundCode

end Exercise

end ExerciseGrading
