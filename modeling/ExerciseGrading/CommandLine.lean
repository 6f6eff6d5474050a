/-
  THE COMMAND LINE: what can be asked for.

  1. `Command` is a command with its arguments, `Invocation` a command with what holds for all.
  2. `Usage` is every reason for which arguments ask for no command; a question for help is one.
-/

namespace ExerciseGrading

inductive Command where
  /-- Judge the text of a file by an exercise, a file or an id. -/
  | validate (exercise code : String) (failures : Nat) (lang? : Option String) (json : Bool)
  /-- Answer a typed line. -/
  | exec (exercise code : String) (lang? : Option String) (json : Bool) (words : List String)
  /-- Evaluate one check, from a file. -/
  | check (check code : String)
  /-- Look through the exercises at a path or below it. -/
  | lint (path : String)
deriving Repr, DecidableEq

structure Invocation where
  config? : Option String
  command : Command
deriving Repr, DecidableEq

/-- Why arguments ask for no command. -/
inductive Usage where
  | help
  | version
  /-- There are no arguments at all. -/
  | nothing
  | noCommand
  | unknownCommand
  | unknownArgument
  /-- An option has no value, or a path is empty. -/
  | missingValue
  /-- A count is no number, or out of range. -/
  | badCount
  /-- An option is given twice. -/
  | repeated
  /-- A switch is given a value. -/
  | unexpectedValue
  | missingArgument
deriving Repr, DecidableEq

namespace Usage

/-- The exit code for errors, as opposed to a failed submission. -/
def errorCode : Nat := 2

def exitCode : Usage → Nat
  | .help | .version => 0
  | _ => errorCode

end Usage

end ExerciseGrading
