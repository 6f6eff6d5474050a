/-
  EXERCISES IN RECORDS.

  1. An exercise needs nothing but its id.  A rule needs all of its fields, a reply none.
  2. A command that is written twice keeps its first place and has its last replies.
  3. `Exercise.toJson` writes an exercise as a record again, commands in their order.
-/
import ExerciseGrading.Exercise
import ExerciseGrading.Check.Record
import ExerciseGrading.Json.Reader
import ExerciseGrading.Yaml.Node

namespace ExerciseGrading

namespace RuleKind

/-- The kind that a name stands for. -/
def ofName? (s : String) : Option RuleKind :=
  if s = "syntax" ∨ s = "Syntax" then some .syntactic
  else if s = "semantic" ∨ s = "Semantic" then some .semantic
  else if s = "intention" ∨ s = "Intention" then some .intention
  else none

/-- Nothing but a name: a text, a key with `null`, or a tag on an empty scalar. -/
def nameOf? : Record → Option String
  | .leaf (.text s) => some s
  | .leaf (.scalar s) =>
    match Scalar.ownTag? s.tag with
    | none => some s.text
    | some name =>
      if s.style = .plain && (s.text = "" || Scalar.isNullText s.text) then some name else none
  | .fields _ [(.leaf (.text key), .leaf .null)] => some key
  | _ => none

def ofRecord? (r : Record) : Option RuleKind := do ofName? (← nameOf? r)

end RuleKind

namespace Rule

def ofRecord? (r : Record) : Option Rule := do
  match ← r.fields? false [["type", "kind"], ["check"], ["errorMessage"], ["failMessage"]] with
  | [some kind, some check, some label, some failMessage] =>
    return ⟨← RuleKind.ofRecord? kind, ← Check.ofRecord? check, ← label.text?,
      ← failMessage.text?⟩
  | _ => none

def toJson (r : Rule) : Json :=
  .object [("type", .string r.kind.name), ("check", r.check.toJson),
    ("errorMessage", .string r.label), ("failMessage", .string r.failMessage)]

end Rule

namespace Reply

/-- Exit codes are signed words of 32 bits. -/
def exitCode? (r : Record) : Option Int := r.whole? Number.minInt32 Number.maxInt32

def ofRecord? (r : Record) : Option Reply := do
  match ← r.fields? false [["when"], ["output"], ["exitCode"]] with
  | [condition, output, exitCode] =>
    return ⟨← Record.orElse none (Record.optional? Check.ofRecord?) condition,
      ← Record.orElse "" Record.text? output, ← Record.orElse 0 exitCode? exitCode⟩
  | _ => none

def toJson (r : Reply) : Json :=
  .object <|
    (match r.condition? with
      | some c => [("when", c.toJson)]
      | none => []) ++
    [("output", .string r.output), ("exitCode", .number (.whole r.exitCode))]

end Reply

namespace Exercise

/-- Replies by command, from members in the order written. -/
def commandsOf (members : List (String × List Reply)) : List (String × List Reply) :=
  members.foldl (fun acc m => Keyed.put m.1 m.2 acc) []

def commands? (r : Record) : Option (List (String × List Reply)) := do
  let members ← (← r.entries?).mapM fun (k, v) => do
    return (← k.text?, ← (← v.items?).mapM Reply.ofRecord?)
  return commandsOf members

/-- The exercise that a record is. -/
def ofRecord? (r : Record) : Option Exercise := do
  match ← r.fields? false
    [["id"], ["validations"], ["terminalCommands"], ["hints"], ["successMessage"]] with
  | [some id, rules, commands, hints, success] =>
    return ⟨← id.text?,
      ← Record.orElse [] (fun r => do (← r.items?).mapM Rule.ofRecord?) rules,
      ← Record.orElse [] commands? commands,
      ← Record.orElse [] Record.texts? hints,
      ← Record.orElse "" Record.text? success⟩
  | _ => none

/-- An exercise as a record. -/
def toJson (e : Exercise) : Json :=
  .object [("id", .string e.id), ("validations", .array (e.rules.map Rule.toJson)),
    ("terminalCommands",
      .object (e.commands.map fun c => (c.1, .array (c.2.map Reply.toJson)))),
    ("hints", .array (e.hints.map .string)), ("successMessage", .string e.successMessage)]

end Exercise

/-! ## Texts -/

/-- The notation of a text that holds a record. -/
inductive Notation where
  | json
  | yaml
deriving Repr, DecidableEq

/-- The record in a text. -/
def Record.ofText? (n : Notation) (text : String) : Option Record :=
  match n with
  | .json => Record.ofJsonText? text
  | .yaml => Yaml.record? text

end ExerciseGrading
