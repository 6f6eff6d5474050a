/-
  NATIVE FUNCTIONS: the names that every snippet starts with, and what they do.

  A name stands for a function or for an object of functions.  None of them looks at the context,
  so that calling one is a function of its arguments.
-/
import ExerciseGrading.Document.Path
import ExerciseGrading.Snippet.Context
import ExerciseGrading.Snippet.TextMethod

namespace ExerciseGrading.Snippet

namespace Native

/-- Own keys and values; a list or text has its places as keys. -/
def ownEntries : Value → List (String × Value)
  | .object members => members
  | .list items => items.mapIdx fun i v => (Number.intText i, v)
  | .string s => s.toList.mapIdx fun i c => (Number.intText i, .string (String.singleton c))
  | _ => []

/-- The extreme of numbers, from a start value on; not a number if one of them is not.  Of equal
    numbers the later one is taken. -/
def extreme (better : Float → Float → Bool) (start : Float) : List Float → Float
  | [] => start
  | x :: rest =>
    if x.isNaN then Value.nan else extreme better (if better start x then start else x) rest

/-- What a text holds as a document; `failed` is what is said if it holds none. -/
def parsed (text : String) (failed : Failure) : Except Failure Value :=
  match Document.ofText? text with
  | some d => .ok (.ofDocument d)
  | none => .error failed

/-- What a segment of a path leads to in a value. -/
def step? (v : Value) (segment : String) : Option Value :=
  match v with
  | .object members => Keyed.find? segment members
  | .list items => (Number.index? segment.toList).bind fun i => items[i]?
  | _ => none

/-- What a path leads to in a value; `undefined` if it leads nowhere. -/
def walk (v : Value) : List String → Value
  | [] => v
  | s :: rest =>
    match step? v s with
    | some next => walk next rest
    | none => .undefined

/-- What a path leads to; a text is read as a document first. -/
def valueAt (target : Value) (p : Path) : Value :=
  match target with
  | .string text =>
    match (Document.ofText? text).bind p.find? with
    | some d => .ofDocument d
    | none => .undefined
  | v => walk v p.segments

/-- Calls a native function; `span` is where the call stands. -/
def call (n : Native) (args : List Value) (span : Span) : Except Failure Value :=
  let first := arg args 0
  match n with
  | .string => .ok (.string (match args with | [] => "" | v :: _ => v.text))
  | .regExp =>
    match first with
    | .pattern p => .ok (.pattern p)
    | v =>
      let flags := match arg args 1 with
        | .undefined => ""
        | f => f.text
      (compilePattern v.text flags).map .pattern
  | .isArray => .ok (.bool (match first with | .list _ => true | _ => false))
  | .keys => .ok (.list ((ownEntries first).map fun e => .string e.1))
  | .values => .ok (.list ((ownEntries first).map (·.2)))
  | .entries => .ok (.list ((ownEntries first).map fun e => .list [.string e.1, e.2]))
  | .min => .ok (.number (extreme (· < ·) (1.0 / 0.0) (args.map Value.toNumber)))
  | .max => .ok (.number (extreme (· > ·) (-(1.0 / 0.0)) (args.map Value.toNumber)))
  | .abs => .ok (.number first.toNumber.abs)
  | .floor => .ok (.number (Number.floor first.toNumber))
  | .ceil => .ok (.number (Number.ceil first.toNumber))
  | .round => .ok (.number (Number.floor (first.toNumber + 0.5)))
  | .number => .ok (.number (match args with | [] => 0.0 | v :: _ => v.toNumber))
  | .boolean => .ok (.bool first.truthy)
  | .load | .parse | .parseYaml => parsed first.text (.badDocument first.text span)
  | .getPath => .ok (valueAt first (Path.ofText (arg args 1).text))

end Native

/-- An object of functions. -/
def functions (ns : List Native) : Value :=
  .object (Keyed.ascending (ns.map fun n => (n.name, .native n)))

/-- The names that every snippet starts with, in the order in which they are listed. -/
def globals : Env :=
  [("String", .native .string),
   ("RegExp", .native .regExp),
   ("Array", functions [.isArray]),
   ("Object", functions [.keys, .values, .entries]),
   ("Math", functions [.min, .max, .abs, .floor, .ceil, .round]),
   ("Number", .native .number),
   ("Boolean", .native .boolean),
   ("yaml", functions [.load, .parse]),
   ("parseYaml", .native .parseYaml),
   ("getPath", .native .getPath)]

end ExerciseGrading.Snippet
