/-
  CONFIGURATION of a grading engine.

  1. Every field has a default, so that an empty text is a configuration; a field that is not known
     makes a text none.
  2. Times are in seconds; `messages` are texts by language for an exercise that is not found.
-/
import ExerciseGrading.Failure
import ExerciseGrading.Locale
import ExerciseGrading.Yaml.Node

namespace ExerciseGrading

structure Config where
  defaultLang : String
  cacheSeconds : Nat
  exerciseDir? : Option String
  /-- Texts by language, in ascending order of the languages. -/
  messages : List (String × String)
  logFilter? : Option String
deriving Repr, DecidableEq

namespace Config

def standard : Config := ⟨"en", 300, none, [], none⟩

/-- A count of seconds, a word of 64 bits. -/
def seconds? (r : Record) : Option Nat := (r.whole? 0 Number.maxUInt64).map Int.toNat

def messages? (r : Record) : Option (List (String × String)) := do
  let members ← (← r.entries?).mapM fun (k, v) => do return (← k.text?, ← v.text?)
  return Keyed.ascending members

/-- The configuration that a record is. -/
def ofRecord? (r : Record) : Option Config := do
  match ← r.fields? true
    [["default_lang"], ["cache_ttl_secs"], ["exercise_dir"], ["messages"], ["log_filter"]] with
  | [lang, seconds, dir, messages, log] =>
    return ⟨← Record.orElse standard.defaultLang Record.text? lang,
      ← Record.orElse standard.cacheSeconds seconds? seconds,
      ← Record.orElse none (Record.optional? Record.text?) dir,
      ← Record.orElse [] messages? messages,
      ← Record.orElse none (Record.optional? Record.text?) log⟩
  | _ => none

/-- The configuration in a text; a text of blanks is the standard one. -/
def ofText (text : String) : Except Failure Config :=
  if Text.trimmed text = "" then .ok standard
  else
    match (Yaml.record? text).bind ofRecord? with
    | some c => .ok c
    | none => .error (.badConfig none)

/-- The locales that a configuration sets up. -/
def locales (c : Config) : Locales :=
  c.messages.foldl (fun l m => l.withMessage m.1 m.2) (Locales.ofDefault c.defaultLang)

/-- An optional text. -/
def textJson : Option String → Json
  | some s => .string s
  | none => .null

/-- A configuration as a record. -/
def toJson (c : Config) : Json :=
  .object [("default_lang", .string c.defaultLang),
    ("cache_ttl_secs", .number (.whole c.cacheSeconds)),
    ("exercise_dir", textJson c.exerciseDir?),
    ("messages", .object (c.messages.map fun m => (m.1, .string m.2))),
    ("log_filter", textJson c.logFilter?)]

end Config

end ExerciseGrading
