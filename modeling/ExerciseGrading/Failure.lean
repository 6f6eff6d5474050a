/-
  FAILURES: everything that can go wrong, by cause.

  1. `Failure` has one constructor for each cause, with everything that its message and its label
     depend on.
  2. `kind`, `message`, `help?`, `label?` say how a failure is reported.
  3. `display` is the message after the name of its kind.

  The readers of snippets and documents report in words of their own what they refuse.  A `Wording`
  stands for them: their words, and the place they point to, are settled by the text that was read,
  and the failure carries that text.  `messageIn` and `labelIn` are the report under a wording;
  `message` ends where a quotation from a reader would begin, and `label?` has only the places that
  were not chosen by one.
-/
import ExerciseGrading.Span

namespace ExerciseGrading

/-- What kind of thing failed. -/
inductive FailureKind where
  | parse
  | pattern
  | eval
  | type
  | denied
  | invalidRule
  | config
  | io
deriving Repr, DecidableEq

namespace FailureKind

def name : FailureKind → String
  | .parse => "parse"
  | .pattern => "pattern"
  | .eval => "eval"
  | .type => "type"
  | .denied => "denied"
  | .invalidRule => "invalid-rule"
  | .config => "config"
  | .io => "io"

/-- The words in front of a displayed message. -/
def title : FailureKind → String
  | .parse => "Parse error"
  | .pattern => "Pattern error"
  | .eval => "Evaluation error"
  | .type => "Type error"
  | .denied => "Denied"
  | .invalidRule => "Invalid rule"
  | .config => "Config error"
  | .io => "I/O error"

end FailureKind

/-- What went wrong. -/
inductive Failure where
  /-- The snippet `source` is not in the language. -/
  | snippetSyntax (source : String)
  /-- A snippet mentions a name that checks must not use. -/
  | deniedName (word : String) (span : Span)
  /-- A text is no regular expression. -/
  | badPattern (source : String)
  | badPatternFlag (flag : Char)
  /-- Expressions nest too deeply. -/
  | recursionLimit (span : Span)
  /-- Too many calls of arrow functions are in flight. -/
  | callLimit (span : Span)
  | notDefined (name : String) (span : Span)
  /-- `text`, which a snippet parses, is no document. -/
  | badDocument (text : String) (span : Span)
  | notFunction (type : String) (span : Span)
  | noMethod (type name : String) (span : Span)
  /-- A property of `null` or `undefined` is read. -/
  | nullishRead (type property : String) (span : Span)
  /-- A check of list items names no fields. -/
  | noFields
  /-- The text called `name` is no record of the kind asked for. -/
  | badRecord (name : String)
  /-- A configuration cannot be read; `file` is where it stands. -/
  | badConfig (file : Option String)
  /-- `action` could not be done. -/
  | io (action : String)
deriving Repr, DecidableEq

/-- What the readers say, in their own words, of a text that they refuse. -/
structure Wording where
  /-- Why a text is no snippet. -/
  syntaxWords : String → String
  /-- Where a text stops being a snippet. -/
  syntaxSpan : String → Span
  /-- Why a text is no document. -/
  documentWords : String → String

namespace Failure

def kind : Failure → FailureKind
  | .snippetSyntax _ => .parse
  | .deniedName .. => .denied
  | .badPattern _ | .badPatternFlag _ => .pattern
  | .recursionLimit _ | .callLimit _ | .notDefined .. | .badDocument .. => .eval
  | .notFunction .. | .noMethod .. | .nullishRead .. => .type
  | .noFields | .badRecord _ => .invalidRule
  | .badConfig _ => .config
  | .io _ => .io

/-- The message, up to where a reader is quoted. -/
def message : Failure → String
  | .snippetSyntax _ => "syntax error: "
  | .deniedName word _ => "`" ++ word ++ "` is not allowed in custom checks"
  | .badPattern source => "invalid regular expression `" ++ source ++ "`"
  | .badPatternFlag flag => "invalid regular expression flag `" ++ String.singleton flag ++ "`"
  | .recursionLimit _ => "Recursion limit exceeded"
  | .callLimit _ => "Maximum call depth exceeded"
  | .notDefined name _ => name ++ " is not defined"
  | .badDocument .. => "YAMLException: "
  | .notFunction type _ => type ++ " is not a function"
  | .noMethod type name _ => type ++ "." ++ name ++ " is not a function"
  | .nullishRead type property _ =>
    "Cannot read properties of " ++ type ++ " (reading '" ++ property ++ "')"
  | .noFields => "yamlItemsHave lists no fields"
  | .badRecord name => name
  | .badConfig _ => "invalid configuration: "
  | .io action => action

/-- What a message quotes from a reader; nothing if it quotes none. -/
def quotation (w : Wording) : Failure → String
  | .snippetSyntax source => w.syntaxWords source
  | .badDocument text _ => w.documentWords text
  | _ => ""

/-- The message with the quotation in it. -/
def messageIn (w : Wording) (f : Failure) : String := f.message ++ f.quotation w

/-- Advice for the author. -/
def help? : Failure → Option String
  | .snippetSyntax _ =>
    some ("custom checks accept a small JavaScript-like subset: " ++
      "const, if, return, and expressions")
  | .deniedName .. =>
    some "custom checks can only use `code`, the document helpers and plain values"
  | .badConfig file => file.map ("in " ++ ·)
  | _ => none

/-- The place in the snippet that a failure points to, unless a reader chose it. -/
def label? : Failure → Option Span
  | .deniedName _ s | .recursionLimit s | .callLimit s | .notDefined _ s | .badDocument _ s
  | .notFunction _ s | .noMethod _ _ s | .nullishRead _ _ s => some s
  | _ => none

/-- The place in the snippet that a failure points to, whoever chose it. -/
def labelIn (w : Wording) : Failure → Option Span
  | .snippetSyntax source => some (w.syntaxSpan source)
  | f => f.label?

def display (f : Failure) : String := f.kind.title ++ ": " ++ f.message

end Failure

end ExerciseGrading
