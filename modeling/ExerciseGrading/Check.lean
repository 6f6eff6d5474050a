/-
  CHECKS: questions about a submitted text, answered with yes or no.

  A check looks at the text (`contains`, `pattern`), at the document that it is (`hasPath`, ...),
  or runs a snippet.  `all`, `any` and `not` combine checks.  `describe` is how reasons and
  diagnostics name a check.
-/
import ExerciseGrading.Json

namespace ExerciseGrading

inductive Check where
  | contains (text : String)
  | lacks (text : String)
  | pattern (source : String)
  | noPattern (source : String)
  | isDocument
  | hasPath (path : String)
  | lacksPath (path : String)
  | isList (path : String)
  | equals (path : String) (value : Json)
  | itemsHave (path : String) (fields : List String)
  | snippet (source : String)
  | all (checks : List Check)
  | any (checks : List Check)
  | not (check : Check)
deriving Inhabited

namespace Check

/-- A check that is a snippet and nothing else; its own verdict becomes that of the rule. -/
def isSnippet : Check → Bool
  | .snippet _ => true
  | _ => false

/-- Whether a check asks for something inside the document. -/
def asksDocument : Check → Bool
  | .hasPath _ | .lacksPath _ | .isList _ | .equals .. | .itemsHave .. => true
  | _ => false

/-- How many checks there are. -/
def countText (n : Nat) : String := "(" ++ Number.intText n ++ " checks)"

/-- A short text that names a check. -/
def describe : Check → String
  | .contains text => "contains " ++ Text.quoted text
  | .lacks text => "notContains " ++ Text.quoted text
  | .pattern source => "matches /" ++ source ++ "/"
  | .noPattern source => "notMatches /" ++ source ++ "/"
  | .isDocument => "yamlValid"
  | .hasPath path => "yamlHas " ++ Text.quoted path
  | .lacksPath path => "yamlNotHas " ++ Text.quoted path
  | .isList path => "yamlIsArray " ++ Text.quoted path
  | .equals path value => "yamlEquals " ++ Text.quoted path ++ " == " ++ value.text
  | .itemsHave path fields =>
    "yamlItemsHave " ++ Text.quoted path ++ " [" ++ ", ".intercalate fields ++ "]"
  | .snippet _ => "custom"
  | .all checks => "all " ++ countText checks.length
  | .any checks => "any " ++ countText checks.length
  | .not check => "not (" ++ describe check ++ ")"

end Check

end ExerciseGrading
