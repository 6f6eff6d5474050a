/-
  THE SCREEN: names that a snippet must not mention.

  The screen is textual.  It searches the snippet for a pattern, inside strings and comments too,
  and reports the denied name in the first match with its place.

  A boundary that is written as `\b` would not do: it takes a dollar sign for one, and names may
  have dollar signs.
-/
import ExerciseGrading.Failure
import ExerciseGrading.Pattern

namespace ExerciseGrading.Snippet

/-- The denied names. -/
def deniedNames : List String :=
  ["require", "import", "process", "child_process", "global", "globalThis", "fs", "fetch",
   "XMLHttpRequest", "WebSocket", "eval", "Function", "constructor", "setTimeout",
   "setInterval", "setImmediate"]

/-- One of the names with no name character to either side.  The characters beside it are part of
    the match; the name is group 1. -/
def denylistSource (names : List String) : String :=
  "(?:^|[^A-Za-z0-9_$])(" ++ "|".intercalate (names.map Pattern.escape) ++
    ")(?:$|[^A-Za-z0-9_$])"

/-- The pattern that the screen searches for; it is one, so that there is no need for another. -/
def denylist : Pattern :=
  (Pattern.compile? (denylistSource deniedNames) {}).getD default

/-- Refuses a snippet that mentions a denied name.  What the screen finds is too long to be worked
    out by unfolding. -/
@[irreducible] def screen (snippet : String) : Except Failure Unit :=
  match denylist.group? snippet 1 with
  | some (name, span) => .error (.deniedName name span)
  | none => .ok ()

end ExerciseGrading.Snippet
