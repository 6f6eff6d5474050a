/-
  LITERALS and names of snippets, on plain lists of characters.

  Each `…?` function says what stands at the start of a text: the characters of the literal and
  what follows them.  Where a string literal ends is one question, `quotedEnd?`, and what it means
  another, `unescape`.
-/
import ExerciseGrading.Number.Reading

namespace ExerciseGrading.Snippet

/-! ## Names -/

def isNameStart (c : Char) : Bool := c.isAlpha || c = '_' || c = '$'

def isNameChar (c : Char) : Bool := c.isAlphanum || c = '_' || c = '$'

/-- Words that are no names. -/
def keywords : List String :=
  ["const", "let", "return", "if", "else", "true", "false", "null", "undefined"]

/-- A run of name characters that begins as a name does. -/
def word? : List Char → Option (List Char × List Char)
  | c :: s => if isNameStart c then some (c :: s.takeWhile isNameChar, s.dropWhile isNameChar)
              else none
  | [] => none

/-- What follows the word `w`, if the text begins with exactly that word. -/
def keyword? (w : String) (s : List Char) : Option (List Char) :=
  match word? s with
  | some (u, rest) => if u = w.toList then some rest else none
  | none => none

/-- A name: a word that is no keyword. -/
def name? (s : List Char) : Option (String × List Char) :=
  match word? s with
  | some (u, rest) =>
    let w := String.ofList u
    if keywords.contains w then none else some (w, rest)
  | none => none

/-! ## Numbers -/

/-- Digits, and a fraction if a digit follows the point. -/
def numeral? (s : List Char) : Option (List Char × List Char) :=
  let whole := s.takeWhile Number.isDigit
  let rest := s.dropWhile Number.isDigit
  if whole = [] then none
  else
    match rest with
    | '.' :: r =>
      let fraction := r.takeWhile Number.isDigit
      if fraction = [] then some (whole, rest)
      else some (whole ++ '.' :: fraction, r.dropWhile Number.isDigit)
    | _ => some (whole, rest)

/-- The double that a numeral writes. -/
def numeralValue (s : List Char) : Float := (Number.float? s).getD (0.0 / 0.0)

/-! ## Strings -/

/-- The three quotes. -/
def isQuote (c : Char) : Bool := c = '\"' || c = '\x27' || c = '\x60'

/-- Only the third quote may go over the end of a line. -/
def spansLines (quote : Char) : Bool := quote = '\x60'

/-- The text up to the closing quote, and what follows it; a backslash hides the character after
    it. -/
def quotedEnd? (quote : Char) : List Char → Option (List Char × List Char)
  | [] => none
  | '\\' :: [] => none
  | '\\' :: c :: s => (quotedEnd? quote s).map fun (a, b) => ('\\' :: c :: a, b)
  | c :: s =>
    if c = quote then some ([], s)
    else if c = '\n' && !spansLines quote then none
    else (quotedEnd? quote s).map fun (a, b) => (c :: a, b)

/-- The text between the quotes of a string literal, as written. -/
def quoted? : List Char → Option (List Char × List Char)
  | q :: s => if isQuote q then quotedEnd? q s else none
  | [] => none

/-- The character that a backslash and `c` stand for. -/
def unescapeChar (c : Char) : Char :=
  if c = 'n' then '\n'
  else if c = 't' then '\t'
  else if c = 'r' then '\r'
  else if c = '0' then '\x00'
  else c

/-- The text that a string literal means. -/
def unescape : List Char → List Char
  | '\\' :: c :: s => unescapeChar c :: unescape s
  | c :: s => c :: unescape s
  | [] => []

/-! ## Regular expressions -/

/-- The text up to the closing slash, and what follows it. -/
def slashedEnd? : List Char → Option (List Char × List Char)
  | [] => none
  | '\\' :: [] => none
  | '\\' :: c :: s => (slashedEnd? s).map fun (a, b) => ('\\' :: c :: a, b)
  | '/' :: s => some ([], s)
  | c :: s => if c = '\n' then none else (slashedEnd? s).map fun (a, b) => (c :: a, b)

/-- A pattern between slashes and the letters after it. -/
def slashed? : List Char → Option (String × String × List Char)
  | '/' :: s =>
    match slashedEnd? s with
    | some (c :: body, rest) =>
      some (String.ofList (c :: body), String.ofList (rest.takeWhile Char.isAlpha),
        rest.dropWhile Char.isAlpha)
    | _ => none
  | _ => none

end ExerciseGrading.Snippet
