/-
  QUOTED texts in messages: a text between double quotes, with everything escaped that would
  not show as itself.

  Tab, line feed, carriage return and NUL have short escapes, as have the quote and the
  backslash; a character that prints nothing, or that would join the character before it, is
  written as its code point in hexadecimal.
-/
import ExerciseGrading.Text.Ranges
import ExerciseGrading.Text.Property.Category
import ExerciseGrading.Text.Property.Binary
import ExerciseGrading.Text.LetterCase

namespace ExerciseGrading.Text

/-- Characters that print nothing by themselves: controls, format characters, separators other
    than the space, and code points that are no character. -/
def unprintable : RangeIndex :=
  RangeIndex.ofRanges <| ["cc", "cf", "cn", "co", "zl", "zp", "zs"].flatMap fun name =>
    match Property.categories.find? fun e => (e.1.splitOn " ").contains name with
    | some e => Ranges.unpack e.2
    | none => []

/-- Characters that join the one before them. -/
def joining : RangeIndex := LetterCase.propertyIndex "graphemeextend"

/-- Characters that are not shown unless something asks for it. -/
def ignorable : RangeIndex := LetterCase.propertyIndex "defaultignorablecodepoint"

/-- Hexadecimal digits, lower case, without leading zeros. -/
def hexDigits (n : Nat) : List Char := Nat.toDigits 16 n

/-- One character inside quotes. -/
def quotedChar (c : Char) : List Char :=
  if c = '\t' then ['\\', 't']
  else if c = '\n' then ['\\', 'n']
  else if c = '\r' then ['\\', 'r']
  else if c = '\x00' then ['\\', '0']
  else if c = '\"' then ['\\', '\"']
  else if c = '\\' then ['\\', '\\']
  else if c ≠ ' ' && (unprintable.hasChar c || joining.hasChar c || ignorable.hasChar c) then
    ['\\', 'u', '{'] ++ hexDigits c.toNat ++ ['}']
  else [c]

/-- A text between quotes. -/
def quoted (s : String) : String :=
  String.ofList ('\"' :: s.toList.flatMap quotedChar ++ ['\"'])

end ExerciseGrading.Text
