/-
  LOCALES: the text for an exercise that is not found, by language.

  The text is looked for under the language asked for, then under its part before the first dash
  or underscore, then under the default language; English is what is left.
-/
import ExerciseGrading.Keyed
import ExerciseGrading.Text.Blank
import ExerciseGrading.Text.LetterCase

namespace ExerciseGrading

structure Locales where
  messages : List (String × String)
  defaultLang : String
deriving Repr, DecidableEq

namespace Locales

/-- A language as it is looked up. -/
def normalize (lang : String) : String := Text.LetterCase.toLowerAscii (Text.trimmed lang)

def englishMessage : String := "Exercise not found"

/-- The texts that are always there. -/
def known : List (String × String) :=
  [("en", englishMessage),
   ("es", "Ejercicio no encontrado"),
   ("fr", "Exercice introuvable"),
   ("de", "Übung nicht gefunden"),
   ("pt", "Exercício não encontrado")]

def ofDefault (lang : String) : Locales := ⟨known, normalize lang⟩

/-- Adds or replaces the text of a language. -/
def withMessage (l : Locales) (lang text : String) : Locales :=
  { l with messages := Keyed.put (normalize lang) text l.messages }

/-- The part of a language before the first dash or underscore. -/
def primary (lang : String) : String :=
  String.ofList (lang.toList.takeWhile fun c => c ≠ '-' ∧ c ≠ '_')

/-- The text for an exercise that is not found. -/
def notFound (l : Locales) (lang : Option String) : String :=
  let requested := lang.map normalize
  let tried := requested.toList ++ (requested.map primary).toList ++ [l.defaultLang]
  (tried.findSome? fun code => Keyed.find? code l.messages).getD englishMessage

end Locales

end ExerciseGrading
