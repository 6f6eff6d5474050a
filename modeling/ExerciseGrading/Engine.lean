/-
  THE ENGINE: exercises by id, judged and answered for.

  An id that is not known gives a failed verdict, or a response with an exit code of its own, with
  the text of the language asked for.
-/
import ExerciseGrading.Catalog
import ExerciseGrading.Config
import ExerciseGrading.Exercise.Terminal
import ExerciseGrading.Exercise.Verdict

namespace ExerciseGrading

/-- The exit code of a command where there is no exercise. -/
def unknownExerciseCode : Int := 1

namespace Locales

/-- The verdict on a submission after so many failed attempts, where there may be no exercise. -/
def verdict (l : Locales) (lang : Option String) (e : Option Exercise) (s : Submission)
    (failures : Nat) : Verdict :=
  match e with
  | some e => e.validate s failures
  | none => .notFound (l.notFound lang)

/-- The answer to a typed line, where there may be no exercise. -/
def response (l : Locales) (lang : Option String) (e : Option Exercise) (line : String)
    (s : Submission) : Response :=
  match e with
  | some e => e.route line s
  | none => .text (l.notFound lang) unknownExerciseCode

end Locales

structure Engine where
  catalog : Catalog
  locales : Locales

namespace Engine

/-- The engine that a configuration sets up. -/
def ofConfig (c : Config) (store : Store) : Engine :=
  ⟨.ofStore store (1000 * c.cacheSeconds), c.locales⟩

/-- Looks an exercise up. -/
def exercise (g : Engine) (id : String) : Option Exercise × Engine :=
  let (e, catalog) := g.catalog.get id
  (e, { g with catalog := catalog })

/-- Judges a submission after so many failed attempts. -/
def validate (g : Engine) (id : String) (s : Submission) (failures : Nat)
    (lang : Option String) : Verdict × Engine :=
  let (e, g) := g.exercise id
  (g.locales.verdict lang e s failures, g)

/-- Answers a typed line. -/
def execute (g : Engine) (id line : String) (s : Submission) (lang : Option String) :
    Response × Engine :=
  let (e, g) := g.exercise id
  (g.locales.response lang e line s, g)

/-- The engine after a step of its catalog. -/
def onCatalog (g : Engine) (step : Catalog → Catalog) : Engine :=
  { g with catalog := step g.catalog }

end Engine

end ExerciseGrading
