/-
  STORES: exercises by id.

  An exercise takes the place of an older one with its id; a new id goes to the end.
  `find?_insert` says what is found after that, `ids_insert` which ids there are then.
-/
import ExerciseGrading.Exercise
import ExerciseGrading.Keyed

namespace ExerciseGrading

/-- Exercises by id, each id once, in the order in which the ids came. -/
structure Store where
  exercises : List (String × Exercise)
deriving Inhabited

namespace Store

def empty : Store := ⟨[]⟩

/-- Adds an exercise, in the place of one with the same id if there is one. -/
def insert (s : Store) (e : Exercise) : Store := ⟨Keyed.put e.id e s.exercises⟩

def ofList (es : List Exercise) : Store := es.foldl insert empty

/-- The exercise with an id. -/
def find? (s : Store) (id : String) : Option Exercise := Keyed.find? id s.exercises

def size (s : Store) : Nat := s.exercises.length

/-- The ids in order. -/
def ids (s : Store) : List String := s.exercises.map (·.1)

theorem find?_insert (s : Store) (e : Exercise) (id : String) :
    (s.insert e).find? id = if e.id = id then some e else s.find? id := by
  simp [insert, find?, Keyed.find?_put]

theorem ids_insert (s : Store) (e : Exercise) :
    (s.insert e).ids = if e.id ∈ s.ids then s.ids else s.ids ++ [e.id] := by
  have h := Keyed.keys_put e.id e s.exercises
  by_cases hm : e.id ∈ s.ids <;> simp_all [insert, ids]

end Store

end ExerciseGrading
