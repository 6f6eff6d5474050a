/-
  KEYED RECORDS: the commands of an exercise and the exercises of a store.

  Two loops of the program keep members under keys, one while it reads a record and one while
  exercises come in.  They are written apart, and both come to the same: what is collected.

  1. Both are collected, as Proofs/Keyed/Collected has it: the commands from the entries of a record
     (`Exercise.commands?_eq_some_iff`), the exercises from what is inserted under its id
     (`Store.exercises_eq_iff`).
  2. `Store.size_foldl_insert`, `Store.find?_eq_some_iff` — what a store then counts and finds.
  3. `each_key_once` — both together.
-/
import ExerciseGrading.Catalog.Store
import ExerciseGrading.Proofs.Exercise.RoundTrip
import Mathlib.Data.Finset.Card

namespace ExerciseGrading

/-! ## Stores

  An exercise is kept under its own id, and so a store is a list of members like any other. -/

namespace Store

/-- Exercises under their ids. -/
def byId (es : List Exercise) : List (String × Exercise) := es.map fun e => (e.id, e)

/-- The keys of a store are ids. -/
theorem keys_byId (es : List Exercise) : (byId es).map (·.1) = es.map (·.id) := by
  rw [byId, List.map_map]
  rfl

variable {es : List Exercise}

/-- **A store is collected from what was inserted.** -/
theorem exercises_eq_iff {l : List (String × Exercise)} :
    (es.foldl insert empty).exercises = l ↔ Keyed.Collected (byId es) l := by
  have hput : (es.foldl insert empty).exercises =
      (byId es).foldl (fun acc m => Keyed.put m.1 m.2 acc) [] := by
    rw [byId, List.foldl_map]
    exact (List.foldl_hom exercises fun _ _ => rfl).symm
  rw [hput]
  exact Keyed.foldl_put_eq_iff

/-- Inserting one exercise after the other collects them. -/
theorem collected_exercises (es : List Exercise) :
    Keyed.Collected (byId es) (es.foldl insert empty).exercises :=
  exercises_eq_iff.mp rfl

/-- There are as many exercises as there were different ids. -/
theorem size_foldl_insert (es : List Exercise) :
    (es.foldl insert empty).size = (es.map (·.id)).toFinset.card := by
  have hids : (es.map (·.id)).toFinset = (es.foldl insert empty).ids.toFinset := by
    -- the ids that came are the ids that are there, and these stand once each
    ext id
    rw [List.mem_toFinset, List.mem_toFinset, ids, (collected_exercises es).mem_keys, keys_byId]
  have hnodup : (es.foldl insert empty).ids.Nodup := (collected_exercises es).nodup_keys
  rw [hids, List.toFinset_card_of_nodup hnodup, ids, List.length_map, size]

/-- **The exercise that was inserted last** under an id is found. -/
theorem find?_eq_some_iff {id : String} {e : Exercise} :
    (es.foldl insert empty).find? id = some e ↔ Keyed.LastOf (byId es) (id, e) :=
  (collected_exercises es).find?_eq_some_iff

/-- Nothing is found under an id that was never inserted. -/
theorem find?_eq_none_iff {id : String} :
    (es.foldl insert empty).find? id = none ↔ id ∉ es.map (·.id) := by
  rw [← keys_byId]
  exact (collected_exercises es).find?_eq_none_iff

end Store

/-- **Each key once, in the order of its first occurrence, with its last value.**  So it is for the
    commands of an exercise, whatever members are read, and for the exercises of a store, whatever
    was inserted.  A store has as many exercises as there were different ids, and finds under an id
    the exercise that was inserted last under it, or none if there was none. -/
theorem each_key_once :
    (∀ members commands, Exercise.commandsOf members = commands ↔
      Keyed.Collected members commands) ∧
    (∀ record commands, Exercise.commands? record = some commands ↔
      ∃ entries members, record.entries? = some entries ∧
        List.Forall₂ Exercise.IsCommand entries members ∧ Keyed.Collected members commands) ∧
    ∀ es : List Exercise,
      (∀ l, (es.foldl Store.insert .empty).exercises = l ↔ Keyed.Collected (Store.byId es) l) ∧
      (es.foldl Store.insert .empty).size = (es.map (·.id)).toFinset.card ∧
      ∀ id, (∀ e, (es.foldl Store.insert .empty).find? id = some e ↔
          Keyed.LastOf (Store.byId es) (id, e)) ∧
        ((es.foldl Store.insert .empty).find? id = none ↔ id ∉ es.map (·.id)) := by
  refine ⟨fun members commands => ?_, fun record commands => ?_, fun es => ⟨fun l => ?_, ?_, ?_⟩⟩
  · exact Exercise.commandsOf_eq_iff
  · exact Exercise.commands?_eq_some_iff
  · exact Store.exercises_eq_iff
  · exact Store.size_foldl_insert es
  · exact fun id => ⟨fun e => Store.find?_eq_some_iff, Store.find?_eq_none_iff⟩

end ExerciseGrading
