/-
  THE CACHE in front of a store.

  1. An entry is fresh while less time has passed since the clock was read for its fetch than
     entries may live; time that runs backwards counts as none.
  2. Every invalidation starts a new generation.  What a fetch brings is entered only if no new
     generation began while it was under way; it is an answer all the same.
  3. An id that the store does not know is never entered.

  `Flight` is a fetch under way: what is known between asking the store and entering its answer.
  `Flight.land` is the one step that changes entries with it; `cached?_land` says how.
-/
import ExerciseGrading.Exercise
import ExerciseGrading.Keyed

namespace ExerciseGrading

/-- A cached exercise, and what the clock showed for its fetch. -/
structure CacheEntry where
  exercise : Exercise
  fetchedAt : Nat
deriving Inhabited

structure Cache where
  /-- How long entries live. -/
  ttl : Nat
  entries : List (String × CacheEntry)
  /-- How many invalidations there were; a word, which starts again at zero after its last value. -/
  generation : UInt64
deriving Inhabited

/-- A fetch under way. -/
structure Flight where
  id : String
  /-- What the clock showed when the exercise was asked for. -/
  startedAt : Nat
  /-- The generation just before the store was asked. -/
  generation : UInt64
deriving Repr, DecidableEq, Inhabited

namespace Cache

def empty (ttl : Nat) : Cache := ⟨ttl, [], 0⟩

/-- The entry of an id, fresh or not. -/
def cached? (c : Cache) (id : String) : Option CacheEntry := Keyed.find? id c.entries

/-- The exercise of an id, if its entry is fresh. -/
def fresh? (c : Cache) (id : String) (now : Nat) : Option Exercise :=
  match c.cached? id with
  | some e => if now - e.fetchedAt < c.ttl then some e.exercise else none
  | none => none

/-- Gives up the entry of an id. -/
def drop (c : Cache) (id : String) : Cache :=
  { c with entries := c.entries.filter fun m => m.1 ≠ id }

/-- Gives up an entry after its exercise was edited. -/
def invalidate (c : Cache) (id : String) : Cache :=
  { c.drop id with generation := c.generation + 1 }

/-- Gives up all entries. -/
def invalidateAll (c : Cache) : Cache :=
  { c with entries := [], generation := c.generation + 1 }

def size (c : Cache) : Nat := c.entries.length

theorem cached?_drop (c : Cache) (k id : String) :
    (c.drop k).cached? id = if k = id then none else c.cached? id :=
  Keyed.find?_without k id c.entries

theorem cached?_invalidate (c : Cache) (k id : String) :
    (c.invalidate k).cached? id = if k = id then none else c.cached? id :=
  c.cached?_drop k id

/-- What is fresh stands in an entry. -/
theorem entry_of_fresh {c : Cache} {id : String} {now : Nat} {x : Exercise}
    (h : c.fresh? id now = some x) :
    ∃ e, c.cached? id = some e ∧ e.exercise = x ∧ now - e.fetchedAt < c.ttl := by
  unfold fresh? at h
  split at h
  · rename_i e he
    split at h
    · rename_i ht
      exact ⟨e, he, by simpa using h, ht⟩
    · cases h
  · cases h

end Cache

namespace Flight

/-- Enters what the store answered, unless an invalidation came in between. -/
def land (f : Flight) (answer : Option Exercise) (c : Cache) : Cache :=
  if c.generation ≠ f.generation then c
  else
    match answer with
    | some e => { c with entries := Keyed.put f.id ⟨e, f.startedAt⟩ c.entries }
    | none => c.drop f.id

theorem cached?_land (f : Flight) (answer : Option Exercise) (c : Cache) (id : String) :
    (f.land answer c).cached? id =
      if c.generation = f.generation ∧ f.id = id then answer.map (⟨·, f.startedAt⟩)
      else c.cached? id := by
  unfold land
  by_cases hg : c.generation = f.generation
  · rw [if_neg (not_not_intro hg)]
    cases answer with
    | some e => simp [Cache.cached?, Keyed.find?_put, hg]
    | none => simp [Cache.cached?_drop, hg]
  · rw [if_pos hg, if_neg fun h => hg h.1]

theorem ttl_land (f : Flight) (answer : Option Exercise) (c : Cache) :
    (f.land answer c).ttl = c.ttl := by
  unfold land
  split
  · rfl
  · cases answer <;> rfl

theorem generation_land (f : Flight) (answer : Option Exercise) (c : Cache) :
    (f.land answer c).generation = c.generation := by
  unfold land
  split
  · rfl
  · cases answer <;> rfl

end Flight

end ExerciseGrading
