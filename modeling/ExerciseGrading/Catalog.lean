/-
  THE CATALOG: a store behind a cache, and a clock.

  `get` is a look-up from beginning to end; `during` is what else happens while the store is being
  asked.  `fetches` counts how often it was asked.
-/
import ExerciseGrading.Catalog.Cache
import ExerciseGrading.Catalog.Store

namespace ExerciseGrading

structure Catalog where
  store : Store
  cache : Cache
  /-- What the clock shows, in milliseconds. -/
  now : Nat
  fetches : Nat
deriving Inhabited

namespace Catalog

def ofStore (store : Store) (ttl : Nat) : Catalog := ⟨store, .empty ttl, 0, 0⟩

/-- Looks an exercise up: a fresh entry, or else what the store says. -/
def getDuring (during : Catalog → Catalog) (c : Catalog) (id : String) :
    Option Exercise × Catalog :=
  match c.cache.fresh? id c.now with
  | some e => (some e, c)
  | none =>
    let flight : Flight := ⟨id, c.now, c.cache.generation⟩
    let c := during { c with fetches := c.fetches + 1 }
    let answer := c.store.find? id
    (answer, { c with cache := flight.land answer c.cache })

/-- Looks an exercise up while nothing else happens. -/
def get (c : Catalog) (id : String) : Option Exercise × Catalog := c.getDuring (fun c => c) id

def advance (c : Catalog) (time : Nat) : Catalog := { c with now := c.now + time }

def invalidate (c : Catalog) (id : String) : Catalog :=
  { c with cache := c.cache.invalidate id }

def invalidateAll (c : Catalog) : Catalog := { c with cache := c.cache.invalidateAll }

/-- Edits the store; the cache does not notice. -/
def insert (c : Catalog) (e : Exercise) : Catalog := { c with store := c.store.insert e }

def clearStore (c : Catalog) : Catalog := { c with store := .empty }

end Catalog

end ExerciseGrading
