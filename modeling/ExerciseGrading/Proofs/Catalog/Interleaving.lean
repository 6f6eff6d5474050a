/-
  LOOK-UPS THAT INTERLEAVE: the catalog taken apart into the steps that its locks separate.

  A look-up holds no lock while it asks the store.  Other look-ups, invalidations and edits of the
  store may come at any point between its steps, and what it found may be out of date by the time it
  enters it.  The generation that it loads beforehand is there to notice this.

  1. **Steps of a look-up** — it reads the clock, looks for a fresh entry, loads the generation,
     asks the store and, in one step, compares the generation and enters what it got.  `Lookup.next`
     is the step that comes next for it.
  2. **Worlds** — a `World` is a catalog with all look-ups that ever began.  A `Step` lets one of
     them go on, begins a new one, invalidates, edits the store or lets time pass.  A run is any
     list of steps, so that a statement about all runs is one about every interleaving.
  3. **The steps are right (`run_alone`)** — the steps of one look-up without anything in between
     are `Catalog.get`.
  4. **Origins** — `lookup_step` and `entry_step` say where a look-up and an entry come from in one
     step; what holds along a run is read off them.  The other step lemmas say what a step cannot
     change, and each has its run lemma by induction on the steps.

  A moment of a run is the world after some of its first steps.
-/
import ExerciseGrading.Catalog

namespace ExerciseGrading.Interleaving

/-- How far a look-up has come. -/
inductive Phase where
  /-- The clock was read. -/
  | asked (startedAt : Nat)
  /-- There was no fresh entry. -/
  | missed (startedAt : Nat)
  /-- The generation was loaded. -/
  | loaded (f : Flight)
  /-- The store was asked. -/
  | fetched (f : Flight) (answer : Option Exercise)
  | answered (answer : Option Exercise)

/-- The fetch that is under way. -/
def Phase.flight? : Phase → Option Flight
  | .loaded f | .fetched f _ => some f
  | _ => none

/-- A look-up that began. -/
structure Lookup where
  id : String
  phase : Phase

/-- The next step of a look-up; one that has its answer stays as it is. -/
def Lookup.next (l : Lookup) (c : Catalog) : Lookup × Catalog :=
  match l.phase with
  | .asked t =>
    match c.cache.fresh? l.id t with
    | some e => (⟨l.id, .answered (some e)⟩, c)
    | none => (⟨l.id, .missed t⟩, c)
  | .missed t => (⟨l.id, .loaded ⟨l.id, t, c.cache.generation⟩⟩, c)
  | .loaded f => (⟨l.id, .fetched f (c.store.find? f.id)⟩, { c with fetches := c.fetches + 1 })
  | .fetched f answer => (⟨l.id, .answered answer⟩, { c with cache := f.land answer c.cache })
  | .answered answer => (⟨l.id, .answered answer⟩, c)

/-- A catalog and its look-ups, in the order in which they began. -/
structure World where
  catalog : Catalog
  lookups : List Lookup

inductive Step where
  /-- A look-up begins: it reads the clock. -/
  | begin (id : String)
  /-- The look-up with a number goes on. -/
  | proceed (n : Nat)
  | invalidate (id : String)
  | invalidateAll
  /-- The store is edited: from now on it holds what `store` holds. -/
  | edit (store : Store)
  | advance (time : Nat)

/-- Whether a step is an invalidation of any kind. -/
def Step.isInvalidation : Step → Bool
  | .invalidate _ | .invalidateAll => true
  | _ => false

/-- Whether a step invalidates the entry of an id. -/
def Step.Drops (id : String) : Step → Prop
  | .invalidate k => k = id
  | .invalidateAll => True
  | _ => False

/-- What one step makes of a world. A number without a look-up does nothing, so that every list of
    steps is a run. -/
def step (w : World) : Step → World
  | .begin id => { w with lookups := w.lookups ++ [⟨id, .asked w.catalog.now⟩] }
  | .proceed n =>
    match w.lookups[n]? with
    | some l => ⟨(l.next w.catalog).2, w.lookups.set n (l.next w.catalog).1⟩
    | none => w
  | .invalidate id => { w with catalog := w.catalog.invalidate id }
  | .invalidateAll => { w with catalog := w.catalog.invalidateAll }
  | .edit store => { w with catalog := { w.catalog with store := store } }
  | .advance time => { w with catalog := w.catalog.advance time }

/-- The world after some steps. -/
def run (w : World) (steps : List Step) : World := steps.foldl step w

/-- A catalog with an empty cache before anything has happened. -/
def World.start (store : Store) (ttl : Nat) : World := ⟨.ofStore store ttl, []⟩

/-- A run can be cut at any moment. -/
theorem run_append (w : World) (a b : List Step) : run w (a ++ b) = run (run w a) b :=
  List.foldl_append

/-- The last step of a run is made in the world of the moment before. -/
theorem run_snoc (w : World) (a : List Step) (s : Step) : run w (a ++ [s]) = step (run w a) s := by
  rw [run_append]; rfl

/-! ## One look-up alone -/

/-- **The steps are those of the catalog**: a look-up that goes on until it has its answer, with
    nothing in between, is `Catalog.get`. -/
theorem run_alone (c : Catalog) (id : String) :
    run ⟨c, []⟩ [.begin id, .proceed 0, .proceed 0, .proceed 0, .proceed 0]
      = ⟨(c.get id).2, [⟨id, .answered (c.get id).1⟩]⟩ := by
  cases h : c.cache.fresh? id c.now with
  | some e => simp [run, step, Lookup.next, Catalog.get, Catalog.getDuring, h]
  | none => simp [run, step, Lookup.next, Catalog.get, Catalog.getDuring, h]

/-! ## What one step does

  First what a look-up that goes on may change, then what a step may.  A look-up or an entry
  that is there after a step was there before it, or the step says where it comes from; these
  two lemmas are all that the invariants below are built on. -/

/-- A look-up keeps its id. -/
@[simp] theorem next_id (l : Lookup) (c : Catalog) : (l.next c).1.id = l.id := by
  unfold Lookup.next
  split
  · split <;> rfl
  all_goals rfl

/-- A look-up takes no time of its own; time passes in steps of the clock. -/
@[simp] theorem next_now (l : Lookup) (c : Catalog) : (l.next c).2.now = c.now := by
  unfold Lookup.next
  split
  · split <;> rfl
  all_goals rfl

/-- A look-up does not change what the store holds. -/
@[simp] theorem next_store (l : Lookup) (c : Catalog) : (l.next c).2.store = c.store := by
  unfold Lookup.next
  split
  · split <;> rfl
  all_goals rfl

/-- Only a look-up that has asked the store touches the cache: it lands. -/
theorem next_cache (l : Lookup) (c : Catalog) :
    (l.next c).2.cache = c.cache ∨
    ∃ f x, l.phase = .fetched f x ∧ (l.next c).2.cache = f.land x c.cache := by
  unfold Lookup.next
  split
  · split <;> exact Or.inl rfl
  · exact Or.inl rfl
  · exact Or.inl rfl
  · rename_i f x hp
    exact Or.inr ⟨f, x, hp, rfl⟩
  · exact Or.inl rfl

/-- A fetch under way after a step was begun by it, or asked the store in it. -/
theorem next_flight {l : Lookup} {c : Catalog} {f : Flight}
    (h : (l.next c).1.phase.flight? = some f) :
    ((l.next c).1.phase = .loaded f ∧ f.id = l.id ∧ f.generation = c.cache.generation) ∨
    (l.phase = .loaded f ∧ (l.next c).1.phase = .fetched f (c.store.find? f.id)) := by
  unfold Lookup.next at h ⊢
  cases hp : l.phase with
  | asked t =>
    simp only [hp] at h
    split at h <;> cases h
  | missed t =>
    simp only [hp] at h ⊢
    cases h
    exact Or.inl ⟨rfl, rfl, rfl⟩
  | loaded g =>
    simp only [hp] at h ⊢
    cases h
    exact Or.inr ⟨rfl, rfl⟩
  | fetched g x => simp only [hp] at h; cases h
  | answered x => simp only [hp] at h; cases h

/-- An answer was found fresh in the cache, or was fetched. -/
theorem next_answered {l : Lookup} {c : Catalog} {x : Option Exercise}
    (h : (l.next c).1.phase = .answered x) :
    (∃ t e, x = some e ∧ c.cache.fresh? l.id t = some e) ∨
    (∃ f, l.phase = .fetched f x) ∨ l.phase = .answered x := by
  unfold Lookup.next at h
  cases hp : l.phase with
  | asked t =>
    simp only [hp] at h
    split at h
    · rename_i e he
      cases h
      exact Or.inl ⟨t, e, rfl, he⟩
    · cases h
  | missed t => simp only [hp] at h; cases h
  | loaded f => simp only [hp] at h; cases h
  | fetched f y =>
    simp only [hp] at h
    cases h
    exact Or.inr (Or.inl ⟨f, rfl⟩)
  | answered y =>
    simp only [hp] at h
    exact Or.inr (Or.inr h)

/-- Where a look-up comes from: it was there before, or it just began, or it just went on. -/
theorem lookup_step {w : World} {s : Step} {n : Nat} {l : Lookup}
    (h : (step w s).lookups[n]? = some l) :
    w.lookups[n]? = some l ∨
    (n = w.lookups.length ∧ s = .begin l.id ∧ l.phase = .asked w.catalog.now) ∨
    ∃ l₀, s = .proceed n ∧ w.lookups[n]? = some l₀ ∧ l = (l₀.next w.catalog).1 := by
  cases s with
  | begin id =>
    rw [step, List.getElem?_append] at h
    split at h
    · exact Or.inl h
    · rename_i hn
      -- the only place behind the old look-ups is that of the new one
      have hn' : n - w.lookups.length = 0 := by
        rw [List.getElem?_singleton] at h; split at h
        · assumption
        · cases h
      rw [hn'] at h
      cases h
      exact Or.inr (Or.inl ⟨by omega, rfl, rfl⟩)
  | proceed k =>
    cases hk : w.lookups[k]? with
    | none => simp only [step, hk] at h; exact Or.inl h
    | some l₀ =>
      simp only [step, hk] at h
      rw [List.getElem?_set] at h
      by_cases hkn : k = n
      · subst hkn
        rw [if_pos rfl, if_pos (List.getElem?_eq_some_iff.mp hk).1] at h
        cases h
        exact Or.inr (Or.inr ⟨l₀, rfl, hk, rfl⟩)
      · rw [if_neg hkn] at h; exact Or.inl h
  | invalidate id => exact Or.inl h
  | invalidateAll => exact Or.inl h
  | edit store => exact Or.inl h
  | advance time => exact Or.inl h

/-- Where an entry comes from: it was there before and the step does not drop it, or a fetch that
    no invalidation overtook has just landed. -/
theorem entry_step {w : World} {s : Step} {id : String} {e : CacheEntry}
    (h : (step w s).catalog.cache.cached? id = some e) :
    (w.catalog.cache.cached? id = some e ∧ ¬ s.Drops id) ∨
    ∃ (n : Nat) (l : Lookup) (f : Flight) (x : Exercise), s = .proceed n ∧
      w.lookups[n]? = some l ∧ l.phase = .fetched f (some x) ∧ ¬ s.Drops id ∧
      f.generation = w.catalog.cache.generation ∧ f.id = id ∧ e = ⟨x, f.startedAt⟩ := by
  cases s with
  | begin k => exact Or.inl ⟨h, not_false⟩
  | proceed n =>
    cases hn : w.lookups[n]? with
    | none => simp only [step, hn] at h; exact Or.inl ⟨h, not_false⟩
    | some l =>
      simp only [step, hn] at h
      rcases next_cache l w.catalog with hc | ⟨f, x, hp, hc⟩
      · rw [hc] at h; exact Or.inl ⟨h, not_false⟩
      · rw [hc, Flight.cached?_land] at h
        split at h
        · rename_i hg
          obtain ⟨y, rfl, rfl⟩ := Option.map_eq_some_iff.mp h
          exact Or.inr ⟨n, l, f, y, rfl, hn, hp, not_false, hg.1.symm, hg.2, rfl⟩
        · exact Or.inl ⟨h, not_false⟩
  | invalidate k =>
    -- a single invalidation spares the entries of other ids
    change (w.catalog.cache.invalidate k).cached? id = some e at h
    rw [Cache.cached?_invalidate] at h
    split at h
    · cases h
    · rename_i hk; exact Or.inl ⟨h, hk⟩
  | invalidateAll => cases h
  | edit store => exact Or.inl ⟨h, not_false⟩
  | advance time => exact Or.inl ⟨h, not_false⟩

/-- The generation counts the invalidations, of whatever ids. A landing fetch leaves it alone, so
    that fetches do not spoil each other. -/
theorem generation_step (w : World) (s : Step) :
    (step w s).catalog.cache.generation =
      w.catalog.cache.generation + UInt64.ofNat ([s].countP Step.isInvalidation) := by
  cases s with
  | proceed n =>
    cases hn : w.lookups[n]? with
    | none => simp [step, hn, Step.isInvalidation]
    | some l =>
      rcases next_cache l w.catalog with hc | ⟨f, x, -, hc⟩
      · simp [step, hn, hc, Step.isInvalidation]
      · simp [step, hn, hc, Flight.generation_land, Step.isInvalidation]
  | invalidate k => rfl
  | invalidateAll => rfl
  | begin k => simp [step, Step.isInvalidation]
  | edit store => simp [step, Step.isInvalidation]
  | advance time => simp [step, Catalog.advance, Step.isInvalidation]

/-- Look-ups are never forgotten: their numbers stay good. -/
theorem length_step (w : World) (s : Step) : w.lookups.length ≤ (step w s).lookups.length := by
  cases s with
  | begin id => simp [step]
  | proceed n =>
    cases hn : w.lookups[n]? with
    | none => simp [step, hn]
    | some l => simp [step, hn]
  | invalidate id => exact Nat.le_refl _
  | invalidateAll => exact Nat.le_refl _
  | edit store => exact Nat.le_refl _
  | advance time => exact Nat.le_refl _

/-- Time does not run backwards. -/
theorem now_step (w : World) (s : Step) : w.catalog.now ≤ (step w s).catalog.now := by
  cases s with
  | advance time => exact Nat.le_add_right _ _
  | proceed n =>
    cases hn : w.lookups[n]? with
    | none => simp [step, hn]
    | some l => simp [step, hn]
  | begin id => exact Nat.le_refl _
  | invalidate id => exact Nat.le_refl _
  | invalidateAll => exact Nat.le_refl _
  | edit store => exact Nat.le_refl _

/-- Entries may always live equally long. -/
theorem ttl_step (w : World) (s : Step) : (step w s).catalog.cache.ttl = w.catalog.cache.ttl := by
  cases s with
  | proceed n =>
    cases hn : w.lookups[n]? with
    | none => simp [step, hn]
    | some l =>
      rcases next_cache l w.catalog with hc | ⟨f, x, -, hc⟩
      · simp [step, hn, hc]
      · simp [step, hn, hc, Flight.ttl_land]
  | begin id => rfl
  | invalidate id => rfl
  | invalidateAll => rfl
  | edit store => rfl
  | advance time => rfl

/-- Only an edit changes what the store holds. -/
theorem store_step {w : World} {s : Step} (h : ∀ store, s ≠ .edit store) :
    (step w s).catalog.store = w.catalog.store := by
  cases s with
  | proceed n =>
    cases hn : w.lookups[n]? with
    | none => simp [step, hn]
    | some l => simp [step, hn]
  | edit store => exact absurd rfl (h store)
  | begin id => rfl
  | invalidate id => rfl
  | invalidateAll => rfl
  | advance time => rfl

/-! ## What a run does

  Each step lemma about something that only grows has a run lemma, by induction on the steps. -/

/-- So the generation of a moment is that of the start and the invalidations since, as far as a word
    of 64 bits can tell. -/
theorem generation_run (w : World) : ∀ steps : List Step,
    (run w steps).catalog.cache.generation =
      w.catalog.cache.generation + UInt64.ofNat (steps.countP Step.isInvalidation)
  | [] => by simp [run]
  | s :: rest => by
    show (run (step w s) rest).catalog.cache.generation = _
    rw [generation_run (step w s) rest, generation_step, UInt64.add_assoc, ← UInt64.ofNat_add,
      ← List.countP_append, List.singleton_append]

/-- A generation that did not change lasted through: unless the word came round, there was no
    invalidation. -/
theorem quiet_of_generation_eq (w : World) (steps : List Step)
    (h : (run w steps).catalog.cache.generation = w.catalog.cache.generation)
    (hlt : steps.countP Step.isInvalidation < UInt64.size) :
    ∀ s ∈ steps, ¬ s.isInvalidation = true := by
  rw [generation_run] at h
  have hnat := congrArg UInt64.toNat h
  rw [UInt64.toNat_add, UInt64.toNat_ofNat_of_lt' hlt] at hnat
  -- no more than a whole word of invalidations could bring the same generation back
  have hsize := w.catalog.cache.generation.toNat_lt
  refine List.countP_eq_zero.mp ?_
  simp only [UInt64.size] at hlt
  omega

/-- A look-up of one moment is there at all later ones. -/
theorem length_run (w : World) : ∀ steps : List Step,
    w.lookups.length ≤ (run w steps).lookups.length
  | [] => Nat.le_refl _
  | s :: rest => Nat.le_trans (length_step w s) (length_run (step w s) rest)

/-- Later moments have later times. -/
theorem now_run (w : World) : ∀ steps : List Step, w.catalog.now ≤ (run w steps).catalog.now
  | [] => Nat.le_refl _
  | s :: rest => Nat.le_trans (now_step w s) (now_run (step w s) rest)

/-- Entries live equally long at every moment. -/
theorem ttl_run (w : World) : ∀ steps : List Step,
    (run w steps).catalog.cache.ttl = w.catalog.cache.ttl
  | [] => rfl
  | s :: rest => (ttl_run (step w s) rest).trans (ttl_step w s)

/-- A run without edits ends with the store that it began with. -/
theorem store_run (w : World) : ∀ steps : List Step, (∀ store, .edit store ∉ steps) →
    (run w steps).catalog.store = w.catalog.store
  | [], _ => rfl
  | s :: rest, h => by
    show (run (step w s) rest).catalog.store = _
    rw [store_run (step w s) rest fun store hm => h store (List.mem_cons_of_mem s hm)]
    exact store_step fun store hs => h store (hs ▸ List.mem_cons_self)

end ExerciseGrading.Interleaving
