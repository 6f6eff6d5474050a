/-
  HOW OLD an answer may be while other look-ups are under way.

  Entries are stamped with the time at which their look-up began, not with the time at which the
  store was asked.  So an entry looks older than it is, never younger, and the time that entries
  live bounds the age of an answer from the right side.

  1. `lookup_keeps` — the history of one look-up, from the moment at which it read the clock: its
     fetch carries that time, and what it was told or found it was told or found while it waited.
     `Keeps` is the invariant, one clause for each phase, and `Keeps.next` the step.
  2. `entry_told` — what stands in the cache the store held at a moment when the clock had reached
     the time that the entry is stamped with: the clock is read first, and the store asked later.
  3. `entry_landed` — an entry comes in with the last step of a look-up that the store told of it.
  4. `answer_age` — an answer is what the store held while the look-up waited, or less than the time
     that entries live before it began.

  A slow look-up may put an older exercise in the place of a newer one, and a look-up may meet an
  entry with a later stamp than its own time.  Neither hurts: the bound is about the moment at
  which the store held the exercise, which never lies before the stamp.
-/
import ExerciseGrading.Proofs.Catalog.Invalidation
import Mathlib.Data.List.Induction

namespace ExerciseGrading.Interleaving

/-- Look-up `n` has begun and has no answer yet. -/
def Waits (w : World) (n : Nat) : Prop :=
  ∃ l, w.lookups[n]? = some l ∧ ∀ x, l.phase ≠ .answered x

/-! ## One look-up

  `w` is the world in which it begins, so that its number is the number of look-ups before it and
  its time is what the clock of `w` shows.  `after` is what has happened since. -/

section OneLookup

variable (w : World) (id : String)

/-- The store held `x` for the id at a moment while the look-up waited. -/
def Told (after : List Step) (x : Option Exercise) : Prop :=
  ∃ m, m <+: after ∧ Waits (run w (.begin id :: m)) w.lookups.length ∧
    (run w (.begin id :: m)).catalog.store.find? id = x

/-- An entry with `x` was fresh for the look-up at a moment while it waited. -/
def FoundFresh (after : List Step) (x : Option Exercise) : Prop :=
  ∃ m e, m <+: after ∧ Waits (run w (.begin id :: m)) w.lookups.length ∧
    (run w (.begin id :: m)).catalog.cache.cached? id = some e ∧
    w.catalog.now - e.fetchedAt < w.catalog.cache.ttl ∧ x = some e.exercise

/-- What is known of the look-up in each of its phases. -/
def Keeps (after : List Step) : Phase → Prop
  | .asked t | .missed t => t = w.catalog.now
  | .loaded f => f.id = id ∧ f.startedAt = w.catalog.now
  | .fetched f x => (f.id = id ∧ f.startedAt = w.catalog.now) ∧ Told w id after x
  | .answered x => Told w id after x ∨ FoundFresh w id after x

variable {w id}

/-- What the store told a look-up stays told. -/
theorem Told.snoc {after : List Step} {x : Option Exercise} (h : Told w id after x) (s : Step) :
    Told w id (after ++ [s]) x := by
  obtain ⟨m, hm, hrest⟩ := h
  exact ⟨m, hm.trans (List.prefix_append after [s]), hrest⟩

/-- What was fresh for a look-up when it looked was so for good, even if the entry has gone since.
    -/
theorem FoundFresh.snoc {after : List Step} {x : Option Exercise} (h : FoundFresh w id after x)
    (s : Step) : FoundFresh w id (after ++ [s]) x := by
  obtain ⟨m, e, hm, hrest⟩ := h
  exact ⟨m, e, hm.trans (List.prefix_append after [s]), hrest⟩

/-- The steps of others take away nothing of what is known of a look-up: its time and what it has
    learned are in the past. -/
theorem Keeps.snoc {after : List Step} {p : Phase} (h : Keeps w id after p) (s : Step) :
    Keeps w id (after ++ [s]) p := by
  cases p with
  | asked t => exact h
  | missed t => exact h
  | loaded f => exact h
  | fetched f x => exact ⟨h.1, h.2.snoc s⟩
  | answered x => exact h.imp (·.snoc s) (·.snoc s)

/-- The next step of the look-up: the two steps that learn something learn it while it waits. -/
theorem Keeps.next {after : List Step} {l : Lookup} (s : Step)
    (hl : (run w (.begin id :: after)).lookups[w.lookups.length]? = some l) (hid : l.id = id)
    (h : Keeps w id after l.phase) :
    Keeps w id (after ++ [s]) (l.next (run w (.begin id :: after)).catalog).1.phase := by
  have hwaits : (∀ x, l.phase ≠ .answered x) →
      Waits (run w (.begin id :: after)) w.lookups.length := fun hp => ⟨l, hl, hp⟩
  unfold Lookup.next
  cases hp : l.phase with
  | asked t =>
    rw [hp] at h
    have ht : t = w.catalog.now := h
    cases hf : (run w (.begin id :: after)).catalog.cache.fresh? l.id t with
    | none => simp only [hf]; exact ht
    | some x =>
      -- it looks with the time that it read, however late that is by now
      obtain ⟨e, he, rfl, hage⟩ := Cache.entry_of_fresh hf
      rw [hid] at he
      rw [ht, ttl_run] at hage
      simp only [hf]
      exact Or.inr ⟨after, e, List.prefix_append after [s], hwaits (by simp [hp]), he, hage, rfl⟩
  | missed t =>
    rw [hp] at h
    exact ⟨hid, h⟩
  | loaded f =>
    rw [hp] at h
    have hf : f.id = id ∧ f.startedAt = w.catalog.now := h
    -- it asks the store now, so this is a moment while it waited
    exact ⟨hf, after, List.prefix_append after [s], hwaits (by simp [hp]), by rw [hf.1]⟩
  | fetched f x =>
    rw [hp] at h
    exact Or.inl (h.2.snoc s)
  | answered x =>
    rw [hp] at h
    exact h.snoc s

/-- **The history of a look-up.**  Whatever has happened since it began, it is there under its
    number, and what is known of its phase holds. -/
theorem lookup_keeps (w : World) (id : String) (after : List Step) :
    ∃ l, (run w (.begin id :: after)).lookups[w.lookups.length]? = some l ∧ l.id = id ∧
      Keeps w id after l.phase := by
  induction after using List.reverseRecOn with
  | nil => exact ⟨⟨id, .asked w.catalog.now⟩, by simp [run, step], rfl, rfl⟩
  | append_singleton after s ih =>
    obtain ⟨l, hl, hid, hkeeps⟩ := ih
    have hrun : run w (.begin id :: (after ++ [s])) = step (run w (.begin id :: after)) s :=
      run_snoc w (.begin id :: after) s
    rw [hrun]
    have hn : w.lookups.length < (run w (.begin id :: after)).lookups.length :=
      (List.getElem?_eq_some_iff.mp hl).1
    have hn' := Nat.lt_of_lt_of_le hn (length_step _ s)
    have hl' := List.getElem?_eq_getElem hn'
    rcases lookup_step hl' with hold | ⟨hnew, -⟩ | ⟨l₀, rfl, hl₀, heq⟩
    · -- nothing happened to this look-up
      rw [hl] at hold
      have hsame := Option.some.inj hold
      exact ⟨_, hl', hsame ▸ hid, hsame ▸ hkeeps.snoc s⟩
    · -- its number is taken, so it has not just begun
      omega
    · rw [hl] at hl₀
      obtain rfl := Option.some.inj hl₀
      refine ⟨_, hl', ?_, ?_⟩
      · rw [heq, next_id]; exact hid
      · rw [heq]; exact hkeeps.next _ hl hid

end OneLookup

/-! ## All look-ups and all entries

  Every look-up of a run began in it, so that what is known of one look-up from its beginning on
  is known of all of them.  An entry was brought by one, with the time at which that one began. -/

/-- Every look-up of a run began in it. -/
theorem lookup_begun (store : Store) (ttl : Nat) (steps : List Step) :
    ∀ (n : Nat) (l : Lookup), (run (.start store ttl) steps).lookups[n]? = some l →
      ∃ before after, steps = before ++ .begin l.id :: after ∧
        n = (run (.start store ttl) before).lookups.length := by
  induction steps using List.reverseRecOn with
  | nil => intro n l hl; simp [run, World.start] at hl
  | append_singleton steps s ih =>
    intro n l hl
    rw [run_snoc] at hl
    -- one more step does not matter to what began earlier
    have hearlier : ∀ l₀ : Lookup, (run (.start store ttl) steps).lookups[n]? = some l₀ →
        ∃ before after, steps ++ [s] = before ++ .begin l₀.id :: after ∧
          n = (run (.start store ttl) before).lookups.length := by
      intro l₀ hl₀
      obtain ⟨before, after, hsplit, hn⟩ := ih n l₀ hl₀
      exact ⟨before, after ++ [s], by rw [hsplit]; simp, hn⟩
    rcases lookup_step hl with hl₀ | ⟨hn, rfl, -⟩ | ⟨l₀, -, hl₀, rfl⟩
    · exact hearlier l hl₀
    · exact ⟨steps, [], rfl, hn⟩
    · rw [next_id]; exact hearlier l₀ hl₀

/-- What look-up `n` learned from the store it learned for its id while it waited, and its fetch
    carries the time at which it began. -/
theorem fetched_told {store : Store} {ttl : Nat} {steps : List Step} {n : Nat} {l : Lookup}
    {f : Flight} {x : Option Exercise}
    (hl : (run (.start store ttl) steps).lookups[n]? = some l) (hp : l.phase = .fetched f x) :
    ∃ before after, steps = before ++ .begin f.id :: after ∧
      n = (run (.start store ttl) before).lookups.length ∧
      f.startedAt = (run (.start store ttl) before).catalog.now ∧
      Told (run (.start store ttl) before) f.id after x := by
  obtain ⟨before, after, rfl, rfl⟩ := lookup_begun store ttl steps n l hl
  obtain ⟨l', hl', -, hkeeps⟩ := lookup_keeps (run (.start store ttl) before) l.id after
  rw [← run_append, hl] at hl'
  obtain rfl := Option.some.inj hl'
  rw [hp] at hkeeps
  obtain ⟨⟨hid, hstart⟩, htold⟩ := hkeeps
  exact ⟨before, after, by rw [hid], rfl, hstart, by rw [hid]; exact htold⟩

/-- A moment of a look-up is a moment of the run, and the clock has not gone back since it began. -/
theorem Told.moment {store : Store} {ttl : Nat} {before after : List Step} {id : String}
    {x : Option Exercise} (h : Told (run (.start store ttl) before) id after x) :
    ∃ a, a <+: before ++ .begin id :: after ∧
      (run (.start store ttl) a).catalog.store.find? id = x ∧
      (run (.start store ttl) before).catalog.now ≤ (run (.start store ttl) a).catalog.now := by
  obtain ⟨m, ⟨r, rfl⟩, -, hstore⟩ := h
  rw [← run_append] at hstore
  refine ⟨before ++ .begin id :: m, ⟨r, by simp⟩, hstore, ?_⟩
  rw [run_append]
  exact now_run _ _

/-- **The stamp of an entry is no later than the moment at which the store held it.** -/
theorem entry_told (store : Store) (ttl : Nat) (steps : List Step) :
    ∀ (id : String) (e : CacheEntry),
      (run (.start store ttl) steps).catalog.cache.cached? id = some e →
      ∃ a, a <+: steps ∧ (run (.start store ttl) a).catalog.store.find? id = some e.exercise ∧
        e.fetchedAt ≤ (run (.start store ttl) a).catalog.now := by
  induction steps using List.reverseRecOn with
  | nil => intro id e he; cases he
  | append_singleton steps s ih =>
    intro id e he
    rw [run_snoc] at he
    rcases entry_step he with ⟨hold, -⟩ | ⟨n, l, f, x, -, hl, hp, -, -, rfl, rfl⟩
    · obtain ⟨a, ha, hrest⟩ := ih id e hold
      exact ⟨a, ha.trans (List.prefix_append steps [s]), hrest⟩
    · -- the entry has just landed, with the time of the look-up that brings it
      obtain ⟨before, after, rfl, -, hstart, htold⟩ := fetched_told hl hp
      obtain ⟨a, ha, hstore, hnow⟩ := htold.moment
      exact ⟨a, ha.trans (List.prefix_append _ [s]), hstore, by rw [hstart]; exact hnow⟩

/-- **Only what the store told a look-up comes in**, in the last step of that look-up and with the
    time at which it began. -/
theorem entry_landed {store : Store} {ttl : Nat} {steps : List Step} {s : Step} {id : String}
    {e : CacheEntry}
    (he : (run (.start store ttl) (steps ++ [s])).catalog.cache.cached? id = some e)
    (hnew : (run (.start store ttl) steps).catalog.cache.cached? id ≠ some e) :
    ∃ before after, steps = before ++ .begin id :: after ∧
      s = .proceed (run (.start store ttl) before).lookups.length ∧
      e.fetchedAt = (run (.start store ttl) before).catalog.now ∧
      Told (run (.start store ttl) before) id after (some e.exercise) := by
  rw [run_snoc] at he
  rcases entry_step he with ⟨hold, -⟩ | ⟨n, l, f, x, rfl, hl, hp, -, -, rfl, rfl⟩
  · exact absurd hold hnew
  · obtain ⟨before, after, hsplit, rfl, hstart, htold⟩ := fetched_told hl hp
    exact ⟨before, after, hsplit, rfl, hstart, htold⟩

/-! ## Answers

  An answer was told or was found fresh.  What was told the store held while the look-up waited;
  what was found fresh is an entry, whose age is counted from its stamp, and the store held it
  when the clock showed that much or more. -/

/-- What a look-up found fresh the store held less than the time that entries live before it
    began, or later. -/
theorem FoundFresh.age {store : Store} {ttl : Nat} {before after : List Step} {id : String}
    {x : Exercise} (h : FoundFresh (run (.start store ttl) before) id after (some x)) :
    ∃ m a, m <+: after ∧
      Waits (run (.start store ttl) (before ++ .begin id :: m))
        (run (.start store ttl) before).lookups.length ∧
      a <+: before ++ .begin id :: m ∧
      (run (.start store ttl) a).catalog.store.find? id = some x ∧
      (run (.start store ttl) before).catalog.now <
        (run (.start store ttl) a).catalog.now + ttl := by
  obtain ⟨m, e, hm, hwaits, he, hage, hx⟩ := h
  obtain rfl := Option.some.inj hx
  rw [← run_append] at hwaits he
  obtain ⟨a, ha, hstore, hstamp⟩ := entry_told store ttl _ id e he
  have httl : (run (.start store ttl) before).catalog.cache.ttl = ttl := ttl_run _ _
  rw [httl] at hage
  exact ⟨m, a, hm, hwaits, ha, hstore, by omega⟩

/-- **Answers are never older than entries live**, in every interleaving.  Look-up `n` begins after
    `before` and reads the clock.  An exercise that it answers is what the store held for the id
    while it waited, or at some moment before its answer when the clock showed less than `ttl`
    less, or more.  It answers that there is none only if the store held none while it waited.
    And an entry comes in only if the store held the exercise for the id while a look-up of that id
    waited, in the step that ends the look-up. -/
theorem answer_age (store : Store) (ttl : Nat) :
    (∀ (before after : List Step) (id : String) (x : Option Exercise),
      let w := run (.start store ttl) before
      let n := w.lookups.length
      (run (.start store ttl) (before ++ .begin id :: after)).lookups[n]? =
        some ⟨id, .answered x⟩ →
      (∀ e, x = some e → Told w id after (some e) ∨
        ∃ m a, m <+: after ∧ Waits (run (.start store ttl) (before ++ .begin id :: m)) n ∧
          a <+: before ++ .begin id :: m ∧
          (run (.start store ttl) a).catalog.store.find? id = some e ∧
          w.catalog.now < (run (.start store ttl) a).catalog.now + ttl) ∧
      (x = none → Told w id after none)) ∧
    (∀ (steps : List Step) (s : Step) (id : String) (e : CacheEntry),
      (run (.start store ttl) (steps ++ [s])).catalog.cache.cached? id = some e →
      (run (.start store ttl) steps).catalog.cache.cached? id ≠ some e →
      ∃ before after, steps = before ++ .begin id :: after ∧
        s = .proceed (run (.start store ttl) before).lookups.length ∧
        e.fetchedAt = (run (.start store ttl) before).catalog.now ∧
        Told (run (.start store ttl) before) id after (some e.exercise)) := by
  constructor
  · intro before after id x w n hans
    obtain ⟨l, hl, -, hkeeps⟩ := lookup_keeps w id after
    rw [← run_append, hans] at hl
    obtain rfl := Option.some.inj hl
    have hanswer : Told w id after x ∨ FoundFresh w id after x := hkeeps
    constructor
    · intro e hx
      subst hx
      rcases hanswer with htold | hfound
      · exact Or.inl htold
      · exact Or.inr hfound.age
    · intro hx
      subst hx
      rcases hanswer with htold | ⟨m, e, -, -, -, -, hx⟩
      · exact htold
      · cases hx
  · intro steps s id e he hnew
    exact entry_landed he hnew

/-- Look-up 0 gets the first edition and takes long to land; look-up 1 begins later, gets the second
    one and lands first. -/
def slowLookup : List Step :=
  [.begin "a", .proceed 0, .proceed 0, .proceed 0, .advance 50, .edit (.ofList [edition "second"]),
    .begin "a", .proceed 1, .proceed 1, .proceed 1, .proceed 1, .proceed 0]

/-- The older exercise has taken the place of the newer one, so that look-up 2 answers what the
    store does not hold any more; yet the store held it less than 60 before look-up 2 began.  What
    look-up 1 entered it had been told. -/
theorem answer_age_slow_lookup :
    (run (.start (.ofList [edition "first"]) 60)
      (slowLookup ++ [.begin "a", .proceed 2])).lookups[2]? =
        some ⟨"a", .answered (some (edition "first"))⟩ ∧
    (run (.start (.ofList [edition "first"]) 60) slowLookup).catalog.store.find? "a"
      = some (edition "second") ∧
    (∃ a, (run (.start (.ofList [edition "first"]) 60) a).catalog.store.find? "a"
        = some (edition "first") ∧
      50 < (run (.start (.ofList [edition "first"]) 60) a).catalog.now + 60) ∧
    (∃ before after, slowLookup.take 10 = before ++ .begin "a" :: after ∧
      50 = (run (.start (.ofList [edition "first"]) 60) before).catalog.now ∧
      Told (run (.start (.ofList [edition "first"]) 60) before) "a" after
        (some (edition "second"))) := by
  have hans : (run (.start (.ofList [edition "first"]) 60)
      (slowLookup ++ [.begin "a", .proceed 2])).lookups[2]?
        = some ⟨"a", .answered (some (edition "first"))⟩ := rfl
  refine ⟨hans, rfl, ?_, ?_⟩
  · rcases ((answer_age (.ofList [edition "first"]) 60).1 slowLookup [.proceed 2] "a" _ hans).1 _
      rfl with htold | ⟨m, a, -, -, -, hstore, hage⟩
    · obtain ⟨a, -, hstore, hnow⟩ := htold.moment
      exact ⟨a, hstore, Nat.lt_of_le_of_lt hnow (by omega)⟩
    · exact ⟨a, hstore, hage⟩
  · obtain ⟨before, after, hsplit, -, hstamp, htold⟩ :=
      (answer_age (.ofList [edition "first"]) 60).2 (slowLookup.take 10) (.proceed 1) "a"
        ⟨edition "second", 50⟩ rfl (by intro h; cases h)
    exact ⟨before, after, hsplit, hstamp, htold⟩

end ExerciseGrading.Interleaving
