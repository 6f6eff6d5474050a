/-
  THE CATALOG AND ITS HISTORY: one operation after another.

  The cache is state, and a claim about what a look-up answers would have to speak of that state.
  But the state is made by what happened, so that it can be left out: what was asked, what was
  invalidated and how late it is already say what the cache holds.

  1. **Operations** — an `Operation` is a look-up, an invalidation, a step of the clock or an edit
     of the store; `performAll` is what a list of them makes of a catalog.
  2. **The part of a history that counts** — `LatestFetch` is the latest look-up of an id that asked
     the store, with what happened before it and since.  Look-ups that were answered from the cache
     change nothing, and earlier fetches of the id are overwritten.
  3. **The crux (`cached?_iff`)** — the entry of an id is what its latest fetch found, unless an
     invalidation came since.  It is an induction from the end of the history.  The step lemmas
     `cached?_perform_…` say what one operation does to the entry of an id: only a fetch of that id
     writes it, and only an invalidation of it takes it away.
  4. **Look-ups (`get_eq_history`)** — whether a look-up asks the store, and what it answers, is
     told by that history alone: `fresh?_iff` adds the age of the entry to its origin.
-/
import ExerciseGrading.Catalog
import Mathlib.Data.List.Induction

namespace ExerciseGrading.Catalog

/-- What can happen to a catalog. -/
inductive Operation where
  | get (id : String)
  | invalidate (id : String)
  | invalidateAll
  | advance (time : Nat)
  /-- The store is edited: from now on it holds what `store` holds. -/
  | edit (store : Store)

/-- Whether an operation invalidates the entry of an id. -/
def Operation.Drops (id : String) : Operation → Prop
  | .invalidate k => k = id
  | .invalidateAll => True
  | _ => False

/-- What one operation makes of a catalog. The answer of a look-up is left out here: what it was can
    be told from the catalog before it. -/
def perform (c : Catalog) : Operation → Catalog
  | .get id => (c.get id).2
  | .invalidate id => c.invalidate id
  | .invalidateAll => c.invalidateAll
  | .advance time => c.advance time
  | .edit store => { c with store := store }

/-- The catalog after some operations. -/
def performAll (c : Catalog) (ops : List Operation) : Catalog := ops.foldl perform c

/-- A history can be cut anywhere. -/
theorem performAll_append (c : Catalog) (a b : List Operation) :
    c.performAll (a ++ b) = (c.performAll a).performAll b :=
  List.foldl_append

/-- Histories grow at the end, which is where the inductions below take them apart. -/
theorem performAll_snoc (c : Catalog) (ops : List Operation) (o : Operation) :
    c.performAll (ops ++ [o]) = (c.performAll ops).perform o := by
  rw [performAll_append]; rfl

/-- Whether a look-up would ask the store. -/
def Asks (c : Catalog) (id : String) : Prop := (c.get id).2.fetches ≠ c.fetches

/-! ## One look-up

  There are two cases, told apart by whether there is a fresh entry, and in each of them the
  answer and the new catalog are written out in full. -/

/-- A fresh entry is the answer, and nothing changes: its age does not begin anew. -/
theorem get_of_fresh {c : Catalog} {id : String} {e : Exercise}
    (h : c.cache.fresh? id c.now = some e) : c.get id = (some e, c) := by
  simp [get, getDuring, h]

/-- Without a fresh entry the store is asked and its answer lands at once. Nothing can come in
    between here, so that the generation is still the one that the fetch began with. -/
theorem get_of_not_fresh {c : Catalog} {id : String} (h : c.cache.fresh? id c.now = none) :
    c.get id = (c.store.find? id, { c with
      fetches := c.fetches + 1
      cache := Flight.land ⟨id, c.now, c.cache.generation⟩ (c.store.find? id) c.cache }) := by
  simp [get, getDuring, h]

/-- The store is asked just if there is no fresh entry. -/
theorem asks_iff (c : Catalog) (id : String) : c.Asks id ↔ c.cache.fresh? id c.now = none := by
  cases h : c.cache.fresh? id c.now with
  | none => simp [Asks, get_of_not_fresh h]
  | some e => simp [Asks, get_of_fresh h]

/-- A look-up that asks the store asks it once, and answers what it holds. -/
theorem get_of_asks {c : Catalog} {id : String} (h : c.Asks id) :
    (c.get id).2.fetches = c.fetches + 1 ∧ (c.get id).1 = c.store.find? id := by
  rw [get_of_not_fresh ((asks_iff c id).mp h)]
  exact ⟨rfl, rfl⟩

/-- A look-up that does not ask the store leaves everything as it is. -/
theorem get_of_not_asks {c : Catalog} {id : String} (h : ¬ c.Asks id) : (c.get id).2 = c := by
  rw [asks_iff] at h
  obtain ⟨e, he⟩ := Option.ne_none_iff_exists'.mp h
  rw [get_of_fresh he]

/-! ## What one operation does

  To an entry, an operation does one of three things: it takes it away, it writes it anew, or it
  leaves it alone.  There is one lemma for each, and the hypotheses of the three exclude one
  another. -/

/-- The clock does not run backwards. -/
theorem now_perform (c : Catalog) (o : Operation) : c.now ≤ (c.perform o).now := by
  cases o with
  | get id =>
    by_cases h : c.Asks id
    · simp [perform, get_of_not_fresh ((asks_iff c id).mp h)]
    · simp [perform, get_of_not_asks h]
  | advance time => exact Nat.le_add_right _ _
  | invalidate id => exact Nat.le_refl _
  | invalidateAll => exact Nat.le_refl _
  | edit store => exact Nat.le_refl _

/-- How long entries live is fixed when the catalog is made. -/
theorem ttl_perform (c : Catalog) (o : Operation) : (c.perform o).cache.ttl = c.cache.ttl := by
  cases o with
  | get id =>
    by_cases h : c.Asks id
    · simp [perform, get_of_not_fresh ((asks_iff c id).mp h), Flight.ttl_land]
    · simp [perform, get_of_not_asks h]
  | advance time => rfl
  | invalidate id => rfl
  | invalidateAll => rfl
  | edit store => rfl

/-- An invalidation of an id takes its entry away, also if it invalidates all ids. -/
theorem cached?_perform_of_drops {c : Catalog} {o : Operation} {id : String} (h : o.Drops id) :
    (c.perform o).cache.cached? id = none := by
  cases o with
  | invalidate k => exact (Cache.cached?_invalidate c.cache k id).trans (if_pos h)
  | invalidateAll => rfl
  | get k => exact h.elim
  | advance time => exact h.elim
  | edit store => exact h.elim

/-- A fetch leaves the entry of what it found, or none. -/
theorem cached?_perform_of_asks {c : Catalog} {id : String} (h : c.Asks id) :
    (c.perform (.get id)).cache.cached? id = (c.store.find? id).map (⟨·, c.now⟩) := by
  rw [perform, get_of_not_fresh ((asks_iff c id).mp h)]
  exact (Flight.cached?_land _ _ _ id).trans (if_pos ⟨rfl, rfl⟩)

/-- All other operations leave the entry of an id alone. -/
theorem cached?_perform_of_other {c : Catalog} {o : Operation} {id : String} (hd : ¬ o.Drops id)
    (hg : o = .get id → ¬ c.Asks id) : (c.perform o).cache.cached? id = c.cache.cached? id := by
  cases o with
  | get k =>
    by_cases h : c.Asks k
    · have hk : k ≠ id := fun hk => hg (by rw [hk]) (hk ▸ h)
      rw [perform, get_of_not_fresh ((asks_iff c k).mp h)]
      exact (Flight.cached?_land _ _ _ id).trans (if_neg fun hh => hk hh.2)
    · rw [perform, get_of_not_asks h]
  | invalidate k => exact (Cache.cached?_invalidate c.cache k id).trans (if_neg hd)
  | invalidateAll => exact absurd trivial hd
  | advance time => rfl
  | edit store => rfl

/-! ## The latest fetch

  Whether a look-up was a fetch depends on the state in which it came, so that the history of an
  id is not the list of its look-ups.  `LatestFetch` splits the history at the last of those
  that asked. -/

/-- The latest look-up of an id that asked the store: `before` it, and `since`. -/
structure LatestFetch (c : Catalog) (ops : List Operation) (id : String)
    (before since : List Operation) : Prop where
  split : ops = before ++ .get id :: since
  asks : (c.performAll before).Asks id
  last : ∀ a b, since = a ++ .get id :: b → ¬ (c.performAll (before ++ .get id :: a)).Asks id

/-- A look-up that asks the store is the latest fetch as soon as it is done. -/
theorem latestFetch_of_asks {c : Catalog} {ops : List Operation} {id : String}
    (h : (c.performAll ops).Asks id) : LatestFetch c (ops ++ [.get id]) id ops [] :=
  ⟨rfl, h, fun a b hab => by cases a <;> cases hab⟩

/-- After a fetch it is the latest one. -/
theorem LatestFetch.eq_of_asks {c : Catalog} {ops before since : List Operation} {id : String}
    (h : LatestFetch c (ops ++ [.get id]) id before since) (hasks : (c.performAll ops).Asks id) :
    before = ops ∧ since = [] := by
  have hsplit := h.split
  -- if something came since, the fetch is in `since`, and `last` says that it did not ask
  rcases List.eq_nil_or_concat since with rfl | ⟨since, o, rfl⟩
  · exact ⟨(List.append_inj_left' hsplit rfl).symm, rfl⟩
  · rw [List.concat_eq_append, ← List.cons_append, ← List.append_assoc] at hsplit
    have hops := List.append_inj_left' hsplit rfl
    have ho := List.append_inj_right' hsplit rfl
    refine absurd hasks ?_
    rw [hops]
    exact h.last since [] (by simpa using (List.cons.inj ho).1.symm)

/-- Any other operation keeps the latest fetch. -/
theorem latestFetch_snoc_iff {c : Catalog} {ops : List Operation} {o : Operation} {id : String}
    (ho : o = .get id → ¬ (c.performAll ops).Asks id) {before since : List Operation} :
    LatestFetch c (ops ++ [o]) id before since ↔
      ∃ earlier, since = earlier ++ [o] ∧ LatestFetch c ops id before earlier := by
  constructor
  · intro h
    have hsplit := h.split
    rcases List.eq_nil_or_concat since with rfl | ⟨earlier, o', rfl⟩
    · -- the last operation would be the fetch itself
      have hops : ops = before := List.append_inj_left' hsplit rfl
      have ho' : o = .get id := (List.cons.inj (List.append_inj_right' hsplit rfl)).1
      exact absurd h.asks (hops ▸ ho ho')
    · rw [List.concat_eq_append] at hsplit ⊢
      rw [← List.cons_append, ← List.append_assoc] at hsplit
      have hops := List.append_inj_left' hsplit rfl
      obtain rfl := (List.cons.inj (List.append_inj_right' hsplit rfl)).1
      refine ⟨earlier, rfl, hops, h.asks, fun a b hab => ?_⟩
      exact h.last a (b ++ [o]) (by rw [List.concat_eq_append, hab]; simp)
  · -- a look-up of the id in `since` is the new one, which does not ask, or an earlier one
    rintro ⟨earlier, rfl, h⟩
    refine ⟨by rw [h.split]; simp, h.asks, fun a b hab => ?_⟩
    rcases List.eq_nil_or_concat b with rfl | ⟨b, o', rfl⟩
    · have ha : earlier = a := List.append_inj_left' hab rfl
      have ho' : o = .get id := (List.cons.inj (List.append_inj_right' hab rfl)).1
      rw [← ha, ← h.split]
      exact ho ho'
    · rw [List.concat_eq_append, ← List.cons_append, ← List.append_assoc] at hab
      exact h.last a b (List.append_inj_left' hab rfl)

/-! ## Entries

  Both sides are followed through the last operation: the entry by the step lemmas, and the
  latest fetch by `latestFetch_of_asks` and `latestFetch_snoc_iff`. -/

/-- The look-up between `before` and `since` found an exercise that nothing invalidated since. -/
def Kept (c : Catalog) (id : String) (before since : List Operation) (e : CacheEntry) : Prop :=
  ((c.performAll before).get id).1 = some e.exercise ∧ (c.performAll before).now = e.fetchedAt ∧
    ∀ o ∈ since, ¬ o.Drops id

/-- One operation more keeps the exercise, unless it invalidates the id. -/
theorem kept_snoc_iff {c : Catalog} {id : String} {before since : List Operation} {o : Operation}
    {e : CacheEntry} :
    Kept c id before (since ++ [o]) e ↔ Kept c id before since e ∧ ¬ o.Drops id := by
  constructor
  · rintro ⟨hfound, hnow, hquiet⟩
    exact ⟨⟨hfound, hnow, fun o' ho' => hquiet o' (List.mem_append_left _ ho')⟩,
      hquiet o (List.mem_append_right _ (List.mem_singleton.mpr rfl))⟩
  · rintro ⟨⟨hfound, hnow, hquiet⟩, ho⟩
    refine ⟨hfound, hnow, fun o' ho' => ?_⟩
    rcases List.mem_append.mp ho' with ho' | ho'
    · exact hquiet o' ho'
    · rwa [List.mem_singleton.mp ho']

/-- **The entry of an id is what its latest fetch found**, unless an invalidation came since. -/
theorem cached?_iff (store : Store) (ttl : Nat) (ops : List Operation) (id : String)
    (e : CacheEntry) :
    ((ofStore store ttl).performAll ops).cache.cached? id = some e ↔
      ∃ before since, LatestFetch (ofStore store ttl) ops id before since ∧
        Kept (ofStore store ttl) id before since e := by
  -- the last operation is the one that matters for the entry, so the history loses it first
  induction ops using List.reverseRecOn with
  | nil =>
    refine iff_of_false (fun h => by cases h) ?_
    rintro ⟨before, since, h, -⟩
    exact absurd h.split (by simp)
  | append_singleton ops o ih =>
    rw [performAll_snoc]
    by_cases hfetch : o = .get id ∧ ((ofStore store ttl).performAll ops).Asks id
    · -- a fetch of this id: its entry is all that counts from now on
      obtain ⟨rfl, hasks⟩ := hfetch
      rw [cached?_perform_of_asks hasks]
      have hanswer := (get_of_asks hasks).2
      constructor
      · intro h
        obtain ⟨x, hx, rfl⟩ := Option.map_eq_some_iff.mp h
        exact ⟨ops, [], latestFetch_of_asks hasks, hanswer.trans hx, rfl, by simp⟩
      · rintro ⟨before, since, h, hfound, hnow, -⟩
        obtain ⟨rfl, rfl⟩ := h.eq_of_asks hasks
        rw [hanswer] at hfound
        rw [hfound, hnow]
        rfl
    · have ho : o = .get id → ¬ ((ofStore store ttl).performAll ops).Asks id :=
        fun ho hasks => hfetch ⟨ho, hasks⟩
      by_cases hd : o.Drops id
      · -- an invalidation of this id
        rw [cached?_perform_of_drops hd]
        refine iff_of_false (by simp) ?_
        rintro ⟨before, since, h, hkept⟩
        obtain ⟨earlier, rfl, -⟩ := (latestFetch_snoc_iff ho).mp h
        exact (kept_snoc_iff.mp hkept).2 hd
      · -- nothing that touches this id
        rw [cached?_perform_of_other hd ho, ih]
        constructor
        · rintro ⟨before, since, h, hkept⟩
          exact ⟨before, since ++ [o], (latestFetch_snoc_iff ho).mpr ⟨since, rfl, h⟩,
            kept_snoc_iff.mpr ⟨hkept, hd⟩⟩
        · rintro ⟨before, since, h, hkept⟩
          obtain ⟨earlier, rfl, hlatest⟩ := (latestFetch_snoc_iff ho).mp h
          exact ⟨before, earlier, hlatest, (kept_snoc_iff.mp hkept).1⟩

/-! ## Look-ups

  An entry that is there may be too old.  Its age is counted from the clock of its fetch, and
  what has passed since is told by the history, for the clock only moves in steps of it. -/

/-- What happens later happens at a later time. -/
theorem now_performAll (c : Catalog) : ∀ ops : List Operation, c.now ≤ (c.performAll ops).now
  | [] => Nat.le_refl _
  | o :: rest => Nat.le_trans (now_perform c o) (now_performAll (c.perform o) rest)

/-- No history changes how long entries live. -/
theorem ttl_performAll (c : Catalog) : ∀ ops : List Operation,
    (c.performAll ops).cache.ttl = c.cache.ttl
  | [] => rfl
  | o :: rest => (ttl_performAll (c.perform o) rest).trans (ttl_perform c o)

/-- The latest fetch of an id still answers: it found `e`, less time has passed since its clock
    reading than entries live, and nothing invalidated the id since. -/
def StillAnswers (store : Store) (ttl : Nat) (ops : List Operation) (id : String)
    (before since : List Operation) (e : Exercise) : Prop :=
  LatestFetch (ofStore store ttl) ops id before since ∧
    (((ofStore store ttl).performAll before).get id).1 = some e ∧
    ((ofStore store ttl).performAll ops).now < ((ofStore store ttl).performAll before).now + ttl ∧
    ∀ o ∈ since, ¬ o.Drops id

/-- What is fresh is what the latest fetch still answers. -/
theorem fresh?_iff (store : Store) (ttl : Nat) (ops : List Operation) (id : String)
    (e : Exercise) :
    ((ofStore store ttl).performAll ops).cache.fresh? id ((ofStore store ttl).performAll ops).now
        = some e ↔
      ∃ before since, StillAnswers store ttl ops id before since e := by
  have httl : ((ofStore store ttl).performAll ops).cache.ttl = ttl := ttl_performAll _ ops
  -- an entry cannot be older than the catalog: subtraction is exact below
  have hlater : ∀ before since, LatestFetch (ofStore store ttl) ops id before since →
      ((ofStore store ttl).performAll before).now ≤ ((ofStore store ttl).performAll ops).now := by
    intro before since h
    rw [h.split, performAll_append]
    exact now_performAll _ _
  constructor
  · intro h
    obtain ⟨entry, hentry, rfl, hage⟩ := Cache.entry_of_fresh h
    obtain ⟨before, since, hlatest, hfound, hstamp, hquiet⟩ :=
      (cached?_iff store ttl ops id entry).mp hentry
    have hnow := hlater before since hlatest
    exact ⟨before, since, hlatest, hfound, by omega, hquiet⟩
  · rintro ⟨before, since, hlatest, hfound, hage, hquiet⟩
    have hentry := (cached?_iff store ttl ops id ⟨e, _⟩).mpr
      ⟨before, since, hlatest, hfound, rfl, hquiet⟩
    have hnow := hlater before since hlatest
    have hyoung : ((ofStore store ttl).performAll ops).now
        - ((ofStore store ttl).performAll before).now
          < ((ofStore store ttl).performAll ops).cache.ttl := by
      rw [httl]; omega
    rw [Cache.fresh?, hentry]
    exact if_pos hyoung

/-- **A look-up is told by its history.**  After any operations, a look-up is answered without the
    store just if the latest fetch of its id still answers, and then with what that fetch found;
    otherwise it asks the store once, and answers what the store holds now. -/
theorem get_eq_history (store : Store) (ttl : Nat) (ops : List Operation) (id : String) :
    let c := (ofStore store ttl).performAll ops
    ((c.get id).2.fetches = c.fetches ↔
      ∃ before since e, StillAnswers store ttl ops id before since e) ∧
    (∀ before since e, StillAnswers store ttl ops id before since e → (c.get id).1 = some e) ∧
    ((c.get id).2.fetches ≠ c.fetches →
      (c.get id).2.fetches = c.fetches + 1 ∧ (c.get id).1 = c.store.find? id) := by
  intro c
  refine ⟨?_, ?_, get_of_asks⟩
  · constructor
    · intro hfetches
      have hfresh : c.cache.fresh? id c.now ≠ none :=
        fun hnone => (asks_iff c id).mpr hnone hfetches
      obtain ⟨e, he⟩ := Option.ne_none_iff_exists'.mp hfresh
      obtain ⟨before, since, h⟩ := (fresh?_iff store ttl ops id e).mp he
      exact ⟨before, since, e, h⟩
    · rintro ⟨before, since, e, h⟩
      have he := (fresh?_iff store ttl ops id e).mpr ⟨before, since, h⟩
      rw [get_of_fresh he]
  · intro before since e h
    have he := (fresh?_iff store ttl ops id e).mpr ⟨before, since, h⟩
    rw [get_of_fresh he]

/-- An exercise that only its message tells from others with its id. -/
def version (message : String) : Exercise := ⟨"a", [], [], [], message⟩

/-- An exercise is fetched and edited; time passes, and another id is invalidated. -/
def aging : List Operation :=
  [.get "a", .edit (.ofList [version "new"]), .advance 59, .invalidate "b"]

/-- The edit shows exactly when the time is up: until then the fetch still answers, and from then on
    the store is asked. -/
theorem get_eq_history_boundary :
    (StillAnswers (.ofList [version "old"]) 60 aging "a" [] (aging.drop 1) (version "old") ∧
      (((ofStore (.ofList [version "old"]) 60).performAll aging).get "a").1
        = some (version "old")) ∧
    (let c := (ofStore (.ofList [version "old"]) 60).performAll (aging ++ [.advance 1]);
      (c.get "a").2.fetches ≠ c.fetches ∧ (c.get "a").2.fetches = c.fetches + 1 ∧
        (c.get "a").1 = some (version "new")) := by
  have hstill : StillAnswers (.ofList [version "old"]) 60 aging "a" [] (aging.drop 1)
      (version "old") := by
    refine ⟨⟨rfl, ?_, fun a b hab => ?_⟩, rfl, by decide, ?_⟩
    · rw [asks_iff]; rfl
    · have hmem : Operation.get "a" ∈ aging.drop 1 := by rw [hab]; simp
      simp [aging] at hmem
    · simp [aging, Operation.Drops]
  have hstore : ((ofStore (.ofList [version "old"]) 60).performAll
      (aging ++ [.advance 1])).store.find? "a" = some (version "new") := rfl
  have hasks : (((ofStore (.ofList [version "old"]) 60).performAll
      (aging ++ [.advance 1])).get "a").2.fetches
        ≠ ((ofStore (.ofList [version "old"]) 60).performAll (aging ++ [.advance 1])).fetches := by
    decide
  have hlater := get_eq_history (.ofList [version "old"]) 60 (aging ++ [.advance 1]) "a"
  obtain ⟨honce, hanswer⟩ := hlater.2.2 hasks
  exact ⟨⟨hstill, (get_eq_history _ _ aging "a").2.1 _ _ _ hstill⟩, hasks, honce,
    hanswer.trans hstore⟩

end ExerciseGrading.Catalog
