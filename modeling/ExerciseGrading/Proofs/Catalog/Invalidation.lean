/-
  AFTER AN INVALIDATION: what a look-up that begins then may answer.

  The danger is a fetch that asked the store before the invalidation and lands after it: what it
  enters is already out of date, and later look-ups would find it fresh.  The proof follows an
  answer back to the store, in three steps, each an induction from the end of the run.

  1. `flight_history` — a fetch under way loaded its generation at some moment of the run, and what
     it got is what the store held at some moment since.
  2. `entry_history` — what stands in the cache is what the store held at some moment since which
     nothing dropped it.  This is the crux: a fetch lands only in the generation it loaded, and a
     generation lasts exactly as long as there is no invalidation.  So the steps between the moment
     and the landing drop nothing, whatever else they do.
  3. `answer_history` — an answer is what the store held at some moment, and from then until the
     look-up had begun nothing dropped its id.
  4. `answer_after_invalidation` — so a look-up that begins after an invalidation of its id answers
     what the store held after that invalidation, whatever else is under way: a moment before the
     invalidation would have the invalidation among the steps that drop nothing.

  The generation is a word.  `FewInvalidations` says that it does not come round to the same value
  while one fetch is under way; it is asked of the run, not of the program.
-/
import ExerciseGrading.Proofs.Catalog.Interleaving
import Mathlib.Data.List.Induction

namespace ExerciseGrading.Interleaving

/-- Whether the fetch of a look-up is under way. -/
def UnderWay (w : World) (n : Nat) : Prop :=
  ∃ l f, w.lookups[n]? = some l ∧ l.phase.flight? = some f

/-- Fewer invalidations overlap any one fetch than there are generations. -/
def FewInvalidations (w : World) (steps : List Step) : Prop :=
  ∀ a b c n, steps = a ++ b ++ c → UnderWay (run w a) n → UnderWay (run w (a ++ b)) n →
    b.countP Step.isInvalidation < UInt64.size

/-- What has few invalidations had few at every earlier moment, so that the hypothesis goes along
    with the inductions. -/
theorem FewInvalidations.init {w : World} {a b : List Step} (h : FewInvalidations w (a ++ b)) :
    FewInvalidations w a := by
  intro x y z n hsplit hx hy
  exact h x y (z ++ b) n (by rw [hsplit, List.append_assoc]) hx hy

/-- A run with fewer steps than there are generations has few invalidations. -/
theorem fewInvalidations_of_length {w : World} {steps : List Step}
    (h : steps.length < UInt64.size) : FewInvalidations w steps := by
  intro a b c n hsplit _ _
  have hb : b.countP Step.isInvalidation ≤ b.length := List.countP_le_length
  have hlen : steps.length = a.length + b.length + c.length := by
    rw [hsplit, List.length_append, List.length_append]
  omega

/-- An invalidation that drops an entry is an invalidation. -/
theorem Step.isInvalidation_of_drops {s : Step} {id : String} (h : s.Drops id) :
    s.isInvalidation = true := by
  cases s with
  | invalidate k => rfl
  | invalidateAll => rfl
  | begin k => exact h.elim
  | proceed n => exact h.elim
  | edit store => exact h.elim
  | advance time => exact h.elim

/-! ## Where fetches come from

  Two moments are read off a fetch, the one when it loaded the generation and a later one when
  it asked the store.  Nothing is asked yet of the number of invalidations in between. -/

/-- Look-up `n` has loaded the generation, and it is still that of its fetch `f`. -/
def HasLoaded (w : World) (n : Nat) (f : Flight) : Prop :=
  ∃ l, w.lookups[n]? = some l ∧ l.phase = .loaded f ∧ f.generation = w.catalog.cache.generation

/-- **The history of a fetch.**  After `steps`, a fetch under way is for the id of its look-up; it
    loaded its generation at the moment `a`, and if it has asked the store already, then what it
    got is what the store held at a moment `a ++ m` since. -/
theorem flight_history (store : Store) (ttl : Nat) (steps : List Step) :
    ∀ (n : Nat) (l : Lookup) (f : Flight),
      (run (.start store ttl) steps).lookups[n]? = some l → l.phase.flight? = some f →
      f.id = l.id ∧ ∃ a b, steps = a ++ b ∧ HasLoaded (run (.start store ttl) a) n f ∧
        ∀ x, l.phase = .fetched f x →
          ∃ m, m <+: b ∧ (run (.start store ttl) (a ++ m)).catalog.store.find? l.id = x := by
  induction steps using List.reverseRecOn with
  | nil => intro n l f hl; simp [run, World.start] at hl
  | append_singleton steps s ih =>
    intro n l f hl hf
    have hl' := hl
    rw [run_snoc] at hl'
    rcases lookup_step hl' with hold | ⟨-, -, hnew⟩ | ⟨l₀, rfl, hl₀, rfl⟩
    · -- nothing happened to this look-up
      obtain ⟨hid, a, b, hab, hload, hask⟩ := ih n l f hold hf
      refine ⟨hid, a, b ++ [s], by rw [hab, List.append_assoc], hload, fun x hx => ?_⟩
      obtain ⟨m, hm, hstore⟩ := hask x hx
      exact ⟨m, hm.trans (List.prefix_append b [s]), hstore⟩
    · -- a look-up that has just begun has no fetch yet
      rw [hnew] at hf; cases hf
    · rcases next_flight hf with ⟨hp, hid, hgen⟩ | ⟨hp, hp'⟩
      · -- the generation was loaded just now
        refine ⟨by rw [hid, next_id], steps ++ [.proceed n], [], by simp, ⟨_, hl, hp, ?_⟩, ?_⟩
        · rw [hgen, run_snoc, generation_step]
          simp [Step.isInvalidation]
        · intro x hx; rw [hp] at hx; cases hx
      · -- the store was asked just now
        obtain ⟨hid, a, b, hab, hload, -⟩ := ih n l₀ f hl₀ (by rw [hp]; rfl)
        refine ⟨by rw [hid, next_id], a, b ++ [.proceed n], by rw [hab, List.append_assoc],
          hload, fun x hx => ⟨b, List.prefix_append b _, ?_⟩⟩
        rw [hp'] at hx
        cases hx
        rw [next_id, ← hab, hid]

/-! ## Where entries come from

  A fetch lands only where the generation is still the one that it loaded.  So no invalidation
  came in between, for fewer came than it takes for the count to come round
  (`quiet_of_generation_eq`), and the entry shows the store of a moment since which nothing
  dropped it. -/

/-- **The history of an entry.**  What stands in the cache after `steps` is what the store held at
    a moment `a` since which no step dropped it. -/
theorem entry_history (store : Store) (ttl : Nat) (steps : List Step) :
    FewInvalidations (.start store ttl) steps → ∀ (id : String) (e : CacheEntry),
      (run (.start store ttl) steps).catalog.cache.cached? id = some e →
      ∃ a b, steps = a ++ b ∧
        (run (.start store ttl) a).catalog.store.find? id = some e.exercise ∧
        ∀ s ∈ b, ¬ s.Drops id := by
  induction steps using List.reverseRecOn with
  | nil => intro _ id e he; cases he
  | append_singleton steps s ih =>
    intro hfew id e he
    rw [run_snoc] at he
    rcases entry_step he with ⟨hold, hdrop⟩ | ⟨n, l, f, x, -, hl, hp, hdrop, hgen, hid, rfl⟩
    · -- an old entry, which the step has spared
      obtain ⟨a, b, hab, hstore, hb⟩ := ih hfew.init id e hold
      refine ⟨a, b ++ [s], by rw [hab, List.append_assoc], hstore, fun t ht => ?_⟩
      rcases List.mem_append.mp ht with ht | ht
      · exact hb t ht
      · rw [List.mem_singleton.mp ht]; exact hdrop
    · -- a fetch has landed: its history begins where it loaded the generation
      have hf : l.phase.flight? = some f := by rw [hp]; rfl
      obtain ⟨hfid, a, b, hab, ⟨l₀, hl₀, hp₀, hgen₀⟩, hask⟩ :=
        flight_history store ttl steps n l f hl hf
      obtain ⟨m, ⟨b', rfl⟩, hstore⟩ := hask (some x) hp
      -- the generation is the one that was loaded, so there was no invalidation in between
      have hcount : (m ++ b').countP Step.isInvalidation < UInt64.size := by
        refine hfew a (m ++ b') [s] n (by rw [hab]) ⟨l₀, f, hl₀, by rw [hp₀]; rfl⟩ ?_
        rw [← hab]; exact ⟨l, f, hl, hf⟩
      have hquiet := quiet_of_generation_eq (run (.start store ttl) a) (m ++ b')
        (by rw [← run_append, ← hab, ← hgen, hgen₀]) hcount
      refine ⟨a ++ m, b' ++ [s], by rw [hab]; simp, ?_, fun t ht => ?_⟩
      · rw [← hid, hfid]; exact hstore
      · rcases List.mem_append.mp ht with ht | ht
        · intro hd
          exact hquiet t (List.mem_append_right m ht) (Step.isInvalidation_of_drops hd)
        · rw [List.mem_singleton.mp ht]; exact hdrop

/-! ## Where answers come from

  An answer comes from an entry or from a fetch of the look-up itself.  Nothing has dropped the
  entry up to now, and the fetch asked the store after the look-up began. -/

/-- **The history of an answer.**  What look-up `n` answers after `steps` is what the store held at
    a moment `a`; when the steps `m` had followed the look-up had begun, and none of them dropped
    its id. -/
theorem answer_history (store : Store) (ttl : Nat) (steps : List Step) :
    FewInvalidations (.start store ttl) steps → ∀ (n : Nat) (l : Lookup) (x : Option Exercise),
      (run (.start store ttl) steps).lookups[n]? = some l → l.phase = .answered x →
      ∃ a m r, steps = a ++ (m ++ r) ∧
        (run (.start store ttl) a).catalog.store.find? l.id = x ∧
        n < (run (.start store ttl) (a ++ m)).lookups.length ∧ ∀ s ∈ m, ¬ s.Drops l.id := by
  induction steps using List.reverseRecOn with
  | nil => intro _ n l x hl; simp [run, World.start] at hl
  | append_singleton steps s ih =>
    intro hfew n l x hl hx
    rw [run_snoc] at hl
    rcases lookup_step hl with hold | ⟨-, -, hnew⟩ | ⟨l₀, rfl, hl₀, rfl⟩
    · -- answered before this step
      obtain ⟨a, m, r, hsplit, hrest⟩ := ih hfew.init n l x hold hx
      exact ⟨a, m, r ++ [s], by rw [hsplit]; simp, hrest⟩
    · rw [hnew] at hx; cases hx
    · have hn : n < (run (.start store ttl) steps).lookups.length :=
        (List.getElem?_eq_some_iff.mp hl₀).1
      rw [next_id]
      rcases next_answered hx with ⟨t, e, rfl, hfresh⟩ | ⟨f, hp⟩ | hp
      · -- found in the cache: nothing dropped the entry until now
        obtain ⟨c, hc, rfl, -⟩ := Cache.entry_of_fresh hfresh
        obtain ⟨a, b, hab, hstore, hb⟩ := entry_history store ttl steps hfew.init _ c hc
        exact ⟨a, b, [.proceed n], by rw [hab]; simp, hstore, by rw [← hab]; exact hn, hb⟩
      · -- fetched: the store was asked after the look-up began
        obtain ⟨-, a, b, hab, ⟨l₁, hl₁, -⟩, hask⟩ :=
          flight_history store ttl steps n l₀ f hl₀ (by rw [hp]; rfl)
        obtain ⟨m, ⟨b', rfl⟩, hstore⟩ := hask x hp
        refine ⟨a ++ m, [], b' ++ [.proceed n], by rw [hab]; simp, hstore, ?_, by simp⟩
        have hlen := length_run (run (.start store ttl) a) m
        have hn₁ : n < (run (.start store ttl) a).lookups.length :=
          (List.getElem?_eq_some_iff.mp hl₁).1
        rw [List.append_nil, run_append]
        omega
      · obtain ⟨a, m, r, hsplit, hrest⟩ := ih hfew.init n l₀ x hl₀ hp
        exact ⟨a, m, r ++ [.proceed n], by rw [hsplit]; simp, hrest⟩

/-! ## The headline -/

/-- **No stale answer after an invalidation**: in every interleaving, a look-up that begins after
    an invalidation of its id answers what the store held at some moment since.  If the store is
    not edited any more, that is what it held when it was invalidated: no older fetch hides it. -/
theorem answer_after_invalidation (store : Store) (ttl : Nat) (before after : List Step)
    (inv : Step) (id : String) (hdrop : inv.Drops id)
    (hfew : FewInvalidations (.start store ttl) (before ++ inv :: after))
    (n : Nat) (hlate : (run (.start store ttl) (before ++ [inv])).lookups.length ≤ n)
    (x : Option Exercise)
    (hans : (run (.start store ttl) (before ++ inv :: after)).lookups[n]? =
      some ⟨id, .answered x⟩) :
    (∃ m, m <+: after ∧
      (run (.start store ttl) (before ++ inv :: m)).catalog.store.find? id = x) ∧
    ((∀ s, .edit s ∉ after) →
      (run (.start store ttl) (before ++ [inv])).catalog.store.find? id = x) := by
  have hsince : ∃ m, m <+: after ∧
      (run (.start store ttl) (before ++ inv :: m)).catalog.store.find? id = x := by
    obtain ⟨a, m, r, hsplit, hstore, hn, hquiet⟩ := answer_history store ttl _ hfew n _ x hans rfl
    rw [List.append_cons] at hsplit
    rcases List.append_eq_append_iff.mp hsplit with ⟨c, rfl, rfl⟩ | ⟨c, hc, hmr⟩
    · -- the moment comes after the invalidation
      exact ⟨c, List.prefix_append c _, by simpa using hstore⟩
    · rcases List.append_eq_append_iff.mp hmr with ⟨d, rfl, -⟩ | ⟨d, rfl, -⟩
      · -- the look-up began before the invalidation was over
        have hlen := length_run (run (.start store ttl) (a ++ m)) d
        rw [← run_append, List.append_assoc, ← hc] at hlen
        omega
      · -- the invalidation is among the steps that drop nothing
        rcases List.eq_nil_or_concat c with rfl | ⟨c', s, rfl⟩
        · exact ⟨[], List.nil_prefix, by rw [hc]; simpa using hstore⟩
        · have hs : s = inv := by
            rw [List.concat_eq_append, ← List.append_assoc] at hc
            exact (List.cons.inj (List.append_inj_right' hc rfl)).1.symm
          exact absurd (hs ▸ hdrop) (hquiet s (by simp))
  -- without edits the store of that moment is the store of the invalidation
  refine ⟨hsince, fun hedit => ?_⟩
  obtain ⟨m, hm, hstore⟩ := hsince
  rw [List.append_cons, run_append, store_run _ m fun s hs => hedit s (hm.subset hs)] at hstore
  exact hstore

/-- An exercise that only its message tells from others with its id. -/
def edition (message : String) : Exercise := ⟨"a", [], [], [], message⟩

/-- Look-up 0 has fetched the first edition when the second one comes. -/
def raceBefore : List Step :=
  [.begin "a", .proceed 0, .proceed 0, .proceed 0, .edit (.ofList [edition "second"])]

/-- Look-up 0 lands, and look-up 1 begins and goes on until it has its answer. -/
def raceAfter : List Step :=
  [.proceed 0, .begin "a", .proceed 1, .proceed 1, .proceed 1, .proceed 1]

/-- The race that generations are there for: the id is invalidated while an old fetch is under way,
    and the look-up that begins then is not misled by it. -/
theorem answer_of_overtaken_fetch :
    (run (.start (.ofList [edition "first"]) 60000)
      (raceBefore ++ .invalidate "a" :: raceAfter)).lookups[1]?
        = some ⟨"a", .answered (some (edition "second"))⟩ ∧
    (run (.start (.ofList [edition "first"]) 60000)
      (raceBefore ++ [.invalidate "a"])).catalog.store.find? "a" = some (edition "second") :=
  ⟨rfl, (answer_after_invalidation (.ofList [edition "first"]) 60000 raceBefore raceAfter
    (.invalidate "a") "a" rfl (fewInvalidations_of_length (by decide)) 1 (by decide) _ rfl).2
    (by simp [raceAfter])⟩

end ExerciseGrading.Interleaving
