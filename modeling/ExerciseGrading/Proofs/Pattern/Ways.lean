/-
  WAYS through a machine, and what a run finds.

  A run moves all threads along the text together and keeps, of threads at one step, only the
  first.  A way is what one thread alone would do if it could come back and try the next
  continuation: `ways` lists the groups of all ways to acceptance from a step and a place, preferred
  ones first.  A run finds the head of that list.

  Machines without loops are enough here: their steps lead to lower ones (`Falling`), and `ways`
  goes down with the steps.

  1. `ways_eq_nil_congr` — whether there is a way from a step and a place is no question of the
     groups on the way to it.  So a second thread at a step has a way only if the first one has.
  2. `expand_spec` — the threads that wait for a character have the same first way as the threads
     that were expanded.
  3. `run_eq` — one character after the other, from there to the whole run.

  **The crux (threads that are dropped).**  `expand` drops a thread at a step that was seen before.
  What it would have added has to come out of the threads that stay, and it does: the first thread
  at the step has a way if this one has one, and stands before it.  But at the time of dropping that
  first thread may have been taken apart, with some of what it became still on the stack.

  `Covered` is the account that is kept: where a seen step has a way, a thread that waits has one
  already, or one of the threads on top of the stack that stem from that step.  These are at lower
  steps, so that by the time a second thread at the step is popped they are gone, and a waiting
  thread has the way (`Covered.second`).  Popping a thread keeps the account if what takes its place
  has a way whenever the thread had one (`Covered.pop`), and marking its step adds one line to it
  (`Covered.mark`).

  The fuel is enough because a step is expanded once: `costLeft` is what the unseen steps may put on
  the stack, and it falls by that amount when a step is marked.

  `Expanding` has the two, and the ranges, as one invariant.  A turn does one of three things to the
  thread on top, and there is a lemma for each: `dropped`, `putAside`, `takenApart`.
-/
import ExerciseGrading.Pattern.Search

namespace ExerciseGrading.Pattern

open Text

/-! ## Ways

  `ways` goes down with the steps, and a step that is not lower leads nowhere.  In a machine
  that falls this never shows: the equations below have no such condition. -/

/-- The steps that a step goes on with. -/
def Step.nexts : Step → List Nat
  | .char _ next | .look _ next | .save _ next => [next]
  | .branch nexts => nexts
  | .accept => []

/-- Every step goes on with lower ones. -/
def Falling (steps : Array Step) : Prop := ∀ i, ∀ j ∈ (steps.getD i .accept).nexts, j < i

/-- The character before a place. -/
def charBefore (text : Array Char) (place : Nat) : Option Char :=
  if place = 0 then none else text[place - 1]?

/-- The groups of all ways from step `i` at a place to acceptance, preferred ones first.  A step
    that is not lower leads nowhere. -/
def ways (m : Machine) (text : Array Char) (i place : Nat) (slots : Slots) : List Slots :=
  match m.steps.getD i .accept with
  | .accept => [slots]
  | .char set next =>
    if _h : next < i ∧ text[place]?.any set.hasChar then ways m text next (place + 1) slots else []
  | .look l next =>
    if _h : next < i ∧ l.holds (charBefore text place) text[place]? then
      ways m text next place slots
    else []
  | .save slot next =>
    if _h : next < i then ways m text next place (slots.set! slot (some place)) else []
  | .branch nexts =>
    nexts.flatMap fun j => if _h : j < i then ways m text j place slots else []
termination_by i
decreasing_by all_goals omega

section

variable {m : Machine} {text : Array Char} {i place : Nat} {slots : Slots}

theorem ways_accept (hi : m.steps.getD i .accept = .accept) :
    ways m text i place slots = [slots] := by
  rw [ways, hi]

variable (hm : Falling m.steps)
include hm

theorem ways_char {set : RangeIndex} {next : Nat} (hi : m.steps.getD i .accept = .char set next) :
    ways m text i place slots =
      if text[place]?.any set.hasChar then ways m text next (place + 1) slots else [] := by
  have hnext : next < i := hm i next (by simp [hi, Step.nexts])
  rw [ways, hi]
  simp only [hnext, true_and, dite_eq_ite]

theorem ways_look {l : Look} {next : Nat} (hi : m.steps.getD i .accept = .look l next) :
    ways m text i place slots =
      if l.holds (charBefore text place) text[place]? then ways m text next place slots
      else [] := by
  have hnext : next < i := hm i next (by simp [hi, Step.nexts])
  rw [ways, hi]
  simp only [hnext, true_and, dite_eq_ite]

theorem ways_save {slot next : Nat} (hi : m.steps.getD i .accept = .save slot next) :
    ways m text i place slots = ways m text next place (slots.set! slot (some place)) := by
  have hnext : next < i := hm i next (by simp [hi, Step.nexts])
  rw [ways, hi]
  simp only [hnext, dite_true]

theorem ways_branch {nexts : List Nat} (hi : m.steps.getD i .accept = .branch nexts) :
    ways m text i place slots = nexts.flatMap fun j => ways m text j place slots := by
  rw [ways, hi]
  dsimp only
  rw [List.flatMap_def, List.flatMap_def, List.map_congr_left fun j hj => ?_]
  exact dif_pos (hm i j (by rwa [hi]))

/-- Whether there is a way does not depend on the groups so far. -/
theorem ways_eq_nil_congr (i place : Nat) (slots slots' : Slots) :
    ways m text i place slots = [] ↔ ways m text i place slots' = [] := by
  induction i using Nat.strongRecOn generalizing place slots slots' with
  | ind i ih =>
    -- what follows a step is lower, so that it is settled there
    have hlower : ∀ j ∈ (m.steps.getD i .accept).nexts, ∀ place slots slots',
        ways m text j place slots = [] ↔ ways m text j place slots' = [] :=
      fun j hj => ih j (hm i j hj)
    cases hi : m.steps.getD i .accept with
    | accept => simp [ways_accept hi]
    | char set next =>
      rw [ways_char hm hi, ways_char hm hi]
      split
      · exact hlower next (by simp [hi, Step.nexts]) _ _ _
      · rfl
    | look l next =>
      rw [ways_look hm hi, ways_look hm hi]
      split
      · exact hlower next (by simp [hi, Step.nexts]) _ _ _
      · rfl
    | save slot next =>
      rw [ways_save hm hi, ways_save hm hi]
      exact hlower next (by simp [hi, Step.nexts]) _ _ _
    | branch nexts =>
      rw [ways_branch hm hi, ways_branch hm hi, List.flatMap_eq_nil_iff, List.flatMap_eq_nil_iff]
      exact forall₂_congr fun j hj => hlower j (by rwa [hi]) _ _ _

end

/-! ## Threads

  A list of threads has the ways of its members, one after the other.  A thread that does not
  wait may be replaced by its successors, for these have the same ways in the same order. -/

/-- The ways of a thread. -/
def Thread.ways (m : Machine) (text : Array Char) (place : Nat) (t : Thread) : List Slots :=
  Pattern.ways m text t.step place t.slots

/-- The ways of threads, preferred ones first. -/
def waysOf (m : Machine) (text : Array Char) (place : Nat) (ts : List Thread) : List Slots :=
  ts.flatMap (Thread.ways m text place)

/-- Whether a thread at the step stays where it is until the next character. -/
def Step.waits : Step → Bool
  | .char _ _ | .accept => true
  | _ => false

/-- The threads that take the place of one that does not wait. -/
def successors (m : Machine) (text : Array Char) (place : Nat) (t : Thread) : List Thread :=
  match m.steps.getD t.step .accept with
  | .look l next =>
    if l.holds (charBefore text place) text[place]? then [⟨next, t.slots⟩] else []
  | .save slot next => [⟨next, t.slots.set! slot (some place)⟩]
  | .branch nexts => nexts.map (⟨·, t.slots⟩)
  | _ => []

section

variable {m : Machine} {text : Array Char} {place : Nat}

@[simp] theorem waysOf_nil : waysOf m text place [] = [] := rfl

@[simp] theorem waysOf_cons (t : Thread) (ts : List Thread) :
    waysOf m text place (t :: ts) = t.ways m text place ++ waysOf m text place ts := rfl

@[simp] theorem waysOf_append (ts us : List Thread) :
    waysOf m text place (ts ++ us) = waysOf m text place ts ++ waysOf m text place us :=
  List.flatMap_append

/-- Successors are at lower steps. -/
theorem step_lt_of_successor (hm : Falling m.steps) {t u : Thread}
    (hu : u ∈ successors m text place t) : u.step < t.step := by
  apply hm
  unfold successors at hu
  split at hu
  · rename_i hi
    split at hu
    · obtain rfl := List.mem_singleton.mp hu
      simp [hi, Step.nexts]
    · cases hu
  · rename_i hi
    obtain rfl := List.mem_singleton.mp hu
    simp [hi, Step.nexts]
  · rename_i hi
    obtain ⟨j, hj, rfl⟩ := List.mem_map.mp hu
    simpa [hi, Step.nexts] using hj
  · cases hu

/-- The successors of a thread have its ways, in order. -/
theorem waysOf_successors (hm : Falling m.steps) (text : Array Char) (place : Nat) {t : Thread}
    (ht : (m.steps.getD t.step .accept).waits = false) :
    waysOf m text place (successors m text place t) = t.ways m text place := by
  unfold Thread.ways successors
  cases hi : m.steps.getD t.step .accept with
  | accept => simp [hi, Step.waits] at ht
  | char set next => simp [hi, Step.waits] at ht
  | look l next =>
    rw [ways_look hm hi]
    dsimp only
    split
    · simp [Thread.ways]
    · rfl
  | save slot next =>
    rw [ways_save hm hi]
    simp [Thread.ways]
  | branch nexts =>
    rw [ways_branch hm hi, waysOf, List.flatMap_map]
    rfl

/-- A thread puts fewer threads on the stack than its step costs. -/
theorem length_successors_lt (m : Machine) (text : Array Char) (place : Nat) (t : Thread) :
    (successors m text place t).length < (m.steps.getD t.step .accept).cost := by
  unfold successors
  cases m.steps.getD t.step .accept with
  | look l next =>
    dsimp only
    split <;> simp [Step.cost]
  | _ => simp [Step.cost]

/-! ## Expanding

  One turn of `expand` looks at the thread on top of the stack.  There are three cases, with an
  equation for each of them here, and further on a lemma by which it keeps the invariant. -/

section

variable {fuel : Nat} {t : Thread} {stack : List Thread} {seen : Array Bool} {out : Array Thread}

/-- A thread at a step that was seen is dropped. -/
theorem expand_seen (ht : seen.getD t.step true = true) :
    expand m place (charBefore text place) text[place]? (fuel + 1) (t :: stack) seen out =
      expand m place (charBefore text place) text[place]? fuel stack seen out := by
  rw [expand, if_pos ht]

/-- The first thread at a step that waits is put with the others. -/
theorem expand_waits (ht : seen.getD t.step true = false)
    (hwaits : (m.steps.getD t.step .accept).waits = true) :
    expand m place (charBefore text place) text[place]? (fuel + 1) (t :: stack) seen out =
      expand m place (charBefore text place) text[place]? fuel stack (seen.set! t.step true)
        (out.push t) := by
  rw [expand, if_neg (by simp [ht])]
  cases hi : m.steps.getD t.step .accept with
  | accept => rfl
  | char set next => rfl
  | look l next => simp [hi, Step.waits] at hwaits
  | save slot next => simp [hi, Step.waits] at hwaits
  | branch nexts => simp [hi, Step.waits] at hwaits

/-- The first thread at any other step gives way to its successors. -/
theorem expand_successors (ht : seen.getD t.step true = false)
    (hwaits : (m.steps.getD t.step .accept).waits = false) :
    expand m place (charBefore text place) text[place]? (fuel + 1) (t :: stack) seen out =
      expand m place (charBefore text place) text[place]? fuel
        (successors m text place t ++ stack) (seen.set! t.step true) out := by
  rw [expand, if_neg (by simp [ht]), successors]
  cases hi : m.steps.getD t.step .accept with
  | accept => simp [hi, Step.waits] at hwaits
  | char set next => simp [hi, Step.waits] at hwaits
  | look l next =>
    dsimp only
    split <;> rfl
  | save slot next => rfl
  | branch nexts => rfl

end

/-- The fuel for the steps that have not been seen. -/
def costLeft : List Bool → List Step → Nat
  | seen :: marks, s :: steps => (if seen then 0 else s.cost) + costLeft marks steps
  | _, _ => 0

/-- Seeing a step leaves the fuel for the others. -/
theorem costLeft_set {marks : List Bool} {steps : List Step} {i : Nat} {s : Step}
    (hmark : marks[i]? = some false) (hstep : steps[i]? = some s) :
    costLeft (marks.set i true) steps + s.cost = costLeft marks steps := by
  induction marks generalizing steps i with
  | nil => simp at hmark
  | cons b marks ih =>
    cases steps with
    | nil => simp at hstep
    | cons s' steps =>
      cases i with
      | zero =>
        obtain rfl : b = false := by simpa using hmark
        obtain rfl : s' = s := by simpa using hstep
        simp [costLeft, Nat.add_comm]
      | succ i =>
        have hrest := @ih steps i (by simpa using hmark) (by simpa using hstep)
        simp only [List.set_cons_succ, costLeft]
        omega

/-- A machine's fuel is enough for all its steps. -/
theorem costLeft_le_fuel (m : Machine) :
    costLeft (Array.replicate m.steps.size false).toList m.steps.toList ≤ m.fuel := by
  -- the sum that the machine makes is that of all its steps
  have hsum (steps : List Step) (n : Nat) :
      steps.foldl (fun n s => n + s.cost) n =
        n + costLeft (List.replicate steps.length false) steps := by
    induction steps generalizing n with
    | nil => rfl
    | cons s steps ih =>
      simp only [List.foldl_cons, ih, List.length_cons, List.replicate_succ, costLeft,
        Bool.false_eq_true, if_false]
      omega
  rw [Machine.fuel, ← Array.foldl_toList, hsum, Array.toList_replicate, Array.length_toList]
  exact Nat.le_add_left _ _

/-- Where a seen step has a way, a thread that waits has one, or else one of the threads on top of
    the stack, at lower steps. -/
def Covered (m : Machine) (text : Array Char) (place : Nat) (seen : Array Bool)
    (out stack : List Thread) : Prop :=
  ∀ t : Thread, t.step < m.steps.size → seen.getD t.step true = true → t.ways m text place ≠ [] →
    waysOf m text place out ≠ [] ∨
      ∃ above below, stack = above ++ below ∧ (∀ u ∈ above, u.step < t.step) ∧
        waysOf m text place above ≠ []

/-- A second thread at a step has a way only if a thread that waits has one. -/
theorem Covered.second {seen : Array Bool} {out stack : List Thread} {t : Thread}
    (h : Covered m text place seen out (t :: stack)) (hrange : t.step < m.steps.size)
    (hseen : seen.getD t.step true = true) (hway : t.ways m text place ≠ []) :
    waysOf m text place out ≠ [] := by
  rcases h t hrange hseen hway with hout | ⟨above, below, hstack, hlower, habove⟩
  · exact hout
  · -- the thread itself would be above: it is not at a lower step
    cases above with
    | nil => exact absurd rfl habove
    | cons u above =>
      obtain ⟨rfl, -⟩ := List.cons.inj hstack
      exact absurd (hlower t (by simp)) (Nat.lt_irrefl _)

/-- Popping a thread keeps the account if what takes its place has a way when the thread has. -/
theorem Covered.pop {seen : Array Bool} {out stack : List Thread} {t : Thread}
    (out' above : List Thread) (h : Covered m text place seen out (t :: stack))
    (hlower : ∀ u ∈ above, u.step ≤ t.step)
    (hout : waysOf m text place out ≠ [] → waysOf m text place out' ≠ [])
    (hway : t.ways m text place ≠ [] →
      waysOf m text place out' ≠ [] ∨ waysOf m text place above ≠ []) :
    Covered m text place seen out' (above ++ stack) := by
  intro v hv hseen hvway
  rcases h v hv hseen hvway with hnow | ⟨top, below, hstack, htop, htopway⟩
  · exact .inl (hout hnow)
  · cases top with
    | nil => exact absurd rfl htopway
    | cons u top =>
      obtain ⟨rfl, rfl⟩ := List.cons.inj hstack
      have hless : t.step < v.step := htop t (by simp)
      have habove : ∀ w ∈ above ++ top, w.step < v.step := by
        intro w hw
        rcases List.mem_append.mp hw with hw | hw
        · exact Nat.lt_of_le_of_lt (hlower w hw) hless
        · exact htop w (List.mem_cons_of_mem _ hw)
      -- without the thread the others above still have the way, with it what takes its place has
      by_cases hthread : t.ways m text place = []
      · refine .inr ⟨above ++ top, below, (List.append_assoc ..).symm, habove, ?_⟩
        rw [waysOf_cons, hthread, List.nil_append] at htopway
        simp [htopway]
      · rcases hway hthread with hnow | hnow
        · exact .inl hnow
        · exact .inr ⟨above ++ top, below, (List.append_assoc ..).symm, habove, by simp [hnow]⟩

/-- A step that is seen now has to be accounted for too. -/
theorem Covered.mark (hm : Falling m.steps) {seen : Array Bool} {out stack : List Thread}
    {t : Thread} (h : Covered m text place seen out stack)
    (hway : t.ways m text place ≠ [] → waysOf m text place out ≠ [] ∨
      ∃ above below, stack = above ++ below ∧ (∀ u ∈ above, u.step < t.step) ∧
        waysOf m text place above ≠ []) :
    Covered m text place (seen.set! t.step true) out stack := by
  intro v hv hseen hvway
  -- the step itself, whatever groups a thread there has; or a step that was seen before
  by_cases heq : v.step = t.step
  · rw [heq]
    refine hway fun hnil => hvway ?_
    rw [Thread.ways, heq]
    exact (ways_eq_nil_congr hm ..).mp hnil
  · refine h v hv ?_ hvway
    rwa [Array.getD_eq_getD_getElem?, Array.set!_eq_setIfInBounds,
      Array.getElem?_setIfInBounds_ne (Ne.symm heq), ← Array.getD_eq_getD_getElem?] at hseen

/-- What is kept up while threads are expanded: enough fuel for the stack and for the steps that
    have not been seen, threads at steps of the machine, and the account of what was dropped. -/
structure Expanding (m : Machine) (text : Array Char) (place fuel : Nat) (stack : List Thread)
    (seen : Array Bool) (out : Array Thread) : Prop where
  fuel_enough : stack.length + costLeft seen.toList m.steps.toList ≤ fuel
  size_eq : seen.size = m.steps.size
  inRange : ∀ t ∈ stack, t.step < m.steps.size
  waits : ∀ t ∈ out.toList, t.step < m.steps.size ∧ (m.steps.getD t.step .accept).waits = true
  covered : Covered m text place seen out.toList stack

namespace Expanding

variable {fuel : Nat} {t : Thread} {stack : List Thread} {seen : Array Bool} {out : Array Thread}

/-- The thread on top is at a step of the machine. -/
theorem top_lt (h : Expanding m text place fuel (t :: stack) seen out) : t.step < m.steps.size :=
  h.inRange t List.mem_cons_self

/-- Marking the step of the thread on top pays for what the thread puts on the stack. -/
theorem fuel_mark (h : Expanding m text place (fuel + 1) (t :: stack) seen out)
    (hseen : seen.getD t.step true = false) :
    stack.length + (m.steps.getD t.step .accept).cost +
      costLeft (seen.set! t.step true).toList m.steps.toList ≤ fuel := by
  have ht := h.top_lt
  have hmark : seen.toList[t.step]? = some false := by
    have hin : t.step < seen.size := h.size_eq ▸ ht
    simpa [Array.getD, hin] using hseen
  have hstep : m.steps.toList[t.step]? = some (m.steps.getD t.step .accept) := by
    simp [Array.getD, ht]
  have hset : (seen.set! t.step true).toList = seen.toList.set t.step true := by simp
  have hcost := costLeft_set hmark hstep
  have hfuel := h.fuel_enough
  rw [List.length_cons] at hfuel
  rw [hset]
  omega

/-- A thread at a step that was seen is dropped. -/
theorem dropped (h : Expanding m text place (fuel + 1) (t :: stack) seen out)
    (hseen : seen.getD t.step true = true) : Expanding m text place fuel stack seen out where
  fuel_enough := by
    have hfuel := h.fuel_enough
    rw [List.length_cons] at hfuel
    omega
  size_eq := h.size_eq
  inRange := (List.forall_mem_cons.mp h.inRange).2
  waits := h.waits
  covered := h.covered.pop _ [] (fun _ hu => absurd hu List.not_mem_nil) id
    fun hway => .inl (h.covered.second h.top_lt hseen hway)

/-- A thread that waits is put with the others, and it has the way that its step has now. -/
theorem putAside (hm : Falling m.steps)
    (h : Expanding m text place (fuel + 1) (t :: stack) seen out)
    (hseen : seen.getD t.step true = false)
    (hwaits : (m.steps.getD t.step .accept).waits = true) :
    Expanding m text place fuel stack (seen.set! t.step true) (out.push t) where
  fuel_enough := by
    have hfuel := h.fuel_mark hseen
    omega
  size_eq := by simpa using h.size_eq
  inRange := (List.forall_mem_cons.mp h.inRange).2
  waits := by
    intro u hu
    rw [Array.toList_push, List.mem_append, List.mem_singleton] at hu
    rcases hu with hu | rfl
    · exact h.waits u hu
    · exact ⟨h.top_lt, hwaits⟩
  covered := by
    have hpush : t.ways m text place ≠ [] → waysOf m text place (out.push t).toList ≠ [] := by
      simp +contextual
    have hkeep : waysOf m text place out.toList ≠ [] →
        waysOf m text place (out.push t).toList ≠ [] := by
      simp +contextual
    have hpop := h.covered.pop (out.push t).toList [] (fun _ hu => absurd hu List.not_mem_nil)
      hkeep fun hway => .inl (hpush hway)
    exact hpop.mark hm fun hway => .inl (hpush hway)

/-- A thread that is taken apart leaves its ways to its successors, which are at lower steps and so
    account for its own. -/
theorem takenApart (hm : Falling m.steps)
    (h : Expanding m text place (fuel + 1) (t :: stack) seen out)
    (hseen : seen.getD t.step true = false)
    (hwaits : (m.steps.getD t.step .accept).waits = false) :
    Expanding m text place fuel (successors m text place t ++ stack) (seen.set! t.step true)
      out := by
  have hways := waysOf_successors hm text place hwaits
  have hlower : ∀ u ∈ successors m text place t, u.step < t.step :=
    fun u hu => step_lt_of_successor hm hu
  have hpop := h.covered.pop out.toList (successors m text place t)
    (fun u hu => Nat.le_of_lt (hlower u hu)) id fun hway => .inr (hways ▸ hway)
  refine ⟨?_, by simpa using h.size_eq, ?_, h.waits, ?_⟩
  · have hfew := length_successors_lt m text place t
    have hfuel := h.fuel_mark hseen
    rw [List.length_append]
    omega
  · intro u hu
    rcases List.mem_append.mp hu with hu | hu
    · exact Nat.lt_trans (hlower u hu) h.top_lt
    · exact h.inRange u (List.mem_cons_of_mem _ hu)
  · exact hpop.mark hm fun hway => .inr ⟨_, _, rfl, hlower, hways ▸ hway⟩

end Expanding

/-- Threads that all wait for a character or accept, in place of others with the same first way. -/
structure Expanded (m : Machine) (text : Array Char) (place : Nat) (ts threads : List Thread) :
    Prop where
  waits : ∀ t ∈ threads, t.step < m.steps.size ∧ (m.steps.getD t.step .accept).waits = true
  head?_eq : (waysOf m text place threads).head? = (waysOf m text place ts).head?

/-- **Expanding keeps the first way.** -/
theorem expand_spec (hm : Falling m.steps) {fuel : Nat} {stack : List Thread} {seen : Array Bool}
    {out : Array Thread} (h : Expanding m text place fuel stack seen out) :
    Expanded m text place (out.toList ++ stack)
      (expand m place (charBefore text place) text[place]? fuel stack seen out).1.toList := by
  induction fuel generalizing stack seen out with
  | zero =>
    obtain rfl : stack = [] :=
      List.eq_nil_of_length_eq_zero (Nat.le_zero.mp (Nat.le_of_add_right_le h.fuel_enough))
    rw [expand, List.append_nil]
    exact ⟨h.waits, rfl⟩
  | succ fuel ih =>
    cases stack with
    | nil =>
      rw [expand, List.append_nil]
      · exact ⟨h.waits, rfl⟩
      · exact fun hzero => Nat.succ_ne_zero _ hzero
    | cons t stack =>
      -- three cases: a step that was seen, a thread that waits, a thread that is taken apart
      cases hseen : seen.getD t.step true with
      | true =>
        rw [expand_seen hseen]
        obtain ⟨hall, hhead⟩ := ih (h.dropped hseen)
        refine ⟨hall, hhead.trans ?_⟩
        -- if the thread has a way, a thread that waits comes first
        by_cases hway : t.ways m text place = []
        · simp [hway]
        · obtain ⟨first, rest, hfirst⟩ :=
            List.exists_cons_of_ne_nil (h.covered.second h.top_lt hseen hway)
          simp [hfirst]
      | false =>
        cases hwaits : (m.steps.getD t.step .accept).waits with
        | true =>
          rw [expand_waits hseen hwaits]
          obtain ⟨hall, hhead⟩ := ih (h.putAside hm hseen hwaits)
          exact ⟨hall, hhead.trans (by simp)⟩
        | false =>
          rw [expand_successors hseen hwaits]
          obtain ⟨hall, hhead⟩ := ih (h.takenApart hm hseen hwaits)
          have hways := waysOf_successors hm text place hwaits
          exact ⟨hall, hhead.trans (by simp [hways])⟩

/-! ## One character

  Between two expansions the waiting threads take a character.  Those behind a thread that
  accepts are given up first, as its match is preferred to theirs. -/

/-- The threads before the first that accepts take a character, and that thread's groups come after
    all their ways. -/
theorem untilAccept_spec {threads : List Thread}
    (hwaits : ∀ t ∈ threads, t.step < m.steps.size ∧
      (m.steps.getD t.step .accept).waits = true) :
    (∀ t ∈ (untilAccept m threads).1, t.step < m.steps.size ∧
      ∃ set next, m.steps.getD t.step .accept = .char set next) ∧
      (waysOf m text place threads).head? =
        ((waysOf m text place (untilAccept m threads).1).head? <|> (untilAccept m threads).2) := by
  induction threads with
  | nil => simp [untilAccept]
  | cons t ts ih =>
    obtain ⟨⟨ht, htwaits⟩, hts⟩ := List.forall_mem_cons.mp hwaits
    cases hi : m.steps.getD t.step .accept with
    | accept => simp [untilAccept, hi, Thread.ways, ways_accept hi]
    | char set next =>
      obtain ⟨hall, hhead⟩ := ih hts
      have hcons : untilAccept m (t :: ts) =
          (t :: (untilAccept m ts).1, (untilAccept m ts).2) := by
        rw [untilAccept, hi]
      rw [hcons]
      refine ⟨List.forall_mem_cons.mpr ⟨⟨ht, set, next, hi⟩, hall⟩, ?_⟩
      rw [waysOf_cons, waysOf_cons, List.head?_append, List.head?_append, hhead]
      cases (t.ways m text place).head? <;> rfl
    | look l next => simp [hi, Step.waits] at htwaits
    | save slot next => simp [hi, Step.waits] at htwaits
    | branch nexts => simp [hi, Step.waits] at htwaits

/-- **At one place**: the threads that need a character, and the groups of the first that accepts.
    -/
theorem settle_spec (hm : Falling m.steps) (text : Array Char) (place : Nat) {ts : List Thread}
    (hts : ∀ t ∈ ts, t.step < m.steps.size) :
    (∀ t ∈ (settle m text place ts).1, t.step < m.steps.size ∧
      ∃ set next, m.steps.getD t.step .accept = .char set next) ∧
      (waysOf m text place ts).head? =
        ((waysOf m text place (settle m text place ts).1).head? <|>
          (settle m text place ts).2) := by
  have hfuel : ts.length + costLeft (Array.replicate m.steps.size false).toList m.steps.toList ≤
      m.fuel + ts.length := by
    have := costLeft_le_fuel m
    omega
  -- nothing has been seen, so that there is nothing to account for
  have hcovered : Covered m text place (Array.replicate m.steps.size false) [] ts := by
    intro t ht hseen
    simp [Array.getD, ht] at hseen
  have hstart : Expanding m text place (m.fuel + ts.length) ts
      (Array.replicate m.steps.size false) #[] :=
    ⟨hfuel, Array.size_replicate, hts, fun _ ht => absurd ht List.not_mem_nil, hcovered⟩
  obtain ⟨hwaits, hhead⟩ := expand_spec hm hstart
  obtain ⟨hchars, hfirst⟩ := untilAccept_spec hwaits
  exact ⟨hchars, hhead.symm.trans hfirst⟩

/-- Threads that need a character have no way at the end of the text. -/
theorem waysOf_eq_nil (hm : Falling m.steps) {ts : List Thread} (hend : text[place]? = none)
    (hts : ∀ t ∈ ts, ∃ set next, m.steps.getD t.step .accept = .char set next) :
    waysOf m text place ts = [] := by
  refine List.flatMap_eq_nil_iff.mpr fun t ht => ?_
  obtain ⟨set, next, hi⟩ := hts t ht
  rw [Thread.ways, ways_char hm hi, hend]
  rfl

/-- Taking the character leaves the ways as they are. -/
theorem waysOf_advance (hm : Falling m.steps) {c : Char} {ts : List Thread}
    (hc : text[place]? = some c)
    (hts : ∀ t ∈ ts, t.step < m.steps.size ∧
      ∃ set next, m.steps.getD t.step .accept = .char set next) :
    (∀ t ∈ advance m c ts, t.step < m.steps.size) ∧
      waysOf m text (place + 1) (advance m c ts) = waysOf m text place ts := by
  induction ts with
  | nil => simp [advance]
  | cons t ts ih =>
    obtain ⟨⟨ht, set, next, hi⟩, hts⟩ := List.forall_mem_cons.mp hts
    obtain ⟨hall, hrest⟩ := ih hts
    have hnext : next < m.steps.size := Nat.lt_trans (hm t.step next (by simp [hi, Step.nexts])) ht
    have hways : t.ways m text place =
        if set.hasChar c then ways m text next (place + 1) t.slots else [] := by
      rw [Thread.ways, ways_char hm hi, hc]
      rfl
    have hcons : advance m c (t :: ts) =
        if set.hasChar c then ⟨next, t.slots⟩ :: advance m c ts else advance m c ts := by
      simp only [advance, List.filterMap_cons, hi]
      split <;> simp_all
    rw [hcons, waysOf_cons, hways]
    split
    · exact ⟨List.forall_mem_cons.mpr ⟨hnext, hall⟩, by rw [waysOf_cons, hrest]; rfl⟩
    · exact ⟨hall, hrest⟩

/-! ## The run

  As long as nothing has been found, a thread begins at every place, behind those that began
  earlier.  So what is found is the first of three: a way of a thread that is under way, the
  match found so far, a way from here on. -/

/-- The ways that start at one of `n` places from `place` on. -/
def waysFrom (m : Machine) (text : Array Char) (slots : Slots) (place n : Nat) : List Slots :=
  (List.range' place n).flatMap fun place => ways m text m.start place slots

/-- The ways from this place on come before those from later ones. -/
theorem waysFrom_succ (slots : Slots) (n : Nat) :
    waysFrom m text slots place (n + 1) =
      ways m text m.start place slots ++ waysFrom m text slots (place + 1) n := by
  rw [waysFrom, List.range'_succ, List.flatMap_cons]
  rfl

/-- The threads at a place: while nothing is found, one more begins here. -/
def startsAt (m : Machine) (slots : Slots) (pending : List Thread) (found : Option Slots) :
    List Thread :=
  if found.isNone then pending ++ [⟨m.start, slots⟩] else pending

/-- One turn of the run. -/
theorem run_succ (k n : Nat) (pending : List Thread) (found : Option Slots) :
    run m k text (n + 1) place pending found =
      let ended := settle m text place (startsAt m (Array.replicate k none) pending found)
      match text[place]? with
      | none => ended.2 <|> found
      | some c =>
        if (advance m c ended.1).isEmpty && (ended.2 <|> found).isSome then ended.2 <|> found
        else run m k text n (place + 1) (advance m c ended.1) (ended.2 <|> found) := by
  rw [run]
  rfl

/-- What the threads at a place find, else what was found, else what starts later. -/
theorem head?_startsAt (slots : Slots) (n : Nat) (pending : List Thread) (found : Option Slots) :
    ((waysOf m text place pending).head? <|> found <|>
        (waysFrom m text slots place (n + 1)).head?) =
      ((waysOf m text place (startsAt m slots pending found)).head? <|> found <|>
        (waysFrom m text slots (place + 1) n).head?) := by
  rw [waysFrom_succ, List.head?_append]
  cases found with
  | some f =>
    have hstarts : startsAt m slots pending (some f) = pending := rfl
    rw [hstarts]
    cases (waysOf m text place pending).head? <;> rfl
  | none =>
    have hstarts : startsAt m slots pending none = pending ++ [⟨m.start, slots⟩] := rfl
    rw [hstarts, waysOf_append, List.head?_append]
    cases (waysOf m text place pending).head? <;> simp [Thread.ways]

/-- A thread that begins is at a step of the machine. -/
theorem startsAt_lt (hstart : m.start < m.steps.size) {pending : List Thread}
    (hpending : ∀ t ∈ pending, t.step < m.steps.size) (slots : Slots) (found : Option Slots) :
    ∀ t ∈ startsAt m slots pending found, t.step < m.steps.size := by
  unfold startsAt
  split
  · intro t ht
    rcases List.mem_append.mp ht with ht | ht
    · exact hpending t ht
    · obtain rfl := List.mem_singleton.mp ht
      exact hstart
  · exact hpending

/-- A run finds the first way of the threads that it has, else the match that it has found, and if
    there is none, the first way from here on. -/
theorem run_eq (hm : Falling m.steps) (hstart : m.start < m.steps.size) {k n : Nat}
    (hn : place + n = text.size) {pending : List Thread}
    (hpending : ∀ t ∈ pending, t.step < m.steps.size) (found : Option Slots) :
    run m k text (n + 1) place pending found =
      ((waysOf m text place pending).head? <|> found <|>
        (waysFrom m text (Array.replicate k none) place (n + 1)).head?) := by
  induction n generalizing place pending found with
  | zero =>
    have hend : text[place]? = none := by
      rw [Array.getElem?_eq_none_iff]
      omega
    obtain ⟨hchars, hhead⟩ := settle_spec hm text place
      (startsAt_lt hstart hpending (Array.replicate k none) found)
    rw [run_succ, head?_startsAt, hhead, waysOf_eq_nil hm hend fun t ht => (hchars t ht).2, hend]
    simp [waysFrom]
  | succ n ih =>
    have hc : text[place]? = some text[place] := Array.getElem?_eq_getElem (by omega)
    obtain ⟨hchars, hhead⟩ := settle_spec hm text place
      (startsAt_lt hstart hpending (Array.replicate k none) found)
    obtain ⟨hnext, hways⟩ := waysOf_advance hm hc hchars
    -- what is found here, else what was found, else what is found later
    have hassoc (a b c : Option Slots) : ((a <|> b) <|> c) = (a <|> b <|> c) := by
      simp [Option.or_assoc]
    rw [run_succ, head?_startsAt, hhead, ← hways, hc, hassoc, ← hassoc _ found]
    dsimp only
    split
    · -- nothing goes on, and there is a match
      rename_i hover
      rw [Bool.and_eq_true, List.isEmpty_iff] at hover
      obtain ⟨f, hf⟩ := Option.isSome_iff_exists.mp hover.2
      rw [hover.1, hf]
      rfl
    · exact ih (by omega) hnext _

/-- **What a run finds**: the first way of all that start anywhere in the text, earlier starts
    first. -/
theorem firstMatch_eq (hm : Falling m.steps) (hstart : m.start < m.steps.size) (k : Nat) :
    firstMatch m k text 0 =
      (waysFrom m text (Array.replicate k none) 0 (text.size + 1)).head? := by
  rw [firstMatch, Nat.sub_zero, run_eq hm hstart (Nat.zero_add _) (by simp)]
  simp

end

end ExerciseGrading.Pattern
