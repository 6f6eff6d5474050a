/-
  BUILDING machines: the ways through a machine are the matches of its node.

  `Node.outcomes` says what a node without repetitions matches from a place on: where each match
  ends and which groups it saw, preferred matches first.  A choice lists the matches of its branches
  one branch after the other, a sequence goes on with every match of its first part.

  1. `Leads` — what adding a node comes to.  The builder only grows, new steps go on with steps that
     were there before, and from the step that is given every match of the node leads on to the next
     one.  The last is said of all machines that begin with the builder's steps, so that nothing
     that is added later matters.
  2. `add_leads` — one case for each kind of node.
  3. `firstMatch_ofNode` — with the run (`Ways`): a machine finds the first match of its node.

  **The crux (back to front).**  A node is told where to go on before it is added, so the last part
  of a sequence is added first and every step goes on with lower ones.  Two facts come out of that:
  the machine is `Falling`, which is what `ways` needs to be defined, and a step never changes its
  meaning once it is there.  The cases then are laws of lists: a step is a filter or an update, one
  thing after another is a `flatMap` of a `flatMap` (`Leads.seq`), and a branch is the lists one
  after the other (`BranchesLead.branch`).
-/
import ExerciseGrading.Proofs.Pattern.Ways

namespace ExerciseGrading.Pattern

open Text

/-! ## What a node matches

  The definition has no machine in it: a match is a place and groups, and a node leads from one
  to a list of them.  Repetitions are left out, for they would need a loop. -/

mutual
/-- Whether nothing in a node is repeated. -/
def Node.straight : Node → Bool
  | .empty | .oneOf _ | .look _ => true
  | .repetition _ _ _ _ => false
  | .capture _ body => body.straight
  | .choice branches => Node.straightAll branches
  | .sequence parts => Node.straightAll parts
/-- Whether nothing is repeated in any of them. -/
def Node.straightAll : List Node → Bool
  | [] => true
  | n :: rest => n.straight && Node.straightAll rest
end

mutual
/-- Where the matches of a straight node end and what groups they saw, preferred ones first. -/
def Node.outcomes (text : Array Char) : Node → Nat → Slots → List (Nat × Slots)
  | .empty, place, slots => [(place, slots)]
  | .oneOf r, place, slots =>
    if text[place]?.any (RangeIndex.ofRanges r).hasChar then [(place + 1, slots)] else []
  | .look l, place, slots =>
    if l.holds (charBefore text place) text[place]? then [(place, slots)] else []
  | .repetition _ _ _ _, _, _ => []
  | .capture index body, place, slots =>
    (body.outcomes text place (slots.set! (2 * index) (some place))).map fun o =>
      (o.1, o.2.set! (2 * index + 1) (some o.1))
  | .choice branches, place, slots => Node.outcomesOfAny text branches place slots
  | .sequence parts, place, slots => Node.outcomesOfAll text parts place slots
/-- The matches of any of the branches. -/
def Node.outcomesOfAny (text : Array Char) : List Node → Nat → Slots → List (Nat × Slots)
  | [], _, _ => []
  | n :: rest, place, slots =>
    n.outcomes text place slots ++ Node.outcomesOfAny text rest place slots
/-- The matches of all parts, one after the other. -/
def Node.outcomesOfAll (text : Array Char) : List Node → Nat → Slots → List (Nat × Slots)
  | [], place, slots => [(place, slots)]
  | n :: rest, place, slots =>
    (n.outcomes text place slots).flatMap fun o => Node.outcomesOfAll text rest o.1 o.2
end

/-! ## Adding steps

  Steps are only ever put behind those that are there.  A machine that is built from here on
  begins with them, and a step that goes on with earlier ones keeps the machine falling. -/

namespace Builder

/-- A builder that has the steps of another and perhaps more. -/
structure Grows (b b' : Builder) : Prop where
  steps : b.toList <+: b'.toList
  falling : Falling b → Falling b'

theorem Grows.refl (b : Builder) : Grows b b := ⟨List.prefix_refl _, id⟩

theorem Grows.trans {b b' b'' : Builder} (h : Grows b b') (h' : Grows b' b'') : Grows b b'' :=
  ⟨h.steps.trans h'.steps, h'.falling ∘ h.falling⟩

theorem Grows.size_le {b b' : Builder} (h : Grows b b') : b.size ≤ b'.size := by
  simpa using h.steps.length_le

/-- A step that goes on with steps that are there. -/
theorem grows_push {b : Builder} {s : Step} (hs : ∀ j ∈ s.nexts, j < b.size) :
    Grows b (b.push s) := by
  refine ⟨by simp, fun hb i j hj => ?_⟩
  -- a step from before, the new step, or none
  rcases Nat.lt_trichotomy i b.size with hlt | rfl | hgt
  · refine hb i j ?_
    rwa [Array.getD_eq_getD_getElem?, Array.getElem?_push_lt hlt, ← Array.getElem?_eq_getElem,
      ← Array.getD_eq_getD_getElem?] at hj
  · rw [Array.getD_eq_getD_getElem?, Array.getElem?_push_size] at hj
    exact hs j hj
  · rw [Array.getD_eq_getD_getElem?, Array.getElem?_eq_none (by simp; omega)] at hj
    cases hj

/-- A machine that begins with the builder's steps has the step that was added last. -/
theorem getD_of_push {b : Builder} {s : Step} {m : Machine}
    (hm : (b.push s).toList <+: m.steps.toList) : m.steps.getD b.size .accept = s := by
  obtain ⟨more, hmore⟩ := hm
  have hstep : m.steps.toList[b.size]? = some s := by
    rw [← hmore]
    simp
  rw [Array.getElem?_toList] at hstep
  rw [Array.getD_eq_getD_getElem?, hstep]
  rfl

/-! ## What adding a node comes to

  `Leads` is about machines that contain the steps in question, at whatever time they were
  completed.  So the cases can use it for steps that were added earlier without saying again
  that they are still there. -/

/-- The machines whose first steps are the builder's. -/
structure Begins (b : Builder) (m : Machine) : Prop where
  steps : b.toList <+: m.steps.toList
  falling : Falling m.steps

theorem Begins.mono {b b' : Builder} {m : Machine} (hm : Begins b' m) (h : Grows b b') :
    Begins b m :=
  ⟨h.steps.trans hm.steps, hm.falling⟩

/-- From step `s` of the grown builder every outcome leads on to step `next`. -/
structure Leads (outcomes : Array Char → Nat → Slots → List (Nat × Slots)) (next : Nat)
    (b : Builder) (s : Nat) (b' : Builder) : Prop where
  grows : Grows b b'
  lt_size : s < b'.size
  ways_eq : ∀ m, Begins b' m → ∀ text place slots, ways m text s place slots =
    (outcomes text place slots).flatMap fun o => ways m text next o.1 o.2

variable {next : Nat} {b : Builder}

/-- A step for a character of a set leads on behind that character. -/
theorem oneOf_leads (r : Ranges) (hnext : next < b.size) :
    Leads (fun text => (Node.oneOf r).outcomes text) next b b.size
      (b.push (.char (RangeIndex.ofRanges r) next)) := by
  refine ⟨grows_push (by simpa [Step.nexts] using hnext), by simp, fun m hm text place slots => ?_⟩
  rw [ways_char hm.falling (getD_of_push hm.steps), Node.outcomes]
  split <;> simp

/-- A step that looks leads on where it stands. -/
theorem look_leads (l : Look) (hnext : next < b.size) :
    Leads (fun text => (Node.look l).outcomes text) next b b.size (b.push (.look l next)) := by
  refine ⟨grows_push (by simpa [Step.nexts] using hnext), by simp, fun m hm text place slots => ?_⟩
  rw [ways_look hm.falling (getD_of_push hm.steps), Node.outcomes]
  split <;> simp

/-- A step that saves a place leads on where it stands, and has it saved. -/
theorem save_leads (slot : Nat) (hnext : next < b.size) :
    Leads (fun _ place slots => [(place, slots.set! slot (some place))]) next b b.size
      (b.push (.save slot next)) := by
  refine ⟨grows_push (by simpa [Step.nexts] using hnext), by simp, fun m hm text place slots => ?_⟩
  rw [ways_save hm.falling (getD_of_push hm.steps)]
  simp

/-- One after the other: the second is added first. -/
theorem Leads.seq {f g : Array Char → Nat → Slots → List (Nat × Slots)} {s s' : Nat}
    {b' b'' : Builder} (hf : Leads f s b' s' b'') (hg : Leads g next b s b') :
    Leads (fun text place slots => (f text place slots).flatMap fun o => g text o.1 o.2) next b s'
      b'' := by
  refine ⟨hg.grows.trans hf.grows, hf.lt_size, fun m hm text place slots => ?_⟩
  rw [hf.ways_eq m hm, List.flatMap_assoc]
  simp only [hg.ways_eq m (hm.mono hf.grows)]

/-- From the given steps of the grown builder, tried in order, every outcome leads on. -/
structure BranchesLead (outcomes : Array Char → Nat → Slots → List (Nat × Slots)) (next : Nat)
    (b : Builder) (starts : List Nat) (b' : Builder) : Prop where
  grows : Grows b b'
  lt_size : ∀ s ∈ starts, s < b'.size
  ways_eq : ∀ m, Begins b' m → ∀ text place slots,
    (starts.flatMap fun s => ways m text s place slots) =
      (outcomes text place slots).flatMap fun o => ways m text next o.1 o.2

/-- A step that branches tries the ways of its branches in order. -/
theorem BranchesLead.branch {f : Array Char → Nat → Slots → List (Nat × Slots)}
    {starts : List Nat} {b' : Builder} (h : BranchesLead f next b starts b') :
    Leads f next b b'.size (b'.push (.branch starts)) := by
  have hgrows : Grows b' (b'.push (.branch starts)) := grows_push h.lt_size
  refine ⟨h.grows.trans hgrows, by simp, fun m hm text place slots => ?_⟩
  rw [ways_branch hm.falling (getD_of_push hm.steps), h.ways_eq m (hm.mono hgrows)]

mutual
/-- **Adding a straight node**: from the step that is given, its matches lead on to the next. -/
theorem add_leads : ∀ (n : Node) (next : Nat) (b : Builder), n.straight → next < b.size →
    Leads (fun text => n.outcomes text) next b (add n next b).1 (add n next b).2
  | .empty, next, b, _, hnext => by
    refine ⟨.refl b, hnext, fun m _ text place slots => ?_⟩
    simp [add, Node.outcomes]
  | .oneOf r, next, b, _, hnext => oneOf_leads r hnext
  | .look l, next, b, _, hnext => look_leads l hnext
  | .capture index body, next, b, hn, hnext => by
    -- from the back: the step that closes the group, its body, the step that opens it
    have hclose := save_leads (2 * index + 1) hnext
    have hbody := add_leads body b.size (b.push (.save (2 * index + 1) next)) hn hclose.lt_size
    have hopen := save_leads (2 * index) hbody.lt_size
    have hall := hopen.seq (hbody.seq hclose)
    simpa [add, emit, Node.outcomes, List.flatMap_singleton', ← List.map_eq_flatMap] using hall
  | .choice branches, next, b, hn, hnext => (addBranches_lead branches next b hn hnext).branch
  | .sequence parts, next, b, hn, hnext => addParts_leads parts next b hn hnext
/-- Branches are added one by one, all with the same step to go on with. -/
theorem addBranches_lead : ∀ (branches : List Node) (next : Nat) (b : Builder),
    Node.straightAll branches → next < b.size →
    BranchesLead (fun text => Node.outcomesOfAny text branches) next b
      (addBranches branches next b).1 (addBranches branches next b).2
  | [], next, b, _, _ => by
    refine ⟨.refl b, by simp [addBranches], fun m _ text place slots => ?_⟩
    simp [addBranches, Node.outcomesOfAny]
  | n :: rest, next, b, hn, hnext => by
    obtain ⟨hn, hrest⟩ := Bool.and_eq_true_iff.mp hn
    have hfirst := add_leads n next b hn hnext
    have hothers := addBranches_lead rest next (add n next b).2 hrest
      (Nat.lt_of_lt_of_le hnext hfirst.grows.size_le)
    refine ⟨hfirst.grows.trans hothers.grows, ?_, fun m hm text place slots => ?_⟩
    · exact List.forall_mem_cons.mpr
        ⟨Nat.lt_of_lt_of_le hfirst.lt_size hothers.grows.size_le, hothers.lt_size⟩
    · -- the others may have been added behind, and the first leads on all the same
      have hrestways := hothers.ways_eq m hm text place slots
      have hways := hfirst.ways_eq m (hm.mono hothers.grows) text place slots
      simp only [addBranches, List.flatMap_cons, Node.outcomesOfAny, List.flatMap_append, hways,
        hrestways]
/-- Parts are added from the last to the first, each going on with the one behind it. -/
theorem addParts_leads : ∀ (parts : List Node) (next : Nat) (b : Builder),
    Node.straightAll parts → next < b.size →
    Leads (fun text => Node.outcomesOfAll text parts) next b (addParts parts next b).1
      (addParts parts next b).2
  | [], next, b, _, hnext => by
    refine ⟨.refl b, hnext, fun m _ text place slots => ?_⟩
    simp [addParts, Node.outcomesOfAll]
  | n :: rest, next, b, hn, hnext => by
    obtain ⟨hn, hrest⟩ := Bool.and_eq_true_iff.mp hn
    have hothers := addParts_leads rest next b hrest hnext
    exact (add_leads n _ _ hn hothers.lt_size).seq hothers
end

end Builder

/-! ## The machine of a node

  The machine saves the bounds of the whole match around the node, and accepts.  A match of the
  node thus becomes a way of the machine, at each place where it may begin. -/

/-- The matches of a node that begin at one place, with the whole match as group zero. -/
def Node.matchesAt (n : Node) (text : Array Char) (k place : Nat) : List Slots :=
  ((Node.capture 0 n).outcomes text place (Array.replicate k none)).map (·.2)

/-- **A machine finds the first match of its node**, at the least place where there is one. -/
theorem firstMatch_ofNode {n : Node} (hn : n.straight) (k : Nat) (text : Array Char) :
    firstMatch (Machine.ofNode n) k text 0 =
      ((List.range (text.size + 1)).flatMap (n.matchesAt text k)).head? := by
  have hadd := Builder.add_leads (.capture 0 n) 0 #[.accept] hn (by simp)
  -- below the node there is one step, and it accepts
  have hbegins : Builder.Begins (Builder.add (.capture 0 n) 0 #[.accept]).2 (Machine.ofNode n) :=
    ⟨List.prefix_refl _, hadd.grows.falling fun i j hj => by
      cases i <;> simp [Step.nexts] at hj⟩
  have haccept : (Machine.ofNode n).steps.getD 0 .accept = .accept :=
    Builder.getD_of_push (b := #[]) (hbegins.mono hadd.grows).steps
  -- from the start at any place the outcomes lead to that step
  have hstart (place : Nat) (slots : Slots) :
      ways (Machine.ofNode n) text (Machine.ofNode n).start place slots = _ :=
    hadd.ways_eq _ hbegins text place slots
  rw [firstMatch_eq hbegins.falling hadd.lt_size, waysFrom, List.range_eq_range']
  congr 2
  funext place
  rw [hstart]
  simp [ways_accept haccept, Node.matchesAt, ← List.map_eq_flatMap]

end ExerciseGrading.Pattern
