/-
  READING: what the rules of the grammar promise about what they read and where they end.

  1. `Reads pre q post r` — applied at a place with `pre`, the rule reads something with `q`, if it
     applies, and ends at a place with `post`.
  2. One law for each way to make a rule of others: `reads_orElse`, `reads_map`, `reads_placed`,
     `reads_spanned`, `reads_many`, `reads_enclosed`.
  3. Signs end at clear places, and so do words, keywords, texts and patterns, since each takes all
     that belongs to it.  A numeral is the exception: it ends where it ends.

  `Reads.mono` uses a rule from a place with more than it asks for.

  This is a triple for a rule: `pre` and `post` are the places of `Proofs.Snippet.Places`, and `q`
  may speak of the place where the rule began, as a span does.  Nothing is said of a rule that does
  not apply, so that alternatives need no more than one law each.  The repetitions (`many`,
  `moreAfter`) are by the induction of the function itself: what is read next is read at the place
  that layout leaves behind what was read before.
-/
import ExerciseGrading.Proofs.Snippet.Places

namespace ExerciseGrading.Snippet

/-- What a rule promises. -/
def Reads {α : Type} (pre : Input → Prop) (q : Input → α → Prop) (post : Input → Prop)
    (r : Rule α) : Prop :=
  ∀ ⦃i : Input⦄ ⦃a : α⦄ ⦃j : Input⦄, pre i → r i = some (a, j) → q i a ∧ post j

/-- Nothing is asked of what is read. -/
def Anything {α : Type} (_ : Input) (_ : α) : Prop := True

open ExerciseGrading.Snippet.Rule

section Combinators

variable {α β : Type} {pre post : Input → Prop} {q : Input → α → Prop} {r r' : Rule α}

/-- More is known of the place, and less is asked. -/
theorem Reads.mono {pre' post' : Input → Prop} {q' : Input → α → Prop} (h : Reads pre q post r)
    (hpre : ∀ i, pre' i → pre i) (hq : ∀ i a, pre' i → q i a → q' i a)
    (hpost : ∀ i, post i → post' i) : Reads pre' q' post' r := by
  intro i a j hi hr
  obtain ⟨ha, hj⟩ := h (hpre i hi) hr
  exact ⟨hq i a hi ha, hpost j hj⟩

/-- The second rule is tried at the same place. -/
theorem reads_orElse (h : Reads pre q post r) (h' : Reads pre q post r') :
    Reads pre q post (orElse r r') := by
  intro i a j hi hr
  unfold orElse at hr
  split at hr
  · rename_i x hx
    rw [Option.some.inj hr] at hx
    exact h hi hx
  · exact h' hi hr

/-- What is read is a function of what the rule reads. -/
theorem reads_map (h : Reads pre q post r) (f : α → β) :
    Reads pre (fun i b => ∃ a, b = f a ∧ q i a) post
      (fun i => (r i).map fun (a, j) => (f a, j)) := by
  intro i b j hi hr
  obtain ⟨⟨a, j'⟩, ha, he⟩ := Option.map_eq_some_iff.mp hr
  obtain ⟨rfl, rfl⟩ := Prod.mk.inj he
  obtain ⟨hq, hj⟩ := h hi ha
  exact ⟨⟨a, rfl, hq⟩, hj⟩

/-- A rule with its place reads what the rule reads, and knows where it began. -/
theorem reads_placed (h : Reads pre q post r) :
    Reads pre (fun i b => b.1.start = i.pos ∧ q i b.2) post (placed r) := by
  intro i b j hi hr
  obtain ⟨⟨a, j'⟩, ha, he⟩ := Option.map_eq_some_iff.mp hr
  obtain ⟨rfl, rfl⟩ := Prod.mk.inj he
  obtain ⟨hq, hj⟩ := h hi ha
  exact ⟨⟨rfl, hq⟩, hj⟩

/-- A node begins where its rule began. -/
theorem reads_spanned (h : Reads pre q post r) (f : α → Form) :
    Reads pre (fun i e => ∃ stop a, e = .mk ⟨i.pos, stop⟩ (f a) ∧ q i a) post (spanned r f) := by
  intro i e j hi hr
  obtain ⟨⟨a, j'⟩, ha, he⟩ := Option.map_eq_some_iff.mp hr
  obtain ⟨rfl, rfl⟩ := Prod.mk.inj he
  obtain ⟨hq, hj⟩ := h hi ha
  exact ⟨⟨j'.pos, a, rfl, hq⟩, hj⟩

/-- All that a repetition reads, each at a place where the rule may begin. -/
theorem reads_many (h : Reads pre q pre r) (hskip : ∀ i, pre i → pre (skip i)) {i j : Input}
    {as : List α} (hi : pre i) (hr : many r i = (as, j)) :
    (∀ a ∈ as, ∃ k, pre k ∧ q k a) ∧ pre j := by
  fun_induction many r i generalizing as with
  -- more is read behind the layout that follows the first
  | case1 i a k ha _ _ more l hmore =>
    rename_i ih
    obtain ⟨rfl, rfl⟩ := Prod.mk.inj hr
    obtain ⟨hq, hk⟩ := h hi ha
    obtain ⟨hall, hj⟩ := ih (hskip _ hk) hmore
    refine ⟨fun b hb => ?_, hj⟩
    rcases List.mem_cons.mp hb with rfl | hb
    · exact ⟨i, hi, hq⟩
    · exact hall b hb
  -- nothing was taken, and the repetition ends with what it has
  | case2 i a k ha _ =>
    obtain ⟨rfl, rfl⟩ := Prod.mk.inj hr
    obtain ⟨hq, hk⟩ := h hi ha
    refine ⟨fun b hb => ?_, hskip _ hk⟩
    rw [List.mem_singleton.mp hb]
    exact ⟨i, hi, hq⟩
  | case3 i hnone =>
    obtain ⟨rfl, rfl⟩ := Prod.mk.inj hr
    exact ⟨fun _ hb => absurd hb List.not_mem_nil, hi⟩

end Combinators

/-! ## Rules for signs and words

  These take a fixed text or a run of characters.  Where they end is clear, since what they took
  was all that belonged to it. -/

variable {text : List Char}

/-- Whether a sign ends in a character that belongs to no word. -/
def endsWord (s : String) : Bool := s.toList.getLast?.any fun c => !isNameChar c

/-- Behind a sign no word goes on. -/
theorem sign_reads {s : String} (hs : endsWord s = true) :
    Reads (Somewhere text) Anything (Clear text) (sign s) := by
  rintro i _ j ⟨before, hat⟩ hr
  obtain ⟨r, hdrop, he⟩ := Option.map_eq_some_iff.mp hr
  obtain ⟨-, rfl⟩ := Prod.mk.inj he
  have hrest : i.rest = s.toList ++ r := Text.dropStart?_eq_some.mp hdrop
  refine ⟨trivial, _, hat.after hrest, .inl fun c hc => ?_⟩
  -- the last character before is the last of the sign
  obtain ⟨d, hd, hname⟩ : ∃ d, s.toList.getLast? = some d ∧ isNameChar d = false := by
    unfold endsWord at hs
    cases hl : s.toList.getLast? with
    | none => rw [hl] at hs; cases hs
    | some d =>
      rw [hl] at hs
      exact ⟨d, rfl, by simpa using hs⟩
  rw [List.getLast?_append, hd] at hc
  obtain rfl : d = c := Option.some.inj hc
  exact hname

/-- Behind a keyword no word goes on. -/
theorem keyword_reads (w : String) :
    Reads (Somewhere text) Anything (Clear text) (keyword w) := by
  rintro i _ j ⟨before, hat⟩ hr
  obtain ⟨r, hw, he⟩ := Option.map_eq_some_iff.mp hr
  obtain ⟨-, rfl⟩ := Prod.mk.inj he
  obtain ⟨hrest, hend⟩ := keyword?_eq hw
  exact ⟨trivial, _, hat.after hrest, apart_of_atWordEnd _ hend⟩

/-- Whether a word stands at a place as a whole, as far as what follows it goes. -/
def WordAt (i : Input) (w : String) : Prop :=
  ∃ r, i.rest = w.toList ++ r ∧ atWordEnd r = true

/-- A name stands whole, and behind it no word goes on. -/
theorem name_reads : Reads (Somewhere text) WordAt (Clear text) name := by
  rintro i w j ⟨before, hat⟩ hr
  obtain ⟨⟨w', r⟩, hw, he⟩ := Option.map_eq_some_iff.mp hr
  obtain ⟨rfl, rfl⟩ := Prod.mk.inj he
  obtain ⟨hrest, hend⟩ := name?_eq hw
  exact ⟨⟨r, hrest, hend⟩, _, hat.after hrest, apart_of_atWordEnd _ hend⟩

/-- So does any word. -/
theorem word_reads : Reads (Somewhere text) WordAt (Clear text) word := by
  rintro i w j ⟨before, hat⟩ hr
  obtain ⟨⟨u, r⟩, hw, he⟩ := Option.map_eq_some_iff.mp hr
  obtain ⟨rfl, rfl⟩ := Prod.mk.inj he
  obtain ⟨hrest, hend⟩ := word?_eq hw
  refine ⟨⟨r, ?_, hend⟩, _, hat.after hrest, apart_of_atWordEnd _ hend⟩
  rw [String.toList_ofList]
  exact hrest

/-! ## Rules for literals -/

/-- **A numeral ends where it ends**: a ready place, and no more. -/
theorem numeral_reads : Reads (Somewhere text) Anything (Ready text)
    (fun i => (numeral? i.rest).map fun (s, r) => (s, i.after r)) := by
  rintro i _ j ⟨before, hat⟩ hr
  obtain ⟨⟨n, r⟩, hn, he⟩ := Option.map_eq_some_iff.mp hr
  obtain ⟨-, rfl⟩ := Prod.mk.inj he
  have hrest := numeral?_eq hn
  rw [hrest] at hn
  exact ⟨trivial, _, hat.after hrest, .inr ⟨before, n, rfl, hn⟩⟩

/-- A text ends in its quote. -/
theorem stringText_reads : Reads (Somewhere text) Anything (Clear text) stringText := by
  rintro i _ j ⟨before, hat⟩ hr
  obtain ⟨⟨s, r⟩, hs, he⟩ := Option.map_eq_some_iff.mp hr
  obtain ⟨-, rfl⟩ := Prod.mk.inj he
  obtain ⟨q, hq, hrest⟩ := quoted?_eq hs
  have hrest' : i.rest = (q :: s ++ [q]) ++ r := by
    rw [hrest, List.append_assoc]
    rfl
  have hname : isNameChar q = false := by
    simp only [isQuote, Bool.or_eq_true, decide_eq_true_eq] at hq
    rcases hq with (rfl | rfl) | rfl <;> rfl
  refine ⟨trivial, _, hat.after hrest', ?_⟩
  rw [← List.append_assoc]
  exact apart_concat _ hname r

/-- A pattern ends behind its last flag, and all letters are flags. -/
theorem slashed_reads : Reads (Somewhere text) Anything (Clear text)
    (fun i => (slashed? i.rest).map fun (p, f, r) => ((p, f), i.after r)) := by
  rintro i _ j ⟨before, hat⟩ hr
  obtain ⟨⟨p, f, r⟩, hp, he⟩ := Option.map_eq_some_iff.mp hr
  obtain ⟨-, rfl⟩ := Prod.mk.inj he
  obtain ⟨⟨taken, hrest⟩, hend⟩ := slashed?_eq hp
  exact ⟨trivial, _, hat.after hrest, .inr hend⟩

/-! ## Rules for lists

  Items with commas between them.  Each item stands behind a sign, the first behind the one that
  opens the list, and so at a clear place. -/

section Lists

variable {α : Type} {q : Input → α → Prop} {r : Rule α}

/-- Items behind separators, each at the clear place behind its separator. -/
theorem reads_moreAfter (h : Reads (Clear text) q (Somewhere text) r) {sep : String}
    (hs : endsWord sep = true) {i j : Input} {as : List α} (hi : Somewhere text i)
    (hr : moreAfter sep r i = (as, j)) :
    (∀ a ∈ as, ∃ k, Clear text k ∧ q k a) ∧ Somewhere text j := by
  fun_induction moreAfter sep r i generalizing as with
  | case1 i _ k hsign a l ha _ _ more n hmore =>
    rename_i ih
    obtain ⟨rfl, rfl⟩ := Prod.mk.inj hr
    have hk := (sign_reads hs hi hsign).2.skip
    obtain ⟨hq, hl⟩ := h hk ha
    obtain ⟨hall, hj⟩ := ih hl.skip hmore
    refine ⟨fun b hb => ?_, hj⟩
    rcases List.mem_cons.mp hb with rfl | hb
    · exact ⟨_, hk, hq⟩
    · exact hall b hb
  | case2 i _ k hsign a l ha _ =>
    obtain ⟨rfl, rfl⟩ := Prod.mk.inj hr
    have hk := (sign_reads hs hi hsign).2.skip
    obtain ⟨hq, hl⟩ := h hk ha
    refine ⟨fun b hb => ?_, hl.skip⟩
    rw [List.mem_singleton.mp hb]
    exact ⟨_, hk, hq⟩
  -- a separator without an item is not taken
  | case3 i _ k hsign hnone =>
    obtain ⟨rfl, rfl⟩ := Prod.mk.inj hr
    exact ⟨fun _ hb => absurd hb List.not_mem_nil, hi⟩
  | case4 i hnone =>
    obtain ⟨rfl, rfl⟩ := Prod.mk.inj hr
    exact ⟨fun _ hb => absurd hb List.not_mem_nil, hi⟩

/-- The first item stands at the clear place where the list begins. -/
theorem reads_listed (h : Reads (Clear text) q (Somewhere text) r) {i j : Input} {as : List α}
    (hi : Clear text i) (hr : listed r i = (as, j)) :
    (∀ a ∈ as, ∃ k, Clear text k ∧ q k a) ∧ Somewhere text j := by
  unfold listed at hr
  split at hr
  · rename_i a k ha
    obtain ⟨hq, hk⟩ := h hi ha
    rcases hmore : moreAfter "," r (skip k) with ⟨more, l⟩
    rw [hmore] at hr
    obtain ⟨rfl, rfl⟩ := Prod.mk.inj hr
    obtain ⟨hall, hj⟩ := reads_moreAfter h rfl hk.skip hmore
    refine ⟨fun b hb => ?_, hj⟩
    rcases List.mem_cons.mp hb with rfl | hb
    · exact ⟨i, hi, hq⟩
    · exact hall b hb
  · obtain ⟨rfl, rfl⟩ := Prod.mk.inj hr
    exact ⟨fun _ hb => absurd hb List.not_mem_nil, hi.somewhere⟩

/-- A sign that may be missing leaves at least a ready place … -/
theorem optionalSign_ready {s : String} (hs : endsWord s = true) {i : Input}
    (hi : Ready text i) : Ready text (optionalSign s i) := by
  unfold optionalSign
  split
  · rename_i j hj
    exact (sign_reads hs hi.skip.somewhere hj).2.ready
  · exact hi.skip

/-- … or a place, if that is all that was known. -/
theorem optionalSign_somewhere {s : String} (hs : endsWord s = true) {i : Input}
    (hi : Somewhere text i) : Somewhere text (optionalSign s i) := by
  unfold optionalSign
  split
  · rename_i j hj
    exact (sign_reads hs hi.skip hj).2.somewhere
  · exact hi.skip

/-- Items between two signs, each at a clear place: behind the first sign or behind a comma. -/
theorem reads_enclosed (h : Reads (Clear text) q (Somewhere text) r) {left right : String}
    (hl : endsWord left = true) (hr : endsWord right = true) (trailing : Bool) :
    Reads (Somewhere text) (fun _ as => ∀ a ∈ as, ∃ k, Clear text k ∧ q k a) (Clear text)
      (enclosed left right trailing r) := by
  intro i as j hi he
  obtain ⟨⟨_, k⟩, hk, he⟩ := Option.bind_eq_some_iff.mp he
  have hk' := (sign_reads hl hi hk).2.skip
  dsimp only at he
  rcases hlist : listed r (skip k) with ⟨items, m⟩
  rw [hlist] at he
  dsimp only at he
  obtain ⟨hall, hm⟩ := reads_listed h hk' hlist
  obtain ⟨⟨_, n⟩, hn, he⟩ := Option.bind_eq_some_iff.mp he
  obtain ⟨rfl, rfl⟩ := Prod.mk.inj (Option.some.inj he)
  have hm' : Somewhere text
      (if trailing && !items.isEmpty then optionalSign "," m else m) := by
    split
    · exact optionalSign_somewhere rfl hm
    · exact hm
  exact ⟨hall, (sign_reads hr hm'.skip hn).2⟩

end Lists

end ExerciseGrading.Snippet
