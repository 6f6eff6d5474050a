/-
  SETS OF CODE POINTS: the operations on ranges are the operations on sets.

  Everything is said through `contains`, which asks a list of ranges in any order.

  1. `normalize_spec` — sorting and joining give ascending ranges with the same members.
  2. `contains_intersect`, `contains_gaps`, and from them `contains_negate`: of the characters, the
     complement has those that the set has not.
  3. `search_eq_true_iff` — the binary search in an ascending table.
  4. `hasChar_ofRanges` — so a set that is laid out for the search has the members of its ranges.

  **The crux (the invariant of each loop).**  Joining: the ranges put down so far have gaps between
  them (`Stacked`), and since the next one begins no earlier than the last, it can only touch that
  one.  Gaps: what is before the place from which they are sought has been answered, and the later
  ranges begin behind it.  Search: an entry that has the number is between the two bounds; a half
  that is left out ends before the number or begins behind it, for the table is ascending.
-/
import ExerciseGrading.Text.Ranges

namespace ExerciseGrading.Text.Ranges

variable {r a b : Ranges} {n : Nat}

/-- No range ends before it begins. -/
def Valid (r : Ranges) : Prop := ∀ p ∈ r, p.1 ≤ p.2

/-- Every range ends before the later ones begin. -/
def Ascending (r : Ranges) : Prop := r.Pairwise fun p q => p.2 < q.1

/-- Whether a number is within one range. -/
def Within (p : Nat × Nat) (n : Nat) : Prop := p.1 ≤ n ∧ n ≤ p.2

theorem contains_iff : contains r n = true ↔ ∃ p ∈ r, Within p n := by
  simp [contains, Within]

@[simp] theorem contains_nil : contains [] n = false := rfl

theorem contains_cons {p : Nat × Nat} :
    contains (p :: r) n = true ↔ Within p n ∨ contains r n = true := by
  simp [contains, Within]

/-! ## Sorting and joining

  The ranges are put down in the order of where they begin.  So the next one touches the last
  one or none, and what is put down has gaps. -/

/-- Ranges with gaps between them, the last of them first. -/
structure Stacked (acc : Ranges) : Prop where
  valid : Valid acc
  apart : acc.Pairwise fun q p => p.2 + 1 < q.1

/-- The next range, if it begins no earlier than the last one, leaves gaps between all of them and
    adds its own members. -/
theorem joinTo_spec {acc : Ranges} {p : Nat × Nat} (hacc : Stacked acc) (hp : p.1 ≤ p.2)
    (hlast : ∀ q, acc.head? = some q → q.1 ≤ p.1) :
    Stacked (joinTo acc p) ∧ (∀ q, (joinTo acc p).head? = some q → q.1 ≤ p.1) ∧
      ∀ n, contains (joinTo acc p) n = true ↔ contains acc n = true ∨ Within p n := by
  cases acc with
  | nil =>
    refine ⟨⟨by simpa [joinTo, Valid] using hp, by simp [joinTo]⟩, by simp [joinTo], fun n => ?_⟩
    simp [joinTo, contains_cons]
  | cons q rest =>
    have hq : q.1 ≤ q.2 := hacc.valid q (by simp)
    have hqp : q.1 ≤ p.1 := hlast q rfl
    obtain ⟨happart, hrest⟩ := List.pairwise_cons.mp hacc.apart
    have hvalid : Valid rest := fun x hx => hacc.valid x (List.mem_cons_of_mem _ hx)
    rw [joinTo]
    split
    · -- the two make one range
      refine ⟨⟨?_, List.pairwise_cons.mpr ⟨happart, hrest⟩⟩, by simpa using hqp, fun n => ?_⟩
      · rintro x (_ | ⟨_, hx⟩)
        · exact Nat.le_trans hq (Nat.le_max_left _ _)
        · exact hvalid x hx
      · have hjoined : Within (q.1, max q.2 p.2) n ↔ Within q n ∨ Within p n := by
          simp only [Within]
          omega
        rw [contains_cons, contains_cons, hjoined, or_right_comm]
    · -- the two stay apart, and the new one goes on top
      refine ⟨⟨?_, List.pairwise_cons.mpr ⟨?_, hacc.apart⟩⟩, by simp, fun n => ?_⟩
      · rintro x (_ | ⟨_, hx⟩)
        · exact hp
        · exact hacc.valid x hx
      · rintro x (_ | ⟨_, hx⟩)
        · omega
        · have := happart x hx
          omega
      · rw [contains_cons]
        exact or_comm

/-- Joining a list of ranges in the order of where they begin. -/
theorem foldl_joinTo_spec (l acc : Ranges) (hacc : Stacked acc) (hl : Valid l)
    (hsorted : l.Pairwise fun p q => p.1 ≤ q.1)
    (hlast : ∀ q, acc.head? = some q → ∀ p ∈ l, q.1 ≤ p.1) :
    Stacked (l.foldl joinTo acc) ∧
      ∀ n, contains (l.foldl joinTo acc) n = true ↔
        contains acc n = true ∨ contains l n = true := by
  induction l generalizing acc with
  | nil => exact ⟨hacc, by simp⟩
  | cons p l ih =>
    obtain ⟨hfirst, hsorted⟩ := List.pairwise_cons.mp hsorted
    obtain ⟨hstacked, hhead, hmem⟩ := joinTo_spec hacc (hl p (by simp))
      fun q hq => hlast q hq p (by simp)
    obtain ⟨hall, hmem'⟩ := ih _ hstacked (fun x hx => hl x (List.mem_cons_of_mem _ hx)) hsorted
      fun q hq x hx => Nat.le_trans (hhead q hq) (hfirst x hx)
    refine ⟨hall, fun n => ?_⟩
    rw [List.foldl_cons, hmem', hmem, contains_cons, or_assoc]

/-- **Normal form**: ascending ranges with the same members. -/
theorem normalize_spec (hr : Valid r) :
    Valid (normalize r) ∧ Ascending (normalize r) ∧
      ∀ n, contains (normalize r) n = contains r n := by
  let before : Nat × Nat → Nat × Nat → Bool :=
    fun a b => a.1 < b.1 || (a.1 == b.1 && a.2 ≤ b.2)
  have hperm : (r.mergeSort before).Perm r := List.mergeSort_perm r before
  have hordered : (r.mergeSort before).Pairwise fun p q => p.1 ≤ q.1 := by
    -- the order is total and transitive, and compares where ranges begin first
    refine (List.pairwise_mergeSort ?_ ?_ r).imp ?_
    · intro a b c
      simp only [before, Bool.or_eq_true, Bool.and_eq_true, decide_eq_true_eq, beq_iff_eq]
      omega
    · intro a b
      simp only [before, Bool.or_eq_true, Bool.and_eq_true, decide_eq_true_eq, beq_iff_eq]
      omega
    · intro a b
      simp only [before, Bool.or_eq_true, Bool.and_eq_true, decide_eq_true_eq, beq_iff_eq]
      omega
  obtain ⟨⟨hvalid, hapart⟩, hmem⟩ := foldl_joinTo_spec (r.mergeSort before) []
    ⟨by simp [Valid], .nil⟩ (fun p hp => hr p (hperm.mem_iff.mp hp)) hordered (by simp)
  refine ⟨fun p hp => hvalid p (List.mem_reverse.mp hp), ?_, fun n => ?_⟩
  · rw [Ascending, normalize, List.pairwise_reverse]
    exact hapart.imp fun h => Nat.lt_of_succ_lt h
  · rw [Bool.eq_iff_iff, normalize, contains_iff]
    simp only [List.mem_reverse]
    rw [← contains_iff, hmem, contains_iff (r := r)]
    simp only [contains_nil, Bool.false_eq_true, false_or, contains_iff, hperm.mem_iff]

/-! ## Intersection and complement

  Two ranges meet in a range or not at all.  The complement of ascending ranges is the gaps
  between them, cut to what a character can be. -/

/-- What is in both. -/
theorem contains_intersect :
    contains (intersect a b) n = true ↔ contains a n = true ∧ contains b n = true := by
  simp only [contains_iff, intersect, List.mem_flatMap, List.mem_filterMap]
  constructor
  · rintro ⟨x, ⟨p, hp, q, hq, hx⟩, hn⟩
    split at hx
    · obtain rfl := Option.some.inj hx
      simp only [Within] at hn ⊢
      exact ⟨⟨p, hp, by omega⟩, q, hq, by omega⟩
    · cases hx
  · rintro ⟨⟨p, hp, hpn⟩, q, hq, hqn⟩
    simp only [Within] at hpn hqn
    refine ⟨_, ⟨p, hp, q, hq, if_pos ?_⟩, ?_⟩
    · omega
    · simp only [Within]
      omega

/-- A range with nothing in it is left out. -/
theorem valid_intersect : Valid (intersect a b) := by
  intro x hx
  obtain ⟨p, -, q, -, hx⟩ : ∃ p, p ∈ a ∧ ∃ q, q ∈ b ∧ _ = some x := by
    simpa only [intersect, List.mem_flatMap, List.mem_filterMap] using hx
  split at hx
  · obtain rfl := Option.some.inj hx
    assumption
  · cases hx

/-- Of the code points from `pos` on, the gaps have those that ascending ranges have not. -/
theorem contains_gaps (pos : Nat) (hr : Valid r) (ha : Ascending r)
    (hpos : ∀ p ∈ r, pos ≤ p.1) (hn : n ≤ maxCodePoint) :
    contains (gaps pos r) n = true ↔ pos ≤ n ∧ contains r n = false := by
  induction r generalizing pos with
  | nil =>
    unfold gaps
    split <;> simp [contains] <;> omega
  | cons p rest ih =>
    obtain ⟨hafter, ha⟩ := List.pairwise_cons.mp ha
    have hp : p.1 ≤ p.2 := hr p (by simp)
    have hfirst : pos ≤ p.1 := hpos p (by simp)
    have hrest := ih (p.2 + 1) (fun x hx => hr x (List.mem_cons_of_mem _ hx)) ha
      fun x hx => hafter x hx
    -- before the range nothing of the later ones stands either
    have hbefore : n < p.1 → contains rest n = false := by
      intro hlt
      rw [Bool.eq_false_iff]
      intro hin
      obtain ⟨x, hx, hle, -⟩ := contains_iff.mp hin
      have := hafter x hx
      omega
    -- outside all of them is outside the first and outside the others
    have hcons : contains (p :: rest) n = false ↔ ¬Within p n ∧ contains rest n = false := by
      rw [Bool.eq_false_iff, Bool.eq_false_iff, Ne, contains_cons, not_or]
    rw [hcons, gaps]
    split
    · have hgap : Within (pos, p.1 - 1) n ↔ pos ≤ n ∧ n < p.1 := by
        simp only [Within]
        omega
      rw [contains_cons, hrest, hgap]
      constructor
      · rintro (⟨h, hlt⟩ | ⟨h, hnot⟩)
        · exact ⟨h, fun hin => absurd hin.1 (by omega), hbefore hlt⟩
        · exact ⟨by omega, fun hin => absurd hin.2 (by omega), hnot⟩
      · rintro ⟨h, hout, hnot⟩
        by_cases hlt : n < p.1
        · exact .inl ⟨h, hlt⟩
        · exact .inr ⟨by simp only [Within] at hout; omega, hnot⟩
    · rw [hrest]
      constructor
      · rintro ⟨h, hnot⟩
        exact ⟨by omega, fun hin => absurd hin.2 (by omega), hnot⟩
      · rintro ⟨h, hout, hnot⟩
        exact ⟨by simp only [Within] at hout; omega, hnot⟩

/-- Every character is a scalar value. -/
theorem contains_scalars (c : Char) : contains scalars c.toNat = true := by
  have hvalid : c.toNat < 0xD800 ∨ 0xDFFF < c.toNat ∧ c.toNat < 0x110000 := c.valid
  simp only [contains_iff, scalars, List.mem_cons, List.not_mem_nil, or_false, Within,
    exists_eq_or_imp, exists_eq_left, maxCodePoint]
  omega

theorem valid_negate : Valid (negate r) := valid_intersect

/-- **Complement**: all characters that are not in the set. -/
theorem contains_negate (hr : Valid r) (c : Char) :
    contains (negate r) c.toNat = !contains r c.toNat := by
  obtain ⟨hvalid, hascending, hmem⟩ := normalize_spec hr
  have hc : c.toNat ≤ maxCodePoint := by
    have hvalid : c.toNat < 0xD800 ∨ 0xDFFF < c.toNat ∧ c.toNat < 0x110000 := c.valid
    simp only [maxCodePoint]
    omega
  rw [Bool.eq_iff_iff, negate, contains_intersect,
    contains_gaps 0 hvalid hascending (fun _ _ => Nat.zero_le _) hc, hmem]
  simp [contains_scalars]

end ExerciseGrading.Text.Ranges

namespace ExerciseGrading.Text.RangeIndex

open Ranges

/-! ## The search -/

/-- In an ascending table a later entry begins no earlier, and ends no earlier either. -/
theorem entry_le {table : Array (Nat × Nat)} (hvalid : Valid table.toList)
    (hascending : Ascending table.toList) {j k : Nat} {p q : Nat × Nat} (hjk : j ≤ k)
    (hj : table[j]? = some p) (hk : table[k]? = some q) : p.1 ≤ q.1 ∧ p.2 ≤ q.2 := by
  rcases Nat.lt_or_eq_of_le hjk with hlt | rfl
  · have hp : p.1 ≤ p.2 := hvalid p (Array.mem_toList_iff.mpr (Array.mem_of_getElem? hj))
    have hq : q.1 ≤ q.2 := hvalid q (Array.mem_toList_iff.mpr (Array.mem_of_getElem? hk))
    obtain ⟨hjs, rfl⟩ := Array.getElem?_eq_some_iff.mp hj
    obtain ⟨hks, rfl⟩ := Array.getElem?_eq_some_iff.mp hk
    have hbefore : table[j].2 < table[k].1 :=
      List.pairwise_iff_getElem.mp hascending j k hjs hks hlt
    omega
  · obtain rfl := Option.some.inj (hj.symm.trans hk)
    exact ⟨Nat.le_refl _, Nat.le_refl _⟩

/-- The search from `lo` to before `hi` finds what one of the entries there has. -/
theorem search_eq_true_iff (table : Array (Nat × Nat)) {n lo hi : Nat}
    (hvalid : Valid table.toList) (hascending : Ascending table.toList)
    (hhi : hi ≤ table.size) :
    search table n lo hi = true ↔ ∃ k p, lo ≤ k ∧ k < hi ∧ table[k]? = some p ∧ Within p n := by
  fun_induction search table n lo hi with
  -- the middle is in the table
  | case1 lo hi hlohi mid hmid =>
    rw [Array.getElem?_eq_none_iff] at hmid
    omega
  | case2 lo hi hlohi mid p hmid hbelow ih =>
    refine (ih (by omega)).trans ⟨?_, ?_⟩
    · rintro ⟨k, q, hlo, hk, hq, hn⟩
      exact ⟨k, q, hlo, by omega, hq, hn⟩
    · rintro ⟨k, q, hlo, hk, hq, hn⟩
      -- from the middle on everything begins behind the number
      have hless : k < mid := by
        refine Nat.lt_of_not_le fun hmore => ?_
        have hle := (entry_le hvalid hascending hmore hmid hq).1
        exact absurd hn.1 (by omega)
      exact ⟨k, q, hlo, hless, hq, hn⟩
  | case3 lo hi hlohi mid p hmid hbelow habove ih =>
    refine (ih (by omega)).trans ⟨?_, ?_⟩
    · rintro ⟨k, q, hlo, hk, hq, hn⟩
      exact ⟨k, q, by omega, hk, hq, hn⟩
    · rintro ⟨k, q, hlo, hk, hq, hn⟩
      -- up to the middle everything ends before the number
      have hmore : mid < k := by
        refine Nat.lt_of_not_le fun hless => ?_
        have hle := (entry_le hvalid hascending hless hq hmid).2
        exact absurd hn.2 (by omega)
      exact ⟨k, q, hmore, hk, hq, hn⟩
  | case4 lo hi hlohi mid p hmid hbelow habove =>
    exact ⟨fun _ => ⟨mid, p, by omega, by omega, hmid, by omega, by omega⟩, fun _ => rfl⟩
  -- no entry is left
  | case5 lo hi hlohi =>
    simp only [Bool.false_eq_true, false_iff, not_exists]
    omega

/-- **A set laid out for the search has the members of its ranges.** -/
theorem hasChar_ofRanges {r : Ranges} (hr : Valid r) (c : Char) :
    (ofRanges r).hasChar c = Ranges.contains r c.toNat := by
  obtain ⟨hvalid, hascending, hmem⟩ := normalize_spec hr
  rw [← hmem, Bool.eq_iff_iff, hasChar, RangeIndex.contains, ofRanges,
    search_eq_true_iff (normalize r).toArray hvalid hascending (Nat.le_refl _), contains_iff]
  constructor
  · rintro ⟨k, p, -, -, hp, hn⟩
    exact ⟨p, by simpa using Array.mem_of_getElem? hp, hn⟩
  · rintro ⟨p, hp, hn⟩
    obtain ⟨k, hk, rfl⟩ := List.getElem_of_mem hp
    exact ⟨k, _, Nat.zero_le _, by simpa using hk, by simp [hk], hn⟩

end ExerciseGrading.Text.RangeIndex
