/-
  OCCURRENCES: where one text stands in another.

  1. `p` stands at place `i` of `s` if `s` begins with `p` from there on: `p <+: s.drop i`.  A
     search finds the least such place (`find?_eq_some_iff`), and nothing if there is none.
  2. `FirstOccurrence p s a b` — `p` stands in `s` between `a` and `b`, and nowhere before.  This is
     what a cut finds (`cut_eq_some_iff`); it finds nothing if and only if `p` does not occur.
  3. `join_splitBy` — the parts between the occurrences make up the text again.  No part has an
     occurrence left (`not_infix_of_mem_splitAt`).
  4. `replaceAll_eq_join` — to replace all occurrences is to split the text and to join the parts
     with something else.

  **The crux (one induction for splitting and replacing).**  Both cut the text at its first
  occurrence and go on with what is behind it.  `cut_induction` is that recursion as a principle: a
  text without an occurrence, or a text of which the claim is known for what is behind the first
  one.  The laws in 3 and 4 are two cases each, by the equations for one step.  The text that is
  looked for may not be empty here, since nothing would be left behind then.
-/
import ExerciseGrading.Text.Place

namespace ExerciseGrading.Text

/-! ## Places -/

/-- If something holds of zero, zero is the least number of which it holds. -/
theorem zero_eq_iff_least {P : Nat → Prop} (h : P 0) {i : Nat} :
    0 = i ↔ P i ∧ ∀ j < i, ¬ P j := by
  constructor
  · rintro rfl
    exact ⟨h, fun j hj => absurd hj (Nat.not_lt_zero j)⟩
  · rintro ⟨-, hfirst⟩
    rcases Nat.eq_zero_or_pos i with rfl | hi
    · rfl
    · exact absurd h (hfirst 0 hi)

/-- **A search finds the least place.** -/
theorem find?_eq_some_iff {p s : List Char} {i : Nat} :
    find? p s = some i ↔ p <+: s.drop i ∧ ∀ j < i, ¬ p <+: s.drop j := by
  induction s generalizing i with
  | nil =>
    simp only [find?, List.drop_nil, List.prefix_nil]
    by_cases hp : p = []
    · rw [if_pos hp, Option.some.injEq]
      exact zero_eq_iff_least (P := fun _ => p = []) hp
    · rw [if_neg hp]
      exact iff_of_false (Option.some_ne_none i).symm fun h => hp h.1
  | cons c s ih =>
    rw [find?]
    by_cases hp : p <+: c :: s
    · rw [if_pos (List.isPrefixOf_iff_prefix.mpr hp), Option.some.injEq]
      exact zero_eq_iff_least (P := fun j => p <+: (c :: s).drop j) hp
    · rw [if_neg (mt List.isPrefixOf_iff_prefix.mp hp)]
      cases i with
      | zero =>
        refine iff_of_false (fun h => ?_) fun h => hp h.1
        obtain ⟨k, -, hk⟩ := Option.map_eq_some_iff.mp h
        exact Nat.succ_ne_zero k hk
      | succ k =>
        -- the place in `c :: s` is one more than that in `s`
        have hmap : (find? p s).map (· + 1) = some (k + 1) ↔ find? p s = some k := by
          cases find? p s <;> simp
        rw [hmap, ih, List.drop_succ_cons]
        refine and_congr_right fun _ => ⟨fun hfirst j hj => ?_, fun hfirst j hj => ?_⟩
        · cases j with
          | zero => exact hp
          | succ j => exact hfirst j (Nat.lt_of_succ_lt_succ hj)
        · exact hfirst (j + 1) (Nat.succ_lt_succ hj)

/-- Nothing is found just if there is no place. -/
theorem find?_eq_none_iff {p s : List Char} : find? p s = none ↔ ∀ i, ¬ p <+: s.drop i := by
  constructor
  · intro h i hi
    induction i using Nat.strongRecOn with
    | ind i ih =>
      -- the least of all places would have been found
      have hsome : find? p s = some i := find?_eq_some_iff.mpr ⟨hi, fun j hj hp => ih j hj hp⟩
      rw [h] at hsome
      cases hsome
  · intro h
    cases hfind : find? p s with
    | none => rfl
    | some i => exact absurd (find?_eq_some_iff.mp hfind).1 (h i)

/-! ## Cuts -/

/-- `p` stands in `s` between `before` and `behind`, and nowhere before. -/
structure FirstOccurrence (p s before behind : List Char) : Prop where
  eq : s = before ++ p ++ behind
  first : ∀ a b, s = a ++ p ++ b → before.length ≤ a.length

/-- There is one first occurrence. -/
theorem FirstOccurrence.unique {p s a b a' b' : List Char} (h : FirstOccurrence p s a b)
    (h' : FirstOccurrence p s a' b') : a = a' ∧ b = b' := by
  have hlength : a.length = a'.length := Nat.le_antisymm (h.first a' b' h'.eq) (h'.first a b h.eq)
  have heq : a ++ (p ++ b) = a' ++ (p ++ b') := by
    rw [← List.append_assoc, ← List.append_assoc, ← h.eq, h'.eq]
  obtain ⟨ha, hrest⟩ := List.append_inj heq hlength
  exact ⟨ha, List.append_cancel_left hrest⟩

/-- A text that is no beginning is not taken off. -/
theorem dropStart?_eq_none {p s : List Char} : dropStart? p s = none ↔ ¬ p <+: s := by
  rw [Option.eq_none_iff_forall_ne_some]
  constructor
  · rintro h ⟨r, hr⟩
    exact h r (dropStart?_eq_some.mpr hr.symm)
  · rintro h r hr
    exact h ⟨r, (dropStart?_eq_some.mp hr).symm⟩

/-- Nothing is cut just if the text does not occur. -/
theorem cut_eq_none_iff {p s : List Char} : cut p s = none ↔ ¬ p <:+: s := by
  induction s with
  | nil =>
    rw [cut, List.infix_nil]
    by_cases hp : p = [] <;> simp [hp]
  | cons c s ih =>
    rw [cut, List.infix_cons_iff]
    cases hd : dropStart? p (c :: s) with
    | some r =>
      have hp : p <+: c :: s := ⟨r, (dropStart?_eq_some.mp hd).symm⟩
      exact iff_of_false (Option.some_ne_none _) fun h => h (.inl hp)
    | none =>
      rw [Option.map_eq_none_iff, ih, not_or]
      exact ⟨fun h => ⟨dropStart?_eq_none.mp hd, h⟩, And.right⟩

/-- What is cut is an occurrence, and none stands before it. -/
theorem firstOccurrence_of_cut {p s a b : List Char} (h : cut p s = some (a, b)) :
    FirstOccurrence p s a b := by
  refine ⟨cut_eq_some h, ?_⟩
  induction s generalizing a b with
  | nil =>
    rw [cut] at h
    split at h
    · cases h
      exact fun a _ _ => Nat.zero_le a.length
    · cases h
  | cons c s ih =>
    rw [cut] at h
    cases hd : dropStart? p (c :: s) with
    | some r =>
      rw [hd] at h
      cases h
      exact fun a _ _ => Nat.zero_le a.length
    | none =>
      rw [hd] at h
      obtain ⟨⟨a₁, b₁⟩, hcut, heq⟩ := Option.map_eq_some_iff.mp h
      cases heq
      intro a' b' hsplit
      cases a' with
      -- an occurrence here would have been cut
      | nil => exact absurd ⟨b', hsplit.symm⟩ (dropStart?_eq_none.mp hd)
      | cons d a' =>
        have htail : s = a' ++ p ++ b' := (List.cons.inj hsplit).2
        exact Nat.succ_le_succ (ih hcut a' b' htail)

/-- **A cut finds the first occurrence.** -/
theorem cut_eq_some_iff {p s a b : List Char} :
    cut p s = some (a, b) ↔ FirstOccurrence p s a b := by
  refine ⟨firstOccurrence_of_cut, fun h => ?_⟩
  cases hcut : cut p s with
  | none => exact absurd ⟨a, b, h.eq.symm⟩ (cut_eq_none_iff.mp hcut)
  | some m =>
    obtain ⟨rfl, rfl⟩ := h.unique (firstOccurrence_of_cut hcut)
    rfl

/-- What occurs occurs first somewhere. -/
theorem exists_firstOccurrence {p s : List Char} (h : p <:+: s) :
    ∃ a b, FirstOccurrence p s a b := by
  cases hcut : cut p s with
  | none => exact absurd h (cut_eq_none_iff.mp hcut)
  | some m => exact ⟨m.1, m.2, firstOccurrence_of_cut hcut⟩

/-- Before the first occurrence there is none. -/
theorem FirstOccurrence.absent_before {p s a b : List Char} (h : FirstOccurrence p s a b)
    (hp : p ≠ []) : ¬ p <:+: a := by
  rintro ⟨x, y, hxy⟩
  have hlength : a.length ≤ x.length := h.first x (y ++ p ++ b) (by rw [h.eq, ← hxy]; simp)
  have hpos : 0 < p.length := List.length_pos_iff.mpr hp
  rw [← hxy] at hlength
  simp only [List.length_append] at hlength
  omega

/-! ## Parts

  One equation for each of the two cases of splitting and of replacing.  The definitions are not
  opened any more behind them. -/

section

variable {p s : List Char}

/-- A text without an occurrence is one part … -/
theorem splitAt_of_none (h : cut p s = none) : splitAt p s = [s] := by
  rw [splitAt]
  split
  · rfl
  · split
    · rfl
    · rename_i hcut
      rw [h] at hcut
      cases hcut

/-- … and a text with one has a part before it and those behind it. -/
theorem splitAt_of_some (hp : p ≠ []) {a b : List Char} (h : cut p s = some (a, b)) :
    splitAt p s = a :: splitAt p b := by
  rw [splitAt, dif_neg hp]
  split
  · rename_i hcut
    rw [h] at hcut
    cases hcut
  · rename_i hcut
    rw [h] at hcut
    cases hcut
    rfl

theorem replaceAll_of_none (hp : p ≠ []) (h : cut p s = none) (r : List Char) :
    replaceAll p r s = s := by
  rw [replaceAll, dif_neg hp]
  split
  · rfl
  · rename_i hcut
    rw [h] at hcut
    cases hcut

theorem replaceAll_of_some (hp : p ≠ []) {a b : List Char} (h : cut p s = some (a, b))
    (r : List Char) : replaceAll p r s = a ++ r ++ replaceAll p r b := by
  rw [replaceAll, dif_neg hp]
  split
  · rename_i hcut
    rw [h] at hcut
    cases hcut
  · rename_i hcut
    rw [h] at hcut
    cases hcut
    rfl

/-- The parts of a text, by the occurrences from the left: what holds of a text without an
    occurrence, and of a text if it holds of what is behind its first one, holds of all texts. -/
theorem cut_induction (hp : p ≠ []) {motive : List Char → Prop}
    (none : ∀ s, cut p s = none → motive s)
    (some : ∀ s a b, cut p s = some (a, b) → motive b → motive s) : ∀ s, motive s := by
  intro s
  induction hn : s.length using Nat.strongRecOn generalizing s with
  | ind n ih =>
    cases hcut : cut p s with
    | none => exact none s hcut
    | some m => exact some s m.1 m.2 hcut (ih _ (hn ▸ cut_length hp hcut) _ rfl)

end

/-- There is at least one part. -/
theorem splitAt_ne_nil (p s : List Char) : splitAt p s ≠ [] := by
  by_cases hp : p = []
  · rw [splitAt, dif_pos hp]
    exact List.cons_ne_nil _ _
  · cases hcut : cut p s with
    | none =>
      rw [splitAt_of_none hcut]
      exact List.cons_ne_nil _ _
    | some m =>
      rw [splitAt_of_some hp hcut]
      exact List.cons_ne_nil _ _

/-- Joining puts the separator behind the first part if there is another. -/
theorem join_cons (sep s : List Char) {rest : List (List Char)} (h : rest ≠ []) :
    join sep (s :: rest) = s ++ sep ++ join sep rest := by
  cases rest with
  | nil => exact absurd rfl h
  | cons t rest => rfl

/-- The characters of a text, joined with nothing between them. -/
theorem join_nil_chars (s : List Char) : join [] (s.map fun c => [c]) = s := by
  induction s with
  | nil => rfl
  | cons c s ih =>
    cases s with
    | nil => rfl
    | cons d s =>
      have hrest : (d :: s).map (fun c => [c]) ≠ [] := List.cons_ne_nil _ _
      rw [List.map_cons, join_cons [] [c] hrest, ih]
      rfl

/-- **Replacing is splitting and joining.** -/
theorem replaceAll_eq_join {p : List Char} (hp : p ≠ []) (r s : List Char) :
    replaceAll p r s = join r (splitAt p s) := by
  induction s using cut_induction hp with
  | none s hcut =>
    rw [replaceAll_of_none hp hcut, splitAt_of_none hcut, join]
  | some s a b hcut ih =>
    rw [replaceAll_of_some hp hcut, splitAt_of_some hp hcut, join_cons r a (splitAt_ne_nil p b), ih]

theorem join_splitAt {p : List Char} (hp : p ≠ []) (s : List Char) : join p (splitAt p s) = s := by
  induction s using cut_induction hp with
  | none s hcut => rw [splitAt_of_none hcut, join]
  | some s a b hcut ih =>
    rw [splitAt_of_some hp hcut, join_cons p a (splitAt_ne_nil p b), ih]
    exact (firstOccurrence_of_cut hcut).eq.symm

/-- **The parts make up the text again**, with the separator between them. -/
theorem join_splitBy (s p : List Char) : join p (splitBy s p) = s := by
  rw [splitBy]
  split
  · rename_i hp
    rw [hp, join_nil_chars]
  · rename_i hp
    exact join_splitAt hp s

/-- **No part has an occurrence left.** -/
theorem not_infix_of_mem_splitAt {p part : List Char} (hp : p ≠ []) (s : List Char)
    (h : part ∈ splitAt p s) : ¬ p <:+: part := by
  induction s using cut_induction hp with
  | none s hcut =>
    rw [splitAt_of_none hcut, List.mem_singleton] at h
    rw [h]
    exact cut_eq_none_iff.mp hcut
  | some s a b hcut ih =>
    rw [splitAt_of_some hp hcut] at h
    rcases List.mem_cons.mp h with rfl | h
    · exact (firstOccurrence_of_cut hcut).absent_before hp
    · exact ih h

end ExerciseGrading.Text
