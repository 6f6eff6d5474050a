/-
  WHAT IS COLLECTED from members that come one after the other, keys repeated or not.

  A loop that puts members under their keys leaves a list, and what the list is depends on the order
  in two ways: a key stays where it came first, and its value is the one that came last.
  `Collected` says just this, without the loop, and no two lists satisfy it.

  1. `LastOf members m` — the key of `m` does not come again behind it.  `CameBefore members k k'` —
     the one key came before the other one came first.
  2. `Collected members l` — `l` has each key that came exactly once, in the order in which the keys
     came first, with the value that came last.  There is only one such list (`Collected.unique`):
     two of them have the same members, and the order of keys puts these in one order.
  3. **The step (`Collected.put`)** — giving one more key its value keeps this.  A known key stays
     where it is and a new one goes to the end; in either case the values are the last ones.
  4. **The run (`collected_foldl_put`)** — so it holds of all members put in one after the other,
     and of nothing else (`foldl_put_eq_iff`).
-/
import ExerciseGrading.Keyed
import Mathlib.Data.List.Induction
import Mathlib.Data.List.Nodup

namespace ExerciseGrading.Keyed

variable {κ α : Type}

/-! ## The last member of a key

  A key may come many times.  Its last member is told by what stands behind it, so that one more
  member decides anew for its own key and for no other. -/

/-- The member is the last one of its key. -/
def LastOf (members : List (κ × α)) (m : κ × α) : Prop :=
  ∃ before after, members = before ++ m :: after ∧ m.1 ∉ after.map (·.1)

namespace LastOf

variable {members : List (κ × α)} {m n : κ × α}

/-- The member that has just come is the last one of its key. -/
theorem self (members : List (κ × α)) (m : κ × α) : LastOf (members ++ [m]) m :=
  ⟨members, [], rfl, List.not_mem_nil⟩

/-- A member of another key does not count. -/
theorem snoc (h : LastOf members m) (hne : n.1 ≠ m.1) : LastOf (members ++ [n]) m := by
  obtain ⟨before, after, rfl, hafter⟩ := h
  refine ⟨before, after ++ [n], List.append_assoc .., ?_⟩
  rw [List.map_append, List.mem_append, not_or]
  exact ⟨hafter, fun hmem => hne (List.mem_singleton.mp hmem).symm⟩

/-- It is one of the members. -/
theorem mem (h : LastOf members m) : m ∈ members := by
  obtain ⟨before, after, rfl, -⟩ := h
  exact List.mem_append_right _ List.mem_cons_self

/-- Its key has come. -/
theorem key_mem (h : LastOf members m) : m.1 ∈ members.map (·.1) :=
  List.mem_map_of_mem h.mem

end LastOf

variable [DecidableEq κ]

/-- Nothing is found under a key that has not come. -/
theorem find?_eq_none_iff {k : κ} {l : List (κ × α)} : find? k l = none ↔ k ∉ l.map (·.1) := by
  induction l with
  | nil => exact iff_of_true rfl List.not_mem_nil
  | cons m l ih =>
    obtain ⟨k', v⟩ := m
    rw [find?, List.map_cons, List.mem_cons, not_or]
    split
    · rename_i heq
      exact iff_of_false (Option.some_ne_none v) fun h => h.1 heq.symm
    · rename_i hne
      rw [ih]
      exact (and_iff_right (Ne.symm hne)).symm

/-- The last member of a key is the first one from behind. -/
theorem LastOf.find?_reverse {members : List (κ × α)} {m : κ × α} (h : LastOf members m) :
    find? m.1 members.reverse = some m.2 := by
  obtain ⟨before, after, rfl, hafter⟩ := h
  have hnone : find? m.1 after.reverse = none := by
    rw [find?_eq_none_iff, List.map_reverse, List.mem_reverse]
    exact hafter
  rw [List.reverse_append, List.reverse_cons, List.append_assoc, find?_append, hnone,
    Option.none_or, List.singleton_append, find?, if_pos rfl]

/-- A key has one last member. -/
theorem LastOf.unique {members : List (κ × α)} {m n : κ × α} (hm : LastOf members m)
    (hn : LastOf members n) (hkey : m.1 = n.1) : m = n := by
  have hn' : find? m.1 members.reverse = some n.2 := hkey ▸ hn.find?_reverse
  exact Prod.ext hkey (Option.some.inj (hm.find?_reverse.symm.trans hn'))

/-! ## The order in which keys came first

  The order is a relation on keys, told by a beginning of the members: there is one in which the
  one key has come and the other one has not.  What comes later cannot change that. -/

/-- The one key came before the other one came first. -/
def CameBefore (members : List (κ × α)) (k k' : κ) : Prop :=
  (members.map (·.1)).idxOf k < (members.map (·.1)).idxOf k'

/-- What comes later changes nothing. -/
theorem CameBefore.append {members : List (κ × α)} {k k' : κ} (h : CameBefore members k k')
    (hk : k ∈ members.map (·.1)) (hk' : k' ∈ members.map (·.1)) (more : List (κ × α)) :
    CameBefore (members ++ more) k k' := by
  rw [CameBefore, List.map_append, List.idxOf_append_of_mem hk, List.idxOf_append_of_mem hk']
  exact h

/-- A new key comes behind all others. -/
theorem cameBefore_new {members : List (κ × α)} {k : κ} {m : κ × α} (hk : k ∈ members.map (·.1))
    (hm : m.1 ∉ members.map (·.1)) : CameBefore (members ++ [m]) k m.1 := by
  rw [CameBefore, List.map_append, List.idxOf_append_of_mem hk, List.idxOf_append_of_notMem hm]
  exact Nat.lt_add_right _ (List.idxOf_lt_length_of_mem hk)

/-! ## Each key once

  Three clauses, and a step for each: which keys there are, in which order, and with which
  values.  Putting a member in touches the keys only if its key is new, and the values only at
  its own key. -/

/-- The list has each key of the members exactly once, in the order in which the keys came first,
    and each with the value that came last. -/
structure Collected (members l : List (κ × α)) : Prop where
  once : ∀ k ∈ members.map (·.1), (l.map (·.1)).count k = 1
  inOrder : (l.map (·.1)).Pairwise (CameBefore members)
  last : ∀ m ∈ l, LastOf members m

namespace Collected

variable {members l : List (κ × α)}

/-- No key is lost, and none is made up. -/
theorem mem_keys (h : Collected members l) {k : κ} : k ∈ l.map (·.1) ↔ k ∈ members.map (·.1) := by
  constructor
  · intro hk
    obtain ⟨m, hm, rfl⟩ := List.mem_map.mp hk
    exact (h.last m hm).key_mem
  · intro hk
    rw [← List.count_pos_iff, h.once k hk]
    exact Nat.one_pos

/-- So no key stands twice. -/
theorem nodup_keys (h : Collected members l) : (l.map (·.1)).Nodup :=
  List.nodup_iff_count_eq_one.mpr fun k hk => h.once k (h.mem_keys.mp hk)

/-- What is found is the last value of the key. -/
theorem find?_eq_some_iff (h : Collected members l) {k : κ} {v : α} :
    find? k l = some v ↔ LastOf members (k, v) := by
  constructor
  · intro hfind
    exact h.last (k, v) (mem_of_find? hfind)
  · intro hlast
    obtain ⟨m, hm, hkey⟩ := List.mem_map.mp (h.mem_keys.mpr hlast.key_mem)
    obtain rfl : m = (k, v) := (h.last m hm).unique hlast hkey
    exact find?_of_mem h.nodup_keys hm

/-- Nothing is found under any other key. -/
theorem find?_eq_none_iff (h : Collected members l) {k : κ} :
    find? k l = none ↔ k ∉ members.map (·.1) :=
  Keyed.find?_eq_none_iff.trans (not_congr h.mem_keys)

/-- Nothing has been collected of no members. -/
theorem nil : Collected ([] : List (κ × α)) [] where
  once := fun _ hk => absurd hk List.not_mem_nil
  inOrder := List.Pairwise.nil
  last := fun _ hm => absurd hm List.not_mem_nil

/-- What came first keeps its place when more comes. -/
theorem inOrder_append (h : Collected members l) (more : List (κ × α)) :
    (l.map (·.1)).Pairwise (CameBefore (members ++ more)) :=
  h.inOrder.imp_of_mem fun hk hk' hbefore =>
    hbefore.append (h.mem_keys.mp hk) (h.mem_keys.mp hk') more

/-- After one more member, the values are the last ones. -/
theorem last_put (h : Collected members l) (m : κ × α) :
    ∀ n ∈ Keyed.put m.1 m.2 l, LastOf (members ++ [m]) n := by
  intro n hn
  have hfind := find?_of_mem (nodup_keys_put h.nodup_keys) hn
  rw [find?_put] at hfind
  split at hfind
  · rename_i hkey
    obtain rfl : m = n := Prod.ext hkey (Option.some.inj hfind)
    exact .self members m
  · rename_i hkey
    exact (h.last n (mem_of_find? hfind)).snoc hkey

/-- With a known key no key comes or goes, and none came earlier than before. -/
theorem put_known (h : Collected members l) {m : κ × α} (hm : m.1 ∈ members.map (·.1)) :
    Collected (members ++ [m]) (Keyed.put m.1 m.2 l) := by
  have hput : (Keyed.put m.1 m.2 l).map (·.1) = l.map (·.1) := by
    rw [keys_put, if_pos (h.mem_keys.mpr hm)]
  refine ⟨fun k hk => ?_, hput ▸ h.inOrder_append [m], h.last_put m⟩
  rw [List.map_append, List.map_singleton, List.mem_append, List.mem_singleton] at hk
  rw [hput]
  rcases hk with hk | rfl
  · exact h.once k hk
  · exact h.once m.1 hm

/-- A new key comes behind all others, and goes behind all others. -/
theorem put_new (h : Collected members l) {m : κ × α} (hm : m.1 ∉ members.map (·.1)) :
    Collected (members ++ [m]) (Keyed.put m.1 m.2 l) := by
  have hnew : m.1 ∉ l.map (·.1) := mt h.mem_keys.mp hm
  have hput : (Keyed.put m.1 m.2 l).map (·.1) = l.map (·.1) ++ [m.1] := by
    rw [keys_put, if_neg hnew]
  refine ⟨fun k hk => ?_, ?_, h.last_put m⟩
  · rw [List.map_append, List.map_singleton, List.mem_append, List.mem_singleton] at hk
    rw [hput, List.count_append]
    rcases hk with hk | rfl
    · -- an old key is counted where it was, the new one is not it
      have hne : m.1 ≠ k := fun heq => hm (heq ▸ hk)
      rw [h.once k hk, List.count_singleton, if_neg (by simpa using hne)]
    · rw [List.count_eq_zero_of_not_mem hnew, List.count_singleton_self]
  · rw [hput]
    refine List.pairwise_append.mpr
      ⟨h.inOrder_append [m], List.pairwise_singleton _ _, fun k hk k' hk' => ?_⟩
    rw [List.mem_singleton.mp hk']
    exact cameBefore_new (h.mem_keys.mp hk) hm

/-- **One more member.** -/
theorem put (h : Collected members l) (m : κ × α) :
    Collected (members ++ [m]) (Keyed.put m.1 m.2 l) := by
  by_cases hm : m.1 ∈ members.map (·.1)
  · exact h.put_known hm
  · exact h.put_new hm

/-- Two lists that are collected from the same members have the same members themselves: under each
    key the last one. -/
theorem subset {l' : List (κ × α)} (h : Collected members l) (h' : Collected members l') :
    l ⊆ l' := by
  intro m hm
  have hlast := h.last m hm
  obtain ⟨n, hn, hkey⟩ := List.mem_map.mp (h'.mem_keys.mpr hlast.key_mem)
  exact hlast.unique (h'.last n hn) hkey.symm ▸ hn

/-- The order of keys, said of the members. -/
theorem pairwise (h : Collected members l) :
    l.Pairwise fun m n => CameBefore members m.1 n.1 :=
  List.pairwise_map.mp h.inOrder

/-- **The list is determined** by what its keys and values have to be. -/
theorem unique {l' : List (κ × α)} (h : Collected members l) (h' : Collected members l') :
    l = l' := by
  have hperm : l.Perm l' :=
    (List.perm_ext_iff_of_nodup h.nodup_keys.of_map h'.nodup_keys.of_map).mpr
      fun m => ⟨fun hm => h.subset h' hm, fun hm => h'.subset h hm⟩
  -- one list is a rearrangement of the other, and both are in the same strict order
  refine hperm.eq_of_pairwise ?_ h.pairwise h'.pairwise
  exact fun m n _ _ hmn hnm => absurd hnm (Nat.lt_asymm hmn)

end Collected

/-- **All members, one after the other.** -/
theorem collected_foldl_put (members : List (κ × α)) :
    Collected members (members.foldl (fun acc m => put m.1 m.2 acc) []) := by
  induction members using List.reverseRecOn with
  | nil => exact .nil
  | append_singleton members m ih =>
    rw [List.foldl_append]
    exact ih.put m

/-- What the loop leaves is the one list that is collected from the members. -/
theorem foldl_put_eq_iff {members l : List (κ × α)} :
    members.foldl (fun acc m => put m.1 m.2 acc) [] = l ↔ Collected members l := by
  constructor
  · intro h
    exact h ▸ collected_foldl_put members
  · intro h
    exact (collected_foldl_put members).unique h

example : [("a", 1), ("b", 2), ("a", 3)].foldl (fun acc m => put m.1 m.2 acc) [] =
    [("a", 3), ("b", 2)] := by decide

end ExerciseGrading.Keyed
