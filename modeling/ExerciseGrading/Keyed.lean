/-
  KEYED LISTS: keys with values, each key once.

  1. `put`       — a new key goes to the end, a known key keeps its place; the last value counts.
  2. `insert`    — the key goes to its place among ascending keys.
  3. `ascending` — a whole list put in ascending order, the last value of each key.

  `find?_put` says what is found after `put`, `keys_put` which keys there are then, and
  `find?_without` what is found after a key is given up.  `find?_ascending` says that the last value
  of a key counts, `sorted_ascending` and `ascending_of_sorted` that lists in ascending order are
  what `ascending` makes and leaves alone.  `foldl_eq_append` is why a list that already has its
  form is collected as it is.  Where each key stands once, the order does not count for what is
  found (`find?_perm`) and for what comes out in ascending order (`ascending_eq_of_perm`).
-/

namespace ExerciseGrading.Keyed

variable {κ α : Type}

/-- Gives a key its value: in its place if it is known, else at the end. -/
def put [DecidableEq κ] (key : κ) (value : α) : List (κ × α) → List (κ × α)
  | [] => [(key, value)]
  | (k, v) :: rest => if k = key then (k, value) :: rest else (k, v) :: put key value rest

/-- The value of a key. -/
def find? [DecidableEq κ] (key : κ) : List (κ × α) → Option α
  | [] => none
  | (k, v) :: rest => if k = key then some v else find? key rest

theorem find?_put [DecidableEq κ] (key k : κ) (value : α) (l : List (κ × α)) :
    find? k (put key value l) = if key = k then some value else find? k l := by
  induction l with
  | nil => simp [put, find?]
  | cons m l ih =>
    obtain ⟨k', v⟩ := m
    by_cases h : k' = key
    · subst h
      by_cases hk : k' = k <;> simp [put, find?, hk]
    · by_cases hk : k' = k
      · subst hk
        simp [put, find?, h, Ne.symm h]
      · simp [put, find?, h, hk, ih]

theorem keys_put [DecidableEq κ] (key : κ) (value : α) (l : List (κ × α)) :
    (put key value l).map (·.1) =
      if key ∈ l.map (·.1) then l.map (·.1) else l.map (·.1) ++ [key] := by
  induction l with
  | nil => simp [put]
  | cons m l ih =>
    obtain ⟨k', v⟩ := m
    by_cases h : k' = key
    · simp [put, h]
    · simp only [put, h, if_false, List.map_cons, ih, List.mem_cons, Ne.symm h, false_or]
      split <;> simp

theorem nodup_keys_put [DecidableEq κ] {key : κ} {value : α} {l : List (κ × α)}
    (h : (l.map (·.1)).Nodup) : ((put key value l).map (·.1)).Nodup := by
  rw [keys_put]
  split
  · exact h
  · rename_i hkey
    refine List.nodup_append.mpr ⟨h, List.pairwise_singleton _ _, fun k hk k' hk' => ?_⟩
    rw [List.mem_singleton.mp hk']
    exact fun heq => hkey (heq ▸ hk)

/-- A new key goes to the end. -/
theorem put_of_not_mem [DecidableEq κ] {key : κ} {value : α} {l : List (κ × α)}
    (h : key ∉ l.map (·.1)) : put key value l = l ++ [(key, value)] := by
  induction l with
  | nil => rfl
  | cons m l ih =>
    obtain ⟨k, v⟩ := m
    rw [List.map_cons, List.mem_cons, not_or] at h
    rw [put, if_neg (Ne.symm h.1), ih h.2, List.cons_append]

/-- A list is collected as it is, if each of its members goes to the end of those before it. -/
theorem foldl_eq_append {f : List α → α → List α} {l : List α} (acc : List α)
    (h : ∀ a m b, acc ++ l = a ++ m :: b → f a m = a ++ [m]) : l.foldl f acc = acc ++ l := by
  induction l generalizing acc with
  | nil => exact (List.append_nil acc).symm
  | cons m l ih =>
    rw [List.foldl_cons, h acc m l rfl, List.append_cons acc m l]
    exact ih (acc ++ [m]) fun a n b hsplit => h a n b (List.append_cons acc m l ▸ hsplit)

theorem find?_without [DecidableEq κ] (key k : κ) (l : List (κ × α)) :
    find? k (l.filter fun m => m.1 ≠ key) = if key = k then none else find? k l := by
  induction l with
  | nil => simp [find?]
  | cons m l ih =>
    obtain ⟨k', v⟩ := m
    rw [List.filter_cons]
    by_cases h : k' = key
    · subst h
      rw [if_neg (by simp), ih]
      by_cases hk : k' = k <;> simp [find?, hk]
    · rw [if_pos (by simpa using h), find?, find?, ih]
      by_cases hk : k' = k
      · subst hk
        rw [if_pos rfl, if_pos rfl, if_neg (Ne.symm h)]
      · rw [if_neg hk, if_neg hk]

theorem find?_append [DecidableEq κ] (k : κ) (a b : List (κ × α)) :
    find? k (a ++ b) = (find? k a).or (find? k b) := by
  induction a with
  | nil => rfl
  | cons m a ih =>
    simp only [List.cons_append, find?]
    split
    · rfl
    · exact ih

theorem mem_of_find? [DecidableEq κ] {key : κ} {value : α} {l : List (κ × α)}
    (h : find? key l = some value) : (key, value) ∈ l := by
  induction l with
  | nil => cases h
  | cons m l ih =>
    obtain ⟨k, v⟩ := m
    rw [find?] at h
    split at h
    · rename_i hk
      obtain rfl := Option.some.inj h
      rw [hk]
      exact List.mem_cons_self
    · exact List.mem_cons_of_mem _ (ih h)

/-- A key that stands once has its value. -/
theorem find?_of_mem [DecidableEq κ] {key : κ} {value : α} {l : List (κ × α)}
    (hkeys : (l.map (·.1)).Nodup) (h : (key, value) ∈ l) : find? key l = some value := by
  induction l with
  | nil => cases h
  | cons m l ih =>
    obtain ⟨k, v⟩ := m
    obtain ⟨hk, hkeys⟩ := List.nodup_cons.mp hkeys
    rw [find?]
    rcases List.mem_cons.mp h with heq | h
    · cases heq
      exact if_pos rfl
    · have hmem : key ∈ l.map (·.1) := List.mem_map_of_mem h
      have hne : k ≠ key := fun heq => hk (heq ▸ hmem)
      rw [if_neg hne, ih hkeys h]

/-- Where each key stands once, the order does not count. -/
theorem find?_perm [DecidableEq κ] {l l' : List (κ × α)} (hperm : l.Perm l')
    (hkeys : (l.map (·.1)).Nodup) (key : κ) : find? key l = find? key l' := by
  have hkeys' : (l'.map (·.1)).Nodup := (hperm.map (·.1)).nodup_iff.mp hkeys
  ext value
  constructor
  · intro h
    exact find?_of_mem hkeys' (hperm.mem_iff.mp (mem_of_find? h))
  · intro h
    exact find?_of_mem hkeys (hperm.mem_iff.mpr (mem_of_find? h))

/-- Puts a member at its place among ascending keys; an old member with that key gives way. -/
def insert (key : String) (value : α) : List (String × α) → List (String × α)
  | [] => [(key, value)]
  | (k, v) :: rest =>
    if key < k then (key, value) :: (k, v) :: rest
    else if key = k then (key, value) :: rest
    else (k, v) :: insert key value rest

/-- Members in ascending order of their keys; of equal keys the last one counts. -/
def ascending (members : List (String × α)) : List (String × α) :=
  members.foldl (fun acc m => insert m.1 m.2 acc) []

theorem find?_insert (key k : String) (value : α) (l : List (String × α)) :
    find? k (insert key value l) = if key = k then some value else find? k l := by
  induction l with
  | nil => simp [insert, find?]
  | cons m l ih =>
    obtain ⟨k', v⟩ := m
    simp only [insert]
    split
    · simp [find?]
    · split
      · rename_i h
        subst h
        by_cases hk : key = k <;> simp [find?, hk]
      · rename_i h
        by_cases hk : k' = k
        · subst hk
          simp [find?, h]
        · simp [find?, hk, ih]

/-- In ascending order a key has the value that it had last. -/
theorem find?_ascending (k : String) (members : List (String × α)) :
    find? k (ascending members) = find? k members.reverse := by
  have h : ∀ (ms acc : List (String × α)),
      find? k (ms.foldl (fun acc m => insert m.1 m.2 acc) acc) =
        (find? k ms.reverse).or (find? k acc) := by
    intro ms
    induction ms with
    | nil => intro acc; rfl
    | cons m ms ih =>
      intro acc
      rw [List.foldl_cons, ih, find?_insert, List.reverse_cons, find?_append, Option.or_assoc]
      congr 1
      simp only [find?]
      split <;> rfl
  rw [ascending, h]
  simp [find?]

/-! ## Ascending keys -/

/-- Each key is less than the ones behind it, so that it stands once. -/
def Sorted (l : List (String × α)) : Prop := l.Pairwise fun m n => m.1 < n.1

theorem mem_of_mem_insert {key : String} {value : α} {m : String × α} {l : List (String × α)}
    (h : m ∈ insert key value l) : m = (key, value) ∨ m ∈ l := by
  induction l with
  | nil => exact Or.inl (List.mem_singleton.mp h)
  | cons n l ih =>
    obtain ⟨k, v⟩ := n
    simp only [insert] at h
    split at h
    · exact List.mem_cons.mp h
    · split at h
      · rcases List.mem_cons.mp h with h | h
        · exact Or.inl h
        · exact Or.inr (List.mem_cons_of_mem _ h)
      · rcases List.mem_cons.mp h with h | h
        · exact Or.inr (h ▸ List.mem_cons_self)
        · exact (ih h).imp_right (List.mem_cons_of_mem _)

theorem sorted_insert {key : String} {value : α} {l : List (String × α)} (h : Sorted l) :
    Sorted (insert key value l) := by
  induction l with
  | nil => exact List.pairwise_singleton _ _
  | cons n l ih =>
    obtain ⟨k, v⟩ := n
    obtain ⟨hk, hl⟩ := List.pairwise_cons.mp h
    simp only [insert]
    split
    · rename_i hlt
      refine List.pairwise_cons.mpr ⟨fun m hm => ?_, h⟩
      rcases List.mem_cons.mp hm with rfl | hm
      · exact hlt
      · exact String.lt_trans hlt (hk m hm)
    · split
      · rename_i heq
        subst heq
        exact List.pairwise_cons.mpr ⟨hk, hl⟩
      · rename_i hlt hne
        have hgt : k < key :=
          String.not_le.mp fun hle => hne (String.le_antisymm hle (String.not_lt.mp hlt))
        refine List.pairwise_cons.mpr ⟨fun m hm => ?_, ih hl⟩
        rcases mem_of_mem_insert hm with rfl | hm
        · exact hgt
        · exact hk m hm

theorem sorted_ascending (members : List (String × α)) : Sorted (ascending members) :=
  List.foldlRecOn (motive := Sorted) members _ List.Pairwise.nil fun _ hacc _ _ =>
    sorted_insert hacc

theorem mem_of_mem_ascending {members : List (String × α)} {m : String × α}
    (h : m ∈ ascending members) : m ∈ members := by
  revert h
  refine List.foldlRecOn (motive := fun acc => m ∈ acc → m ∈ members) members _
    (fun hm => absurd hm List.not_mem_nil) fun acc hacc n hn hm => ?_
  rcases mem_of_mem_insert hm with rfl | hm
  · exact hn
  · exact hacc hm

/-- A key greater than all others goes to the end. -/
theorem insert_of_forall_lt {key : String} {value : α} {l : List (String × α)}
    (h : ∀ m ∈ l, m.1 < key) : insert key value l = l ++ [(key, value)] := by
  induction l with
  | nil => rfl
  | cons n l ih =>
    obtain ⟨k, v⟩ := n
    have hk : k < key := h (k, v) List.mem_cons_self
    have hne : key ≠ k := fun heq => String.lt_irrefl k (heq ▸ hk)
    rw [insert, if_neg (String.lt_asymm hk), if_neg hne,
      ih fun m hm => h m (List.mem_cons_of_mem _ hm), List.cons_append]

theorem ascending_of_sorted {members : List (String × α)} (h : Sorted members) :
    ascending members = members := by
  refine foldl_eq_append [] fun a m b hsplit => insert_of_forall_lt fun n hn => ?_
  have hsorted : Sorted (a ++ m :: b) := hsplit ▸ h
  exact (List.pairwise_append.mp hsorted).2.2 n hn m List.mem_cons_self

/-- A new key finds its place among the others, which stay. -/
theorem insert_perm {key : String} {value : α} {l : List (String × α)} (h : key ∉ l.map (·.1)) :
    (insert key value l).Perm ((key, value) :: l) := by
  induction l with
  | nil => exact .refl _
  | cons m l ih =>
    obtain ⟨k, v⟩ := m
    rw [List.map_cons, List.mem_cons, not_or] at h
    rw [insert]
    split
    · exact .refl _
    · rw [if_neg h.1]
      exact ((ih h.2).cons (k, v)).trans (.swap _ _ l)

theorem ascending_perm {members : List (String × α)} (h : (members.map (·.1)).Nodup) :
    (ascending members).Perm members := by
  have hfold : ∀ (ms acc : List (String × α)), ((acc ++ ms).map (·.1)).Nodup →
      (ms.foldl (fun acc m => insert m.1 m.2 acc) acc).Perm (acc ++ ms) := by
    intro ms
    induction ms with
    | nil => intro acc _; simp
    | cons m ms ih =>
      intro acc hacc
      have hnew : m.1 ∉ acc.map (·.1) := by
        rw [List.map_append, List.nodup_append] at hacc
        exact fun hm => hacc.2.2 _ hm _ List.mem_cons_self rfl
      have hstep : (insert m.1 m.2 acc ++ ms).Perm (acc ++ m :: ms) :=
        ((insert_perm hnew).append_right ms).trans List.perm_middle.symm
      rw [List.foldl_cons]
      exact (ih _ ((hstep.map (·.1)).nodup_iff.mpr hacc)).trans hstep
  exact hfold members [] h

/-- In ascending order it does not count how members were ordered. -/
theorem ascending_eq_of_perm {members others : List (String × α)} (hperm : members.Perm others)
    (h : (members.map (·.1)).Nodup) : ascending members = ascending others := by
  have hothers : (others.map (·.1)).Nodup := (hperm.map (·.1)).nodup_iff.mp h
  refine List.Perm.eq_of_pairwise ?_ (sorted_ascending members) (sorted_ascending others) ?_
  · exact fun a b _ _ hab hba => absurd hba (String.lt_asymm hab)
  · exact (ascending_perm h).trans (hperm.trans (ascending_perm hothers).symm)

end ExerciseGrading.Keyed
