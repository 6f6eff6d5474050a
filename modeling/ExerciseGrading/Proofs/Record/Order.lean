/-
  ORDER of members: what is asked of a record does not depend on it.

  A record is asked three kinds of questions: for a scalar, for a list, and for the values of named
  fields.  Only the last meets members, and it meets them one after the other, filling slots; so the
  order could matter if two members wanted the same slot, and with distinct names none do.  A value
  of any shape keeps all its members, and is put in order when it is read.

  1. `DistinctNames` — at every level no two members have the same name.
  2. `Rearranged` — the same record, with the members of objects in another order at any depth.
     Keys and values are related one by one before the members change places, so that no statement
     has to speak of pairs of records.
  3. `Inside` — a record and a rearrangement of it, with distinct names and bounds on their depths,
     so that readers that count levels may count them differently on the two.
  4. `Alike` — two questions with the same answer for such records.  Texts and yes or no are read
     off one leaf; a value of any shape has its members in ascending order anyway (`json?_alike`).
  5. **The crux (`slots?_eq`)** — with distinct names the values of named fields are looked up by
     name, so that the fields of two such records are such records again (`fields?_alike`).  It is
     an induction on the members with the filled slots free (`foldlM_fill?`).
-/
import ExerciseGrading.Proofs.Record.RoundTrip
import Mathlib.Data.List.Forall2
import Mathlib.Data.List.Perm.Basic
import Mathlib.Data.Option.Defs

namespace ExerciseGrading

/-- Items in another order are read with the results in another order. -/
theorem mapM_perm {α β : Type} {f : α → Option β} {l l' : List α} (hperm : l.Perm l') {bs : List β}
    (h : l.mapM f = some bs) : ∃ bs', l'.mapM f = some bs' ∧ bs'.Perm bs := by
  obtain ⟨bs', hread, hbs⟩ := List.perm_comp_forall₂ hperm.symm (mapM_eq_some_iff.mp h)
  exact ⟨bs', mapM_eq_some_iff.mpr hread, hbs⟩

/-- Items that are read alike one by one are read alike as lists. -/
theorem mapM_congr_forall₂ {α β : Type} {f g : α → Option β} {l l' : List α}
    (h : List.Forall₂ (fun a b => g b = f a) l l') : l'.mapM g = l.mapM f := by
  induction h with
  | nil => rfl
  | cons hfirst _ ih => rw [List.mapM_cons, List.mapM_cons, hfirst, ih]

/-- Two optional values that are related are both there or both not. -/
theorem rel_cases {α β : Type} {R : α → β → Prop} {a? : Option α} {b? : Option β}
    (h : Option.Rel R a? b?) :
    a? = none ∧ b? = none ∨ ∃ a b, a? = some a ∧ b? = some b ∧ R a b := by
  cases h with
  | none => exact .inl ⟨rfl, rfl⟩
  | some h => exact .inr ⟨_, _, rfl, rfl, h⟩

namespace Record

/-! ## Names

  Only keys that are texts can name a field, and members with other keys are left out here.  A
  record that has one is refused as a whole. -/

/-- The members whose keys are texts, by these texts. -/
def named (members : List (Record × Record)) : List (String × Record) :=
  members.filterMap fun m => m.1.text?.map fun name => (name, m.2)

/-- The names of members. -/
def names (members : List (Record × Record)) : List String := (named members).map (·.1)

/-- A member whose key is a text has that name. -/
theorem named_cons_some {k v : Record} {name : String} (h : k.text? = some name)
    (members : List (Record × Record)) :
    named ((k, v) :: members) = (name, v) :: named members := by
  simp [named, h]

/-- A member whose key is no text has no name. -/
theorem named_cons_none {k v : Record} (h : k.text? = none) (members : List (Record × Record)) :
    named ((k, v) :: members) = named members := by
  simp [named, h]

/-- Names change places as members do. -/
theorem named_perm {members others : List (Record × Record)} (hperm : members.Perm others) :
    (named members).Perm (named others) :=
  hperm.filterMap _

/-! ## Records in another order

  Keys and values are rearranged one by one, and then the members change places.  So a relation
  between values never has to be carried through a permutation of pairs. -/

/-- At every level no two members have the same name. -/
inductive DistinctNames : Record → Prop
  | leaf (l : Leaf) : DistinctNames (.leaf l)
  | unusable : DistinctNames .unusable
  | list {items : List Record} (h : ∀ r ∈ items, DistinctNames r) : DistinctNames (.list items)
  | sequence {tag : Option String} {items : List Record} (h : ∀ r ∈ items, DistinctNames r) :
    DistinctNames (.sequence tag items)
  | fields {tag : Option String} {members : List (Record × Record)} (hnames : (names members).Nodup)
      (h : ∀ r ∈ members.map (·.2), DistinctNames r) : DistinctNames (.fields tag members)

/-- The same record, with the members of objects in another order at any depth: keys and values one
    by one, and then the members as a whole. -/
inductive Rearranged : Record → Record → Prop
  | leaf (l : Leaf) : Rearranged (.leaf l) (.leaf l)
  | unusable : Rearranged .unusable .unusable
  | list {items others : List Record} : List.Forall₂ Rearranged items others →
    Rearranged (.list items) (.list others)
  | sequence {tag : Option String} {items others : List Record} :
    List.Forall₂ Rearranged items others → Rearranged (.sequence tag items) (.sequence tag others)
  | fields {tag : Option String} {members others reordered : List (Record × Record)} :
    List.Forall₂ Rearranged (members.map (·.1)) (others.map (·.1)) →
    List.Forall₂ Rearranged (members.map (·.2)) (others.map (·.2)) → others.Perm reordered →
    Rearranged (.fields tag members) (.fields tag reordered)

mutual
/-- A record is a rearrangement of itself. -/
theorem Rearranged.refl : ∀ r : Record, Rearranged r r
  | .leaf l => .leaf l
  | .unusable => .unusable
  | .list items => .list (refl_items items)
  | .sequence _ items => .sequence (refl_items items)
  | .fields _ members => .fields (refl_keys members) (refl_values members) (.refl members)
/-- So are items, -/
theorem Rearranged.refl_items : ∀ items : List Record, List.Forall₂ Rearranged items items
  | [] => .nil
  | r :: rest => .cons (refl r) (refl_items rest)
/-- the keys of members, -/
theorem Rearranged.refl_keys : ∀ members : List (Record × Record),
    List.Forall₂ Rearranged (members.map (·.1)) (members.map (·.1))
  | [] => .nil
  | (k, _) :: rest => .cons (refl k) (refl_keys rest)
/-- and their values. -/
theorem Rearranged.refl_values : ∀ members : List (Record × Record),
    List.Forall₂ Rearranged (members.map (·.2)) (members.map (·.2))
  | [] => .nil
  | (_, v) :: rest => .cons (refl v) (refl_values rest)
end

/-- A text has no members to rearrange. -/
theorem Rearranged.text?_eq {r r' : Record} (h : Rearranged r r') : r'.text? = r.text? := by
  cases h <;> rfl

section Members

variable {members others : List (Record × Record)}
  (hkeys : List.Forall₂ Rearranged (members.map (·.1)) (others.map (·.1)))
include hkeys

/-- Keys that are rearranged one by one are the same texts, -/
theorem texts_of_keys : (others.map fun m => m.1.text?) = members.map fun m => m.1.text? := by
  have htexts : ∀ {ks ks' : List Record}, List.Forall₂ Rearranged ks ks' →
      ks'.map text? = ks.map text? := by
    intro ks ks' h
    induction h with
    | nil => rfl
    | cons hkey _ ih => rw [List.map_cons, List.map_cons, hkey.text?_eq, ih]
  simpa only [List.map_map, Function.comp_def] using htexts hkeys

/-- so that members have the same names, -/
theorem names_of_keys : names others = names members := by
  have hnames : ∀ ms : List (Record × Record),
      names ms = (ms.map fun m => m.1.text?).filterMap id := by
    intro ms
    rw [names, named, List.map_filterMap, List.filterMap_map]
    congr 1
    funext m
    simp [Option.map_map, Function.comp_def]
  rw [hnames, hnames, texts_of_keys hkeys]

/-- and either all of them have names or not. -/
theorem all_text?_of_keys :
    (others.all fun m => m.1.text?.isSome) = members.all fun m => m.1.text?.isSome := by
  have hall : ∀ ms : List (Record × Record),
      (ms.all fun m => m.1.text?.isSome) = (ms.map fun m => m.1.text?).all Option.isSome := by
    intro ms
    rw [List.all_map]
    rfl
  rw [hall, hall, texts_of_keys hkeys]

/-- What is found under a name in two lists with the same keys is related as the values are. -/
theorem find?_of_keys {R : Record → Record → Prop}
    (hvalues : List.Forall₂ R (members.map (·.2)) (others.map (·.2))) (name : String) :
    Option.Rel R (Keyed.find? name (named members)) (Keyed.find? name (named others)) := by
  induction members generalizing others with
  | nil =>
    rw [List.map_eq_nil_iff.mp (List.forall₂_nil_left_iff.mp hkeys)]
    exact .none
  | cons m members ih =>
    obtain ⟨k, v⟩ := m
    cases others with
    | nil => cases hkeys
    | cons n others =>
      obtain ⟨k', v'⟩ := n
      obtain ⟨hkey, hkeys⟩ := List.forall₂_cons.mp hkeys
      obtain ⟨hvalue, hvalues⟩ := List.forall₂_cons.mp hvalues
      have htext : k'.text? = k.text? := Rearranged.text?_eq hkey
      cases hname : k.text? with
      | none =>
        rw [named_cons_none hname, named_cons_none (htext.trans hname)]
        exact ih hkeys hvalues
      | some found =>
        rw [named_cons_some hname, named_cons_some (htext.trans hname), Keyed.find?, Keyed.find?]
        split
        · exact .some hvalue
        · exact ih hkeys hvalues

end Members

/-! ## Values of any shape

  The value of an object is its members in ascending order.  Two orders of the same members come
  to the same ascending one, if no two of them have the same key. -/

/-- Members are read one by one, in no other way than a list is. -/
theorem jsonMembers?_eq_mapM (members : List (Record × Record)) :
    jsonMembers? members = members.mapM fun m => do return ((← m.1.text?), (← json? m.2)) := by
  induction members with
  | nil => rw [jsonMembers?, List.mapM_nil]; rfl
  | cons m members ih =>
    obtain ⟨k, v⟩ := m
    rw [jsonMembers?, List.mapM_cons, ih]
    cases k.text? <;> cases json? v <;> rfl

/-- Members that can all be read are read under their names. -/
theorem keys_of_jsonMembers? {members : List (Record × Record)} {ms : List (String × Json)}
    (h : jsonMembers? members = some ms) : ms.map (·.1) = names members := by
  induction members generalizing ms with
  | nil =>
    rw [jsonMembers?] at h
    cases h
    rfl
  | cons m members ih =>
    obtain ⟨k, v⟩ := m
    rw [jsonMembers?] at h
    obtain ⟨name, hname, h⟩ := Option.bind_eq_some_iff.mp h
    obtain ⟨w, -, h⟩ := Option.bind_eq_some_iff.mp h
    obtain ⟨ws, hws, h⟩ := Option.bind_eq_some_iff.mp h
    obtain rfl := Option.some.inj h
    rw [names, named_cons_some hname, List.map_cons, List.map_cons, ih hws, names]

/-- In ascending order the members of an object are the same, whatever order they were in. -/
theorem jsonMembers?_perm {members others : List (Record × Record)} (hperm : members.Perm others)
    (hnames : (names members).Nodup) :
    (jsonMembers? others).map Keyed.ascending = (jsonMembers? members).map Keyed.ascending := by
  have hread := jsonMembers?_eq_mapM
  cases h : jsonMembers? members with
  | none =>
    cases h' : jsonMembers? others with
    | none => rfl
    | some ms' =>
      obtain ⟨ms, hms, -⟩ := mapM_perm hperm.symm ((hread others).symm.trans h')
      exact absurd (((hread members).trans hms).symm.trans h) (Option.some_ne_none ms)
  | some ms =>
    -- the same members are read, in another order, and putting them in order undoes it
    obtain ⟨ms', hms', hsame⟩ := mapM_perm hperm ((hread members).symm.trans h)
    have hkeys : (ms.map (·.1)).Nodup := keys_of_jsonMembers? h ▸ hnames
    rw [(hread others).trans hms', Option.map_some, Option.map_some,
      Keyed.ascending_eq_of_perm hsame.symm hkeys]

-- The induction is on the record.  Values are compared one by one, and then the members as a whole.
mutual
/-- **A value of any shape is the same in all orders of its members.** -/
theorem json?_of_rearranged : ∀ {r r' : Record}, Rearranged r r' → r.DistinctNames →
    json? r' = json? r
  | .leaf l, _, h, _ => by
    cases h
    rfl
  | .unusable, _, h, _ => by
    cases h
    rfl
  | .list items, _, h, hd => by
    cases h with
    | list hitems =>
      cases hd with
      | list hd => rw [json?, json?, jsons?_of_rearranged hitems hd]
  | .sequence tag items, _, h, hd => by
    cases h with
    | sequence hitems =>
      cases hd with
      | sequence hd => rw [json?, json?, jsons?_of_rearranged hitems hd]
  | .fields tag members, _, h, hd => by
    cases h with
    | fields hkeys hvalues hperm =>
      cases hd with
      | fields hnames hd =>
        have hothers := jsonMembers?_perm hperm (names_of_keys hkeys ▸ hnames)
        rw [jsonMembers?_of_rearranged hkeys hvalues hd] at hothers
        have hobjects := congrArg (Option.map Json.object) hothers
        rw [Option.map_map, Option.map_map] at hobjects
        rw [json?, json?]
        exact if_congr Iff.rfl rfl hobjects
/-- Items are read the same, for they keep their order. -/
theorem jsons?_of_rearranged : ∀ {items others : List Record},
    List.Forall₂ Rearranged items others → (∀ r ∈ items, r.DistinctNames) →
    jsons? others = jsons? items
  | [], _, h, _ => by
    cases h
    rfl
  | r :: rest, _, h, hd => by
    cases h with
    | cons hfirst hrest =>
      obtain ⟨hr, hd⟩ := List.forall_mem_cons.mp hd
      rw [jsons?, jsons?, json?_of_rearranged hfirst hr, jsons?_of_rearranged hrest hd]
/-- Members that have not changed places yet are read the same one by one. -/
theorem jsonMembers?_of_rearranged : ∀ {members others : List (Record × Record)},
    List.Forall₂ Rearranged (members.map (·.1)) (others.map (·.1)) →
    List.Forall₂ Rearranged (members.map (·.2)) (others.map (·.2)) →
    (∀ r ∈ members.map (·.2), r.DistinctNames) → jsonMembers? others = jsonMembers? members
  | [], others, hkeys, _, _ => by
    rw [List.map_eq_nil_iff.mp (List.forall₂_nil_left_iff.mp hkeys)]
  | (k, v) :: rest, [], hkeys, _, _ => by cases hkeys
  | (k, v) :: rest, (k', v') :: others, hkeys, hvalues, hd => by
    obtain ⟨hkey, hkeys⟩ := List.forall₂_cons.mp hkeys
    obtain ⟨hvalue, hvalues⟩ := List.forall₂_cons.mp hvalues
    obtain ⟨hv, hd⟩ := List.forall_mem_cons.mp hd
    rw [jsonMembers?, jsonMembers?, hkey.text?_eq, json?_of_rearranged hvalue hv,
      jsonMembers?_of_rearranged hkeys hvalues hd]
end

/-! ## Depth

  A reader counts levels down, and is asked with more levels than the record has.  Every item
  and every value inside has fewer. -/

/-- An item is no deeper than all items together. -/
theorem depth_le_depths {r : Record} {items : List Record} (h : r ∈ items) :
    r.depth ≤ depths items := by
  induction items with
  | nil => cases h
  | cons first items ih =>
    rw [depths]
    rcases List.mem_cons.mp h with rfl | h
    · exact Nat.le_max_left _ _
    · exact Nat.le_trans (ih h) (Nat.le_max_right _ _)

/-- Nor is a value deeper than all members. -/
theorem depth_le_memberDepths {r : Record} {members : List (Record × Record)}
    (h : r ∈ members.map (·.2)) : r.depth ≤ memberDepths members := by
  induction members with
  | nil => cases h
  | cons m members ih =>
    obtain ⟨k, v⟩ := m
    rw [memberDepths]
    rcases List.mem_cons.mp h with rfl | h
    · exact Nat.le_trans (Nat.le_max_right _ _) (Nat.le_max_left _ _)
    · exact Nat.le_trans (ih h) (Nat.le_max_right _ _)

/-! ## Questions

  The answers are the same if what is asked looks at leaves, at items in turn, or at members by
  their names; one lemma for each. -/

/-- A record and a rearrangement of it, each of less than a certain depth. -/
structure Inside (n m : Nat) (r r' : Record) : Prop where
  rearranged : Rearranged r r'
  distinct : r.DistinctNames
  depth_lt : r.depth < n
  depth_lt' : r'.depth < m

/-- Two questions with the same answer for a record and a rearrangement of it. -/
def Alike {α : Type} (n m : Nat) (f g : Record → α) : Prop :=
  ∀ ⦃r r' : Record⦄, Inside n m r r' → g r' = f r

variable {n m : Nat}

/-- A record has some depth, so that there is a level to read. -/
theorem Inside.pos {r r' : Record} (h : Inside n m r r') : ∃ k l, n = k + 1 ∧ m = l + 1 :=
  ⟨n - 1, m - 1, by have := h.depth_lt; omega, by have := h.depth_lt'; omega⟩

/-- A bound may be larger than it needs to be. -/
theorem Inside.succ {r r' : Record} (h : Inside n m r r') : Inside (n + 1) (m + 1) r r' :=
  ⟨h.rearranged, h.distinct, Nat.lt_succ_of_lt h.depth_lt, Nat.lt_succ_of_lt h.depth_lt'⟩

/-- Records that are related one by one, with bounds for each of them. -/
theorem inside_of_rearranged {items others : List Record}
    (h : List.Forall₂ Rearranged items others) (hd : ∀ r ∈ items, r.DistinctNames)
    (hn : ∀ r ∈ items, r.depth < n) (hm : ∀ r ∈ others, r.depth < m) :
    List.Forall₂ (Inside n m) items others := by
  induction h with
  | nil => exact .nil
  | cons hfirst _ ih =>
    obtain ⟨hr, hd⟩ := List.forall_mem_cons.mp hd
    obtain ⟨hrn, hn⟩ := List.forall_mem_cons.mp hn
    obtain ⟨hrm, hm⟩ := List.forall_mem_cons.mp hm
    exact .cons ⟨hfirst, hr, hrn, hrm⟩ (ih hd hn hm)

/-- Items of a record are less deep than it. -/
theorem inside_of_items {items others : List Record} (h : List.Forall₂ Rearranged items others)
    (hd : ∀ r ∈ items, r.DistinctNames) (hn : depths items < n) (hm : depths others < m) :
    List.Forall₂ (Inside n m) items others :=
  inside_of_rearranged h hd (fun _ hr => Nat.lt_of_le_of_lt (depth_le_depths hr) hn)
    fun _ hr => Nat.lt_of_le_of_lt (depth_le_depths hr) hm

/-- Nothing is inside a leaf. -/
theorem eq_nil_of_items? {l : Leaf} {items : List Record} (h : (leaf l).items? = some items) :
    items = [] := by
  cases l with
  | scalar s =>
    rw [items?] at h
    split at h
    · exact (Option.some.inj h).symm
    · cases h
  | _ => cases h

/-- A leaf that counts as an object has no members. -/
theorem eq_nil_of_entries? {l : Leaf} {members : List (Record × Record)}
    (h : (leaf l).entries? = some members) : members = [] := by
  cases l with
  | scalar s =>
    rw [entries?] at h
    split at h
    · exact (Option.some.inj h).symm
    · cases h
  | _ => cases h

/-- The items of a list keep their order. -/
theorem items?_alike {r r' : Record} (h : Inside n m r r') :
    Option.Rel (List.Forall₂ (Inside n m)) r.items? r'.items? := by
  obtain ⟨hrearranged, hd, hn, hm⟩ := h
  cases hrearranged with
  | leaf l =>
    cases hitems : (leaf l).items? with
    | none => exact .none
    | some items => exact .some (eq_nil_of_items? hitems ▸ .nil)
  | list h =>
    cases hd with
    | list hd =>
      rw [depth] at hn hm
      exact .some (inside_of_items h hd (Nat.lt_of_succ_lt hn) (Nat.lt_of_succ_lt hm))
  | sequence h =>
    cases hd with
    | sequence hd =>
      rw [depth] at hn hm
      exact .some (inside_of_items h hd (Nat.lt_of_succ_lt hn) (Nat.lt_of_succ_lt hm))
  | unusable | fields => exact .none

section Alike

variable {α : Type} {f g : Record → Option α}

theorem text?_alike : Alike n m text? text? := fun _ _ h => h.rearranged.text?_eq

theorem bool?_alike : Alike n m bool? bool? := by
  intro r r' h
  cases h.rearranged <;> rfl

theorem json?_alike : Alike n m json? json? := fun _ _ h =>
  json?_of_rearranged h.rearranged h.distinct

/-- The question may be left open: whether it is can be told from a leaf. -/
theorem optional?_alike (hf : Alike n m f g) : Alike n m (optional? f) (optional? g) := by
  intro r r' h
  have hread : g r' = f r := hf h
  cases h.rearranged with
  | leaf l => unfold optional?; rw [hread]
  | unusable | list | sequence | fields => exact congrArg (·.map some) hread

/-- Each item of a list is asked on its own. -/
theorem items_alike (hf : Alike n m f g) :
    Alike n m (fun r => do (← r.items?).mapM f) (fun r => do (← r.items?).mapM g) := by
  intro r r' h
  rcases rel_cases (items?_alike h) with ⟨hr, hr'⟩ | ⟨items, others, hr, hr', hitems⟩
  · simp only [hr, hr']
    rfl
  · simp only [hr, hr']
    exact mapM_congr_forall₂ (hitems.imp fun _ _ hitem => hf hitem)

theorem texts?_alike : Alike n m texts? texts? := items_alike text?_alike

end Alike

/-! ## Fields

  A slot is filled once, since no name stands twice.  So the slots do not remember in which
  order they were filled. -/

/-- A key whose slot is free fills it. -/
theorem fill?_slots {ns : List String} (hns : ns.Nodup) {g : String → Option Record} {key : String}
    (hfree : g key = none) (value : Record) :
    fill? false key value (ns.map fun n => ([n], g n)) =
      some (ns.map fun n => ([n], if key = n then some value else g n)) := by
  induction ns with
  | nil => rfl
  | cons n ns ih =>
    obtain ⟨hn, hns⟩ := List.nodup_cons.mp hns
    rw [List.map_cons, List.map_cons, fill?.eq_def]
    dsimp only
    by_cases hkey : key = n
    · subst hkey
      have hrest : (ns.map fun n => ([n], if key = n then some value else g n)) =
          ns.map fun n => ([n], g n) :=
        List.map_congr_left fun n hmem => by rw [if_neg fun heq : key = n => hn (heq ▸ hmem)]
      rw [if_pos (by simp), hfree, if_pos rfl, hrest]
    · rw [if_neg (by simpa using hkey), ih hns, if_neg hkey, Option.map_some]

/-- Members fill the slots of their names, if no slot is filled twice.  What the slots hold already
    is `g`. -/
theorem foldlM_fill? {ns : List String} (hns : ns.Nodup) {members : List (Record × Record)}
    (hnames : (names members).Nodup) {g : String → Option Record}
    (hfree : ∀ n ∈ names members, g n = none) :
    members.foldlM (fun slots m => do fill? false (← m.1.text?) m.2 slots)
        (ns.map fun n => ([n], g n)) =
      if members.all fun m => m.1.text?.isSome then
        some (ns.map fun n => ([n], (g n).or (Keyed.find? n (named members))))
      else none := by
  induction members generalizing g with
  | nil => simp [named, Keyed.find?]
  | cons m members ih =>
    obtain ⟨k, v⟩ := m
    rw [List.foldlM_cons, List.all_cons]
    cases hname : k.text? with
    | none => rfl
    | some name =>
      rw [names, named_cons_some hname, List.map_cons] at hnames hfree
      obtain ⟨hnew, hnames⟩ := List.nodup_cons.mp hnames
      obtain ⟨hslot, hfree⟩ := List.forall_mem_cons.mp hfree
      -- the other members want other slots, which this one has not filled
      have hfree' : ∀ n ∈ names members, (if name = n then some v else g n) = none := by
        intro n hn
        rw [if_neg fun heq : name = n => hnew (heq ▸ hn), hfree n hn]
      have hfound : ∀ n, (if name = n then some v else g n).or (Keyed.find? n (named members)) =
          (g n).or (Keyed.find? n ((name, v) :: named members)) := by
        intro n
        rw [Keyed.find?]
        by_cases heq : name = n
        · subst heq
          rw [if_pos rfl, if_pos rfl, hslot]
          rfl
        · rw [if_neg heq, if_neg heq]
      show (fill? false name v _).bind _ = _
      rw [fill?_slots hns hslot, Option.bind_some, ih hnames hfree', named_cons_some hname]
      simp only [hfound, Option.isSome_some, Bool.true_and]

/-- **Values of named fields are looked up by name**, where no name stands twice. -/
theorem slots?_eq {ns : List String} (hns : ns.Nodup) {members : List (Record × Record)}
    (hnames : (names members).Nodup) :
    slots? false (ns.map fun n => [n]) members =
      if members.all fun m => m.1.text?.isSome then
        some (ns.map fun n => Keyed.find? n (named members))
      else none := by
  have hfilled := foldlM_fill? (g := fun _ => none) hns hnames fun _ _ => rfl
  rw [slots?, List.map_map]
  show Option.bind (members.foldlM _ (ns.map fun n => ([n], none))) _ = _
  rw [hfilled]
  split
  · simp [Function.comp_def]
  · rfl

section Fields

variable {R : Record → Record → Prop}

/-- Slots that are filled by name hold related values, whatever the order of members. -/
theorem slots?_alike {ns : List String} (hns : ns.Nodup)
    {members others reordered : List (Record × Record)} (hnames : (names members).Nodup)
    (hkeys : List.Forall₂ Rearranged (members.map (·.1)) (others.map (·.1)))
    (hvalues : List.Forall₂ R (members.map (·.2)) (others.map (·.2)))
    (hperm : others.Perm reordered) :
    Option.Rel (List.Forall₂ (Option.Rel R)) (slots? false (ns.map fun n => [n]) members)
      (slots? false (ns.map fun n => [n]) reordered) := by
  have hnames' : (names others).Nodup := names_of_keys hkeys ▸ hnames
  have hreordered : (names reordered).Nodup :=
    ((named_perm hperm).map Prod.fst).nodup_iff.mp hnames'
  rw [slots?_eq hns hnames, slots?_eq hns hreordered, ← hperm.all_eq, all_text?_of_keys hkeys]
  split
  · refine .some (List.forall₂_map_left_iff.mpr (List.forall₂_map_right_iff.mpr
      (List.forall₂_same.mpr fun n _ => ?_)))
    -- a name is found wherever it stands, for it stands only once
    rw [← Keyed.find?_perm (named_perm hperm) hnames']
    exact find?_of_keys hkeys hvalues n
  · exact .none

/-- Values by position keep their places. -/
theorem align_alike {items others : List Record} (h : List.Forall₂ R items others)
    (ns : List (List String)) :
    Option.Rel (List.Forall₂ (Option.Rel R)) (align ns items) (align ns others) := by
  induction ns generalizing items others with
  | nil =>
    cases h with
    | nil => exact .some .nil
    | cons => exact .none
  | cons n ns ih =>
    cases h with
    | nil =>
      rw [align]
      rcases rel_cases (ih .nil) with ⟨hr, -⟩ | ⟨slots, others, hr, hr', hslots⟩
      · rw [hr]
        exact .none
      · rw [hr]
        exact .some (.cons .none (Option.some.inj (hr.symm.trans hr') ▸ hslots))
    | cons hfirst hrest =>
      rw [align, align]
      rcases rel_cases (ih hrest) with ⟨hr, hr'⟩ | ⟨slots, others, hr, hr', hslots⟩
      · rw [hr, hr']
        exact .none
      · rw [hr, hr']
        exact .some (.cons (.some hfirst) hslots)

end Fields

/-- **The fields of rearrangements are rearrangements**, of less depth. -/
theorem fields?_alike {ns : List String} (hns : ns.Nodup) {r r' : Record}
    (h : Inside (n + 1) (m + 1) r r') :
    Option.Rel (List.Forall₂ (Option.Rel (Inside n m)))
      (fields? false (ns.map fun n => [n]) r) (fields? false (ns.map fun n => [n]) r') := by
  obtain ⟨hrearranged, hd, hn, hm⟩ := h
  cases hrearranged with
  | leaf l =>
    show Option.Rel _ ((leaf l).entries?.bind (slots? false _))
      ((leaf l).entries?.bind (slots? false _))
    cases hentries : (leaf l).entries? with
    | none => exact .none
    | some members =>
      obtain rfl := eq_nil_of_entries? hentries
      exact slots?_alike hns .nil .nil .nil (.refl [])
  | unusable | sequence => exact .none
  | list h =>
    cases hd with
    | list hd =>
      rw [depth] at hn hm
      exact align_alike (inside_of_items h hd (Nat.lt_of_succ_lt_succ hn)
        (Nat.lt_of_succ_lt_succ hm)) _
  | @fields tag members others reordered hkeys hvalues hperm =>
    cases hd with
    | fields hnames hd =>
      rw [depth] at hn hm
      have hmembers : ∀ r ∈ members.map (·.2), r.depth < n := fun r hr =>
        Nat.lt_of_le_of_lt (depth_le_memberDepths hr) (Nat.lt_of_succ_lt_succ hn)
      have hothers : ∀ r ∈ others.map (·.2), r.depth < m := fun r hr =>
        Nat.lt_of_le_of_lt (depth_le_memberDepths ((hperm.map Prod.snd).mem_iff.mp hr))
          (Nat.lt_of_succ_lt_succ hm)
      exact slots?_alike hns hnames hkeys (inside_of_rearranged hvalues hd hmembers hothers) hperm

end Record

end ExerciseGrading
