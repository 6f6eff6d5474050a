/-
  QUESTIONS TO RECORDS: what is written is read again.

  A record is asked for a field, for a list of some things or for a whole value, and each question
  may have no answer.  What has been written answers all of them; what is read, from any record, is
  as good as written.

  1. `mapM_eq_some_iff` — a list is read item by item.
  2. `fields?_one`, `optional?_of_read`, `orElse_cases` — a field is what is written, what it may
     leave open, or its default.
  3. `Json.Canonical` — the members of every object stand in ascending order of their keys, each key
     once.  Reading puts them into that order, so that only such values can come back unchanged.
  4. `canonical_of_json?` — a value that is read from any record is canonical.
  5. `json?_ofJson` — a canonical value is read as it was written.  Both inductions follow the three
     mutual functions, for values, items and members.
-/
import ExerciseGrading.Record
import Mathlib.Data.List.Forall2

namespace ExerciseGrading

/-! ## Lists

  Both directions are needed below: from the items to the list where something written is read,
  and from the list to its items where something that was read is asked about. -/

/-- A list is read if all of its items are. -/
theorem mapM_eq_some_iff {α β : Type} {f : α → Option β} {l : List α} {l' : List β} :
    l.mapM f = some l' ↔ List.Forall₂ (fun a b => f a = some b) l l' := by
  induction l generalizing l' with
  | nil => simp [eq_comm]
  | cons a l ih =>
    rw [List.mapM_cons, List.forall₂_cons_left_iff]
    constructor
    · intro h
      obtain ⟨b, hb, h⟩ := Option.bind_eq_some_iff.mp h
      obtain ⟨bs, hbs, h⟩ := Option.bind_eq_some_iff.mp h
      exact ⟨b, bs, hb, ih.mp hbs, (Option.some.inj h).symm⟩
    · rintro ⟨b, bs, hb, hbs, rfl⟩
      rw [hb, ih.mpr hbs]
      rfl

/-- What is written item by item is read again. -/
theorem mapM_map_eq_some {α β : Type} {read : α → Option β} {write : β → α} {l : List β}
    (h : ∀ b ∈ l, read (write b) = some b) : (l.map write).mapM read = some l := by
  rw [mapM_eq_some_iff, List.forall₂_map_left_iff, List.forall₂_same]
  exact h

/-- Of two lists that go together, each item of the second goes with one of the first. -/
theorem exists_of_forall₂ {α β : Type} {R : α → β → Prop} {l : List α} {l' : List β} {b : β}
    (h : List.Forall₂ R l l') (hb : b ∈ l') : ∃ a ∈ l, R a b := by
  induction h with
  | nil => cases hb
  | cons hfirst _ ih =>
    rcases List.mem_cons.mp hb with rfl | hb
    · exact ⟨_, List.mem_cons_self, hfirst⟩
    · obtain ⟨a, ha, hrelated⟩ := ih hb
      exact ⟨a, List.mem_cons_of_mem _ ha, hrelated⟩

/-- What is in the list that was read, was read. -/
theorem exists_of_mem_mapM {α β : Type} {f : α → Option β} {l : List α} {l' : List β} {b : β}
    (h : l.mapM f = some l') (hb : b ∈ l') : ∃ a ∈ l, f a = some b :=
  exists_of_forall₂ (R := fun a b => f a = some b) (mapM_eq_some_iff.mp h) hb

/-! ## Canonical values -/

/-- Members of objects are in ascending order, at every depth. -/
inductive Json.Canonical : Json → Prop
  | null : Canonical .null
  | bool (b : Bool) : Canonical (.bool b)
  | number (n : Numeral) : Canonical (.number n)
  | string (s : String) : Canonical (.string s)
  | array {items : List Json} (h : ∀ v ∈ items, Canonical v) : Canonical (.array items)
  | object {members : List (String × Json)} (hsorted : Keyed.Sorted members)
      (h : ∀ m ∈ members, Canonical m.2) : Canonical (.object members)

namespace Record

/-! ## Fields

  A field that is missing, a field that says nothing and a field with a value are three cases of
  a slot.  The lemmas say what each question makes of them. -/

/-- A record with one field fills the slot of that field, if there is one. -/
theorem fields?_one (closed : Bool) (names : List (List String)) (key : String) (r : Record) :
    fields? closed names (.fields none [(.ofText key, r)]) =
      (fill? closed key r (names.map fun n => (n, none))).map fun slots =>
        slots.map (·.2) := by
  show (fill? closed key r (names.map fun n => (n, none)) >>= pure) >>= _ = _
  rw [bind_pure]
  cases fill? closed key r (names.map fun n => (n, none)) <;> rfl

/-- A record without fields leaves all slots empty. -/
theorem fields?_nothing (closed : Bool) (names : List (List String)) :
    fields? closed names (.fields none []) = some (names.map fun _ => none) := by
  show some ((names.map fun n => (n, none)).map (·.2)) = _
  rw [List.map_map]
  rfl

/-- Only a leaf may say that there is nothing. -/
theorem optional?_of_read {α : Type} {f : Record → Option α} {r : Record} {a : α}
    (hleaf : ∀ l, r ≠ .leaf l) (hread : f r = some a) : r.optional? f = some (some a) := by
  have hoptional : r.optional? f = (f r).map some := by
    cases r with
    | leaf l => exact absurd rfl (hleaf l)
    | _ => rfl
  rw [hoptional, hread]
  rfl

/-- What is read in an open field is read in the record itself. -/
theorem read_of_optional? {α : Type} {f : Record → Option α} {r : Record} {a : α}
    (h : r.optional? f = some (some a)) : f r = some a := by
  unfold optional? at h
  split at h
  · cases h
  · split at h
    · cases h
    · simpa using h
    · cases h
  · simpa using h

/-- A field that may be missing has its default, or what is written. -/
theorem orElse_cases {α : Type} {default a : α} {read : Record → Option α}
    {slot : Option Record} (h : orElse default read slot = some a) :
    a = default ∨ ∃ r, read r = some a := by
  cases slot with
  | none => exact .inl (Option.some.inj h).symm
  | some r => exact .inr ⟨r, h⟩

/-- A number that is read between bounds lies between them. -/
theorem whole?_bounds {lo hi n : Int} {r : Record} (h : r.whole? lo hi = some n) :
    lo ≤ n ∧ n ≤ hi := by
  obtain ⟨-, hbounds⟩ := Option.filter_eq_some_iff.mp h
  simpa using hbounds

/-! ## Values -/

/-- Items are written one by one. -/
theorem ofJsons_eq_map (items : List Json) : ofJsons items = items.map ofJson := by
  induction items with
  | nil => rw [ofJsons, List.map_nil]
  | cons v items ih => rw [ofJsons, List.map_cons, ih]

/-- So are members, each under its key. -/
theorem ofMembers_eq_map (members : List (String × Json)) :
    ofMembers members = members.map fun m => (ofText m.1, ofJson m.2) := by
  induction members with
  | nil => rw [ofMembers, List.map_nil]
  | cons m members ih => rw [ofMembers, List.map_cons, ih]

/-- Texts in a list come back. -/
theorem texts?_ofJson (texts : List String) :
    texts? (ofJson (.array (texts.map .string))) = some texts := by
  rw [ofJson, ofJsons_eq_map, List.map_map]
  exact mapM_map_eq_some fun s _ => by rw [Function.comp_apply, ofJson]; rfl

mutual
/-- **A canonical value is read as it was written.** -/
theorem json?_ofJson : ∀ v : Json, v.Canonical → json? (ofJson v) = some v
  | .null, _ | .bool _, _ | .number _, _ | .string _, _ => by simp only [ofJson, json?]
  | .array items, h => by
    cases h with
    | array hitems => rw [ofJson, json?, jsons?_ofJsons items hitems, Option.map_some]
  | .object members, h => by
    cases h with
    | object hsorted hmembers =>
      rw [ofJson, json?, jsonMembers?_ofMembers members hmembers, Option.map_some,
        Keyed.ascending_of_sorted hsorted]
      rfl
/-- Canonical items are read as they were written. -/
theorem jsons?_ofJsons : ∀ items : List Json, (∀ v ∈ items, v.Canonical) →
    jsons? (ofJsons items) = some items
  | [], _ => by rw [ofJsons, jsons?]
  | v :: rest, h => by
    rw [ofJsons, jsons?, json?_ofJson v (h v List.mem_cons_self),
      jsons?_ofJsons rest fun w hw => h w (List.mem_cons_of_mem v hw)]
    rfl
/-- Members come back in the order in which they stand, whatever it is. -/
theorem jsonMembers?_ofMembers : ∀ members : List (String × Json), (∀ m ∈ members, m.2.Canonical) →
    jsonMembers? (ofMembers members) = some members
  | [], _ => by rw [ofMembers, jsonMembers?]
  | (k, v) :: rest, h => by
    rw [ofMembers, jsonMembers?, json?_ofJson v (h (k, v) List.mem_cons_self),
      jsonMembers?_ofMembers rest fun m hm => h m (List.mem_cons_of_mem (k, v) hm)]
    rfl
end

/-- A scalar is no list and no object. -/
theorem canonical_of_scalar {s : Scalar} {v : Json} (h : json? (.leaf (.scalar s)) = some v) :
    v.Canonical := by
  rw [json?] at h
  split at h
  · cases h
  · split at h <;> cases h
    · exact .null
    · exact .bool _
    · split
      · exact .number _
      · exact .null
    · exact .number _
    · exact .string _

mutual
/-- **A value that is read is canonical**, whatever the record. -/
theorem canonical_of_json? : ∀ (r : Record) {v : Json}, json? r = some v → v.Canonical
  | .leaf .null, v, h => by
    rw [json?] at h
    cases h
    exact .null
  | .leaf (.bool b), v, h => by
    rw [json?] at h
    cases h
    exact .bool b
  | .leaf (.number n), v, h => by
    rw [json?] at h
    cases h
    exact .number n
  | .leaf (.text s), v, h => by
    rw [json?] at h
    cases h
    exact .string s
  | .leaf (.scalar s), v, h => canonical_of_scalar h
  | .list items, v, h => by
    rw [json?] at h
    obtain ⟨vs, hvs, rfl⟩ := Option.map_eq_some_iff.mp h
    exact .array (canonical_of_jsons? items hvs)
  | .sequence tag items, v, h => by
    rw [json?] at h
    split at h
    · cases h
    · obtain ⟨vs, hvs, rfl⟩ := Option.map_eq_some_iff.mp h
      exact .array (canonical_of_jsons? items hvs)
  | .fields tag members, v, h => by
    rw [json?] at h
    split at h
    · cases h
    · obtain ⟨ms, hms, rfl⟩ := Option.map_eq_some_iff.mp h
      -- whatever order they were written in, they are put in order
      exact .object (Keyed.sorted_ascending ms) fun m hm =>
        canonical_of_jsonMembers? members hms m (Keyed.mem_of_mem_ascending hm)
  | .unusable, v, h => by
    rw [json?] at h
    cases h
/-- Items that are read are canonical. -/
theorem canonical_of_jsons? : ∀ (items : List Record) {vs : List Json}, jsons? items = some vs →
    ∀ v ∈ vs, v.Canonical
  | [], vs, h => by
    rw [jsons?] at h
    cases h
    exact fun v hv => absurd hv List.not_mem_nil
  | r :: rest, vs, h => by
    rw [jsons?] at h
    obtain ⟨w, hw, h⟩ := Option.bind_eq_some_iff.mp h
    obtain ⟨ws, hws, h⟩ := Option.bind_eq_some_iff.mp h
    obtain rfl := Option.some.inj h
    exact List.forall_mem_cons.mpr ⟨canonical_of_json? r hw, canonical_of_jsons? rest hws⟩
/-- So are the values of members; their order is not asked for yet. -/
theorem canonical_of_jsonMembers? :
    ∀ (members : List (Record × Record)) {ms : List (String × Json)},
      jsonMembers? members = some ms → ∀ m ∈ ms, m.2.Canonical
  | [], ms, h => by
    rw [jsonMembers?] at h
    cases h
    exact fun m hm => absurd hm List.not_mem_nil
  | (k, r) :: rest, ms, h => by
    rw [jsonMembers?] at h
    obtain ⟨key, hkey, h⟩ := Option.bind_eq_some_iff.mp h
    obtain ⟨w, hw, h⟩ := Option.bind_eq_some_iff.mp h
    obtain ⟨ws, hws, h⟩ := Option.bind_eq_some_iff.mp h
    obtain rfl := Option.some.inj h
    exact List.forall_mem_cons.mpr ⟨canonical_of_json? r hw, canonical_of_jsonMembers? rest hws⟩
end

end Record

end ExerciseGrading
