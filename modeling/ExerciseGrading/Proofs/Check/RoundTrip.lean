/-
  CHECKS IN RECORDS: what is written is read again.

  A check is written as a record with one field, or with none if it always holds; a record that is
  read may have any fields in any order.  So the reader does far more than the writer needs, and the
  proof has to find the one field again among all slots.

  1. `readLevel_field`, `readLevel_empty` — what a record with one field means, and one with none.
     From here on the table of readers is not opened any more.
  2. `Check.Canonical` — every value that a check compares with is canonical: the members of its
     objects stand in order, at every depth.
  3. **The crux (`read_toJson`)** — a canonical check is read as it was written, whatever its
     depth.  Reading counts levels, and a check inside is read with one level less; the induction
     carries that there are enough of them.
  4. `canonical_of_read` — a check that is read is canonical, whatever the record.  So what was read
     once can be written and read again without end.
-/
import ExerciseGrading.Check.Record
import ExerciseGrading.Proofs.Record.RoundTrip

namespace ExerciseGrading

namespace Check

open Record (ofJson ofJsons ofMembers)

/-! ## Records with one field

  A reader fills its slots by name and reads them one after the other.  With one field one slot
  is filled, and since the names are all different it is the slot of that field. -/

variable {inner : Record → Option Check}

/-- Slots with nothing in them add nothing. -/
theorem readSlots_none (readers : List (String × FieldReader)) :
    readSlots (readers.map (·.2)) (readers.map fun _ => none) = some [] := by
  induction readers with
  | nil => rfl
  | cons f readers ih => exact ih

/-- Among readers with keys of their own, the one with the key reads. -/
theorem readSlots_fill? {readers : List (String × FieldReader)} {key : String}
    {reader : FieldReader} (hkeys : (readers.map (·.1)).Nodup) (hmem : (key, reader) ∈ readers)
    (r : Record) :
    ((Record.fill? false key r (readers.map fun f => ([f.1], none))).bind fun slots =>
      readSlots (readers.map (·.2)) (slots.map (·.2))) = reader r := by
  induction readers with
  | nil => cases hmem
  | cons f readers ih =>
    obtain ⟨k, g⟩ := f
    obtain ⟨hk, hkeys⟩ := List.nodup_cons.mp hkeys
    rcases List.mem_cons.mp hmem with heq | hmem
    · -- its slot is the first one; nothing is in those behind it
      cases heq
      have hfill :
          Record.fill? false key r (((key, reader) :: readers).map fun f => ([f.1], none)) =
            some (([key], some r) :: readers.map fun f => ([f.1], none)) := by
        simp [Record.fill?]
      rw [hfill, Option.bind_some]
      simp only [List.map_cons, List.map_map, Function.comp_def, readSlots, readSlots_none]
      cases reader r with
      | none => rfl
      | some checks => exact congrArg some (List.append_nil checks)
    · -- the key passes the first slot, which stays empty
      have hne : key ≠ k := fun heq => hk (List.mem_map.mpr ⟨(key, reader), hmem, heq⟩)
      rw [← ih hkeys hmem]
      simp only [List.map_cons, Record.fill?]
      rw [if_neg (by simpa using hne)]
      cases Record.fill? false key r (readers.map fun f => ([f.1], none)) with
      | none => rfl
      | some slots => rfl

/-- No two readers of the table have the same key. -/
theorem keys_fieldReaders : ((fieldReaders inner).map (·.1)).Nodup := by
  simp [fieldReaders]

/-- A record with one field is the check of that field. -/
theorem readLevel_field {key : String} {reader : FieldReader}
    (hmem : (key, reader) ∈ fieldReaders inner) (r : Record) :
    readLevel inner (.fields none [(.ofText key, r)]) = (reader r).map together := by
  rw [readLevel, Record.fields?_one, List.map_map, ← readSlots_fill? keys_fieldReaders hmem r]
  show (((Record.fill? false key r ((fieldReaders inner).map fun f => ([f.1], none))).map
    fun slots => slots.map (·.2)).bind fun slots =>
      (readSlots ((fieldReaders inner).map (·.2)) slots).bind fun checks =>
        some (together checks)) = _
  cases Record.fill? false key r ((fieldReaders inner).map fun f => ([f.1], none)) with
  | none => rfl
  | some slots =>
    rw [Option.map_some, Option.bind_some, Option.bind_some, Option.map_eq_bind]
    rfl

/-- A record without fields always holds. -/
theorem readLevel_empty : readLevel inner (.fields none []) = some (.all []) := by
  rw [readLevel, Record.fields?_nothing, List.map_map]
  show (readSlots ((fieldReaders inner).map (·.2)) ((fieldReaders inner).map fun _ => none)).bind
    (fun checks => some (together checks)) = _
  rw [readSlots_none]
  rfl

/-! ## Canonical checks

  Values are compared as they were read, and reading puts members in order.  A check with others
  inside has their values, so that the requirement goes down the tree without another recursion. -/

mutual
/-- The values that a check compares with. -/
def values : Check → List Json
  | .equals _ value => [value]
  | .all checks | .any checks => valuesOf checks
  | .not check => values check
  | .contains _ | .lacks _ | .pattern _ | .noPattern _ | .isDocument | .hasPath _ | .lacksPath _
  | .isList _ | .itemsHave .. | .snippet _ => []
def valuesOf : List Check → List Json
  | [] => []
  | c :: rest => values c ++ valuesOf rest
end

/-- A value of some checks is a value of one of them. -/
theorem mem_valuesOf {v : Json} {checks : List Check} :
    v ∈ valuesOf checks ↔ ∃ c ∈ checks, v ∈ c.values := by
  induction checks with
  | nil => simp [valuesOf]
  | cons c checks ih => simp [valuesOf, ih]

/-- Every value that a check compares with is canonical. -/
def Canonical (c : Check) : Prop := ∀ v ∈ c.values, v.Canonical

/-- A check that compares with nothing is canonical. -/
theorem canonical_of_no_values {c : Check} (h : c.values = []) : c.Canonical :=
  fun _ hv => absurd (h ▸ hv) List.not_mem_nil

/-- A check with others inside is canonical if those are. -/
theorem canonical_of_values_eq {c : Check} {checks : List Check}
    (hvalues : c.values = valuesOf checks) : c.Canonical ↔ ∀ d ∈ checks, d.Canonical := by
  constructor
  · intro h d hd v hv
    exact h v (hvalues ▸ mem_valuesOf.mpr ⟨d, hd, hv⟩)
  · intro h v hv
    obtain ⟨d, hd, hv⟩ := mem_valuesOf.mp (hvalues ▸ hv)
    exact h d hd v hv

/-! ## Reading what was written

  The levels that are left are more than the check is deep, and each record takes one. -/

/-- A check is written as fields, so that it is never taken for nothing. -/
theorem ofJson_toJson_ne_leaf (c : Check) (l : Leaf) : ofJson c.toJson ≠ .leaf l := by
  cases c with
  | all checks => cases checks <;> simp [toJson, ofJson]
  | _ => simp [toJson, ofJson]

/-- A record with one field, read with one level more than what is inside. -/
theorem read_field {n : Nat} {key : String} {reader : FieldReader} {v : Json} {c : Check}
    (hmem : (key, reader) ∈ fieldReaders (read n)) (hread : reader (ofJson v) = some [c]) :
    read (n + 1) (ofJson (.object [(key, v)])) = some c := by
  rw [ofJson, ofMembers, ofMembers, read, readLevel_field hmem, hread]
  rfl

/-- A field that holds a text is read as it was written. -/
theorem read_textField {n : Nat} {key : String} {make : String → Check} {s : String}
    (hmem : (key, textField make) ∈ fieldReaders (read n)) :
    read (n + 1) (ofJson (.object [(key, .string s)])) = some (make s) :=
  read_field hmem (by rw [ofJson]; rfl)

/-- A field whose record is not taken for nothing is made what it is read as. -/
theorem field_of_read {α : Type} {f : Record → Option α} {make : α → List Check} {r : Record}
    {a : α} (hleaf : ∀ l, r ≠ .leaf l) (hread : f r = some a) : field f make r = some (make a) := by
  rw [field, Record.optional?_of_read hleaf hread]
  rfl

/-- A field adds one level. -/
theorem depth_field (key : String) (v : Json) :
    (ofJson (.object [(key, v)])).depth = (ofJson v).depth + 1 := by
  simp [ofJson, ofMembers, Record.depth, Record.memberDepths, Record.ofText]

/-- A path and a canonical value come back from their two fields. -/
theorem equals?_ofJson {path : String} {value : Json} (hvalue : value.Canonical) :
    equals? (ofJson (.object [("path", .string path), ("value", value)])) = some (path, value) := by
  have hfields : Record.fields? false [["path"], ["value"]]
      (ofJson (.object [("path", .string path), ("value", value)])) =
        some [some (ofJson (.string path)), some (ofJson value)] := by
    simp only [ofJson, ofMembers]
    rfl
  rw [equals?, hfields, Option.bind_eq_bind, Option.bind_some]
  simp only [Record.json?_ofJson value hvalue, ofJson]
  rfl

/-- A path and names come back from theirs. -/
theorem itemsHave?_ofJson (path : String) (fields : List String) :
    itemsHave? (ofJson (.object
      [("path", .string path), ("fields", .array (fields.map .string))])) =
        some (path, fields) := by
  have hfields : Record.fields? false [["path"], ["fields"]]
      (ofJson (.object [("path", .string path), ("fields", .array (fields.map .string))])) =
        some [some (ofJson (.string path)), some (ofJson (.array (fields.map .string)))] := by
    simp only [ofJson, ofMembers]
    rfl
  rw [itemsHave?, hfields, Option.bind_eq_bind, Option.bind_some]
  simp only [Record.texts?_ofJson]
  simp only [ofJson]
  rfl

/-- A field that holds checks is read as it was written, if they are. -/
theorem read_checks {n : Nat} {key : String} {make : List Check → Check} {checks : List Check}
    (hmem : ∀ inner : Record → Option Check,
      (key, field (fun r => do (← r.items?).mapM inner) fun cs => [make cs]) ∈ fieldReaders inner)
    (hdepth : (ofJson (.object [(key, .array (toJsons checks))])).depth ≤ n)
    (hread : ∀ {n : Nat}, Record.depths (ofJsons (toJsons checks)) ≤ n →
      (ofJsons (toJsons checks)).mapM (read (n + 1)) = some checks) :
    read (n + 1) (ofJson (.object [(key, .array (toJsons checks))])) = some (make checks) := by
  rw [depth_field, ofJson, Record.depth] at hdepth
  cases n with
  -- a field inside a field needs a second level
  | zero => omega
  | succ n =>
    refine read_field (hmem (read (n + 1))) (field_of_read (by simp [ofJson]) ?_)
    rw [ofJson]
    exact hread (by omega)

-- The induction is on the check.  The number of levels is free in it: each record inside has one
-- level less to be read with, and is at least one level less deep.
mutual
/-- **A canonical check is read as it was written**, with as many levels as it has. -/
theorem read_toJson : ∀ (c : Check) {n : Nat}, c.Canonical → (ofJson c.toJson).depth ≤ n →
    read (n + 1) (ofJson c.toJson) = some c
  | .contains s, n, _, _ | .lacks s, n, _, _ | .pattern s, n, _, _ | .noPattern s, n, _, _
  | .hasPath s, n, _, _ | .lacksPath s, n, _, _ | .isList s, n, _, _ | .snippet s, n, _, _ => by
    rw [toJson]
    exact read_textField (by simp [fieldReaders])
  | .isDocument, n, _, _ => by
    have hmem : ("yamlValid", field Record.bool? fun b => if b then [.isDocument] else []) ∈
        fieldReaders (read n) := by simp [fieldReaders]
    rw [toJson]
    exact read_field hmem (by rw [ofJson]; rfl)
  | .equals path value, n, hc, _ => by
    have hmem : ("yamlEquals", field equals? fun (path, value) => [.equals path value]) ∈
        fieldReaders (read n) := by simp [fieldReaders]
    have hvalue : value.Canonical := hc value (by simp [values])
    rw [toJson]
    exact read_field hmem (field_of_read (by simp [ofJson]) (equals?_ofJson hvalue))
  | .itemsHave path fields, n, _, _ => by
    have hmem : ("yamlItemsHave", field itemsHave? fun (path, fields) => [.itemsHave path fields]) ∈
        fieldReaders (read n) := by simp [fieldReaders]
    rw [toJson]
    exact read_field hmem (field_of_read (by simp [ofJson]) (itemsHave?_ofJson path fields))
  | .all [], n, _, _ => by
    rw [toJson, ofJson, ofMembers, read, readLevel_empty]
  | .all (c :: rest), n, hc, hdepth => by
    have hchecks : ∀ d ∈ c :: rest, d.Canonical := (canonical_of_values_eq (by rw [values])).mp hc
    have hwritten :
        toJson (.all (c :: rest)) = .object [("all", .array (toJsons (c :: rest)))] := by
      rw [toJson, toJsons]
    -- `all` with children is written under its name; only `all` of nothing is an empty record
    rw [hwritten] at hdepth ⊢
    exact read_checks (fun inner => by simp [fieldReaders]) hdepth
      (readAll_toJsons (c :: rest) hchecks)
  | .any checks, n, hc, hdepth => by
    have hchecks : ∀ c ∈ checks, c.Canonical := (canonical_of_values_eq (by rw [values])).mp hc
    rw [toJson] at hdepth ⊢
    exact read_checks (fun inner => by simp [fieldReaders]) hdepth (readAll_toJsons checks hchecks)
  | .not c, n, hc, hdepth => by
    rw [toJson, depth_field] at hdepth
    rw [toJson]
    cases n with
    | zero => omega
    | succ n =>
      have hread := read_toJson c (n := n) (by rwa [Canonical, values] at hc) (by omega)
      have hmem :
          ("not", field (read (n + 1)) fun c => [.not c]) ∈ fieldReaders (read (n + 1)) := by
        simp [fieldReaders]
      exact read_field hmem (field_of_read (ofJson_toJson_ne_leaf c) hread)
/-- Checks in a list are read as they were written, one by one. -/
theorem readAll_toJsons : ∀ (checks : List Check) {n : Nat}, (∀ c ∈ checks, c.Canonical) →
    Record.depths (ofJsons (toJsons checks)) ≤ n →
    (ofJsons (toJsons checks)).mapM (read (n + 1)) = some checks
  | [], n, _, _ => by
    rw [toJsons, ofJsons, List.mapM_nil]
    rfl
  | c :: rest, n, hc, hdepth => by
    rw [toJsons, ofJsons, Record.depths] at hdepth
    rw [toJsons, ofJsons, List.mapM_cons, read_toJson c (hc c List.mem_cons_self) (by omega),
      readAll_toJsons rest (fun d hd => hc d (List.mem_cons_of_mem c hd)) (by omega)]
    rfl
end

/-- A record has as many levels to be read with as it is deep. -/
theorem ofRecord?_toJson {c : Check} (hc : c.Canonical) : ofRecord? (ofJson c.toJson) = some c :=
  read_toJson c hc (Nat.le_refl _)

/-! ## What is read is canonical

  The other direction: not what a writer made, but any record.  Each reader of the table is
  asked what it adds, and the induction on the levels puts the answers together. -/

/-- Whatever a field adds is canonical. -/
def Yields (f : FieldReader) : Prop :=
  ∀ {r : Record} {checks : List Check}, f r = some checks → ∀ c ∈ checks, c.Canonical

theorem field_yields {α : Type} {f : Record → Option α} {make : α → List Check}
    (h : ∀ {r : Record} {a : α}, f r = some a → ∀ c ∈ make a, c.Canonical) :
    Yields (field f make) := by
  intro r checks hread
  obtain ⟨a?, ha, rfl⟩ := Option.map_eq_some_iff.mp hread
  cases a? with
  | none => exact fun c hc => absurd hc List.not_mem_nil
  | some a => exact h (Record.read_of_optional? ha)

/-- A field of which no check compares with a value. -/
theorem field_yields_plain {α : Type} {f : Record → Option α} {make : α → List Check}
    (h : ∀ a, ∀ c ∈ make a, c.values = []) : Yields (field f make) :=
  field_yields fun _ c hc => canonical_of_no_values (h _ c hc)

/-- A field that holds checks. -/
theorem field_yields_checks {make : List Check → Check}
    (hinner : ∀ {r : Record} {c : Check}, inner r = some c → c.Canonical)
    (hmake : ∀ checks, (make checks).values = valuesOf checks) :
    Yields (field (fun r => do (← r.items?).mapM inner) fun cs => [make cs]) := by
  refine field_yields fun {r} {checks} hread c hc => ?_
  obtain rfl := List.mem_singleton.mp hc
  obtain ⟨items, -, hitems⟩ := Option.bind_eq_some_iff.mp hread
  refine (canonical_of_values_eq (hmake checks)).mpr fun d hd => ?_
  obtain ⟨r, -, hr⟩ := exists_of_mem_mapM hitems hd
  exact hinner hr

/-- The value in a record is canonical as soon as it has been read: `json?` puts it in order. -/
theorem canonical_of_equals? {r : Record} {path : String} {value : Json}
    (h : equals? r = some (path, value)) : value.Canonical := by
  obtain ⟨slots, -, h⟩ := Option.bind_eq_some_iff.mp h
  split at h
  · obtain ⟨p, -, h⟩ := Option.bind_eq_some_iff.mp h
    obtain ⟨v, hv, h⟩ := Option.bind_eq_some_iff.mp h
    cases h
    exact Record.canonical_of_json? _ hv
  · cases h

/-- Each field adds canonical checks: one compares with a value of its own, three have further
    checks inside. -/
theorem fieldReaders_yield (hinner : ∀ {r : Record} {c : Check}, inner r = some c → c.Canonical) :
    ∀ f ∈ fieldReaders inner, Yields f.2 := by
  have htext : ∀ {make : String → Check}, (∀ s, (make s).values = []) → Yields (textField make) :=
    fun hmake => field_yields_plain fun s c hc => List.mem_singleton.mp hc ▸ hmake s
  have hvalid : Yields (field Record.bool? fun b => if b then [.isDocument] else []) := by
    refine field_yields_plain fun b c hc => ?_
    cases b with
    | false => cases hc
    | true => rw [List.mem_singleton.mp hc, values]
  have hequals : Yields (field equals? fun (path, value) => [.equals path value]) := by
    refine field_yields fun {r} {a} hread c hc => ?_
    rw [List.mem_singleton.mp hc]
    intro v hv
    rw [values, List.mem_singleton] at hv
    exact hv ▸ canonical_of_equals? hread
  have hitems : Yields (field itemsHave? fun (path, fields) => [.itemsHave path fields]) :=
    field_yields_plain fun a c hc => by rw [List.mem_singleton.mp hc, values]
  have hnot : Yields (field inner fun c => [.not c]) := by
    refine field_yields fun {r} {a} hread c hc => ?_
    rw [List.mem_singleton.mp hc, Canonical, values]
    exact hinner hread
  unfold fieldReaders
  simp only [List.forall_mem_cons]
  exact ⟨htext fun _ => by rw [values], htext fun _ => by rw [values],
    htext fun _ => by rw [values], htext fun _ => by rw [values], hvalid,
    htext fun _ => by rw [values],
    htext fun _ => by rw [values], htext fun _ => by rw [values], hequals, hitems,
    htext fun _ => by rw [values], field_yields_checks hinner fun _ => by rw [values],
    field_yields_checks hinner fun _ => by rw [values], hnot,
    fun f hf => absurd hf List.not_mem_nil⟩

/-- What the slots of a level add together is canonical if each reader keeps to that. -/
theorem readSlots_canonical {readers : List FieldReader} {slots : List (Option Record)}
    {checks : List Check} (hreaders : ∀ f ∈ readers, Yields f)
    (h : readSlots readers slots = some checks) : ∀ c ∈ checks, c.Canonical := by
  fun_induction readSlots readers slots generalizing checks with
  | case1 f fs r slots ih =>
    obtain ⟨here, hhere, h⟩ := Option.bind_eq_some_iff.mp h
    obtain ⟨behind, hbehind, h⟩ := Option.bind_eq_some_iff.mp h
    obtain rfl := Option.some.inj h
    rw [List.forall_mem_append]
    exact ⟨hreaders f List.mem_cons_self hhere,
      ih (fun g hg => hreaders g (List.mem_cons_of_mem f hg)) hbehind⟩
  | case2 f fs slots ih => exact ih (fun g hg => hreaders g (List.mem_cons_of_mem f hg)) h
  | case3 =>
    obtain rfl := Option.some.inj h
    exact fun c hc => absurd hc List.not_mem_nil

/-- Checks put together are as canonical as they are alone. -/
theorem together_canonical {checks : List Check} (h : ∀ c ∈ checks, c.Canonical) :
    (together checks).Canonical := by
  unfold together
  split
  · rename_i c
    exact h c List.mem_cons_self
  · exact (canonical_of_values_eq (by rw [values])).mpr h

/-- **A check that is read is canonical**, whatever the record. -/
theorem canonical_of_read {n : Nat} {r : Record} {c : Check} (h : read n r = some c) :
    c.Canonical := by
  -- by levels: what stands inside was read with one level less
  induction n generalizing r c with
  | zero => cases h
  | succ n ih =>
    obtain ⟨slots, -, h⟩ := Option.bind_eq_some_iff.mp h
    obtain ⟨checks, hchecks, h⟩ := Option.bind_eq_some_iff.mp h
    obtain rfl := Option.some.inj h
    refine together_canonical (readSlots_canonical ?_ hchecks)
    intro f hf
    obtain ⟨g, hg, rfl⟩ := List.mem_map.mp hf
    exact fieldReaders_yield ih g hg

/-- Whatever is read as a check is canonical. -/
theorem canonical_of_ofRecord? {r : Record} {c : Check} (h : ofRecord? r = some c) : c.Canonical :=
  canonical_of_read h

end Check

end ExerciseGrading
