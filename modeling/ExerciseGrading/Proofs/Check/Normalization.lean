/-
  NORMALIZATION of check records: what a record with any fields in any order means.

  Authors write fields in the order they like, and fill as many of them as they like.  The reader
  puts what is written into one slot for each name and goes through the slots.  So two questions
  have to be answered: that the way to the slots forgets the order, at every depth, and what a row
  of slots comes to.

  1. **Order** — `readLevel_alike`, `read_alike`: a record and a rearrangement of it are read as the
     same check, with however many levels either is read, so that a record is read as one level with
     `ofRecord?` for the records inside (`ofRecord?_eq`).
  2. **Meaning of a field** — `fieldNames`, `Means`: the names of fields in the order in which they
     count, and the check that a field is.  `Means` is said of the record in the field alone, and
     `fieldReaders_fit` ties it to the table of readers once, row by row.
  3. **Filled fields** — `populated?`: the fields that a record fills, in that order.  A field that
     says that there is nothing is not filled, nor is one that does not ask for a document.
  4. `ofRecord?_eq_some_iff` — a record is a check if each of the fields that it fills is one.  The
     induction is on the table and the slots side by side.
  5. `normalization` — everything together.
-/
import ExerciseGrading.Proofs.Check.Laws
import ExerciseGrading.Proofs.Check.RoundTrip
import ExerciseGrading.Proofs.Record.Order

namespace ExerciseGrading

namespace Check

open Record (Alike Inside)

/-! ## The order of fields

  The names of the table are distinct and their order is fixed.  It is the order in which checks
  are put together, whatever the order in the record. -/

/-- The names of fields, in the order in which they count. -/
def fieldNames : List String :=
  ["contains", "notContains", "matches", "notMatches", "yamlValid", "yamlHas", "yamlNotHas",
    "yamlIsArray", "yamlEquals", "yamlItemsHave", "custom", "all", "any", "not"]

/-- No name has two slots. -/
theorem nodup_fieldNames : fieldNames.Nodup := by decide

/-- Reading one level, without the monad: the slots, the checks of each slot, and these together. -/
theorem readLevel_eq (inner : Record → Option Check) (r : Record) :
    readLevel inner r = (r.fields? false (fieldNames.map fun n => [n])).bind fun slots =>
      (readSlots ((fieldReaders inner).map (·.2)) slots).map together := by
  show (r.fields? false (fieldNames.map fun n => [n])).bind (fun slots =>
    (readSlots ((fieldReaders inner).map (·.2)) slots).bind fun checks =>
      some (together checks)) = _
  simp only [Option.map_eq_bind, Function.comp_def]

/-! ## The order of members

  `Alike` says that two questions have one answer for a record and a rearrangement of it.  Each
  field asks such a question, so that a slot adds the same checks on both sides. -/

section Alike

variable {n m : Nat}

/-- A field reads alike if what it holds does. -/
theorem field_alike {α : Type} {f g : Record → Option α} (hf : Alike n m f g)
    (make : α → List Check) : Alike n m (field f make) (field g make) := by
  intro r r' h
  rw [field, field, Record.optional?_alike hf h]

/-- A text is the same however records are rearranged. -/
theorem textField_alike (make : String → Check) : Alike n m (textField make) (textField make) :=
  field_alike Record.text?_alike _

/-- A path and what is read in one more field. -/
def pathAnd? {α : Type} (name : String) (f : Record → Option α) (r : Record) :
    Option (String × α) := do
  match ← r.fields? false [["path"], [name]] with
  | [some path, some value] => return (← path.text?, ← f value)
  | _ => none

/-- Two fields side by side may change places. -/
theorem pathAnd?_alike {α : Type} {name : String} (hname : "path" ≠ name) {f g : Record → Option α}
    (hf : Alike n m f g) : Alike n m (pathAnd? name f) (pathAnd? name g) := by
  intro r r' h
  obtain ⟨k, l, rfl, rfl⟩ := h.pos
  have hnames : ["path", name].Nodup := by simpa using hname
  have hfields := Record.fields?_alike hnames h
  simp only [List.map_cons, List.map_nil] at hfields
  unfold pathAnd?
  rcases rel_cases hfields with ⟨hr, hr'⟩ | ⟨slots, slots', hr, hr', hslots⟩
  · simp only [hr, hr', Option.bind_eq_bind, Option.bind_none]
  · simp only [hr, hr', Option.bind_eq_bind, Option.bind_some]
    -- both fields are written, or both records lack one of them
    cases hslots with
    | nil => rfl
    | cons hpath hslots =>
      cases hpath with
      | none => rfl
      | some hpath =>
        cases hslots with
        | nil => rfl
        | cons hvalue hslots =>
          cases hvalue with
          | none => rfl
          | some hvalue =>
            cases hslots with
            | nil => simp only [Record.text?_alike hpath.succ, hf hvalue.succ]
            | cons => rfl

/-- The value that a path is compared with may be any data; it is the same in any order. -/
theorem equals?_alike : Alike n m equals? equals? :=
  pathAnd?_alike (by decide) Record.json?_alike

/-- So are a path and a list of names. -/
theorem itemsHave?_alike : Alike n m itemsHave? itemsHave? :=
  pathAnd?_alike (by decide) Record.texts?_alike

/-- Each field is read alike, if the records inside are. -/
theorem fieldReaders_alike {inner inner' : Record → Option Check}
    (hinner : Alike n m inner inner') : List.Forall₂ (Alike n m)
      ((fieldReaders inner).map (·.2)) ((fieldReaders inner').map (·.2)) := by
  have hchecks := Record.items_alike hinner
  exact .cons (textField_alike _) (.cons (textField_alike _) (.cons (textField_alike _)
    (.cons (textField_alike _) (.cons (field_alike Record.bool?_alike _) (.cons (textField_alike _)
    (.cons (textField_alike _) (.cons (textField_alike _) (.cons (field_alike equals?_alike _)
    (.cons (field_alike itemsHave?_alike _) (.cons (textField_alike _)
    (.cons (field_alike hchecks _) (.cons (field_alike hchecks _)
    (.cons (field_alike hinner _) .nil)))))))))))))

/-- Slot by slot, readers that read alike add the same checks. -/
theorem readSlots_alike {readers others : List FieldReader}
    (hreaders : List.Forall₂ (Alike n m) readers others) {slots slots' : List (Option Record)}
    (hslots : List.Forall₂ (Option.Rel (Inside n m)) slots slots') :
    readSlots others slots' = readSlots readers slots := by
  induction hreaders generalizing slots slots' with
  | nil => rw [readSlots, readSlots] <;> simp
  | cons hreader _ ih =>
    cases hslots with
    | nil => rfl
    | cons hslot hslots =>
      cases hslot with
      | none => exact ih hslots
      | some hinside => rw [readSlots, readSlots, hreader hinside, ih hslots]

/-- One level more: the slots are the same up to what is inside, and that is read alike. -/
theorem readLevel_alike {inner inner' : Record → Option Check} (hinner : Alike n m inner inner') :
    Alike (n + 1) (m + 1) (readLevel inner) (readLevel inner') := by
  intro r r' h
  rw [readLevel_eq, readLevel_eq]
  rcases rel_cases (Record.fields?_alike nodup_fieldNames h) with
    ⟨hr, hr'⟩ | ⟨slots, slots', hr, hr', hslots⟩
  · rw [hr, hr', Option.bind_none, Option.bind_none]
  · rw [hr, hr', Option.bind_some, Option.bind_some,
      readSlots_alike (fieldReaders_alike hinner) hslots]

/-- **The order of members does not count**, nor does the number of levels to read, if there are
    enough for the record. -/
theorem read_alike : ∀ n m : Nat, Alike n m (read n) (read m)
  | 0, _, _, _, h => absurd h.depth_lt (Nat.not_lt_zero _)
  | _ + 1, 0, _, _, h => absurd h.depth_lt' (Nat.not_lt_zero _)
  | n + 1, m + 1, _, _, h => readLevel_alike (read_alike n m) h

/-- A record means the same in any order of its members. -/
theorem ofRecord?_of_rearranged {r r' : Record} (h : r.Rearranged r') (hd : r.DistinctNames) :
    ofRecord? r' = ofRecord? r :=
  read_alike _ _ ⟨h, hd, Nat.lt_succ_self _, Nat.lt_succ_self _⟩

/-- A record is one level of fields, and what is inside are records again. -/
theorem ofRecord?_eq {r : Record} (hd : r.DistinctNames) : ofRecord? r = readLevel ofRecord? r := by
  have hinner : Alike r.depth r.depth (read r.depth) ofRecord? := fun v w h =>
    read_alike _ _ ⟨h.rearranged, h.distinct, h.depth_lt, Nat.lt_succ_self _⟩
  exact (readLevel_alike hinner ⟨.refl r, hd, Nat.lt_succ_self _, Nat.lt_succ_self _⟩).symm

end Alike

/-! ## Fields

  What a field means is stated without the reader: for each name, what the record in the field
  has to be, and the check that it then is. -/

/-- The fields that hold a text, with the checks that they are. -/
def textFields : List (String × (String → Check)) :=
  [("contains", .contains), ("notContains", .lacks), ("matches", .pattern),
    ("notMatches", .noPattern), ("yamlHas", .hasPath), ("yamlNotHas", .lacksPath),
    ("yamlIsArray", .isList), ("custom", .snippet)]

/-- The check that a field is. -/
inductive Means : String → Record → Check → Prop
  | text {name s : String} {make : String → Check} {r : Record} : (name, make) ∈ textFields →
    r.optional? Record.text? = some (some s) → Means name r (make s)
  | yamlValid {r : Record} : r.optional? Record.bool? = some (some true) →
    Means "yamlValid" r .isDocument
  | yamlEquals {r : Record} {path : String} {value : Json} :
    r.optional? equals? = some (some (path, value)) → Means "yamlEquals" r (.equals path value)
  | yamlItemsHave {r : Record} {path : String} {fields : List String} :
    r.optional? itemsHave? = some (some (path, fields)) →
    Means "yamlItemsHave" r (.itemsHave path fields)
  | all {r : Record} {checks : List Check} :
    r.optional? (fun r => do (← r.items?).mapM ofRecord?) = some (some checks) →
    Means "all" r (.all checks)
  | any {r : Record} {checks : List Check} :
    r.optional? (fun r => do (← r.items?).mapM ofRecord?) = some (some checks) →
    Means "any" r (.any checks)
  | not {r : Record} {c : Check} : r.optional? ofRecord? = some (some c) → Means "not" r (.not c)

/-- A record that says that there is nothing. -/
def isNothing : Record → Bool
  | .leaf .null => true
  | .leaf (.scalar s) => Record.absentScalar? s == some true
  | _ => false

/-- A field that is written and not filled. -/
def isOpen (name : String) (r : Record) : Bool :=
  isNothing r || (name == "yamlValid" && r.optional? Record.bool? == some (some false))

/-- Whatever is looked for in a field, there is none of it just if the record says so. -/
theorem optional?_eq_some_none {α : Type} {f : Record → Option α} {r : Record} :
    r.optional? f = some none ↔ isNothing r = true := by
  unfold Record.optional? isNothing
  split
  · simp
  · split <;> simp_all
  · simp_all

/-! ## One field

  A reader of the table looks into the record of its slot in a way of its own.  `Fits` says what
  comes of it in words that are the same for all: no check where the field is not filled, else
  the one check that it means. -/

section Field

variable {α : Type} {f : Record → Option α} {make : α → List Check} {r : Record}

/-- A field that says that there is nothing adds no check. -/
theorem field_of_isNothing (h : isNothing r = true) : field f make r = some [] := by
  rw [field, optional?_eq_some_none.mpr h]
  rfl

/-- A field in which something is read adds what is made of it. -/
theorem field_of_optional? {a : α} (h : r.optional? f = some (some a)) :
    field f make r = some (make a) := by
  rw [field, h]
  rfl

/-- Nothing else is added. -/
theorem exists_of_field {checks : List Check} (hnothing : ¬ isNothing r = true)
    (h : field f make r = some checks) : ∃ a, r.optional? f = some (some a) ∧ checks = make a := by
  obtain ⟨_ | a, hread, rfl⟩ := Option.map_eq_some_iff.mp h
  · exact absurd (optional?_eq_some_none.mp hread) hnothing
  · exact ⟨a, hread, rfl⟩

end Field

/-- A reader adds nothing for a field that is not filled, and for others what they mean. -/
def Fits (name : String) (reader : FieldReader) : Prop :=
  ∀ r, if isOpen name r then reader r = some []
    else ∀ {checks : List Check}, reader r = some checks → ∃ c, checks = [c] ∧ Means name r c

/-- A reader of one kind of field fits each name that is given to it, if what it makes is what the
    name means. `yamlValid` is left out: it may be written and add nothing. -/
theorem field_fits {α : Type} {f : Record → Option α} {make : α → List Check} {name : String}
    (hname : name ≠ "yamlValid")
    (hmeans : ∀ {r : Record} {a : α}, r.optional? f = some (some a) →
      ∃ c, make a = [c] ∧ Means name r c) :
    Fits name (field f make) := by
  intro r
  have hopen : isOpen name r = isNothing r := by simp [isOpen, hname]
  rw [hopen]
  split
  · exact field_of_isNothing ‹_›
  · intro checks hchecks
    obtain ⟨a, hread, rfl⟩ := exists_of_field ‹_› hchecks
    exact hmeans hread

/-- All fields that hold a text fit. -/
theorem textField_fits {name : String} {make : String → Check} (hmem : (name, make) ∈ textFields) :
    Fits name (textField make) := by
  refine field_fits ?_ fun hread => ⟨_, rfl, .text hmem hread⟩
  rintro rfl
  simp [textFields] at hmem

/-- Only a yes asks for a document; a no is as good as nothing. -/
theorem yamlValid_fits :
    Fits "yamlValid" (field Record.bool? fun b => if b then [.isDocument] else []) := by
  intro r
  split
  · rename_i hopen
    rw [isOpen, Bool.or_eq_true, Bool.and_eq_true, beq_iff_eq, beq_iff_eq] at hopen
    rcases hopen with hnothing | ⟨-, hread⟩
    · exact field_of_isNothing hnothing
    · exact field_of_optional? hread
  · rename_i hopen
    intro checks hchecks
    simp only [isOpen, Bool.or_eq_true, Bool.and_eq_true, beq_iff_eq, not_or, true_and] at hopen
    obtain ⟨b, hread, rfl⟩ := exists_of_field hopen.1 hchecks
    cases b with
    | false => exact absurd hread hopen.2
    | true => exact ⟨_, rfl, .yamlValid hread⟩

/-- **Each reader of the table fits its name.** -/
theorem fieldReaders_fit : ∀ f ∈ fieldReaders ofRecord?, Fits f.1 f.2 := by
  have hequals : Fits "yamlEquals" (field equals? fun a => [.equals a.1 a.2]) :=
    field_fits (by decide) fun hread => ⟨_, rfl, .yamlEquals hread⟩
  have hitems : Fits "yamlItemsHave" (field itemsHave? fun a => [.itemsHave a.1 a.2]) :=
    field_fits (by decide) fun hread => ⟨_, rfl, .yamlItemsHave hread⟩
  have hall : Fits "all" (field (fun r => do (← r.items?).mapM ofRecord?) fun cs => [.all cs]) :=
    field_fits (by decide) fun hread => ⟨_, rfl, .all hread⟩
  have hany : Fits "any" (field (fun r => do (← r.items?).mapM ofRecord?) fun cs => [.any cs]) :=
    field_fits (by decide) fun hread => ⟨_, rfl, .any hread⟩
  have hnot : Fits "not" (field ofRecord? fun c => [.not c]) :=
    field_fits (by decide) fun hread => ⟨_, rfl, .not hread⟩
  unfold fieldReaders
  simp only [List.forall_mem_cons]
  exact ⟨textField_fits (by simp [textFields]), textField_fits (by simp [textFields]),
    textField_fits (by simp [textFields]), textField_fits (by simp [textFields]), yamlValid_fits,
    textField_fits (by simp [textFields]), textField_fits (by simp [textFields]),
    textField_fits (by simp [textFields]), hequals, hitems, textField_fits (by simp [textFields]),
    hall, hany, hnot, fun f hf => absurd hf List.not_mem_nil⟩

/-- The fields that hold a text are in the table. -/
theorem textField_mem : ∀ f ∈ textFields, (f.1, textField f.2) ∈ fieldReaders ofRecord? := by
  simp [textFields, fieldReaders]

/-- What a field means is read in it. -/
theorem exists_reader_of_means {name : String} {r : Record} {c : Check} (h : Means name r c) :
    ∃ reader, (name, reader) ∈ fieldReaders ofRecord? ∧ reader r = some [c] := by
  cases h with
  | text hmem hread => exact ⟨_, textField_mem _ hmem, field_of_optional? hread⟩
  | yamlValid hread =>
    have hmem : ("yamlValid", field Record.bool? fun b => if b then [.isDocument] else []) ∈
        fieldReaders ofRecord? := by simp [fieldReaders]
    exact ⟨_, hmem, field_of_optional? hread⟩
  | yamlEquals hread =>
    have hmem : ("yamlEquals", field equals? fun a => [.equals a.1 a.2]) ∈
        fieldReaders ofRecord? := by simp [fieldReaders]
    exact ⟨_, hmem, field_of_optional? hread⟩
  | yamlItemsHave hread =>
    have hmem : ("yamlItemsHave", field itemsHave? fun a => [.itemsHave a.1 a.2]) ∈
        fieldReaders ofRecord? := by simp [fieldReaders]
    exact ⟨_, hmem, field_of_optional? hread⟩
  | all hread =>
    have hmem : ("all", field (fun r => do (← r.items?).mapM ofRecord?) fun cs => [.all cs]) ∈
        fieldReaders ofRecord? := by simp [fieldReaders]
    exact ⟨_, hmem, field_of_optional? hread⟩
  | any hread =>
    have hmem : ("any", field (fun r => do (← r.items?).mapM ofRecord?) fun cs => [.any cs]) ∈
        fieldReaders ofRecord? := by simp [fieldReaders]
    exact ⟨_, hmem, field_of_optional? hread⟩
  | not hread =>
    have hmem : ("not", field ofRecord? fun c => [.not c]) ∈ fieldReaders ofRecord? := by
      simp [fieldReaders]
    exact ⟨_, hmem, field_of_optional? hread⟩

/-- A name has one reader. -/
theorem reader_of_means {name : String} {reader : FieldReader}
    (hmem : (name, reader) ∈ fieldReaders ofRecord?) {r : Record} {c : Check} (h : Means name r c) :
    reader r = some [c] := by
  obtain ⟨found, hfound, hread⟩ := exists_reader_of_means h
  have hsame : some reader = some found :=
    (Keyed.find?_of_mem keys_fieldReaders hmem).symm.trans
      (Keyed.find?_of_mem keys_fieldReaders hfound)
  rw [Option.some.inj hsame, hread]

/-! ## All fields

  Names and slots go side by side.  A slot that was not written adds nothing, one that is not
  filled adds nothing either, and the others stay in the order of the table. -/

/-- The fields that are written, by their names. -/
def written : List String → List (Option Record) → List (String × Record)
  | name :: names, some r :: slots => (name, r) :: written names slots
  | _ :: names, none :: slots => written names slots
  | _, _ => []

/-- The fields of a record in the order in which they count: those of an object by their names, and
    those of a list by their places. -/
def given? (r : Record) : Option (List (String × Record)) :=
  match r with
  | .list items => if items.length ≤ fieldNames.length then some (fieldNames.zip items) else none
  | _ => do
    let members ← r.entries?
    if members.all fun m => m.1.text?.isSome then
      some (fieldNames.filterMap fun name =>
        (Keyed.find? name (Record.named members)).map fun value => (name, value))
    else none

/-- The fields that a record fills. -/
def populated? (r : Record) : Option (List (String × Record)) :=
  (given? r).map fun fields => fields.filter fun f => !isOpen f.1 f.2

/-- One check for each of some fields. -/
def FieldsMean (fields : List (String × Record)) (checks : List Check) : Prop :=
  List.Forall₂ (fun f c => Means f.1 f.2 c) fields checks

/-- What is read in the slots is one check for each field that is written and filled, in the order
    of the names. -/
theorem readSlots_eq_some_iff {readers : List (String × FieldReader)}
    (hmem : ∀ f ∈ readers, f ∈ fieldReaders ofRecord?) {slots : List (Option Record)}
    {checks : List Check} : readSlots (readers.map (·.2)) slots = some checks ↔
      FieldsMean ((written (readers.map (·.1)) slots).filter fun f => !isOpen f.1 f.2) checks := by
  have hnil : ∀ {checks : List Check}, some [] = some checks ↔ FieldsMean [] checks := by
    intro checks
    rw [FieldsMean, List.forall₂_nil_left_iff, Option.some_inj, eq_comm]
  induction readers generalizing slots checks with
  | nil => cases slots <;> exact hnil
  | cons f readers ih =>
    obtain ⟨name, reader⟩ := f
    obtain ⟨hreader, hmem⟩ := List.forall_mem_cons.mp hmem
    cases slots with
    | nil => exact hnil
    | cons slot slots =>
      cases slot with
      | none => exact ih hmem
      | some r =>
        have hfits := fieldReaders_fit _ hreader r
        rw [List.map_cons, List.map_cons, readSlots, written, List.filter_cons]
        -- an open field adds nothing to either side; a filled one adds one check to both
        by_cases hopen : isOpen name r = true
        · rw [if_pos hopen] at hfits
          rw [if_neg (by simp [hopen]), hfits]
          refine Iff.trans ?_ (ih hmem)
          show ((readSlots (readers.map (·.2)) slots).bind fun rest => some ([] ++ rest)) = _ ↔ _
          cases readSlots (readers.map (·.2)) slots <;> exact Iff.rfl
        · rw [if_neg hopen] at hfits
          rw [if_pos (by simp [hopen]), FieldsMean, List.forall₂_cons_left_iff]
          constructor
          · intro h
            obtain ⟨first, hfirst, h⟩ := Option.bind_eq_some_iff.mp h
            obtain ⟨rest, hrest, h⟩ := Option.bind_eq_some_iff.mp h
            obtain ⟨c, rfl, hmeans⟩ := hfits hfirst
            exact ⟨c, rest, hmeans, (ih hmem).mp hrest, (Option.some.inj h).symm⟩
          · rintro ⟨c, rest, hmeans, hrest, rfl⟩
            have hfirst : reader r = some [c] := reader_of_means hreader hmeans
            simp only [hfirst, (ih hmem).mpr hrest]
            rfl

/-- Fields by position are those that stand there. -/
theorem written_align (names : List String) (items : List Record) :
    (Record.align (names.map fun n => [n]) items).map (written names) =
      if items.length ≤ names.length then some (names.zip items) else none := by
  induction names generalizing items with
  | nil => cases items <;> rfl
  | cons name names ih =>
    cases items with
    | nil =>
      have hrest := ih []
      rw [if_pos (by simp), List.zip_nil_right] at hrest
      rw [if_pos (by simp), List.map_cons, Record.align, Option.map_map]
      exact hrest
    | cons r items =>
      have hlength : (r :: items).length ≤ (name :: names).length ↔ items.length ≤ names.length :=
        Nat.succ_le_succ_iff
      rw [List.map_cons, Record.align, Option.map_map]
      simp only [hlength]
      have hwritten :
          written (name :: names) ∘ (some r :: ·) = ((name, r) :: ·) ∘ written names := rfl
      rw [hwritten, ← Option.map_map, ih items]
      split <;> rfl

/-- Slots that are filled by name hold the fields that have been found. -/
theorem written_map (names : List String) (found : String → Option Record) :
    written names (names.map found) =
      names.filterMap fun name => (found name).map fun value => (name, value) := by
  induction names with
  | nil => rfl
  | cons name names ih =>
    rw [List.map_cons, List.filterMap_cons]
    cases found name with
    | none => exact ih
    | some r => exact congrArg ((name, r) :: ·) ih

/-- A record that is read by name names no field twice, if it has distinct names. -/
theorem nodup_names_of_entries? {r : Record} (hd : r.DistinctNames)
    {members : List (Record × Record)} (h : r.entries? = some members) :
    (Record.names members).Nodup := by
  cases hd with
  | leaf l =>
    rw [Record.eq_nil_of_entries? h]
    exact .nil
  | fields hnames => exact Option.some.inj h ▸ hnames
  | unusable | list | sequence => cases h

/-- The slots of a record hold the fields that it gives, by name or by place. -/
theorem given?_eq {r : Record} (hd : r.DistinctNames) :
    given? r = (r.fields? false (fieldNames.map fun n => [n])).map (written fieldNames) := by
  have hentries : (r.entries?.bind (Record.slots? false (fieldNames.map fun n => [n]))).map
      (written fieldNames) = r.entries?.bind fun members =>
        if members.all fun m => m.1.text?.isSome then
          some (fieldNames.filterMap fun name =>
            (Keyed.find? name (Record.named members)).map fun value => (name, value))
        else none := by
    -- a record without entries fails before its names are looked at
    cases h : r.entries? with
    | none => rfl
    | some members =>
      rw [Option.bind_some, Option.bind_some,
        Record.slots?_eq nodup_fieldNames (nodup_names_of_entries? hd h)]
      split
      · rw [Option.map_some, written_map]
      · rfl
  cases r with
  | list items => exact (written_align fieldNames items).symm
  | leaf | sequence | fields | unusable => exact hentries.symm

/-- **A record is a check if each of the fields that it fills is one**: the only one, or all of
    them together. -/
theorem ofRecord?_eq_some_iff {r : Record} (hd : r.DistinctNames) {c : Check} :
    ofRecord? r = some c ↔ ∃ fields checks, populated? r = some fields ∧ FieldsMean fields checks ∧
      c = together checks := by
  rw [ofRecord?_eq hd, readLevel_eq, populated?, given?_eq hd]
  cases r.fields? false (fieldNames.map fun n => [n]) with
  | none => simp
  | some slots =>
    have hslots : ∀ {checks : List Check},
        readSlots ((fieldReaders ofRecord?).map (·.2)) slots = some checks ↔
          FieldsMean ((written fieldNames slots).filter fun f => !isOpen f.1 f.2) checks :=
      readSlots_eq_some_iff fun _ h => h
    simp only [Option.bind_some, Option.map_some, Option.map_eq_some_iff, hslots, Option.some_inj]
    constructor
    · rintro ⟨checks, hmeans, rfl⟩
      exact ⟨_, checks, rfl, hmeans, rfl⟩
    · rintro ⟨_, checks, rfl, hmeans, rfl⟩
      exact ⟨checks, hmeans, rfl⟩

/-! ## The laws

  A check that is put together of one field is the check of that field, and of several it is all
  of them in turn. -/

/-- The checks of a record are looked at in turn, also where there is only one of them. -/
theorem evaluate_together (s : Submission) (checks : List Check) :
    evaluate s (together checks) = inTurn true (checks.map (evaluate s)) := by
  unfold together
  split
  · exact (inTurn_one _).symm
  · exact evaluate_all _

/-- Only one name stands for a snippet. -/
theorem Means.isSnippet_iff {name : String} {r : Record} {c : Check} (h : Means name r c) :
    c.isSnippet = true ↔ name = "custom" := by
  have htext : ∀ f ∈ textFields, ∀ s, (f.2 s).isSnippet = true ↔ f.1 = "custom" := by
    simp [textFields, isSnippet]
  cases h with
  | text hmem _ => exact htext _ hmem _
  | yamlValid | yamlEquals | yamlItemsHave | all | any | not => simp [isSnippet]

/-- A record is a snippet alone if that is the one field that it fills. -/
theorem isSnippet_together {fields : List (String × Record)} {checks : List Check}
    (h : FieldsMean fields checks) :
    (together checks).isSnippet = true ↔ fields.map (·.1) = ["custom"] := by
  cases h with
  | nil => simp [together, isSnippet]
  | cons hfirst hrest =>
    cases hrest with
    | nil => simpa [together] using hfirst.isSnippet_iff
    | cons => simp [together, isSnippet]

/-- What a record with distinct names means as a check. -/
structure Normalization (r : Record) : Prop where
  rearranged : ∀ {r' : Record}, r.Rearranged r' → ofRecord? r' = ofRecord? r
  fields : ∀ {c : Check}, ofRecord? r = some c →
    ∃ fields checks, populated? r = some fields ∧ FieldsMean fields checks
  conjunction : ∀ {fields : List (String × Record)} {checks : List Check},
    populated? r = some fields → FieldsMean fields checks → ∃ c, ofRecord? r = some c ∧
      (∀ s, evaluate s c = inTurn true (checks.map (evaluate s))) ∧
      (c.isSnippet = true ↔ fields.map (·.1) = ["custom"])

/-- **Any order of members gives the same check, and its fields in turn give its result.**  It is a
    snippet alone if and only if no other field is filled. -/
theorem normalization {r : Record} (hd : r.DistinctNames) : Normalization r where
  rearranged h := ofRecord?_of_rearranged h hd
  fields h := by
    obtain ⟨fields, checks, hfields, hmeans, -⟩ := (ofRecord?_eq_some_iff hd).mp h
    exact ⟨fields, checks, hfields, hmeans⟩
  conjunction hfields hmeans :=
    ⟨_, (ofRecord?_eq_some_iff hd).mpr ⟨_, _, hfields, hmeans, rfl⟩,
      fun s => evaluate_together s _, isSnippet_together hmeans⟩

/-- Members in another order at two depths, two of which are not filled. -/
theorem normalization_nested :
    let path : Record × Record := (.ofText "path", .ofText "kind")
    let value : Record × Record := (.ofText "value", .ofText "Pod")
    let inside (pair : List (Record × Record)) : Record :=
      .fields none [(.ofText "yamlEquals", .fields none pair)]
    let others : List (Record × Record) :=
      [(.ofText "yamlValid", .leaf (.bool false)), (.ofText "contains", .ofText "kind"),
        (.ofText "any", .leaf .null)]
    let r : Record := .fields none ((.ofText "not", inside [path, value]) :: others)
    let r' : Record := .fields none (others ++ [(.ofText "not", inside [value, path])])
    r.DistinctNames ∧ r.Rearranged r' ∧ ofRecord? r' = ofRecord? r ∧
      ∃ c, ofRecord? r = some c ∧ c.isSnippet = false ∧ ∀ s, evaluate s c = inTurn true
        [evaluate s (.contains "kind"), evaluate s (.not (.equals "kind" (.string "Pod")))] := by
  intro path value inside others r r'
  have hnil : ∀ v ∈ ([] : List Record), v.DistinctNames := fun _ h => absurd h List.not_mem_nil
  have hpair : (Record.fields none [path, value]).DistinctNames :=
    .fields (show ["path", "value"].Nodup by decide)
      (List.forall_mem_cons.mpr ⟨.leaf _, List.forall_mem_cons.mpr ⟨.leaf _, hnil⟩⟩)
  have hinside : (inside [path, value]).DistinctNames :=
    .fields (show ["yamlEquals"].Nodup by decide) (List.forall_mem_cons.mpr ⟨hpair, hnil⟩)
  have hd : r.DistinctNames :=
    .fields (show ["not", "yamlValid", "contains", "any"].Nodup by decide)
      (List.forall_mem_cons.mpr ⟨hinside, List.forall_mem_cons.mpr ⟨.leaf _,
        List.forall_mem_cons.mpr ⟨.leaf _, List.forall_mem_cons.mpr ⟨.leaf _, hnil⟩⟩⟩⟩)
  have hpairs : (Record.fields none [path, value]).Rearranged (.fields none [value, path]) :=
    .fields (Record.Rearranged.refl_keys _) (Record.Rearranged.refl_values _) (.swap _ _ [])
  have hinner : (inside [path, value]).Rearranged (inside [value, path]) :=
    @Record.Rearranged.fields _ _ [(.ofText "yamlEquals", .fields none [value, path])] _
      (Record.Rearranged.refl_keys _) (.cons hpairs .nil) (.refl _)
  have hrearranged : r.Rearranged r' :=
    @Record.Rearranged.fields _ _ ((.ofText "not", inside [value, path]) :: others) _
      (Record.Rearranged.refl_keys _) (.cons hinner (Record.Rearranged.refl_values others))
      (List.perm_append_singleton _ _).symm
  have hfields : populated? r =
      some [("contains", .ofText "kind"), ("not", inside [path, value])] := rfl
  have hmeans : FieldsMean [("contains", .ofText "kind"), ("not", inside [path, value])]
      [.contains "kind", .not (.equals "kind" (.string "Pod"))] :=
    .cons (.text (by simp [textFields]) rfl) (.cons (.not rfl) .nil)
  obtain ⟨c, hc, hevaluate, hsnippet⟩ := (normalization hd).conjunction hfields hmeans
  refine ⟨hd, hrearranged, (normalization hd).rearranged hrearranged, c, hc, ?_, hevaluate⟩
  rw [← Bool.not_eq_true, hsnippet]
  decide

end Check

end ExerciseGrading
