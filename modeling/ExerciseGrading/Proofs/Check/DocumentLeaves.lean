/-
  DOCUMENT LEAVES: the checks that ask for something in the document agree with one another.

  Each of these checks walks the document in a way of its own, and each has its own answer for a
  submission that is no document.  Both differences go away when the checks are read as questions to
  what a path leads to: nothing, if there is no such place or no document at all.

  1. `Submission.found?` — what a path leads to; nothing, if the submission is no document.  Every
     leaf but one is a question to what is found (`evaluate_hasPath` and its neighbours), so that
     none of them ever fails, and a text that is no document is no case of its own.
  2. `found?_append` — a longer path is asked for where the shorter one leads.
  3. **The crux (`itemsHave_iff_paths`)** — fields of all items of a list are paths through its
     places.  The index is printed and read back on the way, so that it has to be one that a path
     reads as a place; and a name has to be one that a path takes for nothing but a field.
  4. `document_laws` — everything together.
-/
import ExerciseGrading.Proofs.Check.Laws
import ExerciseGrading.Proofs.Document.Queries

namespace ExerciseGrading

namespace Submission

/-- What a path leads to in the document that a submission is. -/
def found? (s : Submission) (path : String) : Option Document := s.document?.bind (·.query? path)

/-- The items of the list that a path leads to; none, if it leads to no list. -/
def itemsAt (s : Submission) (path : String) : List Document :=
  match s.found? path with
  | some (.sequence items) => items
  | _ => []

/-- What a longer path leads to is below what the shorter one leads to; without a document there is
    nothing either way. -/
theorem found?_append (s : Submission) (p q : String) :
    s.found? (p ++ "." ++ q) = (s.found? p).bind fun d => d.query? q := by
  unfold found?
  cases s.document? with
  | none => rfl
  | some d => exact d.query?_append p q

/-- The items at a path, when the path is known to lead to a list. -/
theorem itemsAt_of_found? {s : Submission} {path : String} {items : List Document}
    (h : s.found? path = some (.sequence items)) : s.itemsAt path = items := by
  rw [itemsAt, h]

end Submission

namespace Document

/-- Whether a document is a list, with no tag around it: what a path leads to has none. -/
def isSequence : Document → Bool
  | .sequence _ => true
  | _ => false

/-- A list has items. -/
theorem isSequence_iff {d : Document} : d.isSequence = true ↔ ∃ items, d = .sequence items := by
  cases d <;> simp [isSequence]

/-- Whether a document is a list whose items all have these fields. -/
def allHave (fields : List String) : Document → Bool
  | .sequence items => items.all fun item => fields.all fun f => (item.field? f).isSome
  | _ => false

/-- A list of which every item has every field. An empty list has them all. -/
theorem allHave_iff {fields : List String} {d : Document} :
    d.allHave fields = true ↔
      ∃ items, d = .sequence items ∧
        ∀ item ∈ items, ∀ f ∈ fields, (item.field? f).isSome = true := by
  cases d <;> simp [allHave]

end Document

namespace Check

variable {s : Submission}

/-! ## What each leaf asks

  One equation for each leaf, and behind it the same as an equivalence where that is easier to
  use. -/

/-- A path is there if it leads somewhere. -/
theorem evaluate_hasPath (path : String) :
    evaluate s (.hasPath path) = .ok (s.found? path).isSome := by
  rw [evaluate, Submission.onDocument, Submission.found?]
  cases s.document? <;> rfl

/-- A path is missing if it leads nowhere, also where there is no document to search. -/
theorem evaluate_lacksPath (path : String) :
    evaluate s (.lacksPath path) = .ok (s.found? path).isNone := by
  rw [evaluate, Submission.onDocument, Submission.found?]
  cases s.document? <;> rfl

/-- Something at the path, and it is a list. -/
theorem evaluate_isList (path : String) :
    evaluate s (.isList path) = .ok ((s.found? path).any Document.isSequence) := by
  rw [evaluate, Submission.onDocument, Submission.found?]
  cases s.document? with
  | none => rfl
  | some d =>
    rw [Option.bind_some]
    dsimp only [listAt]
    rcases d.query? path with _ | _ | _ | _ | _ | _ | _ | _ <;> rfl

/-- Something at the path, and it is the value. -/
theorem evaluate_equals (path : String) (value : Json) :
    evaluate s (.equals path value) = .ok ((s.found? path).any (·.equalsScalar value)) := by
  rw [evaluate, Submission.onDocument, Submission.found?]
  cases s.document? with
  | none => rfl
  | some d =>
    rw [Option.bind_some]
    dsimp only [equalAt]
    cases d.query? path <;> rfl

/-- Something at the path, and it is a list whose items have the fields. -/
theorem evaluate_itemsHave (path : String) (fields : List String) :
    evaluate s (.itemsHave path fields) = .ok ((s.found? path).any (·.allHave fields)) := by
  rw [evaluate, Submission.onDocument, Submission.found?]
  cases s.document? with
  | none => rfl
  | some d =>
    rw [Option.bind_some]
    dsimp only [itemsHaveFields]
    rcases d.query? path with _ | _ | _ | _ | _ | _ | _ | _ <;> rfl

/-- `hasPath` passes where there is something. -/
theorem hasPath_iff {path : String} :
    evaluate s (.hasPath path) = .ok true ↔ ∃ d, s.found? path = some d := by
  rw [evaluate_hasPath, Except.ok.injEq, Option.isSome_iff_exists]

/-- `isList` passes where there is a list, whatever is in it. -/
theorem isList_iff {path : String} :
    evaluate s (.isList path) = .ok true ↔ ∃ items, s.found? path = some (.sequence items) := by
  rw [evaluate_isList, Except.ok.injEq, Option.any_eq_true]
  simp only [Document.isSequence_iff]
  constructor
  · rintro ⟨d, hd, items, rfl⟩
    exact ⟨items, hd⟩
  · rintro ⟨items, hitems⟩
    exact ⟨_, hitems, items, rfl⟩

/-- `equals` passes where there is a scalar that is the value. -/
theorem equals_iff {path : String} {value : Json} :
    evaluate s (.equals path value) = .ok true ↔
      ∃ d, s.found? path = some d ∧ d.equalsScalar value = true := by
  rw [evaluate_equals, Except.ok.injEq, Option.any_eq_true]

/-- `itemsHave` passes where there is a list of items with these fields. -/
theorem itemsHave_iff {path : String} {fields : List String} :
    evaluate s (.itemsHave path fields) = .ok true ↔
      ∃ items, s.found? path = some (.sequence items) ∧
        ∀ item ∈ items, ∀ f ∈ fields, (item.field? f).isSome = true := by
  rw [evaluate_itemsHave, Except.ok.injEq, Option.any_eq_true]
  simp only [Document.allHave_iff]
  constructor
  · rintro ⟨d, hd, items, rfl, hhave⟩
    exact ⟨items, hd, hhave⟩
  · rintro ⟨items, hitems, hhave⟩
    exact ⟨_, hitems, items, rfl, hhave⟩

/-! ## Fields of items

  A path through a place of a list has the printed place as a segment.  It is read back as the
  place that it was, if the place is small enough to be read at all. -/

/-- A name that a path takes for nothing but the name of a field. -/
def IsFieldName (name : String) : Prop := '.' ∉ name.toList ∧ ¬ Path.ReadsAsInt64 name

/-- The path through a place in a list leads to the field of the item there. -/
theorem found?_place {path name : String} {items : List Document} {i : Nat}
    (hitems : s.found? path = some (.sequence items)) (hi : (i : Int) ≤ Number.maxInt64)
    (hname : IsFieldName name) :
    s.found? (path ++ "." ++ Number.intText i ++ "." ++ name) =
      items[i]?.bind fun item => item.field? name := by
  have hplace : s.found? (path ++ "." ++ Number.intText i) = items[i]?.map Document.untagged := by
    rw [Submission.found?_append, hitems]
    exact Document.query?_index rfl hi
  rw [Submission.found?_append, hplace, Option.bind_map]
  -- both look the field up in the item itself, without the tag that it may stand under
  congr 1
  funext item
  show item.untagged.query? name = item.field? name
  rw [Document.query?_name hname.1 hname.2, Document.field?, Document.field?,
    Document.untagged_untagged]

/-- **Fields of all items are paths through all places**, where every place is a signed word: more
    items than that fit into no memory. -/
theorem itemsHave_iff_paths {path : String} {fields : List String}
    (hnames : ∀ f ∈ fields, IsFieldName f)
    (hlength : ((s.itemsAt path).length : Int) ≤ Number.maxInt64 + 1) :
    evaluate s (.itemsHave path fields) = .ok true ↔
      evaluate s (.isList path) = .ok true ∧
        ∀ i < (s.itemsAt path).length, ∀ f ∈ fields,
          evaluate s (.hasPath (path ++ "." ++ Number.intText i ++ "." ++ f)) = .ok true := by
  -- with the list at hand, both sides say the same of each place
  have hplaces : ∀ items, s.found? path = some (.sequence items) →
      ((∀ item ∈ items, ∀ f ∈ fields, (item.field? f).isSome = true) ↔
        ∀ i < (s.itemsAt path).length, ∀ f ∈ fields,
          evaluate s (.hasPath (path ++ "." ++ Number.intText i ++ "." ++ f)) = .ok true) := by
    intro items hitems
    rw [Submission.itemsAt_of_found? hitems] at hlength ⊢
    -- an item is what stands at one of the places
    rw [List.forall_mem_iff_getElem]
    refine forall_congr' fun i => forall_congr' fun hi => forall_congr' fun f =>
      forall_congr' fun hf => ?_
    rw [evaluate_hasPath, found?_place hitems (by omega) (hnames f hf), List.getElem?_eq_getElem hi,
      Option.bind_some, Except.ok.injEq]
  rw [itemsHave_iff, isList_iff]
  constructor
  · rintro ⟨items, hitems, hhave⟩
    exact ⟨⟨items, hitems⟩, (hplaces items hitems).mp hhave⟩
  · rintro ⟨⟨items, hitems⟩, hpaths⟩
    exact ⟨items, hitems, (hplaces items hitems).mpr hpaths⟩

/-! ## The laws

  Each law compares two leaves, or a leaf with a path that is longer. -/

/-- The laws of the checks that ask for something in the document. -/
structure DocumentLaws (s : Submission) : Prop where
  isList_of_itemsHave : ∀ (path : String) (fields : List String),
    evaluate s (.itemsHave path fields) = .ok true → evaluate s (.isList path) = .ok true
  hasPath_of_isList : ∀ path : String,
    evaluate s (.isList path) = .ok true → evaluate s (.hasPath path) = .ok true
  isDocument_of_hasPath : ∀ path : String,
    evaluate s (.hasPath path) = .ok true → evaluate s .isDocument = .ok true
  hasPath_of_equals : ∀ (path : String) (value : Json),
    evaluate s (.equals path value) = .ok true → evaluate s (.hasPath path) = .ok true
  no_list_of_equals : ∀ (path : String) (value : Json),
    evaluate s (.equals path value) = .ok true → evaluate s (.isList path) = .ok false
  hasPath_of_longer : ∀ path rest : String,
    evaluate s (.hasPath (path ++ "." ++ rest)) = .ok true → evaluate s (.hasPath path) = .ok true
  lacksPath : ∀ path : String, evaluate s (.lacksPath path) = evaluate s (.not (.hasPath path))
  /-- The last place of a list is a signed word, as it is wherever a list fits into memory. -/
  itemsHave : ∀ (path : String) (fields : List String), (∀ f ∈ fields, IsFieldName f) →
    ((s.itemsAt path).length : Int) ≤ Number.maxInt64 + 1 →
      (evaluate s (.itemsHave path fields) = .ok true ↔
        evaluate s (.isList path) = .ok true ∧
          ∀ i < (s.itemsAt path).length, ∀ f ∈ fields,
            evaluate s (.hasPath (path ++ "." ++ Number.intText i ++ "." ++ f)) = .ok true)

/-- **The checks of a document agree with one another**, on every submission, document or not. -/
theorem document_laws (s : Submission) : DocumentLaws s where
  isList_of_itemsHave path fields h := by
    obtain ⟨items, hitems, -⟩ := itemsHave_iff.mp h
    exact isList_iff.mpr ⟨items, hitems⟩
  hasPath_of_isList path h := by
    obtain ⟨items, hitems⟩ := isList_iff.mp h
    exact hasPath_iff.mpr ⟨_, hitems⟩
  isDocument_of_hasPath path h := by
    obtain ⟨found, hfound⟩ := hasPath_iff.mp h
    obtain ⟨d, hd, -⟩ := Option.bind_eq_some_iff.mp hfound
    rw [evaluate, hd, Option.isSome_some]
  hasPath_of_equals path value h := by
    obtain ⟨d, hd, -⟩ := equals_iff.mp h
    exact hasPath_iff.mpr ⟨d, hd⟩
  no_list_of_equals path value h := by
    obtain ⟨d, hd, hequal⟩ := equals_iff.mp h
    -- only scalars are compared
    have hscalar : d.isSequence = false := by
      cases d with
      | sequence items => simp [Document.equalsScalar] at hequal
      | _ => rfl
    rw [evaluate_isList, hd, Option.any_some, hscalar]
  hasPath_of_longer path rest h := by
    obtain ⟨found, hfound⟩ := hasPath_iff.mp h
    rw [Submission.found?_append] at hfound
    obtain ⟨d, hd, -⟩ := Option.bind_eq_some_iff.mp hfound
    exact hasPath_iff.mpr ⟨d, hd⟩
  lacksPath path := by
    rw [evaluate_not, evaluate_lacksPath, evaluate_hasPath]
    cases s.found? path <;> rfl
  itemsHave _ _ hnames hlength := itemsHave_iff_paths hnames hlength

/-- Two items, of which one stands under a tag, and the paths through their places. -/
theorem document_laws_items :
    let s := Submission.ofText "c:\n- n: 1\n- !t \x7bn: 2\x7d"
    ((∀ f ∈ ["n"], IsFieldName f) ∧ ((s.itemsAt "c").length : Int) ≤ Number.maxInt64 + 1 ∧
      evaluate s (.itemsHave "c" ["n"]) = .ok true) ∧
    evaluate s (.isList "c") = .ok true ∧ evaluate s (.hasPath "c.1.n") = .ok true := by
  intro s
  have hname : IsFieldName "n" := by
    refine ⟨by decide, ?_⟩
    rintro ⟨n, hn, -⟩
    rw [show Number.integer? "n".toList = none by decide] at hn
    cases hn
  have hnames : ∀ f ∈ ["n"], IsFieldName f := List.forall_mem_singleton.mpr hname
  have hlength : (s.itemsAt "c").length = 2 := by decide +kernel
  have hbound : ((s.itemsAt "c").length : Int) ≤ Number.maxInt64 + 1 := by rw [hlength]; decide
  have hhave : evaluate s (.itemsHave "c" ["n"]) = .ok true := eq_ok_of_toOption (by decide +kernel)
  obtain ⟨hlist, hpaths⟩ := ((document_laws s).itemsHave "c" ["n"] hnames hbound).mp hhave
  have hpath := hpaths 1 (by rw [hlength]; decide) "n" List.mem_cons_self
  exact ⟨⟨hnames, hbound, hhave⟩, hlist, hpath⟩

end Check

end ExerciseGrading
