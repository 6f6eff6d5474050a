/-
  TWO WALKS along a path: in a document, and in the value that a document becomes.

  A snippet is given the document as a value and may walk there; a check walks in the document
  itself.  The two walks are meant to be one, and they nearly are.  The proof puts a third walk
  between them, which is in the document but sees no more than a value keeps.

  1. A value keeps less than its document: keys are texts, each text has one value, and tags are
     gone.  `textWalk?` is the walk in a document that sees no more than that: of the keys with a
     text the last one counts, and a place in a list is written as an index.
  2. `walk_ofDocument` — the walk in the value is this one, for every document and every path.
  3. `Unmistakable` — what the two ways of walking need to meet at every step.  They part at a list
     where the segment is minus zero, which is a whole number but no index; and in a mapping where
     two keys have the text of the segment (`member?_shadowed`), or where a key is that text under a
     tag (`member?_tagged`).
  4. `walk_of_value` — the two walks agree along every path that is unmistakable.
  5. `walk_of_value_minus_zero` — the first of these gaps is one that a program can fall into.
-/
import ExerciseGrading.Snippet.Native

namespace ExerciseGrading

/-! ## Places in a list

  A segment is a place in a list of a document if it reads as a whole number, and an index of a
  value if it reads as one without a minus sign. -/

namespace Path

/-- Zero behind a minus sign. -/
def writesMinusZero (segment : String) : Bool :=
  match segment.toList with
  | '-' :: ds => Number.natural? 10 ds == some 0
  | _ => false

/-- A place is the same one as a signed and as an unsigned word, in a list that is not longer than
    there are signed words. -/
theorem place_eq {α : Type} (items : List α) (n : Nat)
    (hlength : (items.length : Int) ≤ Number.maxInt64 + 1) :
    (if 0 ≤ (n : Int) ∧ (n : Int) ≤ Number.maxInt64 then items[n]? else none) =
      (if n ≤ Number.maxUInt64 then some n else none).bind fun i => items[i]? := by
  by_cases hn : n < items.length
  · have hsigned : (n : Int) ≤ Number.maxInt64 := by omega
    have hunsigned : n ≤ Number.maxUInt64 := by
      simp only [Number.maxInt64, Number.maxUInt64] at hsigned ⊢
      omega
    rw [if_pos ⟨Int.natCast_nonneg n, hsigned⟩, if_pos hunsigned]
    rfl
  · have hnone : items[n]? = none := List.getElem?_eq_none (Nat.le_of_not_lt hn)
    rw [hnone]
    split <;> split <;> simp [hnone]

/-- A number without a minus sign is the same place as a whole number and as an index. -/
theorem item?_eq_of_natural {α : Type} {segment : String} {items : List α} {n? : Option Nat}
    (hlength : (items.length : Int) ≤ Number.maxInt64 + 1)
    (hwhole : Number.integer? segment.toList = n?.map Int.ofNat)
    (hindex : Number.index? segment.toList =
      n?.bind fun n => if n ≤ Number.maxUInt64 then some n else none) :
    item? segment items = (Number.index? segment.toList).bind fun i => items[i]? := by
  rw [item?, hwhole, hindex]
  cases n? with
  | none => rfl
  | some n => exact place_eq items n hlength

/-- **A segment is the same place as a whole number and as an index**, unless it is minus zero. -/
theorem item?_eq_index {α : Type} {segment : String} {items : List α}
    (hzero : writesMinusZero segment = false)
    (hlength : (items.length : Int) ≤ Number.maxInt64 + 1) :
    item? segment items = (Number.index? segment.toList).bind fun i => items[i]? := by
  by_cases hminus : ∃ s, segment.toList = '-' :: s
  · -- behind a minus sign only zero would be a place
    obtain ⟨s, hs⟩ := hminus
    rw [writesMinusZero, hs] at hzero
    rw [item?, hs, Number.index?_minus, Number.integer?_minus]
    cases hn : Number.natural? 10 s with
    | none => rfl
    | some n =>
      have hpos : n ≠ 0 := fun h0 => by simp [hn, h0] at hzero
      -- a number below zero is no place for a whole number, and no index at all
      have hneg : ¬ (0 ≤ -(n : Int) ∧ -(n : Int) ≤ Number.maxInt64) := by omega
      exact if_neg hneg
  · have hminus : ∀ s, segment.toList ≠ '-' :: s := fun s hs => hminus ⟨s, hs⟩
    by_cases hplus : ∃ s, segment.toList = '+' :: s
    · obtain ⟨s, hs⟩ := hplus
      exact item?_eq_of_natural hlength (hs ▸ Number.integer?_plus s) (hs ▸ Number.index?_plus s)
    · have hplus : ∀ s, segment.toList ≠ '+' :: s := fun s hs => hplus ⟨s, hs⟩
      exact item?_eq_of_natural hlength (Number.integer?_unsigned hminus hplus)
        (Number.index?_unsigned hplus)

/-- Minus zero is a minus sign before digits that are all zero. -/
theorem eq_of_writesMinusZero {segment : String} (h : writesMinusZero segment = true) :
    ∃ ds, segment.toList = '-' :: ds ∧ Number.natural? 10 ds = some 0 := by
  unfold writesMinusZero at h
  split at h
  · rename_i ds hs
    exact ⟨ds, hs, eq_of_beq h⟩
  · cases h

/-- Minus zero is the first place as a whole number. -/
theorem item?_of_writesMinusZero {α : Type} {segment : String} {items : List α}
    (h : writesMinusZero segment = true) : item? segment items = items[0]? := by
  obtain ⟨ds, hs, hzero⟩ := eq_of_writesMinusZero h
  rw [item?, hs, Number.integer?_minus, hzero]
  rfl

/-- Minus zero is no index. -/
theorem index?_of_writesMinusZero {segment : String} (h : writesMinusZero segment = true) :
    Number.index? segment.toList = none := by
  obtain ⟨ds, hs, -⟩ := eq_of_writesMinusZero h
  rw [hs, Number.index?_minus]

/-! ## Keys of a mapping

  In a document a key is found by its text, the first that has it; in a value the last one has
  taken the place of all before it. -/

/-- The value of the last key with a text. -/
def lastMember? (key : String) (members : List (Document × Document)) : Option Document :=
  (members.reverse.find? fun m => m.1.keyText? = some key).map (·.2)

/-- One key at most has the text, and it is no text under a tag. -/
def NamesOne (key : String) (members : List (Document × Document)) : Prop :=
  members.Pairwise (fun m n => ¬ (m.1.keyText? = some key ∧ n.1.keyText? = some key)) ∧
    ∀ m ∈ members, m.1.keyText? = some key → m.1.isText = true → m.1.isExactly key = true

instance (key : String) (members : List (Document × Document)) : Decidable (NamesOne key members) :=
  inferInstanceAs (Decidable (_ ∧ _))

/-- A key that is exactly a text has that text. -/
theorem keyText?_of_isExactly {key : String} {k : Document} (h : k.isExactly key = true) :
    k.keyText? = some key := by
  cases k with
  | string s => exact congrArg some (eq_of_beq h)
  | _ => cases h

/-- A search among members of which only one can be meant. -/
theorem find?_of_only {α : Type} {p : α → Bool} {a b : List α} (m : α) (ha : ∀ n ∈ a, p n = false)
    (hb : ∀ n ∈ b, p n = false) : (a ++ m :: b).find? p = if p m then some m else none := by
  have hnone : ∀ l : List α, (∀ n ∈ l, p n = false) → l.find? p = none := fun l hl =>
    List.find?_eq_none.mpr fun n hn => by simp [hl n hn]
  rw [List.find?_append, hnone a ha, Option.none_or, List.find?_cons, hnone b hb]
  cases p m <;> rfl

/-- **A key is looked up alike by the rule of documents and by texts alone**, if there is just one
    for the text. -/
theorem member?_eq_lastMember? {key : String} {members : List (Document × Document)}
    (h : NamesOne key members) : Document.member? key members = lastMember? key members := by
  obtain ⟨honce, hplain⟩ := h
  -- what no key with another text can be taken for
  have hexact : ∀ m : Document × Document, m.1.keyText? ≠ some key → m.1.isExactly key = false :=
    fun m hm => Bool.eq_false_iff.mpr fun he => hm (keyText?_of_isExactly he)
  have hother : ∀ m : Document × Document, m.1.keyText? ≠ some key →
      (!m.1.isText && decide (m.1.keyText? = some key)) = false := fun m hm => by simp [hm]
  have hsame : ∀ m : Document × Document, m.1.keyText? ≠ some key →
      decide (m.1.keyText? = some key) = false := fun m hm => by simp [hm]
  unfold Document.member? lastMember?
  cases hfind : members.find? fun m => m.1.keyText? = some key with
  | none =>
    have hno : ∀ m ∈ members, m.1.keyText? ≠ some key := by simpa using hfind
    rw [List.find?_eq_none.mpr fun m hm => by simp [hexact m (hno m hm)],
      List.find?_eq_none.mpr fun m hm => by simp [hother m (hno m hm)],
      List.find?_eq_none.mpr fun m hm => by simp [hsame m (hno m (List.mem_reverse.mp hm))]]
  | some m =>
    -- one key has the text: it is found from the front and from the back
    obtain ⟨hm, a, b, rfl, ha⟩ := List.find?_eq_some_iff_append.mp hfind
    have hm : m.1.keyText? = some key := of_decide_eq_true hm
    have ha : ∀ n ∈ a, n.1.keyText? ≠ some key := by simpa using ha
    have hb : ∀ n ∈ b, n.1.keyText? ≠ some key := fun n hn hkey =>
      (List.pairwise_cons.mp (List.pairwise_append.mp honce).2.1).1 n hn ⟨hm, hkey⟩
    have hreverse : (a ++ m :: b).reverse = b.reverse ++ m :: a.reverse := by simp
    rw [hreverse, find?_of_only m (fun n hn => hexact n (ha n hn)) fun n hn => hexact n (hb n hn),
      find?_of_only m (fun n hn => hother n (ha n hn)) fun n hn => hother n (hb n hn),
      find?_of_only m (fun n hn => hsame n (hb n (List.mem_reverse.mp hn)))
        fun n hn => hsame n (ha n (List.mem_reverse.mp hn)),
      hm]
    by_cases he : m.1.isExactly key = true
    · simp [he]
    · have htext : m.1.isText = false :=
        Bool.eq_false_iff.mpr fun ht => he (hplain m (by simp) hm ht)
      simp [he, htext]

/-- A text under a tag is no key of a mapping, and is one of its value. -/
theorem member?_tagged (tag key : String) (v : Document) :
    Document.member? key [(.tagged tag (.string key), v)] = none ∧
      lastMember? key [(.tagged tag (.string key), v)] = some v := by
  constructor
  · rfl
  · simp [lastMember?, Document.keyText?, Document.untagged]

/-- Of a text as key and a later key with that text, the mapping takes the first and its value the
    other. -/
theorem member?_shadowed {key : String} {k : Document} (hkey : k.keyText? = some key)
    (v w : Document) :
    Document.member? key [(.string key, v), (k, w)] = some v ∧
      lastMember? key [(.string key, v), (k, w)] = some w := by
  constructor
  · simp [Document.member?, Document.isExactly]
  · simp [lastMember?, hkey]

/-! ## The walk by texts -/

/-- What a segment leads to, if keys are texts and places are written as indices. -/
def textStep? (d : Document) (segment : String) : Option Document :=
  match d with
  | .sequence items => (Number.index? segment.toList).bind fun i => items[i]?
  | .mapping members => lastMember? segment members
  | _ => none

/-- What segments lead to, if keys are texts and places are written as indices. -/
def textWalk? (d : Document) : List String → Option Document
  | [] => some d
  | s :: rest =>
    match textStep? d s with
    | some next => textWalk? next.untagged rest
    | none => none

/-- Nothing on the way can be taken for two things.  No list is longer than there are signed words,
    which is more than any memory holds. -/
def Unmistakable (d : Document) : List String → Prop
  | [] => True
  | s :: rest =>
    match d with
    | .sequence items =>
      writesMinusZero s = false ∧ (items.length : Int) ≤ Number.maxInt64 + 1 ∧
        ∀ next, item? s items = some next → Unmistakable next.untagged rest
    | .mapping members =>
      NamesOne s members ∧
        ∀ next, Document.member? s members = some next → Unmistakable next.untagged rest
    | _ => True

/-- A step that cannot be mistaken leads to the same place in both walks. -/
theorem Unmistakable.textStep?_eq_step? {d : Document} {s : String} {rest : List String}
    (h : Unmistakable d (s :: rest)) : textStep? d s = step? d s := by
  cases d with
  | sequence items => exact (item?_eq_index h.1 h.2.1).symm
  | mapping members => exact (member?_eq_lastMember? h.1).symm
  | _ => rfl

/-- The rest of the way cannot be mistaken either. -/
theorem Unmistakable.next {d next : Document} {s : String} {rest : List String}
    (h : Unmistakable d (s :: rest)) (hnext : step? d s = some next) :
    Unmistakable next.untagged rest := by
  cases d with
  | sequence items => exact h.2.2 next hnext
  | mapping members => exact h.2 next hnext
  | _ => cases hnext

/-- So the walks agree, step by step. -/
theorem Unmistakable.textWalk?_eq_walk? {d : Document} {segments : List String}
    (h : Unmistakable d segments) : textWalk? d segments = walk? d segments := by
  induction segments generalizing d with
  | nil => rfl
  | cons s rest ih =>
    rw [textWalk?, walk?, h.textStep?_eq_step?]
    cases hnext : step? d s with
    | none => rfl
    | some next => exact ih (h.next hnext)

end Path

/-! ## The walk in the value -/

namespace Snippet

namespace Value

/-- A value does not know the tags that its document had. -/
theorem ofDocument_untagged (d : Document) : ofDocument d.untagged = ofDocument d := by
  fun_induction Document.untagged d with
  | case1 _ _ ih => rw [ih, ofDocument]
  | case2 => rfl

/-- The values of documents, one by one. -/
theorem ofDocuments_eq_map (ds : List Document) : ofDocuments ds = ds.map ofDocument := by
  induction ds with
  | nil => rw [ofDocuments, List.map_nil]
  | cons d ds ih => rw [ofDocuments, List.map_cons, ih]

/-- Of the keys with a text the last one counts. -/
theorem find?_ofMembers (key : String) (members : List (Document × Document)) :
    Keyed.find? key (Keyed.ascending (ofMembers members)) =
      (Path.lastMember? key members).map ofDocument := by
  rw [Keyed.find?_ascending, Path.lastMember?]
  induction members with
  | nil => rw [ofMembers]; rfl
  | cons m members ih =>
    obtain ⟨k, v⟩ := m
    rw [List.reverse_cons, List.find?_append, Option.map_or, Option.map_or, ofMembers]
    -- the first member is the last one of the reversed list, and only counts if no other does
    cases hk : k.keyText? with
    | none =>
      have hlast : [(k, v)].find? (fun m => decide (m.1.keyText? = some key)) = none := by
        simp [hk]
      rw [hlast]
      simpa using ih
    | some text =>
      have hlast : (([(k, v)].find? fun m => decide (m.1.keyText? = some key)).map (·.2)).map
          ofDocument = Keyed.find? key [(text, ofDocument v)] := by
        by_cases ht : text = key <;> simp [Keyed.find?, hk, ht]
      rw [hlast]
      simp only [List.reverse_cons, Keyed.find?_append, ih]

end Value

namespace Native

/-- **One step in the value** of a document is one step by texts in the document. -/
theorem step?_ofDocument (d : Document) (segment : String) :
    step? (.ofDocument d) segment = (Path.textStep? d.untagged segment).map Value.ofDocument := by
  fun_induction Document.untagged d with
  -- a tag is gone on both sides
  | case1 _ _ ih => rw [Value.ofDocument]; exact ih
  | case2 d huntagged =>
    cases d with
    | sequence items =>
      rw [Value.ofDocument, Value.ofDocuments_eq_map, Path.textStep?, step?, Option.map_bind]
      congr 1
      funext i
      exact List.getElem?_map
    | mapping members =>
      rw [Value.ofDocument]
      exact Value.find?_ofMembers segment members
    | tagged tag content => exact absurd rfl (huntagged tag content)
    | _ => simp only [Value.ofDocument]; rfl

/-- **The walk in the value** of a document is the walk by texts in the document. -/
theorem walk_ofDocument (d : Document) (segments : List String) :
    walk (.ofDocument d) segments =
      ((Path.textWalk? d.untagged segments).map Value.ofDocument).getD .undefined := by
  induction segments generalizing d with
  | nil => exact (Value.ofDocument_untagged d).symm
  | cons s rest ih =>
    rw [walk, step?_ofDocument, Path.textWalk?]
    cases Path.textStep? d.untagged s with
    | none => rfl
    | some next => exact ih next

/-- **The walk in the value of a document**, along every path: it is the walk by texts; it is also
    the walk in the document, if the path is unmistakable; and at minus zero it finds nothing, where
    the walk in the document takes the first item. -/
theorem walk_of_value (d : Document) (p : Path) :
    walk (.ofDocument d) p.segments =
        ((Path.textWalk? d.untagged p.segments).map Value.ofDocument).getD .undefined ∧
      (Path.Unmistakable d.untagged p.segments →
        walk (.ofDocument d) p.segments = ((p.find? d).map Value.ofDocument).getD .undefined) ∧
      ∀ first items segment, d.untagged = .sequence (first :: items) →
        Path.writesMinusZero segment = true → p.segments = [segment] →
        p.find? d = some first.untagged ∧ walk (.ofDocument d) p.segments = .undefined := by
  refine ⟨walk_ofDocument d p.segments, fun hclear => ?_, fun first items segment hd hzero hp => ?_⟩
  · -- both walks are the walk by texts
    rw [walk_ofDocument, hclear.textWalk?_eq_walk?, Path.find?]
  · constructor
    · have hstep : Path.step? (.sequence (first :: items)) segment = some first :=
        Path.item?_of_writesMinusZero hzero
      rw [Path.find?, hp, hd, Path.walk?, hstep]
      rfl
    · have hindex : Number.index? segment.toList = none := Path.index?_of_writesMinusZero hzero
      have hstep : Path.textStep? (.sequence (first :: items)) segment = none := by
        rw [Path.textStep?, hindex]
        rfl
      rw [walk_ofDocument, hp, hd, Path.textWalk?, hstep]
      rfl

/-- Tags are looked through, and a key that is a number is found by its text. -/
theorem walk_of_value_below_tags :
    let d : Document := .tagged "t" (.mapping
      [(.number (.whole 200), .tagged "u" (.sequence [.string "x", .string "y"]))]);
    walk (.ofDocument d) ["200", "1"] = .string "y" ∧
      walk (.ofDocument (.sequence [.string "x"])) ["-0"] = .undefined := by
  intro d
  have hclear : Path.Unmistakable d.untagged ["200", "1"] := by
    refine ⟨by decide +kernel, fun next hnext => ?_⟩
    have hlist : next = .tagged "u" (.sequence [.string "x", .string "y"]) :=
      (Option.some.inj hnext).symm
    subst hlist
    exact ⟨by decide, by decide, fun _ _ => trivial⟩
  constructor
  · have h := walk_of_value d ⟨["200", "1"]⟩
    have hfound : Path.find? ⟨["200", "1"]⟩ d = some (.string "y") := rfl
    rw [hfound] at h
    exact (h.2.1 hclear).trans (by simp [Value.ofDocument])
  · have h := walk_of_value (.sequence [.string "x"]) ⟨["-0"]⟩
    exact (h.2.2 _ _ "-0" rfl (by decide) rfl).2

/-- **The gap**: minus zero is a place in the document and none in its value. -/
theorem walk_of_value_minus_zero :
    ¬ ∀ (text : String) (d : Document) (p : Path), Document.ofText? text = some d →
      walk (.ofDocument d) p.segments = ((p.find? d).map Value.ofDocument).getD .undefined := by
  intro hwalks
  have hread : ((Document.ofText? "- a").map fun d =>
      ((Path.find? ⟨["-0"]⟩ d).map fun e => (Value.ofDocument e).typeName,
        (walk (.ofDocument d) ["-0"]).typeName)) = some (some "string", "undefined") := by
    decide +kernel
  obtain ⟨d, hd, htypes⟩ := Option.map_eq_some_iff.mp hread
  obtain ⟨hfound, hlost⟩ := Prod.mk.inj htypes
  obtain ⟨e, he, htype⟩ := Option.map_eq_some_iff.mp hfound
  have hagree := hwalks "- a" d ⟨["-0"]⟩ hd
  rw [he, Option.map_some, Option.getD_some] at hagree
  rw [hagree, htype] at hlost
  exact absurd hlost (by decide)

end Native

end Snippet

end ExerciseGrading
