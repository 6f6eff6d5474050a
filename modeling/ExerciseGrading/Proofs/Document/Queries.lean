/-
  QUERIES compose: a path goes on where another one ends, and a printed index is an index.

  1. `integer?_digits` — the digits of a number are read as that number.  Printing takes the last
     digit first, and reading adds up from the first; the induction is on the number, and takes the
     last digit off the end of both.
  2. `segments_append`, `segments_of_no_dot` — a dot puts the segments of two paths one behind the
     other; a text without a dot is one segment.
  3. `query?_append` — to ask for a longer path is to ask for the rest of it where the first part
     leads.  A query strips the tags of what it begins with, and what a query finds has none left
     (`untagged_of_query?`), so that the second query begins where the first one ended.
  4. `query?_index`, `query?_name` — one segment alone: a printed index leads to the item with that
     index, and a name that is no number to the field of that name.
-/
import ExerciseGrading.Document.Path

namespace ExerciseGrading

/-! ## Printed numbers -/

namespace Number

/-- Each digit is read as its value. -/
theorem digitValue?_digitChar : ∀ d < 10, digitValue? 10 (Nat.digitChar d) = some d := by decide

/-- Digits are added up from the left. -/
theorem foldlM_digits (n : Nat) :
    (digits n).foldlM (fun acc c => (digitValue? 10 c).map (acc * 10 + ·)) 0 = some n := by
  induction n using Nat.strongRecOn with
  | ind n ih =>
    unfold digits at ih ⊢
    by_cases hn : n < 10
    · rw [Nat.toDigits_of_lt_base hn, List.foldlM_cons, digitValue?_digitChar n hn]
      simp
    · -- the last digit comes off the end
      have hlast : n % 10 < 10 := Nat.mod_lt n (by omega)
      have hsum : n / 10 * 10 + n % 10 = n := by omega
      rw [Nat.toDigits_of_base_le (by omega) (by omega), List.foldlM_append, ih (n / 10) (by omega)]
      simp [digitValue?_digitChar (n % 10) hlast, hsum]

/-- The digits of a number are there, and they are read as the number. -/
theorem natural?_digits (n : Nat) : natural? 10 (digits n) = some n := by
  rw [natural?, if_neg (show digits n ≠ [] from Nat.toDigits_ne_nil), foldlM_digits]

/-- No sign and no dot is a digit. -/
theorem not_mem_digits {c : Char} (hc : c.isDigit = false) (n : Nat) : c ∉ digits n := by
  intro hmem
  have hdigit : c.isDigit = true :=
    Nat.isDigit_of_mem_toDigits (by omega) (Nat.le_refl 10) hmem
  rw [hc] at hdigit
  cases hdigit

/-- **The digits of a number are read as that number.** -/
theorem integer?_digits (n : Nat) : integer? (digits n) = some (n : Int) := by
  have hsign : ∀ {c : Char}, c.isDigit = false → ∀ r, digits n ≠ c :: r := fun hc r hr =>
    not_mem_digits hc n (hr ▸ List.mem_cons_self)
  rw [integer?_unsigned (hsign (by decide)) (hsign (by decide)), natural?_digits]
  rfl

end Number

/-! ## Segments -/

namespace Path

/-- A dot ends a part, whatever stands behind it. -/
theorem cutAtDots_append (p q : List Char) :
    cutAtDots (p ++ '.' :: q) = cutAtDots p ++ cutAtDots q := by
  induction p with
  | nil => simp [cutAtDots]
  | cons c p ih =>
    rw [List.cons_append, cutAtDots, cutAtDots, ih]
    -- a dot begins a new part, anything else goes to the first part of the rest
    by_cases hc : c = '.'
    · rw [if_pos hc, if_pos hc, List.cons_append]
    · rw [if_neg hc, if_neg hc]
      cases hp : cutAtDots p with
      | nil => exact absurd hp (cutAtDots_ne_nil p)
      | cons first rest => rfl

/-- A text without a dot is a single part. -/
theorem cutAtDots_of_no_dot {s : List Char} (h : '.' ∉ s) : cutAtDots s = [s] := by
  induction s with
  | nil => rfl
  | cons c s ih =>
    rw [List.mem_cons, not_or] at h
    rw [cutAtDots, if_neg (Ne.symm h.1), ih h.2]

/-- A dot between two texts puts their segments one behind the other. -/
theorem segments_append (p q : String) :
    (ofText (p ++ "." ++ q)).segments = (ofText p).segments ++ (ofText q).segments := by
  have htext : (p ++ "." ++ q).toList = p.toList ++ '.' :: q.toList := by simp
  rw [ofText, htext, cutAtDots_append, List.map_append]
  rfl

/-- A name without a dot is a single segment. -/
theorem segments_of_no_dot {name : String} (h : '.' ∉ name.toList) :
    (ofText name).segments = [name] := by
  rw [ofText, cutAtDots_of_no_dot h, List.map_singleton, String.ofList_toList]

/-- What is found has no tag of its own. -/
theorem untagged_of_walk? {d e : Document} {segments : List String} (hd : d.untagged = d)
    (h : walk? d segments = some e) : e.untagged = e := by
  induction segments generalizing d with
  | nil => rwa [← Option.some.inj h]
  | cons s rest ih =>
    rw [walk?] at h
    cases hstep : step? d s with
    | none => rw [hstep] at h; cases h
    | some next =>
      rw [hstep] at h
      exact ih next.untagged_untagged h

/-- A name that is read as a number that 64 bits hold is taken for a place in a list. -/
def ReadsAsInt64 (name : String) : Prop :=
  ∃ n, Number.integer? name.toList = some n ∧ Number.minInt64 ≤ n ∧ n ≤ Number.maxInt64

/-- A name that is not read as a number is no place in any list. -/
theorem item?_of_not_readsAsInt64 {α : Type} {name : String} (h : ¬ ReadsAsInt64 name)
    (items : List α) : item? name items = none := by
  unfold item?
  cases hn : Number.integer? name.toList with
  | none => rfl
  | some n =>
    -- what no word holds is refused before it is compared with the length
    refine if_neg fun hrange => h ⟨n, hn, ?_, hrange.2⟩
    exact Int.le_trans (by decide) hrange.1

/-- A printed index is the place that it names. -/
theorem item?_intText {α : Type} {items : List α} {i : Nat} (hi : (i : Int) ≤ Number.maxInt64) :
    item? (Number.intText i) items = items[i]? := by
  have hread : Number.integer? (Number.intText i).toList = some (i : Int) := by
    show Number.integer? (String.ofList (Number.digits i)).toList = _
    rw [String.toList_ofList, Number.integer?_digits]
  rw [item?, hread]
  exact if_pos ⟨Int.natCast_nonneg i, hi⟩

/-- A printed number is a single segment. -/
theorem segments_intText (i : Nat) : (ofText (Number.intText i)).segments = [Number.intText i] := by
  refine segments_of_no_dot ?_
  show '.' ∉ (String.ofList (Number.digits i)).toList
  rw [String.toList_ofList]
  exact Number.not_mem_digits (by decide) i

end Path

/-! ## Queries -/

namespace Document

/-- A query ends at a document without a tag of its own. -/
theorem untagged_of_query? {d e : Document} {path : String} (h : d.query? path = some e) :
    e.untagged = e :=
  Path.untagged_of_walk? d.untagged_untagged h

/-- **A longer path is asked for where the shorter one leads.** -/
theorem query?_append (d : Document) (p q : String) :
    d.query? (p ++ "." ++ q) = (d.query? p).bind fun e => e.query? q := by
  rw [query?, Path.find?, Path.segments_append, Path.walk?_append]
  show (d.query? p).bind _ = _
  cases h : d.query? p with
  | none => rfl
  | some e =>
    show Path.walk? e _ = Path.walk? e.untagged _
    rw [untagged_of_query? h]

/-- A printed index leads to the item with that index. -/
theorem query?_index {d : Document} {items : List Document} (hd : d.untagged = .sequence items)
    {i : Nat} (hi : (i : Int) ≤ Number.maxInt64) :
    d.query? (Number.intText i) = items[i]?.map untagged := by
  rw [query?, Path.find?, Path.segments_intText, hd, Path.walk?, Path.step?, Path.item?_intText hi]
  cases items[i]? <;> rfl

/-- A name without a dot that is no number leads to the field of that name. -/
theorem query?_name {name : String} (hdot : '.' ∉ name.toList) (hnumber : ¬ Path.ReadsAsInt64 name)
    (d : Document) : d.query? name = d.field? name := by
  rw [query?, Path.find?, Path.segments_of_no_dot hdot, field?, Path.walk?]
  cases d.untagged with
  | sequence items => rw [Path.step?, Path.item?_of_not_readsAsInt64 hnumber]
  | mapping members =>
    rw [Path.step?]
    dsimp only
    cases member? name members <;> rfl
  | _ => rfl

end Document

end ExerciseGrading
