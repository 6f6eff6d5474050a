/-
  SPLITTING, JOINING AND REPLACING: three methods that look for the same occurrences.

  1. `splitParts_of_text` — a separator that is no pattern counts by its text.
  2. `split_text`, `join_texts` — what the two methods do, on texts.
  3. `replace_of_first`, `replace_of_absent` — what a replacement changes.
  4. `splitting_agrees` — the laws that follow for the calls of the methods.

  What the three have in common is `Text.cut`: the text before the first occurrence and the text
  after it.  Splitting cuts again and again, replacing all puts something else in between, and
  replacing cuts once.  The laws are laws of `Text` on lists of characters; here they are carried
  over to the values that the calls give.
-/
import ExerciseGrading.Proofs.Snippet.Methods
import ExerciseGrading.Proofs.Text.Occurrences

namespace ExerciseGrading.Snippet

/-! ## The methods on texts -/

section

variable (s p r : String)

/-- The parts of a text between the occurrences of another; its characters if that is empty. -/
def partsBy : List String := (Text.splitBy s.toList p.toList).map String.ofList

theorem toList_partsBy : (partsBy s p).map String.toList = Text.splitBy s.toList p.toList := by
  rw [partsBy, List.map_map]
  exact (List.map_congr_left fun part _ => String.toList_ofList).trans (List.map_id _)

variable {s p} in
/-- A separator that is not empty is looked for. -/
theorem partsBy_eq (hp : p ≠ "") :
    partsBy s p = (Text.splitAt p.toList s.toList).map String.ofList := by
  rw [partsBy, Text.splitBy, if_neg (mt String.toList_eq_nil_iff.mp hp)]

/-- No part has an occurrence left. -/
theorem not_infix_of_mem_partsBy {part : String} (hp : p ≠ "") (h : part ∈ partsBy s p) :
    ¬ p.toList <:+: part.toList := by
  rw [partsBy_eq hp] at h
  obtain ⟨chars, hchars, rfl⟩ := List.mem_map.mp h
  rw [String.toList_ofList]
  exact Text.not_infix_of_mem_splitAt (mt String.toList_eq_nil_iff.mp hp) s.toList hchars

/-- What is before the first occurrence is the first part. -/
theorem head?_partsBy {first rest : List Char} (hp : p ≠ "")
    (h : Text.FirstOccurrence p.toList s.toList first rest) :
    (partsBy s p).head? = some (String.ofList first) := by
  have hcut := Text.cut_eq_some_iff.mpr h
  rw [partsBy_eq hp, Text.splitAt_of_some (mt String.toList_eq_nil_iff.mp hp) hcut]
  rfl

/-- What is neither `undefined` nor a pattern separates as its text does. -/
theorem splitParts_of_text {v : Value} (hdefined : v ≠ .undefined) (hplain : ∀ q, v ≠ .pattern q) :
    TextMethod.splitParts s v = TextMethod.splitParts s (.string v.text) := by
  cases v with
  | undefined => exact absurd rfl hdefined
  | pattern q => exact absurd rfl (hplain q)
  | null | bool | number | string | list | object | arrow | native => rfl

/-- A text is split into texts. -/
theorem split_text :
    TextMethod.split.call s [.string p] = .ok (.list ((partsBy s p).map .string)) := by
  rw [partsBy, List.map_map]
  rfl

/-- Texts are joined with a text between them. -/
theorem join_texts (parts : List String) :
    ListMethod.join.call (parts.map .string) [.string r] =
      .string (String.ofList (Text.join r.toList (parts.map String.toList))) := by
  show Value.string (ListMethod.joined r (parts.map .string)) = _
  rw [ListMethod.joined, List.map_map]
  rfl

/-- To replace all occurrences is to join the parts with something else. -/
theorem replaceAll_text (hp : p ≠ "") :
    TextMethod.replaceAll.call s [.string p, .string r] =
      .ok (ListMethod.join.call ((partsBy s p).map .string) [.string r]) := by
  have hp' : p.toList ≠ [] := mt String.toList_eq_nil_iff.mp hp
  show Except.ok (Value.string (String.ofList (Text.replaceAll p.toList r.toList s.toList))) = _
  rw [join_texts, toList_partsBy, Text.replaceAll_eq_join hp', Text.splitBy, if_neg hp']

/-- A replacement changes the first occurrence only. -/
theorem replace_of_first {first rest : List Char}
    (h : Text.FirstOccurrence p.toList s.toList first rest) :
    TextMethod.replace.call s [.string p, .string r] =
      .ok (.string (String.ofList first ++ r ++ String.ofList rest)) := by
  show Except.ok (Value.string (String.ofList (Text.replaceFirst p.toList r.toList s.toList))) = _
  rw [Text.replaceFirst, Text.cut_eq_some_iff.mpr h]
  dsimp only
  rw [String.ofList_append, String.ofList_append, String.ofList_toList]

/-- What does not occur is not replaced. -/
theorem replace_of_absent (h : ¬ p.toList <:+: s.toList) :
    TextMethod.replace.call s [.string p, .string r] = .ok (.string s) := by
  show Except.ok (Value.string (String.ofList (Text.replaceFirst p.toList r.toList s.toList))) = _
  rw [Text.replaceFirst, Text.cut_eq_none_iff.mpr h]
  dsimp only
  rw [String.ofList_toList]

end

/-! ## The calls

  What is left is that the calls go to these methods, with these arguments. -/

section

variable (invoke : Invoke) (span : Span)

/-- Splits a text and joins the parts. -/
def splitJoined (s : String) (separator glue : Value) : Eval Value := do
  let parts ← callMethod invoke (.string s) "split" [separator] span
  callMethod invoke parts "join" [glue] span

/-- The call of the first method … -/
theorem gives_split (s p : String) :
    Gives (callMethod invoke (.string s) "split" [.string p] span)
      (.list ((partsBy s p).map .string)) :=
  gives_text invoke _ span .split (split_text s p)

/-- … and of both, one after the other. -/
theorem gives_splitJoined (s p r : String) :
    Gives (splitJoined invoke span s (.string p) (.string r))
      (ListMethod.join.call ((partsBy s p).map .string) [.string r]) :=
  (gives_split invoke span s p).bind (gives_list invoke _ span .join _)

end

/-- **Splitting, joining and replacing agree.**  Joining the parts with the separator gives back the
    text.  A separator that is no pattern counts by its text.  No part has an occurrence of the
    separator left, unless that is empty.  To replace all occurrences is to split and to join, and
    to replace is to change the first occurrence only. -/
theorem splitting_agrees (invoke : Invoke) (span : Span) (s : String) :
    (∀ p : String, Gives (splitJoined invoke span s (.string p) (.string p)) (.string s)) ∧
    (∀ v : Value, v ≠ .undefined → (∀ q, v ≠ .pattern q) → ∃ parts : List Value,
      Gives (callMethod invoke (.string s) "split" [v] span) (.list parts) ∧
      Gives (callValue invoke (.native .string) [v] span >>= fun t =>
        callMethod invoke (.string s) "split" [t] span) (.list parts)) ∧
    (∀ p r : String, p ≠ "" → ∃ (parts : List String) (replaced : String),
      Gives (callMethod invoke (.string s) "split" [.string p] span)
        (.list (parts.map .string)) ∧
      (∀ part ∈ parts, ¬ p.toList <:+: part.toList) ∧
      Gives (splitJoined invoke span s (.string p) (.string r)) (.string replaced) ∧
      Gives (callMethod invoke (.string s) "replaceAll" [.string p, .string r] span)
        (.string replaced) ∧
      (p.toList <:+: s.toList → ∃ first rest : String, parts.head? = some first ∧
        Text.FirstOccurrence p.toList s.toList first.toList rest.toList ∧
        Gives (callMethod invoke (.string s) "replace" [.string p, .string r] span)
          (.string (first ++ r ++ rest))) ∧
      (¬ p.toList <:+: s.toList →
        Gives (callMethod invoke (.string s) "replace" [.string p, .string r] span)
          (.string s))) := by
  refine ⟨fun p => ?_, fun v hdefined hplain => ?_, fun p r hp => ?_⟩
  · have hjoined := gives_splitJoined invoke span s p p
    rw [join_texts, toList_partsBy, Text.join_splitBy, String.ofList_toList] at hjoined
    exact hjoined
  · -- the text of the separator is what `String` gives, and it splits alike
    have hsplit : TextMethod.split.call s [v] = .ok (.list (TextMethod.splitParts s v)) := rfl
    have htext : TextMethod.split.call s [.string v.text] =
        .ok (.list (TextMethod.splitParts s v)) := by
      rw [splitParts_of_text s hdefined hplain]
      rfl
    refine ⟨TextMethod.splitParts s v, gives_text invoke _ span .split hsplit, ?_⟩
    exact (gives_native invoke _ span .string rfl).bind (gives_text invoke _ span .split htext)
  · -- to replace all is to split and join, so that one text is given twice
    have hjoined := gives_splitJoined invoke span s p r
    have hall := gives_text invoke _ span .replaceAll (replaceAll_text s p r hp)
    rw [join_texts] at hjoined hall
    refine ⟨partsBy s p, _, gives_split invoke span s p,
      fun part hpart => not_infix_of_mem_partsBy s p hp hpart, hjoined, hall,
      fun hoccurs => ?_, fun habsent => ?_⟩
    · obtain ⟨first, rest, hfirst⟩ := Text.exists_firstOccurrence hoccurs
      refine ⟨String.ofList first, String.ofList rest, head?_partsBy s p hp hfirst, ?_, ?_⟩
      · rw [String.toList_ofList, String.toList_ofList]
        exact hfirst
      · exact gives_text invoke _ span .replace (replace_of_first s p r hfirst)
    · exact gives_text invoke _ span .replace (replace_of_absent s p r habsent)

/-- Of two occurrences that overlap the first is replaced; `null` separates by its name. -/
theorem splitting_agrees_overlapping :
    "aa" ≠ "" ∧ "aa".toList <:+: "aaa".toList ∧ Value.null ≠ .undefined ∧
    (∀ q, Value.null ≠ .pattern q) ∧
    (∃ first rest : String, Text.FirstOccurrence "aa".toList "aaa".toList first.toList rest.toList ∧
      Gives (callMethod (invokeArrow 0) (.string "aaa") "replace"
        [.string "aa", .string "b"] ⟨0, 0⟩) (.string (first ++ "b" ++ rest))) ∧
    ∃ parts, Gives (callMethod (invokeArrow 0) (.string "aaa") "split" [.null] ⟨0, 0⟩)
      (.list parts) := by
  have hp : "aa" ≠ "" := by decide
  have hoccurs : "aa".toList <:+: "aaa".toList := ⟨[], ['a'], by decide⟩
  have hdefined : Value.null ≠ .undefined := by simp
  have hplain : ∀ q, Value.null ≠ .pattern q := by simp
  obtain ⟨-, hnull, hparts⟩ := splitting_agrees (invokeArrow 0) ⟨0, 0⟩ "aaa"
  obtain ⟨parts, hsplit, -⟩ := hnull .null hdefined hplain
  obtain ⟨_, _, -, -, -, -, hreplace, -⟩ := hparts "aa" "b" hp
  obtain ⟨first, rest, -, hfirst, hgives⟩ := hreplace hoccurs
  exact ⟨hp, hoccurs, hdefined, hplain, ⟨first, rest, hfirst, hgives⟩, parts, hsplit⟩

example : partsBy "aaaaa" "aa" = ["", "", "a"] := by decide +kernel

end ExerciseGrading.Snippet
