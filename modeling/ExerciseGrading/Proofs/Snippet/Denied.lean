/-
  DENIED NAMES: where they can stand in a text that the screen lets through.

  The screen knows words and no grammar; the grammar knows names and not what was screened.  A name
  that the grammar reads begins where a part of a snippet may begin, and to know that it is no
  denied one, that place has to be one where the screen began a word.  Nearly every place is,
  because parts are kept apart by signs and layout; the exception is a numeral, which the grammar
  ends as soon as no digit follows.

  1. `not_denied_of_clear` — there is none at a place to which no word goes on.  The screen looks at
     runs of word characters, and there a run begins.
  2. `behindNumber_of_ready` — where a part of a snippet may begin, a denied name can stand only
     right behind a numeral, since that is the one thing that ends in the middle of a run.
  3. `Fine` — a list of names in which each denied one is `Excused`: an identifier or a parameter
     right behind a numeral, or a key that is a string literal.  Being fine goes along with the
     tree: it holds of a list as soon as it holds of the parts.
-/
import ExerciseGrading.Proofs.Snippet.Denylist
import ExerciseGrading.Proofs.Snippet.Mentions
import ExerciseGrading.Proofs.Snippet.Reading

namespace ExerciseGrading.Snippet

open ExerciseGrading.Snippet.Rule

/-! ## The screen

  The scan that found nothing is followed up to the place in question.  There it is behind no
  word, so that it asked whether a denied name stands there, and none did. -/

/-- Where the screen comes to a text behind no word, no denied name stands at its start. -/
theorem deniedAt?_eq_none {inWord : Bool} {pos : Nat} {before rest : List Char}
    (h : firstDenied? inWord pos (before ++ rest) = none) (hne : rest ≠ [])
    (hlast : (before.getLast?.map isNameChar).getD inWord = false) : deniedAt? rest = none := by
  induction before generalizing inWord pos with
  | nil =>
    obtain ⟨c, s, rfl⟩ := List.exists_cons_of_ne_nil hne
    obtain rfl : inWord = false := hlast
    rw [List.nil_append, firstDenied?] at h
    simp only [Bool.false_eq_true, if_false] at h
    split at h
    · cases h
    · assumption
  | cons c before ih =>
    rw [List.cons_append, firstDenied?] at h
    split at h
    · cases h
    · refine ih h ?_
      -- of a text with one character that character is the last
      rw [List.getLast?_cons] at hlast
      rw [Option.getD_map]
      exact hlast

/-- Denied names begin with letters. -/
theorem head_of_denied : ∀ w ∈ deniedNames, w.toList.head?.any Char.isAlpha = true := by
  decide

/-- So such a name does not begin where only digits and signs may. -/
theorem exists_head_of_denied {w : String} (h : w ∈ deniedNames) :
    ∃ c, w.toList.head? = some c ∧ c.isAlpha = true := by
  have hany := head_of_denied w h
  cases hc : w.toList.head? with
  | none => rw [hc] at hany; cases hany
  | some c => exact ⟨c, rfl, by simpa [hc] using hany⟩

variable {text : List Char} {i : Input} {w : String}

/-- **A screened text has no denied name where no word goes on.** -/
theorem not_denied_of_clear (hscreen : firstDenied? false 0 text = none) (hi : Clear text i)
    (hw : WordAt i w) : w ∉ deniedNames := by
  intro hdenied
  obtain ⟨before, hat, hapart⟩ := hi
  obtain ⟨r, hrest, hend⟩ := hw
  obtain ⟨c, hc, halpha⟩ := exists_head_of_denied hdenied
  have hhead : i.rest.head? = some c := by
    rw [hrest, List.head?_append, hc]
    rfl
  rcases hapart with hlast | hnext
  · -- the screen would have stopped here
    have hne : i.rest ≠ [] := by
      intro he
      rw [he] at hhead
      cases hhead
    rw [hat.text_eq] at hscreen
    have hnone := deniedAt?_eq_none hscreen hne (by
      cases hb : before.getLast? with
      | none => rfl
      | some d => exact hlast d hb)
    have hno := List.find?_eq_none.mp hnone w hdenied
    rw [standsAt, Text.dropStart?_eq_some.mpr hrest] at hno
    exact hno hend
  · -- what follows is no letter, but denied names begin with one
    rw [hnext c hhead] at halpha
    cases halpha

/-- Whether a word stands at a place of a text right behind a numeral. -/
def BehindNumber (text : List Char) (place : Nat) (w : String) : Prop :=
  ∃ earlier numeral after : List Char, text = earlier ++ numeral ++ (w.toList ++ after) ∧
    numeral? (numeral ++ (w.toList ++ after)) = some (numeral, w.toList ++ after) ∧
    place = Text.byteLength (earlier ++ numeral)

/-- **Where a part of a snippet may begin, a denied name stands right behind a numeral.** -/
theorem behindNumber_of_ready (hscreen : firstDenied? false 0 text = none) (hi : Ready text i)
    (hw : WordAt i w) (hdenied : w ∈ deniedNames) : BehindNumber text i.pos w := by
  obtain ⟨before, hat, hapart | ⟨earlier, numeral, rfl, hn⟩⟩ := hi
  · exact absurd hdenied (not_denied_of_clear hscreen ⟨before, hat, hapart⟩ hw)
  · obtain ⟨r, hrest, -⟩ := hw
    rw [hrest] at hn
    refine ⟨earlier, numeral, r, ?_, hn, hat.pos_eq⟩
    rw [← hrest]
    exact hat.text_eq

/-! ## What is accepted

  An excuse is a fact about the text at the place of the name.  So the list of all mentions of a
  tree can be gone through without the tree. -/

/-- Whether a key was read as a string literal: at some place of the text there are the literal, a
    colon and the value. -/
def QuotedKey (text : List Char) (key : String) (value : Expr) : Prop :=
  ∃ (n : Nat) (i j k m : Input), Somewhere text i ∧ stringText i = some (key, j) ∧
    sign ":" (skip j) = some ((), k) ∧ (level n).expr (skip k) = some (value, m)

/-- How a name can be a denied one all the same. -/
def Excused (text : List Char) : Mention → Prop
  | .name span w | .parameter span w => BehindNumber text span.start w
  | .key w value => QuotedKey text w value
  | .binding .. | .property .. => False

/-- Whether every denied name in a list is excused. -/
def Fine (text : List Char) (ms : List Mention) : Prop :=
  ∀ m ∈ ms, m.word ∈ deniedNames → Excused text m

namespace Fine

variable {ms ns : List Mention} {m : Mention}

theorem nil : Fine text [] := fun _ hm => absurd hm List.not_mem_nil

/-- Names of two parts. -/
theorem append (h : Fine text ms) (h' : Fine text ns) : Fine text (ms ++ ns) := by
  intro m hm
  rcases List.mem_append.mp hm with hm | hm
  · exact h m hm
  · exact h' m hm

/-- One name more, which is no denied one or is excused. -/
theorem cons (hm : m.word ∈ deniedNames → Excused text m) (h : Fine text ms) :
    Fine text (m :: ms) := by
  intro m' hm'
  rcases List.mem_cons.mp hm' with rfl | hm'
  · exact hm
  · exact h m' hm'

/-- The names of expressions, each of which has been looked at. -/
theorem of_exprs {es : List Expr} (h : ∀ e ∈ es, Fine text e.mentions) :
    Fine text (mentionsOfExprs es) := by
  intro m hm
  obtain ⟨e, he, hm⟩ := mem_mentionsOfExprs.mp hm
  exact h e he m hm

/-- The names of the members of an object. -/
theorem of_members {members : List Member} (h : ∀ m ∈ members, Fine text m.mentions) :
    Fine text (mentionsOfMembers members) := by
  intro m hm
  obtain ⟨member, hmem, hm⟩ := mem_mentionsOfMembers.mp hm
  exact h member hmem m hm

/-- The names of statements. -/
theorem of_stmts {body : List Stmt} (h : ∀ s ∈ body, Fine text s.mentions) :
    Fine text (mentionsOfStmts body) := by
  intro m hm
  obtain ⟨s, hs, hm⟩ := mem_mentionsOfStmts.mp hm
  exact h s hs m hm

end Fine

end ExerciseGrading.Snippet
