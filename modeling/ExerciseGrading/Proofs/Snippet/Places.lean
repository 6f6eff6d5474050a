/-
  PLACES in the text of a snippet: what stands in front of an input, and where a word can begin.

  1. `Input.At text before i` — the input stands in `text`, behind `before`.
  2. What a literal, a word or a stretch of layout takes is a beginning of the text; `…_eq` says so
     for each of the functions that read one.
  3. `Apart before rest` — no word goes on from `before` to `rest`.  This is so behind everything
     that a snippet is made of but a numeral: `1fs` is a numeral and a word, with nothing between.
  4. `Somewhere`, `Ready` and `Clear` are the places where rules begin and end: any place, one that
     is apart or behind a numeral, and one that is apart.  Layout keeps each of them.

  **The crux (three kinds of places).**  A whole word of the text is a whole word of the snippet
  only if nothing of a word stands in front of it.  A rule cannot know what stood in front of its
  input, so this is said of places and handed on: `Clear` behind a sign, a word, a text or a
  pattern, `Ready` where a numeral may have ended.  Of the two ways to be apart, the first looks
  back (the last character belongs to no word) and the second ahead (the next one begins none).

  Layout is the only thing that may take nothing.  Hence `KeepsApart`: either nothing was taken and
  the place is the old one, or something was, and then its last character belongs to no word.
-/
import ExerciseGrading.Snippet.Grammar
import Mathlib.Data.List.TakeDrop

namespace ExerciseGrading.Snippet

/-! ## What is read is a beginning of the text

  Every function that reads takes something from the front and gives back the rest.  The lemmas
  say so, and what they know of the character behind. -/

/-- The beginning of `dropWhile`. -/
theorem head?_dropWhile_eq_false {α : Type} {p : α → Bool} {s : List α} {c : α}
    (h : (s.dropWhile p).head? = some c) : p c = false := by
  have hnot := List.head?_dropWhile_not p s
  rw [h] at hnot
  exact hnot

/-- Whether a word can end before this text. -/
def atWordEnd : List Char → Bool
  | [] => true
  | c :: _ => !isNameChar c

/-- A word is taken from the front, and it is taken whole. -/
theorem word?_eq {s u r : List Char} (h : word? s = some (u, r)) :
    s = u ++ r ∧ atWordEnd r = true := by
  cases s with
  | nil => cases h
  | cons c s =>
    rw [word?] at h
    split at h
    · obtain ⟨rfl, rfl⟩ := Prod.mk.inj (Option.some.inj h)
      refine ⟨?_, ?_⟩
      · rw [List.cons_append, List.takeWhile_append_dropWhile]
      · cases hd : s.dropWhile isNameChar with
        | nil => rfl
        | cons d r =>
          have hc : isNameChar d = false := head?_dropWhile_eq_false (s := s) (by rw [hd]; rfl)
          simp only [atWordEnd, hc, Bool.not_false]
    · cases h

/-- A keyword is a word with these letters. -/
theorem keyword?_eq {w : String} {s r : List Char} (h : keyword? w s = some r) :
    s = w.toList ++ r ∧ atWordEnd r = true := by
  unfold keyword? at h
  split at h
  · rename_i u rest hu
    split at h
    · rename_i huw
      obtain rfl := Option.some.inj h
      rw [← huw]
      exact word?_eq hu
    · cases h
  · cases h

/-- A name is a word that is no keyword. -/
theorem name?_eq {s r : List Char} {w : String} (h : name? s = some (w, r)) :
    s = w.toList ++ r ∧ atWordEnd r = true := by
  unfold name? at h
  split at h
  · rename_i u rest hu
    dsimp only at h
    split at h
    · cases h
    · obtain ⟨rfl, rfl⟩ := Prod.mk.inj (Option.some.inj h)
      rw [String.toList_ofList]
      exact word?_eq hu
  · cases h

/-- A numeral is taken from the front. Whether a word follows is not asked. -/
theorem numeral?_eq {s n r : List Char} (h : numeral? s = some (n, r)) : s = n ++ r := by
  have hs : s.takeWhile Number.isDigit ++ s.dropWhile Number.isDigit = s :=
    List.takeWhile_append_dropWhile
  unfold numeral? at h
  dsimp only at h
  split at h
  · cases h
  · split at h
    · rename_i r' hr'
      split at h
      · -- a point that no digit follows is left where it is
        obtain ⟨rfl, rfl⟩ := Prod.mk.inj (Option.some.inj h)
        exact hs.symm
      · obtain ⟨rfl, rfl⟩ := Prod.mk.inj (Option.some.inj h)
        rw [List.append_assoc, List.cons_append, List.takeWhile_append_dropWhile, ← hr']
        exact hs.symm
    · obtain ⟨rfl, rfl⟩ := Prod.mk.inj (Option.some.inj h)
      exact hs.symm

/-- A character that hides nothing: it closes the literal, or ends it too early, or is part of
    it. -/
theorem quotedEnd?_cons (q : Char) {c : Char} (hc : c ≠ '\\') (s : List Char) :
    quotedEnd? q (c :: s) = if c = q then some ([], s)
      else if c = '\n' && !spansLines q then none
      else (quotedEnd? q s).map fun m => (c :: m.1, m.2) :=
  quotedEnd?.eq_4 _ _ _ (fun e => absurd e hc) (fun _ _ e => absurd e hc)

/-- The first quote that is not hidden ends the literal. -/
theorem quotedEnd?_eq {q : Char} {s a b : List Char} (h : quotedEnd? q s = some (a, b)) :
    s = a ++ q :: b := by
  fun_induction quotedEnd? q s generalizing a b with
  | case1 => cases h
  | case2 => cases h
  | case3 c s ih =>
    obtain ⟨⟨a', b'⟩, hab, he⟩ := Option.map_eq_some_iff.mp h
    obtain ⟨rfl, rfl⟩ := Prod.mk.inj he
    rw [ih hab]
    rfl
  | case4 s _ _ =>
    obtain ⟨rfl, rfl⟩ := Prod.mk.inj (Option.some.inj h)
    rfl
  | case5 => cases h
  | case6 c s _ _ _ _ ih =>
    obtain ⟨⟨a', b'⟩, hab, he⟩ := Option.map_eq_some_iff.mp h
    obtain ⟨rfl, rfl⟩ := Prod.mk.inj he
    rw [ih hab]
    rfl

/-- A literal stands between two quotes of one kind. -/
theorem quoted?_eq {s a b : List Char} (h : quoted? s = some (a, b)) :
    ∃ q, isQuote q = true ∧ s = q :: a ++ q :: b := by
  cases s with
  | nil => cases h
  | cons q s =>
    rw [quoted?] at h
    split at h
    · rename_i hq
      exact ⟨q, hq, congrArg (q :: ·) (quotedEnd?_eq h)⟩
    · cases h

/-- The first slash that is not hidden ends the pattern. -/
theorem slashedEnd?_eq {s a b : List Char} (h : slashedEnd? s = some (a, b)) :
    s = a ++ '/' :: b := by
  fun_induction slashedEnd? s generalizing a b with
  | case1 => cases h
  | case2 => cases h
  | case3 c s ih =>
    obtain ⟨⟨a', b'⟩, hab, he⟩ := Option.map_eq_some_iff.mp h
    obtain ⟨rfl, rfl⟩ := Prod.mk.inj he
    rw [ih hab]
    rfl
  | case4 s =>
    obtain ⟨rfl, rfl⟩ := Prod.mk.inj (Option.some.inj h)
    rfl
  | case5 => cases h
  | case6 c s _ _ _ _ ih =>
    obtain ⟨⟨a', b'⟩, hab, he⟩ := Option.map_eq_some_iff.mp h
    obtain ⟨rfl, rfl⟩ := Prod.mk.inj he
    rw [ih hab]
    rfl

/-- Behind a pattern and its flags there is no further letter. -/
theorem slashed?_eq {s r : List Char} {pattern flags : String}
    (h : slashed? s = some (pattern, flags, r)) :
    (∃ taken, s = taken ++ r) ∧ ∀ c, r.head? = some c → c.isAlpha = false := by
  unfold slashed? at h
  split at h
  · rename_i s
    split at h
    · rename_i c body rest hend
      obtain ⟨-, he⟩ := Prod.mk.inj (Option.some.inj h)
      obtain ⟨-, rfl⟩ := Prod.mk.inj he
      refine ⟨⟨'/' :: (c :: body) ++ '/' :: rest.takeWhile Char.isAlpha, ?_⟩, fun d hd => ?_⟩
      · rw [slashedEnd?_eq hend]
        simp only [List.cons_append, List.append_assoc, List.takeWhile_append_dropWhile]
      · exact head?_dropWhile_eq_false hd
    · cases h
  · cases h

/-! ## Words that do not run together

  Two facts make a place apart, one about the character behind and one about the character
  ahead.  Layout keeps it in the first way, for a blank and the slash that closes a comment
  belong to no word; a line comment ends before a newline or with the text, and is apart in the
  second. -/

/-- Whether no word goes on from a text to what follows it. -/
def Apart (before rest : List Char) : Prop :=
  (∀ c, before.getLast? = some c → isNameChar c = false) ∨
  (∀ c, rest.head? = some c → c.isAlpha = false)

/-- Whether a text ends in a numeral that ends there. -/
def BehindNumeral (before rest : List Char) : Prop :=
  ∃ earlier numeral, before = earlier ++ numeral ∧
    numeral? (numeral ++ rest) = some (numeral, rest)

/-- Behind a character that belongs to no word nothing goes on. -/
theorem apart_concat (before : List Char) {c : Char} (h : isNameChar c = false)
    (rest : List Char) : Apart (before ++ [c]) rest := by
  refine .inl fun d hd => ?_
  rw [List.getLast?_concat] at hd
  rw [← Option.some.inj hd]
  exact h

/-- Where a word can end no letter follows. -/
theorem apart_of_atWordEnd (before : List Char) {rest : List Char} (h : atWordEnd rest = true) :
    Apart before rest := by
  refine .inr fun c hc => ?_
  cases rest with
  | nil => cases hc
  | cons d r =>
    obtain rfl : d = c := Option.some.inj hc
    simp only [atWordEnd, isNameChar, Char.isAlphanum, Bool.not_eq_true', Bool.or_eq_false_iff] at h
    exact h.1.1.1

/-- A comment ends in a slash. -/
theorem afterComment?_eq {s r : List Char} (h : afterComment? s = some r) :
    ∃ taken, s = taken ++ ['/'] ++ r := by
  fun_induction afterComment? s with
  | case1 s =>
    obtain rfl := Option.some.inj h
    exact ⟨['*'], rfl⟩
  | case2 c s _ ih =>
    obtain ⟨taken, rfl⟩ := ih h
    exact ⟨c :: taken, rfl⟩
  | case3 => cases h

/-- Whether `rest` is an end of `s`, and apart from what stands before it if that is not all of
    `s`. -/
def KeepsApart (before s rest : List Char) : Prop :=
  ∃ taken, s = taken ++ rest ∧ (taken = [] ∨ Apart (before ++ taken) rest)

theorem keepsApart_self (before s : List Char) : KeepsApart before s s := ⟨[], rfl, .inl rfl⟩

/-- What is taken first keeps words apart, also if nothing is taken after it. -/
theorem keepsApart_append {before first s rest : List Char} (hfirst : Apart (before ++ first) s)
    (h : KeepsApart (before ++ first) s rest) : KeepsApart before (first ++ s) rest := by
  obtain ⟨taken, rfl, ht⟩ := h
  refine ⟨first ++ taken, (List.append_assoc ..).symm, .inr ?_⟩
  rw [← List.append_assoc]
  rcases ht with rfl | ht
  · rw [List.append_nil]
    exact hfirst
  · exact ht

/-- **Layout keeps words apart**: behind a blank or a comment, if there was one, none goes on. -/
theorem skipLayout_keepsApart (before s : List Char) : KeepsApart before s (skipLayout s) := by
  fun_induction skipLayout s generalizing before with
  | case1 r ih =>
    -- a line comment ends before the end of the line, which is a blank, or with the text
    have hapart : Apart (before ++ ('/' :: '/' :: r.takeWhile (· ≠ '\n')))
        (r.dropWhile (· ≠ '\n')) := by
      refine .inr fun c hc => ?_
      have hnl := head?_dropWhile_eq_false hc
      obtain rfl : c = '\n' := by simpa using hnl
      rfl
    have h := keepsApart_append hapart (ih _)
    rwa [List.cons_append, List.cons_append, List.takeWhile_append_dropWhile] at h
  -- a comment ends in a slash, which belongs to no word
  | case2 r r' hr ih =>
    obtain ⟨taken, rfl⟩ := afterComment?_eq hr
    have hapart : Apart (before ++ ('/' :: '*' :: taken ++ ['/'])) r' := by
      rw [← List.append_assoc]
      exact apart_concat _ rfl r'
    exact keepsApart_append hapart (ih _)
  | case3 r _ => exact keepsApart_self before _
  -- a blank belongs to no word
  | case4 c r _ _ hc ih =>
    have hname : isNameChar c = false := by
      simp only [isSpace, Bool.or_eq_true, decide_eq_true_eq] at hc
      rcases hc with ((rfl | rfl) | rfl) | rfl <;> rfl
    exact keepsApart_append (apart_concat before hname r) (ih _)
  | case5 c r _ _ _ => exact keepsApart_self before _
  | case6 => exact keepsApart_self before _

/-! ## Places

  A place is an input together with the text in front of it, which the input does not carry.
  The three kinds of places form a chain, and what a rule takes leads from one place to the
  next. -/

/-- An input that stands in a text, behind `before`. -/
structure Input.At (text before : List Char) (i : Input) : Prop where
  text_eq : text = before ++ i.rest
  pos_eq : i.pos = Text.byteLength before

/-- What was taken is behind the input now, and its bytes were counted. -/
theorem Input.At.after {text before taken r : List Char} {i : Input} (h : i.At text before)
    (hr : i.rest = taken ++ r) : (i.after r).At text (before ++ taken) where
  text_eq := by
    rw [h.text_eq, hr, List.append_assoc]
    rfl
  pos_eq := by
    show i.pos + (Text.byteLength i.rest - Text.byteLength r) = _
    rw [h.pos_eq, hr, Text.byteLength_append, Text.byteLength_append, Nat.add_sub_cancel]

theorem Input.at_ofText (s : String) : (Input.ofText s).At s.toList [] := ⟨rfl, rfl⟩

/-- Any place in a text. -/
def Somewhere (text : List Char) (i : Input) : Prop := ∃ before, i.At text before

/-- A place to which no word goes on. -/
def Clear (text : List Char) (i : Input) : Prop :=
  ∃ before, i.At text before ∧ Apart before i.rest

/-- A place at which a part of a snippet may begin: to which no word goes on, or behind a
    numeral. -/
def Ready (text : List Char) (i : Input) : Prop :=
  ∃ before, i.At text before ∧ (Apart before i.rest ∨ BehindNumeral before i.rest)

section Places

variable {text : List Char} {i : Input}

/-- A clear place is ready, and a ready one is a place. -/
theorem Clear.ready (h : Clear text i) : Ready text i :=
  let ⟨before, hat, hapart⟩ := h
  ⟨before, hat, .inl hapart⟩

theorem Ready.somewhere (h : Ready text i) : Somewhere text i :=
  let ⟨before, hat, _⟩ := h
  ⟨before, hat⟩

theorem Clear.somewhere (h : Clear text i) : Somewhere text i := h.ready.somewhere

theorem clear_ofText (s : String) : Clear s.toList (Input.ofText s) :=
  ⟨[], Input.at_ofText s, .inl fun _ hc => nomatch hc⟩

/-- Layout leads from a place to a place … -/
theorem Somewhere.skip (h : Somewhere text i) : Somewhere text (skip i) := by
  obtain ⟨before, hat⟩ := h
  obtain ⟨taken, htaken, -⟩ := skipLayout_keepsApart before i.rest
  exact ⟨_, hat.after htaken⟩

/-- … from a ready one to a ready one, since taking nothing keeps what was in front … -/
theorem Ready.skip (h : Ready text i) : Ready text (skip i) := by
  obtain ⟨before, hat, hplace⟩ := h
  obtain ⟨taken, htaken, hskip⟩ := skipLayout_keepsApart before i.rest
  refine ⟨_, hat.after htaken, ?_⟩
  rcases hskip with rfl | hapart
  · -- nothing is skipped, and the place is the same
    have hrest : (Snippet.skip i).rest = i.rest := htaken.symm
    rw [List.append_nil, hrest]
    exact hplace
  · exact .inl hapart

theorem Clear.skip (h : Clear text i) : Clear text (skip i) := by
  obtain ⟨before, hat, hplace⟩ := h
  obtain ⟨taken, htaken, hskip⟩ := skipLayout_keepsApart before i.rest
  refine ⟨_, hat.after htaken, ?_⟩
  rcases hskip with rfl | hapart
  · have hrest : (Snippet.skip i).rest = i.rest := htaken.symm
    rw [List.append_nil, hrest]
    exact hplace
  · exact hapart

end Places

end ExerciseGrading.Snippet
