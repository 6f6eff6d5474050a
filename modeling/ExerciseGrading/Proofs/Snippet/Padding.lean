/-
  PADDING: what blanks around a text change for those who read it from the start.

  1. `Blanks u` — a text of blanks; `Pads s t` — `t` is `s` with blanks after it.
  2. A word, a numeral, a literal that stands at the start of a text stands at the start of the
     padded text: one lemma `…_pad` for each function that reads one.  Where none stands, none
     stands in the padded text either, since nothing begins with a blank, goes on with one, or is
     closed by one.
  3. `skipLayout_pads` — of two texts, one of them padded, layout leaves two such texts; not always
     with the same blanks, as a line comment at the end takes those up to the next line.
     `skipLayout_blanks` — blanks in front are passed over.
  4. `firstDenied?_around` — the screen finds one word in both.

  **The crux (the end of the text).**  A function that reads from the start differs on `s` and on `s
  ++ u` only where `s` is used up.  So each proof follows the recursion of its function, and all
  cases but the last are the induction hypothesis; in the last one the text is `u` alone, and the
  question is what the function does with blanks.  The answers differ: a run of characters ends
  (`takeWhile_blanks`), a literal is not closed (`quotedEnd?_blanks`, `slashedEnd?_blanks`), a
  comment is not either (`afterComment?_blanks`), and layout goes on to the end.

  That a character is no blank is checked for the four blanks at once: `not_of_isSpace` takes the
  answers from a `decide` over them, and `ne_of_isSpace` tells a blank from a given sign.
-/
import ExerciseGrading.Proofs.Snippet.Denied
import Mathlib.Data.List.Find

namespace ExerciseGrading.Snippet

/-- A text of blanks. -/
def Blanks (u : List Char) : Prop := ∀ c ∈ u, isSpace c = true

/-- The text `t` is `s` with blanks after it. -/
def Pads (s t : List Char) : Prop := ∃ u, Blanks u ∧ t = s ++ u

theorem Blanks.tail {c : Char} {u : List Char} (h : Blanks (c :: u)) : Blanks u :=
  fun d hd => h d (List.mem_cons_of_mem c hd)

theorem Blanks.head {c : Char} {u : List Char} (h : Blanks (c :: u)) : isSpace c = true :=
  h c List.mem_cons_self

theorem isSpace_cases {c : Char} (h : isSpace c = true) :
    c = ' ' ∨ c = '\t' ∨ c = '\r' ∨ c = '\n' := by
  simpa only [isSpace, Bool.or_eq_true, decide_eq_true_eq, or_assoc] using h

/-- A blank is none of the characters that a text is made of otherwise. -/
theorem not_of_isSpace {p : Char → Bool} (hp : [' ', '\t', '\r', '\n'].all fun c => !p c) {c : Char}
    (h : isSpace c = true) : p c = false := by
  simp only [List.all_cons, List.all_nil, Bool.and_true, Bool.and_eq_true, Bool.not_eq_true'] at hp
  rcases isSpace_cases h with rfl | rfl | rfl | rfl
  · exact hp.1
  · exact hp.2.1
  · exact hp.2.2.1
  · exact hp.2.2.2

/-- A blank is no sign. -/
theorem ne_of_isSpace {c d : Char} (h : isSpace c = true) (hd : isSpace d = false) : c ≠ d := by
  rintro rfl
  rw [h] at hd
  cases hd

/-- What two patterns of the literal functions exclude. -/
theorem ne_backslash {c : Char} {s : List Char} (hnil : c = '\\' → s = [] → False)
    (hcons : ∀ (d : Char) (t : List Char), c = '\\' → s = d :: t → False) : c ≠ '\\' := by
  rintro rfl
  cases s with
  | nil => exact hnil rfl rfl
  | cons d s => exact hcons d s rfl rfl

section Pad

variable {u : List Char} (hu : Blanks u)
include hu

/-! ## Runs of characters

  A run ends at the first character that does not belong to it.  At the end of the text that is
  now the first blank, which belongs to none of the runs in question; so the run is the same,
  and the blanks are part of what is left. -/

/-- A run of characters that are no blanks takes nothing from blanks. -/
theorem takeWhile_blanks {p : Char → Bool} (hp : [' ', '\t', '\r', '\n'].all fun c => !p c) :
    u.takeWhile p = [] ∧ u.dropWhile p = u := by
  cases u with
  | nil => exact ⟨rfl, rfl⟩
  | cons c u =>
    have hc := not_of_isSpace hp hu.head
    exact ⟨List.takeWhile_cons_of_neg (by simp [hc]), List.dropWhile_cons_of_neg (by simp [hc])⟩

/-- A run of characters that are no blanks ends where it did. -/
theorem takeWhile_pad {p : Char → Bool} (hp : [' ', '\t', '\r', '\n'].all fun c => !p c)
    (s : List Char) :
    (s ++ u).takeWhile p = s.takeWhile p ∧ (s ++ u).dropWhile p = s.dropWhile p ++ u := by
  induction s with
  | nil => exact takeWhile_blanks hu hp
  | cons c s ih =>
    by_cases hc : p c = true
    · simp only [List.cons_append, List.takeWhile_cons_of_pos hc, List.dropWhile_cons_of_pos hc, ih,
        and_self]
    · simp only [List.cons_append, List.takeWhile_cons_of_neg hc, List.dropWhile_cons_of_neg hc,
        and_self]

/-- A text without blanks stands at the start of the padded text if it stood there before. -/
theorem dropStart?_pad {p : List Char} (hp : p.all fun c => !isSpace c) (s : List Char) :
    Text.dropStart? p (s ++ u) = (Text.dropStart? p s).map (· ++ u) := by
  induction p generalizing s with
  | nil => rfl
  | cons a p ih =>
    simp only [List.all_cons, Bool.and_eq_true, Bool.not_eq_true'] at hp
    cases s with
    | nil =>
      cases u with
      | nil => rfl
      | cons c u =>
        have hne : ¬a = c := fun e => ne_of_isSpace hu.head hp.1 e.symm
        simp only [List.nil_append, Text.dropStart?, if_neg hne, Option.map_none]
    | cons b s =>
      simp only [List.cons_append, Text.dropStart?]
      split
      · exact ih hp.2 s
      · rfl

/-- A word that can end before a text can end before blanks too. -/
theorem atWordEnd_pad (s : List Char) : atWordEnd (s ++ u) = atWordEnd s := by
  cases s with
  | cons c s => rfl
  | nil =>
    cases u with
    | nil => rfl
    | cons c u =>
      have hc : isNameChar c = false := not_of_isSpace (by decide) hu.head
      simp only [List.nil_append, atWordEnd, hc, Bool.not_false]

/-! ## Words and numerals

  Both are runs of characters that are no blanks, so that `takeWhile_pad` does the work; a
  numeral looks one character further, for a point. -/

/-- Where the text ends the word ends, and it does so before a blank. -/
theorem word?_pad (s : List Char) : word? (s ++ u) = (word? s).map fun m => (m.1, m.2 ++ u) := by
  cases s with
  | nil =>
    cases u with
    | nil => rfl
    | cons c u =>
      have hc : isNameStart c = false := not_of_isSpace (by decide) hu.head
      simp only [List.nil_append, word?, hc, Bool.false_eq_true, if_false, Option.map_none]
  | cons c s =>
    obtain ⟨htake, hdrop⟩ := takeWhile_pad hu (p := isNameChar) (by decide) s
    simp only [List.cons_append, word?, htake, hdrop]
    split <;> rfl

/-- So a keyword is found or not found alike … -/
theorem keyword?_pad (w : String) (s : List Char) :
    keyword? w (s ++ u) = (keyword? w s).map (· ++ u) := by
  unfold keyword?
  rw [word?_pad hu]
  cases word? s with
  | none => rfl
  | some m =>
    simp only [Option.map_some]
    split <;> rfl

/-- … and so is a name. -/
theorem name?_pad (s : List Char) : name? (s ++ u) = (name? s).map fun m => (m.1, m.2 ++ u) := by
  unfold name?
  rw [word?_pad hu]
  cases word? s with
  | none => rfl
  | some m =>
    simp only [Option.map_some]
    split <;> rfl

/-- A numeral: its digits, and the point with the digits behind it. -/
theorem numeral?_pad (s : List Char) :
    numeral? (s ++ u) = (numeral? s).map fun m => (m.1, m.2 ++ u) := by
  obtain ⟨htake, hdrop⟩ := takeWhile_pad hu (p := Number.isDigit) (by decide) s
  unfold numeral?
  simp only [htake, hdrop]
  split
  · rfl
  · cases hrest : s.dropWhile Number.isDigit with
    | nil =>
      -- what was the end of the text is followed by a blank, which is no point
      cases u with
      | nil => rfl
      | cons c u =>
        have hc : c ≠ '.' := ne_of_isSpace hu.head rfl
        simp only [List.nil_append]
        split
        · rename_i r hr
          exact absurd (List.cons.inj hr).1 hc
        · rfl
    | cons c r =>
      -- only a point may go on with a numeral, and what is behind it is padded too
      by_cases hc : c = '.'
      · subst hc
        obtain ⟨htake', hdrop'⟩ := takeWhile_pad hu (p := Number.isDigit) (by decide) r
        simp only [List.cons_append, htake', hdrop']
        split <;> rfl
      · simp only [List.cons_append]
        split
        · rename_i r' hr
          exact absurd (List.cons.inj hr).1 hc
        · split
          · rename_i r' hr
            exact absurd (List.cons.inj hr).1 hc
          · rfl

/-! ## Literals

  The scan for the end of a literal has a case for a character that hides the next one.  If the
  text ends in such a character, a blank is hidden in the padded text, and the literal stays
  open there too: what is left is blanks. -/

/-- No blank closes a literal. -/
theorem quotedEnd?_blanks {q : Char} (hq : isSpace q = false) : quotedEnd? q u = none := by
  induction u with
  | nil => rfl
  | cons c u ih =>
    rw [quotedEnd?_cons q (ne_of_isSpace hu.head rfl), if_neg (ne_of_isSpace hu.head hq),
      ih hu.tail, Option.map_none, ite_self]

/-- **A literal that is open at the end stays open.** -/
theorem quotedEnd?_pad {q : Char} (hq : isSpace q = false) (s : List Char) :
    quotedEnd? q (s ++ u) = (quotedEnd? q s).map fun m => (m.1, m.2 ++ u) := by
  fun_induction quotedEnd? q s with
  | case1 => exact quotedEnd?_blanks hu hq
  | case2 =>
    -- a backslash at the end hides the first of the blanks, and the others close nothing
    cases u with
    | nil => rfl
    | cons c u =>
      simp only [List.cons_append, List.nil_append, quotedEnd?, quotedEnd?_blanks hu.tail hq,
        Option.map_none]
  -- a character that is hidden
  | case3 c s ih =>
    simp only [List.cons_append, quotedEnd?, ih, Option.map_map]
    rfl
  -- the quote that closes
  | case4 s hnil hcons =>
    rw [List.cons_append, quotedEnd?_cons q (ne_backslash hnil hcons), if_pos rfl]
    rfl
  -- a line that ends too early
  | case5 c s hnil hcons hne hline =>
    rw [List.cons_append, quotedEnd?_cons q (ne_backslash hnil hcons), if_neg hne, if_pos hline]
    rfl
  -- any other character is part of the text
  | case6 c s hnil hcons hne hline ih =>
    rw [List.cons_append, quotedEnd?_cons q (ne_backslash hnil hcons), if_neg hne, if_neg hline, ih,
      Option.map_map, Option.map_map]
    rfl

/-- Nothing but a quote opens a literal. -/
theorem quoted?_pad (s : List Char) :
    quoted? (s ++ u) = (quoted? s).map fun m => (m.1, m.2 ++ u) := by
  have hspace : ∀ q, isQuote q = true → isSpace q = false := by
    intro q hq
    simp only [isQuote, Bool.or_eq_true, decide_eq_true_eq] at hq
    rcases hq with (rfl | rfl) | rfl <;> rfl
  cases s with
  | nil =>
    cases u with
    | nil => rfl
    | cons c u =>
      have hc : isQuote c = false := not_of_isSpace (by decide) hu.head
      simp only [List.nil_append, quoted?, hc, Bool.false_eq_true, if_false, Option.map_none]
  | cons q s =>
    simp only [List.cons_append, quoted?]
    split
    · exact quotedEnd?_pad hu (hspace q (by assumption)) s
    · rfl

omit hu in
/-- A character that hides nothing and is no slash. -/
theorem slashedEnd?_cons {c : Char} (hc : c ≠ '\\') (hslash : c ≠ '/') (s : List Char) :
    slashedEnd? (c :: s) = if c = '\n' then none
      else (slashedEnd? s).map fun m => (c :: m.1, m.2) :=
  slashedEnd?.eq_5 _ _ (fun e => absurd e hc) (fun _ _ e => absurd e hc) (fun e => absurd e hslash)

/-- No blank closes a pattern. -/
theorem slashedEnd?_blanks : slashedEnd? u = none := by
  induction u with
  | nil => rfl
  | cons c u ih =>
    rw [slashedEnd?_cons (ne_of_isSpace hu.head rfl) (ne_of_isSpace hu.head rfl), ih hu.tail,
      Option.map_none, ite_self]

/-- A pattern that is open at the end stays open. -/
theorem slashedEnd?_pad (s : List Char) :
    slashedEnd? (s ++ u) = (slashedEnd? s).map fun m => (m.1, m.2 ++ u) := by
  fun_induction slashedEnd? s with
  | case1 => exact slashedEnd?_blanks hu
  | case2 =>
    cases u with
    | nil => rfl
    | cons c u =>
      simp only [List.cons_append, List.nil_append, slashedEnd?, slashedEnd?_blanks hu.tail,
        Option.map_none]
  | case3 c s ih =>
    simp only [List.cons_append, slashedEnd?, ih, Option.map_map]
    rfl
  | case4 s => simp only [List.cons_append, slashedEnd?, Option.map_some]
  | case5 s hnil hcons hslash =>
    rw [List.cons_append, slashedEnd?_cons (ne_backslash hnil hcons) hslash, if_pos rfl]
    rfl
  | case6 c s hnil hcons hslash hline ih =>
    rw [List.cons_append, slashedEnd?_cons (ne_backslash hnil hcons) hslash, if_neg hline, ih,
      Option.map_map, Option.map_map]
    rfl

/-- A pattern with its flags. -/
theorem slashed?_pad (s : List Char) :
    slashed? (s ++ u) = (slashed? s).map fun m => (m.1, m.2.1, m.2.2 ++ u) := by
  by_cases hs : ∃ r, s = '/' :: r
  · obtain ⟨r, rfl⟩ := hs
    simp only [List.cons_append, slashed?, slashedEnd?_pad hu]
    cases slashedEnd? r with
    | none => rfl
    | some m =>
      obtain ⟨body, rest⟩ := m
      cases body with
      | nil => rfl
      | cons c body =>
        obtain ⟨htake, hdrop⟩ := takeWhile_pad hu (p := Char.isAlpha) (by decide) rest
        simp only [Option.map_some, htake, hdrop]
  · have hpad : ∀ r, s ++ u ≠ '/' :: r := by
      intro r hr
      cases s with
      | cons c s => exact hs ⟨s, by rw [(List.cons.inj hr).1]⟩
      | nil =>
        cases u with
        | nil => cases hr
        | cons c u => exact ne_of_isSpace hu.head rfl (List.cons.inj hr).1
    rw [slashed?.eq_2 _ hpad, slashed?.eq_2 _ fun r hr => hs ⟨r, hr⟩]
    rfl

/-! ## Layout

  Comments are the difficulty.  One in a line may reach up to the padding and takes blanks with
  it, one of several lines may be open at the end; that is no comment then, with or without
  blanks behind it. -/

/-- No blank closes a comment. -/
theorem afterComment?_blanks : afterComment? u = none := by
  induction u with
  | nil => rfl
  | cons c u ih =>
    rw [afterComment?.eq_2 _ _ fun _ e => absurd e (ne_of_isSpace hu.head rfl)]
    exact ih hu.tail

/-- A comment that is open at the end stays open. -/
theorem afterComment?_pad (s : List Char) :
    afterComment? (s ++ u) = (afterComment? s).map (· ++ u) := by
  fun_induction afterComment? s with
  | case1 s => rfl
  | case2 c s hend ih =>
    -- a star before the blanks is no end of a comment, for no blank is a slash
    have hpad : ∀ r, c = '*' → s ++ u = '/' :: r → False := by
      intro r hc hr
      cases s with
      | cons d s => exact hend s hc (by rw [(List.cons.inj hr).1])
      | nil =>
        cases u with
        | nil => cases hr
        | cons d u => exact ne_of_isSpace hu.head rfl (List.cons.inj hr).1
    rw [List.cons_append, afterComment?.eq_2 _ _ hpad]
    exact ih
  | case3 => exact afterComment?_blanks hu

omit hu in
/-- A blank in front is passed over. -/
theorem skipLayout_space {c : Char} (hc : isSpace c = true) (s : List Char) :
    skipLayout (c :: s) = skipLayout s := by
  have hslash : c ≠ '/' := ne_of_isSpace hc rfl
  rw [skipLayout.eq_3 _ _ (fun _ e => absurd e hslash) (fun _ e => absurd e hslash), if_pos hc]

/-- **Blanks in front are passed over.** -/
theorem skipLayout_blanks (s : List Char) : skipLayout (u ++ s) = skipLayout s := by
  induction u with
  | nil => rfl
  | cons c u ih =>
    rw [List.cons_append, skipLayout_space hu.head]
    exact ih hu.tail

end Pad

/-- What follows a line comment. -/
theorem dropLine_pads {s t : List Char} (h : Pads s t) :
    Pads (s.dropWhile (· ≠ '\n')) (t.dropWhile (· ≠ '\n')) := by
  obtain ⟨u, hu, rfl⟩ := h
  induction s with
  | nil => exact ⟨u.dropWhile (· ≠ '\n'), fun c hc => hu c ((List.dropWhile_sublist _).subset hc),
      rfl⟩
  | cons c s ih =>
    by_cases hc : c = '\n'
    · subst hc
      exact ⟨u, hu, rfl⟩
    · rw [List.cons_append, List.dropWhile_cons_of_pos (by simpa using hc),
        List.dropWhile_cons_of_pos (by simpa using hc)]
      exact ih

/-- The first character of a padded text, if it is no blank, is that of the text. -/
theorem Blanks.first_of_padded {u r rest : List Char} {d : Char} (hu : Blanks u)
    (hd : isSpace d = false) (h : r ++ u = d :: rest) : ∃ rest, r = d :: rest := by
  cases r with
  | cons b r => exact ⟨r, by rw [(List.cons.inj h).1]⟩
  | nil =>
    cases u with
    | nil => cases h
    | cons b u => exact absurd (List.cons.inj h).1 (ne_of_isSpace hu.head hd)

/-- **Layout leaves a text and a padded text of two such texts.** -/
theorem skipLayout_pads {s t : List Char} (h : Pads s t) : Pads (skipLayout s) (skipLayout t) := by
  fun_induction skipLayout s generalizing t with
  | case1 r ih =>
    obtain ⟨u, hu, rfl⟩ := h
    rw [List.cons_append, List.cons_append, skipLayout]
    exact ih (dropLine_pads ⟨u, hu, rfl⟩)
  | case2 r r' hr ih =>
    obtain ⟨u, hu, rfl⟩ := h
    have hend : afterComment? (r ++ u) = some (r' ++ u) := by rw [afterComment?_pad hu, hr]; rfl
    rw [List.cons_append, List.cons_append, skipLayout]
    split
    · rename_i rest hrest
      obtain rfl : r' ++ u = rest := Option.some.inj (hend.symm.trans hrest)
      exact ih ⟨u, hu, rfl⟩
    · rename_i hrest
      cases hend.symm.trans hrest
  | case3 r hr =>
    -- no blank closes a comment, so the slash is left to be read as something else
    obtain ⟨u, hu, rfl⟩ := h
    have hopen : afterComment? (r ++ u) = none := by rw [afterComment?_pad hu, hr]; rfl
    rw [List.cons_append, List.cons_append, skipLayout]
    split
    · rename_i rest hrest
      cases hopen.symm.trans hrest
    · exact ⟨u, hu, rfl⟩
  | case4 c r hline hblock hc ih =>
    obtain ⟨u, hu, rfl⟩ := h
    rw [List.cons_append, skipLayout_space hc]
    exact ih ⟨u, hu, rfl⟩
  | case5 c r hline hblock hc =>
    obtain ⟨u, hu, rfl⟩ := h
    -- what opens a comment in the padded text did so before
    rw [List.cons_append, skipLayout.eq_3, if_neg hc]
    · exact ⟨u, hu, rfl⟩
    · intro rest hslash hr
      obtain ⟨rest, hr⟩ := hu.first_of_padded rfl hr
      exact hline rest hslash hr
    · intro rest hslash hr
      obtain ⟨rest, hr⟩ := hu.first_of_padded rfl hr
      exact hblock rest hslash hr
  | case6 =>
    obtain ⟨u, hu, rfl⟩ := h
    have hall := skipLayout_blanks hu []
    rw [List.append_nil, skipLayout] at hall
    rw [hall]
    exact ⟨[], fun c hc => absurd hc List.not_mem_nil, rfl⟩

/-- What layout leaves does not begin with a blank, so if it is blank it is nothing. -/
theorem eq_nil_of_skipLayout_blanks {s : List Char} (h : Blanks (skipLayout s)) :
    skipLayout s = [] := by
  fun_induction skipLayout s with
  | case1 r ih => exact ih h
  | case2 r r' hr ih => exact ih h
  | case3 r hr => cases h.head
  | case4 c r hline hblock hc ih => exact ih h
  | case5 c r hline hblock hc => exact absurd h.head hc
  | case6 => rfl

/-! ## The screen

  No denied name has a blank in it, so none can begin in front of the padding and end in it.  In
  front of the text the blanks are passed one by one, and none of them is part of a word. -/

theorem no_space_in_denied :
    deniedNames.all (fun w => w.toList.all fun c => !isSpace c) = true := by
  decide

/-- A denied name that stands at the start of the padded text stood there before. -/
theorem deniedAt?_pad {u : List Char} (hu : Blanks u) (s : List Char) :
    deniedAt? (s ++ u) = deniedAt? s := by
  have hall := List.all_eq_true.mp no_space_in_denied
  unfold deniedAt?
  refine List.find?_congr fun w hw => ?_
  rw [standsAt, standsAt, dropStart?_pad hu (hall w hw)]
  cases Text.dropStart? w.toList s with
  | none => rfl
  | some rest => exact atWordEnd_pad hu rest

/-- No denied name begins with a blank. -/
theorem deniedAt?_blank {c : Char} (hc : isSpace c = true) (s : List Char) :
    deniedAt? (c :: s) = none := by
  unfold deniedAt?
  refine List.find?_eq_none.mpr fun w hw => ?_
  obtain ⟨d, hd, hletter⟩ := exists_head_of_denied hw
  have hne : ¬d = c := by
    rintro rfl
    rw [not_of_isSpace (p := Char.isAlpha) (by decide) hc] at hletter
    cases hletter
  unfold standsAt
  cases hw : w.toList with
  | nil =>
    rw [hw] at hd
    cases hd
  | cons b word =>
    rw [hw] at hd
    obtain rfl : b = d := Option.some.inj hd
    simp only [Text.dropStart?, if_neg hne, Bool.false_eq_true, not_false_eq_true]

/-- The screen finds nothing in blanks. -/
theorem firstDenied?_blanks {u : List Char} (hu : Blanks u) (inWord : Bool) (pos : Nat) :
    firstDenied? inWord pos u = none := by
  induction u generalizing inWord pos with
  | nil => rfl
  | cons c u ih =>
    simp only [firstDenied?, deniedAt?_blank hu.head, ite_self]
    exact ih hu.tail _ _

/-- What the screen finds does not depend on the blanks behind a text. -/
theorem firstDenied?_pad {u : List Char} (hu : Blanks u) (s : List Char) (inWord : Bool)
    (pos : Nat) : firstDenied? inWord pos (s ++ u) = firstDenied? inWord pos s := by
  induction s generalizing inWord pos with
  | nil => rw [List.nil_append, firstDenied?_blanks hu, firstDenied?]
  | cons c s ih =>
    have hpad : deniedAt? (c :: (s ++ u)) = deniedAt? (c :: s) := deniedAt?_pad hu (c :: s)
    simp only [List.cons_append, firstDenied?, hpad, ih]

/-- The screen counts from wherever it is told to. -/
theorem firstDenied?_add (s : List Char) (inWord : Bool) (pos d : Nat) :
    firstDenied? inWord (d + pos) s =
      (firstDenied? inWord pos s).map fun found => (found.1, d + found.2) := by
  induction s generalizing inWord pos with
  | nil => rfl
  | cons c s ih =>
    simp only [firstDenied?, Nat.add_assoc, ih]
    split <;> rfl

/-- **The screen finds one word**, whatever blanks stand around the text: those in front of it only
    move the place. -/
theorem firstDenied?_around {u v : List Char} (hu : Blanks u) (hv : Blanks v) (s : List Char)
    (pos : Nat) :
    firstDenied? false pos (u ++ (s ++ v)) = firstDenied? false (pos + Text.byteLength u) s := by
  induction u generalizing pos with
  | nil => exact firstDenied?_pad hv s false pos
  | cons c u ih =>
    have hname : isNameChar c = false := not_of_isSpace (by decide) hu.head
    simp only [List.cons_append, firstDenied?, deniedAt?_blank hu.head, hname, ite_self]
    -- a blank in front ends no word and begins none
    rw [ih hu.tail, Text.byteLength, Nat.add_assoc]

end ExerciseGrading.Snippet
