/-
  QUOTING: every text can be written as a string literal, and is read back.

  1. `literal quote v` — the text `v` between quotes, escaped.  Where a literal ends and what it
     means are two questions, asked by two functions that scan for themselves; `quotedEnd?_escape`
     and `unescape_escape` answer each, both by induction on `v`.
  2. `Starts kind i` — what kind of character is next.  Most rules do not apply because of it, and
     where it is an `isPlain` one, what is next is neither a word nor a number nor layout.
  3. `Ends i` — nothing that stands here carries an expression on.  `exprRule_of_primary`: a primary
     expression with such a place behind it is a whole expression.
  4. `parse_of_expr` — an expression that takes all of a text is the only statement of it.
  5. `parse_literal`, `property_literal`, `parse_keyed` — a literal is a snippet, and a key.

  **The crux (two scans, one text).**  The scan for the end does not know what an escape means, it
  only skips the character behind a backslash; the scan for the meaning does not know where the
  literal ends.  They agree because an escaped character has one of two forms, and both scans treat
  both forms alike: a backslash with one character behind it, or one character that neither scan
  looks at twice (`escapeChar_cases`).

  The rest is about the grammar.  Rules are tried in order, so that what a literal is read as
  depends on all the rules before it not applying.  These refusals have few reasons: the next
  character begins no word, no number and no layout (`isPlain`), or it is not the sign that the rule
  begins with (`Starts.sign_eq_none`).
-/
import ExerciseGrading.Proofs.Snippet.Places
import ExerciseGrading.Snippet.Grammar

namespace ExerciseGrading.Snippet

/-! ## Escaping

  A character is written behind a backslash, as itself or by a sign that means it, or it is
  written as it is.  Each of the two scans gets a lemma for the one case and one for the other,
  and the induction on the text chooses between them. -/

/-- How a character is written between quotes. -/
def escapeChar (quote c : Char) : List Char :=
  if c = quote ∨ c = '\\' then ['\\', c]
  else if c = '\n' then ['\\', 'n']
  else if c = '\r' then ['\\', 'r']
  else if c = '\t' then ['\\', 't']
  else if c = '\x00' then ['\\', '0']
  else [c]

/-- A text, character by character. -/
def escape (quote : Char) (s : List Char) : List Char := s.flatMap (escapeChar quote)

/-- The text `v` as a string literal. -/
def literal (quote : Char) (v : String) : String :=
  String.ofList (quote :: escape quote v.toList ++ [quote])

theorem toList_literal (quote : Char) (v : String) :
    (literal quote v).toList = quote :: (escape quote v.toList ++ [quote]) :=
  String.toList_ofList

theorem escape_cons (quote c : Char) (s : List Char) :
    escape quote (c :: s) = escapeChar quote c ++ escape quote s := List.flatMap_cons

/-- A quote is not one of the characters that have a meaning behind a backslash, and no name begins
    with it. -/
theorem quote_plain {quote : Char} (h : isQuote quote = true) :
    quote ≠ '\\' ∧ unescapeChar quote = quote ∧ isNameStart quote = false := by
  simp only [isQuote, Bool.or_eq_true, decide_eq_true_eq] at h
  rcases h with (rfl | rfl) | rfl <;> decide

/-- An escaped character is a pair that means it, or it stands for itself and is none of the
    characters that decide where a literal ends. -/
theorem escapeChar_cases {quote : Char} (h : isQuote quote = true) (c : Char) :
    (∃ d, escapeChar quote c = ['\\', d] ∧ unescapeChar d = c) ∨
    (escapeChar quote c = [c] ∧ c ≠ quote ∧ c ≠ '\\' ∧ c ≠ '\n') := by
  unfold escapeChar
  split
  · rename_i hc
    refine .inl ⟨c, rfl, ?_⟩
    rcases hc with rfl | rfl
    · exact (quote_plain h).2.1
    · rfl
  · rename_i hc
    obtain ⟨hquote, hslash⟩ := not_or.mp hc
    split
    · rename_i hn
      exact .inl ⟨'n', rfl, hn ▸ rfl⟩
    · rename_i hn
      split
      · rename_i hr
        exact .inl ⟨'r', rfl, hr ▸ rfl⟩
      · split
        · rename_i ht
          exact .inl ⟨'t', rfl, ht ▸ rfl⟩
        · split
          · rename_i hz
            exact .inl ⟨'0', rfl, hz ▸ rfl⟩
          · exact .inr ⟨rfl, hquote, hslash, hn⟩

theorem quotedEnd?_self {quote : Char} (h : quote ≠ '\\') (rest : List Char) :
    quotedEnd? quote (quote :: rest) = some ([], rest) := by
  rw [quotedEnd?_cons quote h, if_pos rfl]

theorem quotedEnd?_plain {quote c : Char} (hquote : c ≠ quote) (hslash : c ≠ '\\')
    (hline : c ≠ '\n') (s : List Char) :
    quotedEnd? quote (c :: s) = (quotedEnd? quote s).map fun split => (c :: split.1, split.2) := by
  rw [quotedEnd?_cons quote hslash, if_neg hquote, if_neg (by simp [hline])]

section Escaped

variable {quote : Char} (h : isQuote quote = true)
include h

/-- **A literal ends at its own closing quote.** -/
theorem quotedEnd?_escape (s rest : List Char) :
    quotedEnd? quote (escape quote s ++ quote :: rest) = some (escape quote s, rest) := by
  induction s with
  | nil => exact quotedEnd?_self (quote_plain h).1 rest
  | cons c s ih =>
    rw [escape_cons, List.append_assoc]
    rcases escapeChar_cases h c with ⟨d, hd, -⟩ | ⟨hc, hquote, hslash, hline⟩
    · -- the backslash hides the character behind it, whatever it is
      rw [hd, List.cons_append, List.singleton_append, quotedEnd?, ih]
      rfl
    · rw [hc, List.singleton_append, quotedEnd?_plain hquote hslash hline, ih]
      rfl

/-- **What an escaped text means is the text.** -/
theorem unescape_escape (s : List Char) : unescape (escape quote s) = s := by
  induction s with
  | nil => rfl
  | cons c s ih =>
    rw [escape_cons]
    rcases escapeChar_cases h c with ⟨d, hd, hmeans⟩ | ⟨hc, -, hslash, -⟩
    · rw [hd, List.cons_append, List.singleton_append, unescape, hmeans, ih]
    · rw [hc, List.singleton_append, unescape.eq_2 _ _ (fun _ _ e => absurd e hslash), ih]

/-- A literal, wherever it stands, is read as the text that it was written for. -/
theorem stringText_literal (v : String) {i : Input} {rest : List Char}
    (hi : i.rest = (literal quote v).toList ++ rest) : stringText i = some (v, i.after rest) := by
  have hquoted : quoted? i.rest = some (escape quote v.toList, rest) := by
    rw [hi, toList_literal, List.cons_append, List.append_assoc, List.singleton_append, quoted?,
      if_pos h, quotedEnd?_escape h]
  rw [stringText, hquoted, Option.map_some]
  dsimp only
  rw [unescape_escape h, String.ofList_toList]

end Escaped

open ExerciseGrading.Snippet.Rule

/-! ## What does not apply

  Most of what there is to say about a rule here is that it does not apply.  The reason is the
  next character, and a kind of character is enough to say which rules that rules out. -/

variable {i j : Input} {l : Level}

/-- What is left is nothing, or begins with a character of a kind. -/
def Starts (kind : Char → Bool) (i : Input) : Prop := i.rest.head?.all kind = true

theorem Starts.head {kind : Char → Bool} (h : Starts kind i) {c : Char} {s : List Char}
    (hrest : i.rest = c :: s) : kind c = true := by
  rw [Starts, hrest] at h
  exact h

theorem Starts.mono {kind kind' : Char → Bool} (h : Starts kind i)
    (hkind : ∀ c, kind c = true → kind' c = true) : Starts kind' i := by
  cases hrest : i.rest with
  | nil => rw [Starts, hrest]; rfl
  | cons c s =>
    have := hkind c (h.head hrest)
    rwa [Starts, hrest]

theorem starts_of_end (kind : Char → Bool) (h : i.rest = []) : Starts kind i := by
  rw [Starts, h]
  rfl

/-- A sign does not stand where another kind of character stands. -/
theorem Starts.sign_eq_none {kind : Char → Bool} (h : Starts kind i) {s : String} {d : Char}
    {t : List Char} (hs : s.toList = d :: t) (hd : kind d = false) : sign s i = none := by
  rw [sign, Option.map_eq_none_iff]
  cases hdrop : Text.dropStart? s.toList i.rest with
  | none => rfl
  | some r =>
    have hrest : i.rest = d :: (t ++ r) := by
      rw [Text.dropStart?_eq_some.mp hdrop, hs, List.cons_append]
    exact Bool.noConfusion (hd.symm.trans (h.head hrest))

/-- Neither a word, nor a number, nor layout begins with these. -/
def isPlain (c : Char) : Bool :=
  !isNameStart c && !Number.isDigit c && !isSpace c && c ≠ '/'

section Plain

variable (h : Starts isPlain i)
include h

/-- No word stands here, and so no keyword and no name. -/
theorem word?_of_plain : word? i.rest = none := by
  cases hrest : i.rest with
  | nil => rw [word?]
  | cons c s =>
    have hc := h.head hrest
    simp only [isPlain, Bool.and_eq_true, Bool.not_eq_true'] at hc
    rw [word?, hc.1.1.1]
    rfl

theorem keyword_of_plain (w : String) : keyword w i = none := by
  rw [keyword, keyword?, word?_of_plain h]
  rfl

theorem name_of_plain : name i = none := by
  rw [name, name?, word?_of_plain h]
  rfl

/-- No number stands here. -/
theorem number_of_plain : number i = none := by
  have hnumeral : numeral? i.rest = none := by
    cases hrest : i.rest with
    | nil => rfl
    | cons c s =>
      have hc := h.head hrest
      simp only [isPlain, Bool.and_eq_true, Bool.not_eq_true'] at hc
      rw [numeral?, List.takeWhile_cons, hc.1.1.2]
      rfl
  rw [number, spanned, hnumeral]
  rfl

theorem constant_of_plain : constant i = none := by
  simp only [constant, orElse, spanned, keyword_of_plain h, Option.map_none]

/-- No pattern stands here. -/
theorem regex_of_plain : regex i = none := by
  have hslashed : slashed? i.rest = none := by
    cases hrest : i.rest with
    | nil => rfl
    | cons c s =>
      have hc := h.head hrest
      simp only [isPlain, Bool.and_eq_true, decide_eq_true_eq] at hc
      rw [slashed?.eq_2 _ (fun _ e => hc.2 (List.cons.inj e).1)]
  rw [regex, spanned, hslashed]
  rfl

/-- No layout stands here. -/
theorem skip_of_plain : skip i = i := by
  have hlayout : skipLayout i.rest = i.rest := by
    cases hrest : i.rest with
    | nil => rw [skipLayout]
    | cons c s =>
      have hc := h.head hrest
      simp only [isPlain, Bool.and_eq_true, Bool.not_eq_true', decide_eq_true_eq] at hc
      rw [skipLayout.eq_3 _ _ (fun _ e => absurd e hc.2) (fun _ e => absurd e hc.2), hc.1.2]
      rfl
  rw [skip, Input.after, hlayout, Nat.sub_self]
  rfl

/-- An arrow function begins with a name or with a parenthesis. -/
theorem arrow_of_plain (hparams : sign "(" i = none) : arrow l i = none := by
  rw [arrow, spanned, parameters, orElse, name_of_plain h, enclosed, hparams]
  rfl

/-- A statement that begins with no word, no brace and no semicolon is an expression. -/
theorem stmtRule_of_plain (hbrace : sign "\x7b" i = none) (hsemi : sign ";" i = none) :
    stmtRule l i = (exprRule l i).map fun read => (.expr read.1, optionalSign ";" read.2) := by
  simp only [stmtRule, orElse, binding, returning, choosing, block, keyword_of_plain h, hbrace,
    hsemi]
  rfl

end Plain

/-! ## Where an expression ends

  Behind a primary expression the grammar still tries what could follow an operand, an operator,
  a question mark.  None of them begins with a sign that closes or separates, or with the end of
  the text, and this is all that `Ends` says. -/

/-- What closes the things that an expression stands in. -/
def isCloser (c : Char) : Bool :=
  c = ')' || c = ']' || c = '}' || c = ':' || c = ',' || c = ';'

/-- Nothing that stands here carries an expression on. -/
abbrev Ends : Input → Prop := Starts isCloser

theorem Ends.plain (h : Ends i) : Starts isPlain i := h.mono fun c hc => by
  simp only [isCloser, Bool.or_eq_true, decide_eq_true_eq] at hc
  rcases hc with ((((rfl | rfl) | rfl) | rfl) | rfl) | rfl <;> decide

theorem Ends.skip (h : Ends i) : skip i = i := skip_of_plain h.plain

/-- Behind an expression that ends here stands no part of it; nor does an operator or a question
    mark. -/
theorem postfixPart_of_ends (h : Ends i) : postfixPart l i = none := by
  simp only [postfixPart, orElse, enclosed, h.sign_eq_none (s := "?.") rfl rfl,
    h.sign_eq_none (s := ".") rfl rfl, h.sign_eq_none (s := "[") rfl rfl,
    h.sign_eq_none (s := "(") rfl rfl]
  rfl

theorem binaryOp_of_ends (h : Ends i) : binaryOp i = none := by
  refine List.findSome?_eq_none_iff.mpr fun op _ => ?_
  cases op <;> rw [h.sign_eq_none rfl rfl] <;> rfl

theorem branches_of_ends (h : Ends i) : branches l i = none := by
  rw [branches, h.sign_eq_none (s := "?") rfl rfl]
  rfl

theorem many_of_none {α : Type} {r : Rule α} (h : r i = none) : many r i = ([], i) := by
  rw [many, h]

/-- **A primary expression is an expression**, if nothing carries it on and it does not begin as
    anything else. -/
theorem exprRule_of_primary {e : Expr} (hi : skip i = i) (harrow : arrow l i = none)
    (hops : prefixOp i = none) (he : primary l i = some (e, j)) (hends : Ends (skip j)) :
    exprRule l i = some (e, skip j) := by
  -- no sign in front and nothing behind: the operand is the primary expression
  have hoperand : operand l i = some ([.primary e], skip j) := by
    have hpre : many (placed prefixOp) i = ([], i) := many_of_none (by rw [placed, hops]; rfl)
    have hpost : many (placed (postfixPart l)) (skip j) = ([], skip j) :=
      many_of_none (by rw [placed, postfixPart_of_ends hends]; rfl)
    rw [operand, hpre]
    dsimp only
    rw [hi, he, Option.bind_eq_bind, Option.bind_some]
    dsimp only
    rw [hpost]
    rfl
  -- no operator behind it: the row is the operand
  have hrow : row l i = some ([.primary e], skip j) := by
    have hlink : many (link l) (skip j) = ([], skip j) :=
      many_of_none (by rw [link, binaryOp_of_ends hends]; rfl)
    rw [row, hoperand, Option.bind_eq_bind, Option.bind_some]
    dsimp only
    rw [hends.skip, hlink]
    rfl
  -- a row of one operand is grouped as it is
  have hchain : chain l i = some (e, skip j) := by
    rw [chain, hrow]
    rfl
  rw [exprRule, orElse, harrow]
  dsimp only
  rw [conditional, hchain, Option.bind_eq_bind, Option.bind_some]
  dsimp only
  rw [hends.skip, branches_of_ends hends]
  rfl

/-! ## Texts that are one expression

  A statement is tried as a binding, a return, a choice, a block and an empty one before it is
  an expression, and behind an expression the end of the text has to be seen. -/

theorem sign_of_end (h : i.rest = []) {s : String} {d : Char} {t : List Char}
    (hs : s.toList = d :: t) : sign s i = none :=
  (starts_of_end (fun _ => false) h).sign_eq_none hs rfl

/-- Where nothing is left, there is no expression. -/
theorem exprRule_of_end (h : i.rest = []) : exprRule l i = none := by
  have hplain := starts_of_end isPlain h
  have hops : prefixOp i = none := by
    simp only [prefixOp, orElse, sign_of_end h (s := "!") rfl, sign_of_end h (s := "-") rfl,
      Option.map_none]
  have hprimary : primary l i = none := by
    simp only [primary, orElse, number_of_plain hplain, constant_of_plain hplain,
      regex_of_plain hplain, array, object, parenthesized, enclosed, spanned, name_of_plain hplain,
      sign_of_end h (s := "[") rfl, sign_of_end h (s := "\x7b") rfl, sign_of_end h (s := "(") rfl,
      string, stringText, h, quoted?]
    rfl
  -- without a primary expression there is no operand, and nothing else begins one
  have hpre : many (placed prefixOp) i = ([], i) := many_of_none (by rw [placed, hops]; rfl)
  rw [exprRule, orElse, arrow_of_plain hplain (sign_of_end h rfl)]
  dsimp only
  rw [conditional, chain, row, operand, hpre]
  dsimp only
  rw [skip_of_plain hplain, hprimary]
  rfl

/-- An expression that takes all of a text is the only statement of it. -/
theorem parse_of_expr {s : String} {e : Expr} (hs : s.toList ≠ [])
    (hplain : Starts isPlain (Input.ofText s)) (hbrace : sign "\x7b" (Input.ofText s) = none)
    (hsemi : sign ";" (Input.ofText s) = none)
    (he : exprRule (level s.length) (Input.ofText s) = some (e, j)) (hj : j.rest = []) :
    parse s = .ok ⟨[.expr e]⟩ := by
  have hskip : skip j = j := skip_of_plain (starts_of_end _ hj)
  have hstmt : (level (s.length + 1)).stmt (Input.ofText s) = some (.expr e, j) := by
    rw [level]
    dsimp only
    rw [stmtRule_of_plain hplain hbrace hsemi, he, Option.map_some]
    dsimp only
    rw [optionalSign, hskip, sign_of_end hj rfl]
  -- behind it the text is over, and no statement stands there
  have hlast : (level (s.length + 1)).stmt j = none := by
    rw [level]
    dsimp only
    rw [stmtRule_of_plain (starts_of_end _ hj) (sign_of_end hj rfl) (sign_of_end hj rfl),
      exprRule_of_end hj]
    rfl
  -- so the repetition reads one statement
  have hbody : many (level (s.length + 1)).stmt (Input.ofText s) = ([.expr e], j) := by
    have hless : j.rest.length < (Input.ofText s).rest.length := by
      rw [hj]
      exact List.length_pos_iff.mpr hs
    rw [many, hstmt]
    dsimp only
    rw [hskip, if_pos hless, many_of_none hlast]
  rw [parse, programWith, skip_of_plain hplain, hbody]
  dsimp only
  rw [if_pos hj]

/-! ## Brackets

  A bracket is neither a word nor a number nor a sign in front of an operand.  So of the ways to
  begin an expression most are out at once, and those that are left can be gone through one by
  one. -/

/-- A sign that stands here is taken. -/
theorem exists_sign {s : String} {rest : List Char} (h : i.rest = s.toList ++ rest) :
    ∃ j, sign s i = some ((), j) ∧ j.rest = rest := by
  refine ⟨i.after rest, ?_, rfl⟩
  rw [sign, Text.dropStart?_eq_some.mpr h]
  rfl

/-- One item between two signs, with no comma behind it. -/
theorem enclosed_one {α : Type} {r : Rule α} {left right : String} {trailing : Bool} {a : α}
    {k m : Input} (hleft : sign left i = some ((), j)) (hitem : r (skip j) = some (a, k))
    (hskip : skip (skip k) = skip k) (hcomma : sign "," (skip k) = none)
    (hright : sign right (skip k) = some ((), m)) :
    enclosed left right trailing r i = some ([a], m) := by
  have hlisted : listed r (skip j) = ([a], skip k) := by
    rw [listed, hitem]
    dsimp only
    rw [moreAfter, hcomma]
  have hoptional : optionalSign "," (skip k) = skip k := by rw [optionalSign, hskip, hcomma]
  rw [enclosed, hleft, Option.bind_eq_bind, Option.bind_some]
  dsimp only
  rw [hlisted]
  dsimp only
  rw [hoptional, ite_self, hskip, hright]
  rfl

/-- A brace or a parenthesis. -/
def isBracket (c : Char) : Bool := c = '\x7b' || c = '('

theorem plain_of_bracket (h : Starts isBracket i) : Starts isPlain i := h.mono fun c hc => by
  simp only [isBracket, Bool.or_eq_true, decide_eq_true_eq] at hc
  rcases hc with rfl | rfl <;> decide

theorem prefixOp_of_bracket (h : Starts isBracket i) : prefixOp i = none := by
  simp only [prefixOp, orElse, h.sign_eq_none (s := "!") rfl rfl,
    h.sign_eq_none (s := "-") rfl rfl, Option.map_none]

/-- Which primary expressions begin with a brace or a parenthesis. -/
theorem primary_of_bracket (h : Starts isBracket i) :
    primary l i = orElse (object l) (orElse (parenthesized l) (spanned name .name)) i := by
  have hplain := plain_of_bracket h
  have hstring : string i = none := by
    have hquoted : quoted? i.rest = none := by
      cases hrest : i.rest with
      | nil => rw [quoted?]
      | cons c s =>
        have hc := h.head hrest
        simp only [isBracket, Bool.or_eq_true, decide_eq_true_eq] at hc
        rcases hc with rfl | rfl <;> rfl
    rw [string, spanned, stringText, hquoted]
    rfl
  simp only [primary, orElse, number_of_plain hplain, hstring, constant_of_plain hplain,
    regex_of_plain hplain, array, enclosed, spanned, h.sign_eq_none (s := "[") rfl rfl]
  rfl

/-! ## Literals

  A literal begins with a quote, which begins nothing else, and its end is found by the first
  scan.  What stands between is handed to the second one, so that the text comes back. -/

section Literals

variable {quote : Char} (h : isQuote quote = true)
include h

theorem starts_literal (v : String) {rest : List Char}
    (hi : i.rest = (literal quote v).toList ++ rest) : Starts isQuote i := by
  rw [Starts, hi, toList_literal]
  exact h

theorem plain_literal (v : String) {rest : List Char}
    (hi : i.rest = (literal quote v).toList ++ rest) : Starts isPlain i :=
  (starts_literal h v hi).mono fun c hc => by
    simp only [isQuote, Bool.or_eq_true, decide_eq_true_eq] at hc
    rcases hc with (rfl | rfl) | rfl <;> decide

/-- **As an expression** a literal is the text, if nothing behind it carries it on. -/
theorem exprRule_literal (v : String) {rest : List Char}
    (hi : i.rest = (literal quote v).toList ++ rest) (hends : Ends (skip (i.after rest))) :
    exprRule l i =
      some (.mk ⟨i.pos, (i.after rest).pos⟩ (.string v), skip (i.after rest)) := by
  have hquote := starts_literal h v hi
  have hplain := plain_literal h v hi
  have hops : prefixOp i = none := by
    simp only [prefixOp, orElse, hquote.sign_eq_none (s := "!") rfl rfl,
      hquote.sign_eq_none (s := "-") rfl rfl, Option.map_none]
  refine exprRule_of_primary (skip_of_plain hplain)
    (arrow_of_plain hplain (hquote.sign_eq_none rfl rfl)) hops ?_ hends
  rw [primary, orElse, number_of_plain hplain]
  dsimp only
  rw [orElse, string, spanned, stringText_literal h v hi]
  rfl

/-- **As the key of an object** a literal is the text that it was written for, in every object at
    any depth: what is left to read is a colon and the value. -/
theorem property_literal (v : String) {rest : List Char}
    (hi : i.rest = (literal quote v).toList ++ rest) :
    property l i =
      (sign ":" (skip (i.after rest))).bind fun colon =>
        (l.expr (skip colon.2)).map fun read => (.mk v read.1, read.2) := by
  rw [property, orElse, orElse, stringText_literal h v hi, name_of_plain (plain_literal h v hi)]
  dsimp only [Option.bind_eq_bind, Option.bind_some, Option.bind_none]
  rcases sign ":" (skip (i.after rest)) with _ | ⟨_, k⟩
  · rfl
  · dsimp only [Option.bind_some]
    rcases l.expr (skip k) with _ | ⟨e, m⟩ <;> rfl

/-- **A literal is a snippet** of one statement, the text that it was written for. -/
theorem parse_literal (v : String) :
    ∃ span, parse (literal quote v) = .ok ⟨[.expr (.mk span (.string v))]⟩ := by
  have hi : (Input.ofText (literal quote v)).rest = (literal quote v).toList ++ [] :=
    (List.append_nil _).symm
  have hend : ((Input.ofText (literal quote v)).after []).rest = [] := rfl
  have hskip := skip_of_plain (starts_of_end _ hend)
  have hquote := starts_literal h v hi
  have he := exprRule_literal h v (l := level (literal quote v).length) hi
    (by rw [hskip]; exact starts_of_end _ hend)
  refine ⟨_, parse_of_expr ?_ (plain_literal h v hi) (hquote.sign_eq_none rfl rfl)
    (hquote.sign_eq_none rfl rfl) he (by rw [hskip]; exact hend)⟩
  rw [toList_literal]
  exact List.cons_ne_nil _ _

end Literals

/-! ## Objects with one key

  From the outside in: the object between its braces, the object as an expression, and the
  expression between parentheses.  Each step names the places between the parts, since every
  rule is asked at its own place. -/

section Keyed

variable {key value : Char} (hkey : isQuote key = true) (hvalue : isQuote value = true)
include hkey hvalue

/-- An object whose key and value are literals, at any place in a snippet. -/
theorem object_literals (v w : String) {rest : List Char} {n : Nat}
    (hi : i.rest = '\x7b' :: ((literal key v).toList ++
      (':' :: ((literal value w).toList ++ ('\x7d' :: rest))))) :
    ∃ span span' j, object (level (n + 1)) i =
      some (.mk span (.object [.mk v (.mk span' (.string w))]), j) ∧ j.rest = rest := by
  obtain ⟨i₁, hopen, hi₁⟩ := exists_sign (s := "\x7b") hi
  have hskip₁ := skip_of_plain (plain_literal hkey v hi₁)
  -- the key, and the place behind it
  have hproperty := property_literal hkey v (l := level (n + 1)) hi₁
  generalize hi₂ : i₁.after (':' :: ((literal value w).toList ++ ('\x7d' :: rest))) = i₂
    at hproperty
  have hends₂ : Ends i₂ := by rw [← hi₂]; rfl
  obtain ⟨i₃, hcolon, hi₃⟩ := exists_sign (s := ":") (i := i₂) (by rw [← hi₂]; rfl)
  have hskip₃ := skip_of_plain (plain_literal hvalue w hi₃)
  -- the value, and the place behind it
  have hvalue := exprRule_literal hvalue w (l := level n) hi₃
  generalize hi₄ : i₃.after ('\x7d' :: rest) = i₄ at hvalue
  have hends₄ : Ends i₄ := by rw [← hi₄]; rfl
  obtain ⟨i₅, hclose, hi₅⟩ := exists_sign (s := "\x7d") (i := i₄) (by rw [← hi₄]; rfl)
  rw [hends₄.skip] at hvalue
  have hexpr : (level (n + 1)).expr i₃ = _ := hvalue hends₄
  rw [hends₂.skip, hcolon, Option.bind_some] at hproperty
  dsimp only at hproperty
  rw [hskip₃, hexpr, Option.map_some] at hproperty
  have hcomma : sign "," i₄ = none :=
    (show Starts (fun c => c = '\x7d') i₄ by rw [← hi₄]; rfl).sign_eq_none rfl rfl
  have hone : enclosed "\x7b" "\x7d" true (property (level (n + 1))) i = some (_, i₅) :=
    enclosed_one hopen (by rw [hskip₁]; exact hproperty) (by rw [hends₄.skip, hends₄.skip])
      (by rw [hends₄.skip]; exact hcomma) (by rw [hends₄.skip]; exact hclose)
  refine ⟨⟨i.pos, i₅.pos⟩, ⟨i₃.pos, i₄.pos⟩, i₅, ?_, hi₅⟩
  rw [object, spanned, hone]
  rfl

/-- The same object as an expression. -/
theorem exprRule_object (v w : String) {rest : List Char} {n : Nat}
    (hi : i.rest = '\x7b' :: ((literal key v).toList ++
      (':' :: ((literal value w).toList ++ ('\x7d' :: rest)))))
    (hrest : rest.head?.all isCloser = true) :
    ∃ span span' j, exprRule (level (n + 1)) i =
      some (.mk span (.object [.mk v (.mk span' (.string w))]), j) ∧ j.rest = rest := by
  obtain ⟨span, span', j, hobject, hj⟩ := object_literals hkey hvalue v w (n := n) hi
  have hends : Ends j := by rw [Ends, Starts, hj]; exact hrest
  have hbrace : Starts (fun c => c = '\x7b') i := by rw [Starts, hi]; rfl
  have hbracket : Starts isBracket i := by rw [Starts, hi]; rfl
  have hplain := plain_of_bracket hbracket
  refine ⟨span, span', j, ?_, hj⟩
  have hprimary := primary_of_bracket (l := level (n + 1)) hbracket
  rw [orElse, hobject] at hprimary
  have hexpr := exprRule_of_primary (skip_of_plain hplain)
    (arrow_of_plain hplain (hbrace.sign_eq_none rfl rfl)) (prefixOp_of_bracket hbracket) hprimary
    (by rw [hends.skip]; exact hends)
  rw [hexpr, hends.skip]

/-- The same object between parentheses, where no block can be meant. -/
theorem exprRule_parenthesized (v w : String) {n : Nat}
    (hi : i.rest = '(' :: '\x7b' :: ((literal key v).toList ++
      (':' :: ((literal value w).toList ++ ['\x7d', ')'])))) :
    ∃ span span' j, exprRule (level (n + 2)) i =
      some (.mk span (.object [.mk v (.mk span' (.string w))]), j) ∧ j.rest = [] := by
  obtain ⟨i₁, hopen, hi₁⟩ := exists_sign (s := "(") hi
  have hplain₁ : Starts isPlain i₁ := by rw [Starts, hi₁]; rfl
  have hbrace₁ : Starts (fun c => c = '\x7b') i₁ := by rw [Starts, hi₁]; rfl
  obtain ⟨span, span', i₂, hexpr, hi₂⟩ :=
    exprRule_object hkey hvalue v w (n := n) hi₁ rfl
  have hends₂ : Ends i₂ := by rw [Ends, Starts, hi₂]; rfl
  obtain ⟨j, hclose, hj⟩ := exists_sign (s := ")") (show i₂.rest = ")".toList ++ [] from hi₂)
  have hbracket : Starts isBracket i := by rw [Starts, hi]; rfl
  have hplain := plain_of_bracket hbracket
  refine ⟨span, span', j, ?_, hj⟩
  -- no parameters: what stands between the parentheses begins with a brace
  have harrow : arrow (level (n + 2)) i = none := by
    have hlisted : listed name i₁ = ([], i₁) := by rw [listed, name_of_plain hplain₁]
    rw [arrow, spanned, parameters, orElse, name_of_plain hplain, enclosed, hopen]
    dsimp only [Option.map_none, Option.bind_eq_bind, Option.bind_some]
    rw [skip_of_plain hplain₁, hlisted]
    dsimp only
    rw [Bool.false_and, if_neg Bool.false_ne_true, skip_of_plain hplain₁,
      hbrace₁.sign_eq_none (s := ")") rfl rfl]
    rfl
  -- a parenthesis is no brace, so what stands here is a parenthesis
  have hobject : object (level (n + 2)) i = none := by
    have hparen : Starts (fun c => c = '(') i := by rw [Starts, hi]; rfl
    rw [object, spanned, enclosed, hparen.sign_eq_none (s := "\x7b") rfl rfl]
    rfl
  have hprimary := primary_of_bracket (l := level (n + 2)) hbracket
  rw [orElse, hobject] at hprimary
  dsimp only at hprimary
  have hparenthesized : parenthesized (level (n + 2)) i = ((exprRule (level (n + 1)) i₁).bind
      fun read => (sign ")" (skip read.2)).bind fun close => some (read.1, close.2)) := by
    rw [parenthesized, hopen, Option.bind_eq_bind, Option.bind_some]
    dsimp only
    rw [skip_of_plain hplain₁]
    rfl
  rw [orElse, hparenthesized, hexpr, Option.bind_some] at hprimary
  dsimp only at hprimary
  rw [hends₂.skip, hclose] at hprimary
  have hend : Ends j := starts_of_end _ hj
  rw [exprRule_of_primary (skip_of_plain hplain) harrow (prefixOp_of_bracket hbracket) hprimary
    (by rw [hend.skip]; exact hend), hend.skip]

end Keyed

/-- An object with one key, as a snippet of its own. -/
def keyed (key value : String) : String := "(\x7b" ++ key ++ ":" ++ value ++ "\x7d)"

theorem toList_keyed (key value : String) : (keyed key value).toList =
    '(' :: '\x7b' :: (key.toList ++ (':' :: (value.toList ++ ['\x7d', ')']))) := by
  simp [keyed]

/-- **An object with one key**, as a snippet: in parentheses, since a brace begins a block. -/
theorem parse_keyed {key value : Char} (hkey : isQuote key = true) (hvalue : isQuote value = true)
    (v w : String) : ∃ span span', parse (keyed (literal key v) (literal value w)) =
      .ok ⟨[.expr (.mk span (.object [.mk v (.mk span' (.string w))]))]⟩ := by
  generalize hs : keyed (literal key v) (literal value w) = s
  have htext : s.toList = _ := (congrArg String.toList hs).symm.trans (toList_keyed _ _)
  -- the text has two characters at least, so the level is two further in
  obtain ⟨n, hn⟩ : ∃ n, s.length = n + 2 := by
    refine ⟨s.length - 2, ?_⟩
    rw [← String.length_toList, htext]
    rfl
  have hbracket : Starts isBracket (Input.ofText s) := by rw [Starts, Input.ofText, htext]; rfl
  have hparen : Starts (fun c => c = '(') (Input.ofText s) := by
    rw [Starts, Input.ofText, htext]
    rfl
  obtain ⟨span, span', j, hexpr, hj⟩ := exprRule_parenthesized hkey hvalue v w (n := n)
    (i := Input.ofText s) htext
  rw [← hn] at hexpr
  exact ⟨span, span', parse_of_expr (by rw [htext]; exact List.cons_ne_nil _ _)
    (plain_of_bracket hbracket) (hparen.sign_eq_none rfl rfl) (hparen.sign_eq_none rfl rfl)
    hexpr hj⟩

/-- **String literals can express every text, and are read back exactly.**  With any of the three
    quotes,
    1. the literal of a text is a snippet of one statement, and that is the text;
    2. in every object, at any depth, the literal in front of a colon is the text as a key;
    3. so an object with one key that is written this way is a snippet in which the key is the
       text. -/
theorem literals_read_back {quote : Char} (h : isQuote quote = true) (v : String) :
    (∃ span, parse (literal quote v) = .ok ⟨[.expr (.mk span (.string v))]⟩) ∧
    (∀ (l : Level) (i : Input) (rest : List Char), i.rest = (literal quote v).toList ++ rest →
      property l i = (sign ":" (skip (i.after rest))).bind fun colon =>
        (l.expr (skip colon.2)).map fun read => (.mk v read.1, read.2)) ∧
    ∀ (value : Char) (w : String), isQuote value = true →
      ∃ span span', parse (keyed (literal quote v) (literal value w)) =
        .ok ⟨[.expr (.mk span (.object [.mk v (.mk span' (.string w))]))]⟩ :=
  ⟨parse_literal h v, fun _ _ _ hi => property_literal h v hi,
    fun _ w hvalue => parse_keyed h hvalue v w⟩

/-- A text with a run of backslashes in front of a quote, a line end, and a backslash at its end. -/
theorem literals_read_back_slashes :
    isQuote '\x27' = true ∧
    (∃ span, parse (literal '\x27' "\\\\\x27\n\x00n\\") =
      .ok ⟨[.expr (.mk span (.string "\\\\\x27\n\x00n\\"))]⟩) ∧
    ∃ span span', parse (keyed (literal '\x27' "\\\\\x27\n\x00n\\") (literal '\x60' "\n")) =
      .ok ⟨[.expr (.mk span (.object [.mk "\\\\\x27\n\x00n\\" (.mk span' (.string "\n"))]))]⟩ := by
  have hq : isQuote '\x27' = true := by decide
  obtain ⟨hparse, -, hkeyed⟩ := literals_read_back hq "\\\\\x27\n\x00n\\"
  exact ⟨hq, hparse, hkeyed '\x60' "\n" (by decide)⟩

end ExerciseGrading.Snippet
