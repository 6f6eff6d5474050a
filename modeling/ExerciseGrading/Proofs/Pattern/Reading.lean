/-
  READING patterns that a program puts together.

  Such a pattern has texts that stand for themselves (`Pattern.escape`), choices between them,
  groups and classes.  `Reads` is the grammar of these patterns, one rule for each thing that can
  come next; it carries what the reader carries: the branches and parts so far, both in reverse, and
  the number of the next group.

  1. `choice_of_reads` — the reader follows the grammar.  Fuel is no question: every rule takes a
     character, so that the length of the text is enough for what is inside a group and for what is
     behind it.
  2. `Reads.text`, `Reads.texts` — a whole text, and a choice between texts.

  **The crux (a relation instead of a run).**  A pattern that is put together from a list has no
  fixed text on which the reader could be run.  `Reads` is stated for the rest of a text, whatever
  that is, so that the derivation of the whole goes along with how the text was put together: a
  lemma for each thing that is written, and one induction for the list (`Reads.texts`).

  The reader's own steps (`…_apply`, `…_cons`) are computed once, on a text whose first character is
  known; `choice_primitive`, `choice_group` and `choice_capture` make of them one turn of its loop.
-/
import ExerciseGrading.Pattern

namespace ExerciseGrading.Pattern

/-! ## Single steps

  What the reader does at a character that is known. -/

namespace Reader

/-- The reader before `s`, where blanks count, no group has a name, and the next one is number
    `k`. -/
abbrev before (s : List Char) (k : Nat) : Cursor := ⟨s, false, k, []⟩

variable {s : List Char} {k : Nat}

theorem bind_apply {α β : Type} (x : Reader α) (f : α → Reader β) (c : Cursor) :
    (x >>= f) c = (x c).bind fun r => f r.1 r.2 := rfl

theorem get_apply (c : Cursor) : (get : Reader Cursor) c = some (c, c) := rfl

theorem modify_apply (f : Cursor → Cursor) (c : Cursor) :
    (modify f : Reader Unit) c = some ((), f c) := rfl

theorem peek_apply (c : Cursor) : peek c = some (c.rest.head?, c) := rfl

theorem char_cons (c : Char) : char (before (c :: s) k) = some (c, before (c :: s) k) := rfl

theorem skipSpace_apply : skipSpace (before s k) = some ((), before s k) := rfl

theorem bumpSpace_cons (c : Char) : bumpSpace (before (c :: s) k) = some ((), before s k) := rfl

theorem peekSpace_cons (c : Char) :
    peekSpace (before (c :: s) k) = some (s.head?, before (c :: s) k) := rfl

theorem expect_cons (c : Char) : expect c (before (c :: s) k) = some ((), before s k) := by
  rw [expect, bind_apply, char_cons, Option.bind_some, if_pos rfl]
  rfl

/-- A character without a meaning of its own. -/
theorem primitive_plain {c : Char} (hc : isMeta c = false) :
    primitive (before (c :: s) k) = some (lit c, before s k) := by
  rw [primitive, bind_apply, char_cons, Option.bind_some]
  dsimp only
  split
  · exact absurd hc (by decide)
  · exact absurd hc (by decide)
  · exact absurd hc (by decide)
  · exact absurd hc (by decide)
  · rfl

/-- A character with a meaning of its own, behind a backslash. -/
theorem primitive_escaped {c : Char} (hc : isMeta c = true) :
    primitive (before ('\\' :: c :: s) k) = some (lit c, before s k) := by
  simp only [isMeta, String.reduceToList, List.contains_eq_mem, List.mem_cons, List.not_mem_nil,
    or_false, decide_eq_true_eq] at hc
  rcases hc with rfl | rfl | rfl | rfl | rfl | rfl | rfl | rfl | rfl | rfl | rfl | rfl | rfl | rfl |
    rfl | rfl | rfl | rfl <;> rfl

/-! ## Classes

  Inside brackets a character stands for itself unless a hyphen follows it.  One lemma for a
  range, one for a character, and one for the closing bracket are enough to read the classes
  that are needed. -/

theorem setAtom_plain {c : Char} (hc : c ≠ '\\') :
    setAtom (before (c :: s) k) = some (lit c, before s k) := by
  rw [setAtom, bind_apply, char_cons, Option.bind_some, if_neg hc]
  rfl

/-- A range in a class. -/
theorem setRange_range {lo hi : Char} (hlo : lo ≠ '\\') (hhi : hi ∉ ['\\', ']', '-'])
    (hle : lo ≤ hi) :
    setRange (before (lo :: '-' :: hi :: s) k) =
      some (.range ⟨lo, false⟩ ⟨hi, false⟩, before s k) := by
  -- the range has an end, which is neither the bracket nor another sign
  have hends : ¬('-' ≠ '-' ∨ some hi = some ']' ∨ some hi = some '-') := by
    rintro (h | h | h)
    · exact h rfl
    · exact hhi (by simp [Option.some.inj h])
    · exact hhi (by simp [Option.some.inj h])
  rw [setRange]
  simp only [bind_apply, setAtom_plain hlo, skipSpace_apply, char_cons, peekSpace_cons,
    Option.bind_some, List.head?_cons, if_neg hends, bumpSpace_cons,
    setAtom_plain fun h => hhi (List.mem_cons.mpr (.inl h))]
  dsimp only [lit]
  rw [if_pos hle]
  rfl

/-- A single character in a class. -/
theorem setRange_char {c d : Char} (hc : c ≠ '\\') (hd : d ≠ '-') :
    setRange (before (c :: d :: s) k) = some (.char ⟨c, false⟩, before (d :: s) k) := by
  rw [setRange]
  simp only [bind_apply, setAtom_plain hc, skipSpace_apply, char_cons, peekSpace_cons,
    Option.bind_some, if_pos (Or.inl hd)]
  rfl

/-- A class goes on with a member, unless the next character opens, closes or combines classes. -/
theorem setBody_item {c : Char} (hc : c ∉ ['[', ']', '&', '-', '~']) {fuel : Nat}
    {pending : Option (SetOp × SetExpr)} {items : List SetItem} {item : SetItem} {r : List Char}
    (hitem : setRange (before (c :: s) k) = some (item, before r k)) :
    setBody (fuel + 1) pending items (before (c :: s) k) =
      setBody fuel pending (item :: items) (before r k) := by
  simp only [List.mem_cons, List.not_mem_nil, or_false, not_or] at hc
  obtain ⟨hopen, hclose, hand, hminus, htilde⟩ := hc
  rw [setBody]
  simp [bind_apply, skipSpace_apply, char_cons, get_apply, hitem, hopen, hclose, hand, hminus,
    htilde]

/-- The bracket that closes a class. -/
theorem setBody_close {fuel : Nat} {items : List SetItem} :
    setBody (fuel + 1) none items (before (']' :: s) k) =
      some (.items items.reverse, before s k) := by
  rfl

end Reader

open Reader

/-! ## The grammar

  One constructor for each thing that a pattern may begin with here.  It takes its characters
  and hands the rest of the text, with one part more, to the derivation for what follows. -/

/-- The tree of a choice whose branches and last parts have been read in this order. -/
def Tree.ofRead (branches parts : List Tree) : Tree :=
  Tree.ofBranches ((Tree.ofParts parts.reverse :: branches).reverse)

/-- `Reads k branches parts s t r k'`: behind these branches and parts, and before group `k`, the
    text `s` is read as the rest of the choice `t`, up to `r`, and the next group is `k'`. -/
inductive Reads : Nat → List Tree → List Tree → List Char → Tree → List Char → Nat → Prop
  | stop {k : Nat} {branches parts : List Tree} :
    Reads k branches parts [] (Tree.ofRead branches parts) [] k
  | close {k : Nat} {branches parts : List Tree} {s : List Char} :
    Reads k branches parts (')' :: s) (Tree.ofRead branches parts) (')' :: s) k
  | bar {k k' : Nat} {branches parts : List Tree} {s r : List Char} {t : Tree} :
    Reads k (Tree.ofParts parts.reverse :: branches) [] s t r k' →
    Reads k branches parts ('|' :: s) t r k'
  | plain {k k' : Nat} {branches parts : List Tree} {s r : List Char} {t : Tree} {c : Char} :
    isMeta c = false → Reads k branches (lit c :: parts) s t r k' →
    Reads k branches parts (c :: s) t r k'
  | escaped {k k' : Nat} {branches parts : List Tree} {s r : List Char} {t : Tree} {c : Char} :
    isMeta c = true → Reads k branches (lit c :: parts) s t r k' →
    Reads k branches parts ('\\' :: c :: s) t r k'
  | startLine {k k' : Nat} {branches parts : List Tree} {s r : List Char} {t : Tree} :
    Reads k branches (.assertion .startLine :: parts) s t r k' →
    Reads k branches parts ('^' :: s) t r k'
  | endLine {k k' : Nat} {branches parts : List Tree} {s r : List Char} {t : Tree} :
    Reads k branches (.assertion .endLine :: parts) s t r k' →
    Reads k branches parts ('$' :: s) t r k'
  | set {k k' : Nat} {branches parts : List Tree} {s m r : List Char} {set t : Tree} :
    bracketed (before ('[' :: s) k) = some (set, before m k) → m.length ≤ s.length →
    Reads k branches (set :: parts) m t r k' →
    Reads k branches parts ('[' :: s) t r k'
  | group {k l k' : Nat} {branches parts : List Tree} {s m r : List Char} {body t : Tree} :
    Reads k [] [] s body (')' :: m) l → Reads l branches (.group [] body :: parts) m t r k' →
    Reads k branches parts ('(' :: '?' :: ':' :: s) t r k'
  | capture {k l k' : Nat} {branches parts : List Tree} {s m r : List Char} {body t : Tree} :
    s.head? ≠ some '?' → Reads (k + 1) [] [] s body (')' :: m) l →
    Reads l branches (.capture k none body :: parts) m t r k' →
    Reads k branches parts ('(' :: s) t r k'

/-- What is left is no longer than the text. -/
theorem Reads.length_le {k k' : Nat} {branches parts : List Tree} {s r : List Char} {t : Tree}
    (h : Reads k branches parts s t r k') : r.length ≤ s.length := by
  induction h with
  | stop | close => exact Nat.le_refl _
  | bar _ ih | plain _ _ ih | escaped _ _ ih | startLine _ ih | endLine _ ih =>
    simp only [List.length_cons]
    omega
  | set _ hm _ ih =>
    simp only [List.length_cons]
    omega
  | group _ _ hbody hrest | capture _ _ _ hbody hrest =>
    simp only [List.length_cons] at hbody ⊢
    omega

/-- What a choice reads in a way of its own has to be escaped. -/
theorem isMeta_of_mem {c : Char} (hc : c ∈ [')', '|', '[', '?', '*', '+', '\x7b', '(']) :
    isMeta c = true := by
  simp only [List.mem_cons, List.not_mem_nil, or_false] at hc
  rcases hc with rfl | rfl | rfl | rfl | rfl | rfl | rfl | rfl <;> rfl

/-- A choice goes on with a single character, an escape or an anchor. -/
theorem choice_primitive {c : Char} {s r : List Char} {k fuel : Nat} {branches parts : List Tree}
    {t : Tree} (hc : c ∉ [')', '|', '[', '?', '*', '+', '\x7b', '('])
    (ht : primitive (before (c :: s) k) = some (t, before r k)) :
    choice (fuel + 1) branches parts (before (c :: s) k) =
      choice fuel branches (t :: parts) (before r k) := by
  rw [choice]
  simp only [bind_apply, skipSpace_apply, peek_apply, List.head?_cons, Option.bind_some]
  split <;> simp_all [bind_apply]

/-- A choice goes on behind a group. -/
theorem choice_group {s m : List Char} {k l fuel : Nat} {branches parts : List Tree} {body : Tree}
    (hbody : choice fuel [] [] (before s k) = some (body, before (')' :: m) l)) :
    choice (fuel + 1) branches parts (before ('(' :: '?' :: ':' :: s) k) =
      choice fuel branches (.group [] body :: parts) (before m l) := by
  have hopen : groupOpen (before ('(' :: '?' :: ':' :: s) k) = some (.group [], before s k) := rfl
  rw [choice]
  simp [bind_apply, skipSpace_apply, peek_apply, hopen, get_apply, modify_apply,
    verboseAfter, hbody, expect_cons]

/-- A parenthesis without a question mark captures. -/
theorem groupOpen_capture {s : List Char} {k : Nat} (hs : s.head? ≠ some '?') :
    groupOpen (before ('(' :: s) k) = some (.capture k none, before s (k + 1)) := by
  -- nothing that begins with a question mark stands here
  have hnot (p : List Char) : List.isPrefixOf ('?' :: p) s = false := by
    cases s with
    | nil => rfl
    | cons c s =>
      have hc : c ≠ '?' := by simpa using hs
      simp [List.isPrefixOf, Ne.symm hc]
  have hlook : ¬(["?=", "?!", "?<=", "?<!"].any fun p => p.toList.isPrefixOf s) = true := by
    simp [hnot]
  have hbump (text : String) (p : List Char) (htext : text.toList = '?' :: p) :
      bumpIf text (before s k) = some (false, before s k) := by
    rw [bumpIf, bind_apply, get_apply, Option.bind_some, if_neg (by simp [htext, hnot])]
    rfl
  rw [groupOpen]
  simp only [bind_apply, expect_cons, skipSpace_apply, get_apply, Option.bind_some, if_neg hlook,
    hbump "?P<" ['P', '<'] rfl, hbump "?<" ['<'] rfl, hbump "?" [] rfl, Bool.false_eq_true,
    if_false]
  rfl

/-- A choice goes on behind a group that captures. -/
theorem choice_capture {s m : List Char} {k l fuel : Nat} {branches parts : List Tree} {body : Tree}
    (hs : s.head? ≠ some '?')
    (hbody : choice fuel [] [] (before s (k + 1)) = some (body, before (')' :: m) l)) :
    choice (fuel + 1) branches parts (before ('(' :: s) k) =
      choice fuel branches (.capture k none body :: parts) (before m l) := by
  rw [choice]
  simp [bind_apply, skipSpace_apply, peek_apply, groupOpen_capture hs, get_apply, modify_apply,
    verboseAfter, hbody, expect_cons]

/-- Fuel for a text with a character in front is one more than fuel for the text. -/
theorem exists_fuel {c : Char} {s : List Char} {fuel : Nat} (h : (c :: s).length ≤ fuel) :
    ∃ n, fuel = n + 1 ∧ s.length ≤ n := by
  cases fuel with
  | zero => exact absurd h (Nat.not_succ_le_zero _)
  | succ n => exact ⟨n, rfl, Nat.le_of_succ_le_succ h⟩

/-- **The reader follows the grammar.** -/
theorem choice_of_reads {k k' : Nat} {branches parts : List Tree} {s r : List Char} {t : Tree}
    (h : Reads k branches parts s t r k') {fuel : Nat} (hfuel : s.length ≤ fuel) :
    choice (fuel + 1) branches parts (before s k) = some (t, before r k') := by
  induction h generalizing fuel with
  | stop => rfl
  | close => rfl
  -- the parts so far become a branch, and a new one begins
  | bar _ ih =>
    obtain ⟨n, rfl, hn⟩ := exists_fuel hfuel
    exact ih hn
  -- what needs no escape has no meaning of its own
  | plain hc _ ih =>
    obtain ⟨n, rfl, hn⟩ := exists_fuel hfuel
    rw [choice_primitive ?_ (primitive_plain hc)]
    · exact ih hn
    · intro hmem
      have hmeta := isMeta_of_mem hmem
      rw [hc] at hmeta
      cases hmeta
  | escaped hc _ ih =>
    obtain ⟨n, rfl, hn⟩ := exists_fuel hfuel
    rw [choice_primitive (by decide) (primitive_escaped hc)]
    exact ih (Nat.le_of_succ_le hn)
  | startLine _ ih =>
    obtain ⟨n, rfl, hn⟩ := exists_fuel hfuel
    exact ih hn
  | endLine _ ih =>
    obtain ⟨n, rfl, hn⟩ := exists_fuel hfuel
    exact ih hn
  -- a class is read by its own lemmas, and takes what it takes
  | @set k k' branches parts s m r set t hset hm _ ih =>
    obtain ⟨n, rfl, hn⟩ := exists_fuel hfuel
    have hnext : choice (n + 1 + 1) branches parts (before ('[' :: s) k) =
        choice (n + 1) branches (set :: parts) (before m k) := by
      rw [choice]
      simp [bind_apply, skipSpace_apply, peek_apply, hset]
    rw [hnext]
    exact ih (Nat.le_trans hm hn)
  -- the body is read with the fuel that is left, and so is what is behind it
  | group hread _ hbody hrest =>
    obtain ⟨n, rfl, hn⟩ := exists_fuel hfuel
    have hlength := hread.length_le
    simp only [List.length_cons] at hlength hn
    rw [choice_group (hbody (by omega))]
    exact hrest (by omega)
  | capture hs hread _ hbody hrest =>
    obtain ⟨n, rfl, hn⟩ := exists_fuel hfuel
    have hlength := hread.length_le
    rw [List.length_cons] at hlength
    rw [choice_capture hs (hbody hn)]
    exact hrest (by omega)

/-- So a text that the grammar reads to its end is a pattern. -/
theorem ofText?_of_reads {s : String} {t : Tree} {k : Nat} (h : Reads 1 [] [] s.toList t [] k)
    (hdepth : t.depth ≤ nestLimit) : Tree.ofText? s = some t := by
  have hread := choice_of_reads h (Nat.le_of_eq String.length_toList)
  rw [Tree.ofText?, StateT.run, hread]
  exact if_pos (by simpa using hdepth)

/-! ## Texts

  A text is written with a backslash before each character that has a meaning of its own, and is
  read character by character; so the parts of a branch are the characters of the text. -/

/-- A text that stands for itself. -/
def Tree.ofText (w : String) : Tree := Tree.ofParts (w.toList.map lit)

/-- A text is escaped character by character. -/
theorem escape_cons (c : Char) (w : List Char) (s : List Char) :
    (Pattern.escape (String.ofList (c :: w))).toList ++ s =
      (if isMeta c then ['\\', c] else [c]) ++
        ((Pattern.escape (String.ofList w)).toList ++ s) := by
  simp [Pattern.escape]

/-- An escaped text is read character by character. -/
theorem Reads.text {k k' : Nat} {branches parts : List Tree} {w s r : List Char} {t : Tree}
    (h : Reads k branches ((w.map lit).reverse ++ parts) s t r k') :
    Reads k branches parts ((Pattern.escape (String.ofList w)).toList ++ s) t r k' := by
  induction w generalizing parts with
  | nil => exact h
  | cons c w ih =>
    rw [List.map_cons, List.reverse_cons, List.append_assoc] at h
    rw [escape_cons]
    cases hc : isMeta c with
    | true =>
      rw [if_pos rfl, List.cons_append, List.singleton_append]
      exact .escaped hc (ih h)
    | false =>
      rw [if_neg (by decide), List.singleton_append]
      exact .plain hc (ih h)

/-- A text at the start of a branch. -/
theorem Reads.word {k k' : Nat} {branches : List Tree} {w : String} {s r : List Char} {t : Tree}
    (h : Reads k branches (w.toList.map lit).reverse s t r k') :
    Reads k branches [] ((Pattern.escape w).toList ++ s) t r k' := by
  rw [← List.append_nil (w.toList.map lit).reverse] at h
  rw [← String.ofList_toList (s := w)]
  exact h.text

/-- A choice between escaped texts, as it is written. -/
def textsSource (ws : List String) : List Char :=
  ['|'].intercalate (ws.map fun w => (Pattern.escape w).toList)

/-- Behind the first text stands a bar. -/
theorem textsSource_cons_cons (w v : String) (ws : List String) :
    textsSource (w :: v :: ws) =
      (Pattern.escape w).toList ++ '|' :: textsSource (v :: ws) := by
  simp [textsSource, List.intercalate_cons_cons]

/-- Texts with bars between them, up to the closing parenthesis: a choice between them. -/
theorem Reads.texts {k : Nat} (branches : List Tree) (s : List Char) {ws : List String}
    (hws : ws ≠ []) :
    Reads k branches [] (textsSource ws ++ ')' :: s)
      (Tree.ofBranches (branches.reverse ++ ws.map Tree.ofText)) (')' :: s) k := by
  induction ws generalizing branches with
  | nil => exact absurd rfl hws
  | cons w ws ih =>
    cases ws with
    -- the last text, and the parenthesis behind it
    | nil =>
      have hclose : Reads k branches (w.toList.map lit).reverse (')' :: s)
          (Tree.ofRead branches (w.toList.map lit).reverse) (')' :: s) k := .close
      rw [textsSource, List.map_singleton, List.map_singleton, List.intercalate_singleton]
      refine .word ?_
      simpa only [Tree.ofRead, Tree.ofText, List.reverse_reverse, List.reverse_cons] using hclose
    -- a bar, and more of them
    | cons v ws =>
      have hrest := ih (Tree.ofText w :: branches) (List.cons_ne_nil v ws)
      rw [List.reverse_cons, List.append_assoc, List.singleton_append, ← List.map_cons] at hrest
      rw [textsSource_cons_cons, List.append_assoc, List.cons_append]
      refine .word (.bar ?_)
      rw [List.reverse_reverse]
      exact hrest

/-- No text begins with the question mark of a group that does not capture. -/
theorem head?_textsSource (ws : List String) (s : List Char) :
    (textsSource ws ++ ')' :: s).head? ≠ some '?' := by
  have hescape (w : String) (m : List Char) (hm : m.head? ≠ some '?') :
      ((Pattern.escape w).toList ++ m).head? ≠ some '?' := by
    rw [← String.ofList_toList (s := w)]
    cases w.toList with
    | nil => exact hm
    | cons c cs =>
      rw [escape_cons]
      cases hc : isMeta c with
      | true => simp
      | false =>
        have hmark : c ≠ '?' := by
          rintro rfl
          exact absurd hc (by decide)
        simpa using hmark
  match ws with
  | [] => simp [textsSource]
  | [w] =>
    rw [textsSource, List.map_singleton, List.intercalate_singleton]
    exact hescape w _ (by simp)
  | w :: v :: ws =>
    rw [textsSource_cons_cons, List.append_assoc]
    exact hescape w _ (by simp)

end ExerciseGrading.Pattern
