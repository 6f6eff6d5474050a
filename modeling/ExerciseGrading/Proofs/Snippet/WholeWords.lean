/-
  WHOLE WORDS: what the screen finds in a text.

  A word of a text is a run of name characters that is as long as it can be: a `WordRun` takes the
  text apart into what stands before the word, the word, and what stands after it.

  1. `deniedAt?_eq_some` — the question that the scan asks at one place: is the run that begins
     here, as a whole, a denied name? Denied names are made of name characters, so at most one of
     them is that run, though some are beginnings of others.
  2. `firstDenied?_eq_some`, `firstDenied?_eq_none` — the search from a place on.  It carries the
     text that it has passed, which says both whether a word is being passed and how many bytes
     there were.
  3. `screen_eq_error_iff` — the screen refuses the texts in which some run is a denied name, and
     points to the first of them.

  The screen itself is a search with a pattern; that its first match reports what the scan finds is
  `screen_eq` of `Proofs.Snippet.Denylist`.

  **The crux (the invariant of the scan).**  The scan keeps a truth value and a number.  For a text
  `before ++ s` of which `before` has been passed they are `endsInWord before` and `Text.byteLength
  before`; so the two lemmas about the search are inductions on `s` for every `before`, and one step
  appends the character that is passed to `before` (`firstDenied?_cons`).
-/
import ExerciseGrading.Proofs.Snippet.Denied

namespace ExerciseGrading.Snippet

/-! ## Runs of name characters

  A run cannot be made longer to either side.  So at one place there is at most one, and of two
  texts in front of the first denied run neither can be the longer one. -/

/-- A word of a text: name characters, with none to either side. -/
structure WordRun (text before word after : List Char) : Prop where
  text_eq : text = before ++ word ++ after
  ne_nil : word ≠ []
  inside : ∀ c ∈ word, isNameChar c = true
  left : ∀ c, before.getLast? = some c → isNameChar c = false
  right : ∀ c, after.head? = some c → isNameChar c = false

/-- A word of a text that is a denied name. -/
structure DeniedRun (text before word after : List Char) : Prop
    extends WordRun text before word after where
  denied : String.ofList word ∈ deniedNames

/-- The first word of a text that is a denied name. -/
structure FirstDeniedRun (text before word after : List Char) : Prop
    extends DeniedRun text before word after where
  first : ∀ before' word' after', DeniedRun text before' word' after' →
    before.length ≤ before'.length

/-- A word ends where no name character follows. -/
theorem atWordEnd_iff {s : List Char} :
    atWordEnd s = true ↔ ∀ c, s.head? = some c → isNameChar c = false := by
  cases s with
  | nil => simp [atWordEnd]
  | cons d s => simp [atWordEnd]

/-- A run is all that the text goes on with as a word. -/
theorem takeWhile_word {word after : List Char} (hin : ∀ c ∈ word, isNameChar c = true)
    (hend : atWordEnd after = true) : (word ++ after).takeWhile isNameChar = word := by
  have hafter : after.takeWhile isNameChar = [] := by
    cases after with
    | nil => rfl
    | cons d s =>
      have hd : isNameChar d = false := by simpa [atWordEnd] using hend
      rw [List.takeWhile_cons_of_neg (by simp [hd])]
  rw [List.takeWhile_append_of_pos hin, hafter, List.append_nil]

/-- From one place on there is one word. -/
theorem WordRun.unique {text before word after word' after' : List Char}
    (h : WordRun text before word after) (h' : WordRun text before word' after') :
    word = word' ∧ after = after' := by
  have hrest : word ++ after = word' ++ after' := by
    have heq := h.text_eq.symm.trans h'.text_eq
    rw [List.append_assoc, List.append_assoc] at heq
    exact List.append_cancel_left heq
  have hword : word = word' := by
    rw [← takeWhile_word h.inside (atWordEnd_iff.mpr h.right), hrest,
      takeWhile_word h'.inside (atWordEnd_iff.mpr h'.right)]
  subst hword
  exact ⟨rfl, List.append_cancel_left hrest⟩

/-- There is one first word. -/
theorem FirstDeniedRun.unique {text before word after before' word' after' : List Char}
    (h : FirstDeniedRun text before word after) (h' : FirstDeniedRun text before' word' after') :
    before = before' ∧ word = word' ∧ after = after' := by
  have hlength : before.length = before'.length :=
    Nat.le_antisymm (h.first _ _ _ h'.toDeniedRun) (h'.first _ _ _ h.toDeniedRun)
  have heq := h.text_eq.symm.trans h'.text_eq
  rw [List.append_assoc, List.append_assoc] at heq
  obtain ⟨rfl, -⟩ := List.append_inj heq hlength
  exact ⟨rfl, h.toWordRun.unique h'.toWordRun⟩

/-! ## One place

  Denied names are words themselves.  So a name that stands at a place with a word end behind it
  is all of the run that begins there, and there is no second one. -/

/-- Denied names are made of name characters. -/
theorem all_nameChar_of_denied : ∀ w ∈ deniedNames, w.toList.all isNameChar = true := by
  decide

/-- Denied names are words. -/
theorem isWord_of_denied {w : String} (h : w ∈ deniedNames) :
    w.toList ≠ [] ∧ ∀ c ∈ w.toList, isNameChar c = true := by
  obtain ⟨c, hhead, -⟩ := exists_head_of_denied h
  refine ⟨fun hnil => ?_, List.all_eq_true.mp (all_nameChar_of_denied w h)⟩
  rw [hnil] at hhead
  cases hhead

/-- What the scan finds at a place is a denied name that stands there whole. -/
theorem denied_of_deniedAt? {s : List Char} {w : String} (h : deniedAt? s = some w) :
    w ∈ deniedNames ∧ ∃ after, s = w.toList ++ after ∧ atWordEnd after = true := by
  have hstands := List.find?_some h
  unfold standsAt at hstands
  split at hstands
  · rename_i after hafter
    exact ⟨List.mem_of_find?_eq_some h, after, Text.dropStart?_eq_some.mp hafter, hstands⟩
  · cases hstands

theorem deniedAt?_eq_some {s : List Char} {w : String} :
    deniedAt? s = some w ↔
      w ∈ deniedNames ∧ ∃ after, s = w.toList ++ after ∧ atWordEnd after = true := by
  refine ⟨denied_of_deniedAt?, ?_⟩
  rintro ⟨hw, after, hs, hend⟩
  cases hfound : deniedAt? s with
  | none =>
    have hno := List.find?_eq_none.mp hfound w hw
    rw [standsAt, Text.dropStart?_eq_some.mpr hs] at hno
    exact absurd hend hno
  | some u =>
    -- another name that stands here is the same run
    obtain ⟨hu, after', hs', hend'⟩ := denied_of_deniedAt? hfound
    have heq : u.toList = w.toList := by
      rw [← takeWhile_word (isWord_of_denied hu).2 hend', ← hs', hs,
        takeWhile_word (isWord_of_denied hw).2 hend]
    rw [String.toList_inj.mp heq]

/-- Whether a text ends inside a word, for all that is known so far. -/
def endsInWord (s : List Char) : Bool := s.getLast?.any isNameChar

/-- Passing a character tells whether a word is being passed. -/
theorem endsInWord_concat (s : List Char) (c : Char) : endsInWord (s ++ [c]) = isNameChar c := by
  rw [endsInWord, List.getLast?_concat, Option.any_some]

/-- No word is being passed behind a character that no name has, or at the start. -/
theorem endsInWord_eq_false {s : List Char} :
    endsInWord s = false ↔ ∀ c, s.getLast? = some c → isNameChar c = false := by
  cases h : s.getLast? with
  | none => simp [endsInWord, h]
  | some d => simp [endsInWord, h]

/-- What the screen asks at a place is whether a denied word begins there. -/
theorem deniedRun_iff {before s word after : List Char} :
    DeniedRun (before ++ s) before word after ↔
      s = word ++ after ∧ endsInWord before = false ∧
        deniedAt? s = some (String.ofList word) := by
  constructor
  · intro h
    have hs : s = word ++ after := by
      have heq := h.text_eq
      rw [List.append_assoc] at heq
      exact List.append_cancel_left heq
    refine ⟨hs, endsInWord_eq_false.mpr h.left, deniedAt?_eq_some.mpr ⟨h.denied, after, ?_, ?_⟩⟩
    · rw [String.toList_ofList]
      exact hs
    · exact atWordEnd_iff.mpr h.right
  · rintro ⟨hs, hleft, hdenied⟩
    obtain ⟨hw, after', hs', hend⟩ := deniedAt?_eq_some.mp hdenied
    rw [String.toList_ofList] at hs'
    obtain rfl : after = after' := List.append_cancel_left (hs.symm.trans hs')
    -- a name is a word of its own accord: the scan looked at its ends only
    obtain ⟨hne, hin⟩ := isWord_of_denied hw
    rw [String.toList_ofList] at hne hin
    exact {
      text_eq := by rw [hs, List.append_assoc]
      ne_nil := hne
      inside := hin
      left := endsInWord_eq_false.mp hleft
      right := atWordEnd_iff.mp hend
      denied := hw }

/-! ## The search

  One step passes a character or ends the search.  What is kept is that no denied word begins in
  what has been passed; a word that does not begin before the place therefore begins at it,
  where the search ends, or further on (`DeniedRun.here_or_later`). -/

/-- Whether a denied word begins at a place, behind `before`. -/
def BeginsHere (before s : List Char) : Prop :=
  endsInWord before = false ∧ ∃ w, deniedAt? s = some w

/-- Where no denied word begins, the search goes on behind the character. -/
theorem firstDenied?_cons {before s : List Char} {c : Char} (h : ¬BeginsHere before (c :: s)) :
    firstDenied? (endsInWord before) (Text.byteLength before) (c :: s) =
      firstDenied? (endsInWord (before ++ [c])) (Text.byteLength (before ++ [c])) s := by
  have hnone : (if endsInWord before then none else deniedAt? (c :: s)) = none := by
    cases hleft : endsInWord before with
    | true => rfl
    | false =>
      cases hdenied : deniedAt? (c :: s) with
      | none => rfl
      | some w => exact absurd ⟨hleft, w, hdenied⟩ h
  have hpos : Text.byteLength (before ++ [c]) = Text.byteLength before + c.utf8Size := by
    rw [Text.byteLength_append]
    rfl
  rw [firstDenied?, hnone, endsInWord_concat, hpos]

/-- A denied word that does not begin before a place begins at it or behind its character. -/
theorem DeniedRun.here_or_later {before s earlier word after : List Char} {c : Char}
    (h : DeniedRun (before ++ c :: s) earlier word after)
    (hlength : before.length ≤ earlier.length) :
    BeginsHere before (c :: s) ∨ (before ++ [c]).length ≤ earlier.length := by
  rcases Nat.eq_or_lt_of_le hlength with heq | hlt
  · have htext := h.text_eq
    rw [List.append_assoc] at htext
    obtain ⟨rfl, -⟩ := List.append_inj htext heq
    obtain ⟨-, hleft, hdenied⟩ := deniedRun_iff.mp h
    exact .inl ⟨hleft, _, hdenied⟩
  · right
    rw [List.length_append, List.length_singleton]
    exact hlt

/-- What the search finds is the first denied word that does not begin before the place from which
    it searches. -/
theorem firstDenied?_eq_some {before s : List Char} {w : String} {pos : Nat}
    (h : firstDenied? (endsInWord before) (Text.byteLength before) s = some (w, pos)) :
    ∃ passed after, DeniedRun (before ++ s) passed w.toList after ∧
      pos = Text.byteLength passed ∧
      ∀ earlier word' after', DeniedRun (before ++ s) earlier word' after' →
        before.length ≤ earlier.length → passed.length ≤ earlier.length := by
  induction s generalizing before with
  | nil => cases h
  | cons c s ih =>
    by_cases hhere : BeginsHere before (c :: s)
    · obtain ⟨hleft, u, hu⟩ := hhere
      rw [firstDenied?, hleft, hu] at h
      obtain ⟨rfl, rfl⟩ := Prod.mk.inj (Option.some.inj h)
      obtain ⟨-, after, hs, -⟩ := denied_of_deniedAt? hu
      refine ⟨before, after, deniedRun_iff.mpr ⟨hs, hleft, ?_⟩, rfl, fun _ _ _ _ hle => hle⟩
      rw [String.ofList_toList]
      exact hu
    · -- none begins here, so what is found later is the first
      rw [firstDenied?_cons hhere] at h
      obtain ⟨passed, after, hrun, hpos, hfirst⟩ := ih h
      rw [← List.append_cons] at hrun hfirst
      refine ⟨passed, after, hrun, hpos, fun earlier word' after' hrun' hlength => ?_⟩
      rcases hrun'.here_or_later hlength with hbegins | hlater
      · exact absurd hbegins hhere
      · exact hfirst _ _ _ hrun' hlater

/-- If the search finds nothing, every denied word begins before the place from which it
    searches. -/
theorem firstDenied?_eq_none {before s earlier word after : List Char}
    (h : firstDenied? (endsInWord before) (Text.byteLength before) s = none)
    (hrun : DeniedRun (before ++ s) earlier word after) : earlier.length < before.length := by
  induction s generalizing before with
  | nil =>
    -- a word takes a character
    have hlength := congrArg List.length hrun.text_eq
    have hword := List.length_pos_iff.mpr hrun.ne_nil
    simp only [List.append_nil, List.length_append] at hlength
    omega
  | cons c s ih =>
    by_cases hhere : BeginsHere before (c :: s)
    · obtain ⟨hleft, u, hu⟩ := hhere
      rw [firstDenied?, hleft, hu] at h
      cases h
    · rw [firstDenied?_cons hhere] at h
      -- it begins no later than the character that was passed …
      have hbefore : earlier.length < (before ++ [c]).length := by
        refine ih h ?_
        rw [← List.append_cons]
        exact hrun
      -- … and not at it, for no denied word begins there
      by_contra hlength
      rcases hrun.here_or_later (Nat.le_of_not_lt hlength) with hbegins | hlater
      · exact hhere hbegins
      · omega

theorem firstDenied?_whole (s : List Char) :
    firstDenied? false 0 s = firstDenied? (endsInWord []) (Text.byteLength []) s := rfl

/-! ## The screen

  From the start of the text nothing has been passed, so that the word found is the first of
  all. -/

/-- What a refusal says and where it points. -/
theorem screen_eq_error {snippet : String} {f : Failure} (h : screen snippet = .error f) :
    ∃ before word after, FirstDeniedRun snippet.toList before word after ∧
      f = .deniedName (String.ofList word)
        ⟨Text.byteLength before, Text.byteLength before + Text.byteLength word⟩ := by
  rw [screen_eq] at h
  split at h
  · rename_i w pos hfound
    rw [firstDenied?_whole] at hfound
    obtain ⟨before, after, hrun, rfl, hfirst⟩ := firstDenied?_eq_some hfound
    refine ⟨before, w.toList, after, ⟨hrun, fun earlier _ _ hrun' => ?_⟩, ?_⟩
    · exact hfirst _ _ _ hrun' (Nat.zero_le _)
    · rw [← Except.error.inj h, String.ofList_toList, utf8ByteSize_eq_byteLength]
  · cases h

/-- A text with a denied word is refused. -/
theorem exists_screen_eq_error {snippet : String} {before word after : List Char}
    (hrun : DeniedRun snippet.toList before word after) : ∃ f, screen snippet = .error f := by
  cases hfound : firstDenied? false 0 snippet.toList with
  | none =>
    rw [firstDenied?_whole] at hfound
    exact absurd (firstDenied?_eq_none hfound hrun) (Nat.not_lt_zero _)
  | some found => exact ⟨_, by rw [screen_eq, hfound]⟩

/-- **The screen refuses a text just if one of its words is a denied name.**  A refusal names the
    first such word, and points to the bytes that it takes. -/
theorem screen_eq_error_iff (snippet : String) :
    ((∃ f, screen snippet = .error f) ↔
      ∃ before word after, DeniedRun snippet.toList before word after) ∧
    ∀ f, screen snippet = .error f ↔
      ∃ before word after, FirstDeniedRun snippet.toList before word after ∧
        f = .deniedName (String.ofList word)
          ⟨Text.byteLength before, Text.byteLength before + Text.byteLength word⟩ := by
  refine ⟨⟨?_, ?_⟩, fun f => ⟨screen_eq_error, ?_⟩⟩
  · rintro ⟨f, hf⟩
    obtain ⟨before, word, after, hfirst, -⟩ := screen_eq_error hf
    exact ⟨before, word, after, hfirst.toDeniedRun⟩
  · rintro ⟨before, word, after, hrun⟩
    exact exists_screen_eq_error hrun
  · rintro ⟨before, word, after, hfirst, rfl⟩
    obtain ⟨f, hf⟩ := exists_screen_eq_error hfirst.toDeniedRun
    obtain ⟨before', word', after', hfirst', rfl⟩ := screen_eq_error hf
    obtain ⟨rfl, rfl, -⟩ := hfirst.unique hfirst'
    exact hf

/-- Places are counted in bytes, and `xfs` is another word. -/
example : screen "é xfs fs" = .error (.deniedName "fs" ⟨7, 9⟩) := by
  rw [screen_eq]
  decide

end ExerciseGrading.Snippet
