/-
  CALLING BACK: six methods that ask a function about the items of a list.

  Each method is a loop of its own.  Some go on to the end, some leave off as soon as they know, and
  what the function does in between (it may bind names, or fail) is the context of the next call.
  To compare two of them it must not matter that one asks more often than the other.

  1. **The crux (`inTurn f items i c`)** — all items are asked in turn, from the context `c` on: the
     answers before the function stopped, and what stopped it.  A loop that leaves off early has
     asked the same questions in the same contexts up to there, so that what it finds is a fact
     about these answers.
  2. `mapped_inTurn`, `kept_inTurn`, `firstWhere_inTurn` — each loop reads its result off these
     answers, though it may leave off before the last of them.  Three inductions on the items.
  3. `search_cases` — `some`, `find` and `findIndex` find the same item, or end alike.
  4. `foundBy_true_of_answers`, `every_of_answers` — where there is an answer for every item, the
     searches are told by what a filter keeps.
  5. `callbacks_agree` — the laws that follow for the calls of the methods.
-/
import ExerciseGrading.Proofs.Number.WholeParts
import ExerciseGrading.Proofs.Snippet.Methods

namespace ExerciseGrading.Snippet

open Eval ListSearch

/-! ## All items in turn

  The function is asked about every item, in the context that the question before has left,
  until it fails.  What a loop that leaves off early has seen is a beginning of this. -/

/-- What a function answers for one item after the other. -/
structure InTurn where
  answers : List Value
  /-- What stopped the function before it had answered for all items. -/
  stop : Option Halt

namespace InTurn

/-- The end of a loop that goes on for as long as there are answers. -/
def finish {α : Type} (t : InTurn) (a : α) : Except Halt α :=
  match t.stop with
  | none => .ok a
  | some e => .error e

variable {α β : Type} {t : InTurn}

/-- What is made of the result of a loop is made at its end. -/
theorem finish_map (t : InTurn) (g : α → β) (a : α) : (t.finish a).map g = t.finish (g a) := by
  unfold finish
  split <;> rfl

/-- A loop that needs all answers succeeds if nothing stopped the function. -/
theorem finish_eq_ok_iff {a b : α} : t.finish a = .ok b ↔ t.stop = none ∧ a = b := by
  unfold finish
  cases t.stop <;> simp

/-- It fails with what stopped the function. -/
theorem finish_eq_error_iff {a : α} {e : Halt} : t.finish a = .error e ↔ t.stop = some e := by
  unfold finish
  cases t.stop <;> simp

end InTurn

/-- Asks all items in turn, the first of them in the context `c`. -/
def inTurn (f : Value → Nat → Eval Value) : List Value → Nat → Context → InTurn
  | [], _, _ => ⟨[], none⟩
  | v :: rest, i, c =>
    match f v i c with
    | (.ok r, c') => ⟨r :: (inTurn f rest (i + 1) c').answers, (inTurn f rest (i + 1) c').stop⟩
    | (.error e, _) => ⟨[], some e⟩

section

variable {f : Value → Nat → Eval Value} {v r : Value} {rest : List Value} {i : Nat}
  {c c' : Context} {e : Halt}

/-- After an answer the rest is asked, in the context that the call left. -/
theorem inTurn_of_ok (h : f v i c = (.ok r, c')) : inTurn f (v :: rest) i c =
    ⟨r :: (inTurn f rest (i + 1) c').answers, (inTurn f rest (i + 1) c').stop⟩ := by
  rw [inTurn, h]

/-- After a failure nobody is asked any more. -/
theorem inTurn_of_error (h : f v i c = (.error e, c')) :
    inTurn f (v :: rest) i c = ⟨[], some e⟩ := by
  rw [inTurn, h]

end

section

variable (f : Value → Nat → Eval Value) (items : List Value) (i : Nat) (c : Context)

/-- There is one answer for an item at most. -/
theorem length_answers_le : (inTurn f items i c).answers.length ≤ items.length := by
  induction items generalizing i c with
  | nil => exact Nat.le_refl 0
  | cons v rest ih =>
    obtain ⟨r, c', h⟩ : ∃ r c', f v i c = (r, c') := ⟨_, _, rfl⟩
    cases r with
    | error e =>
      rw [inTurn_of_error h]
      exact Nat.zero_le _
    | ok r =>
      rw [inTurn_of_ok h]
      exact Nat.succ_le_succ (ih (i + 1) c')

/-- If nothing stopped the function, there is an answer for every item. -/
theorem length_answers (h : (inTurn f items i c).stop = none) :
    (inTurn f items i c).answers.length = items.length := by
  induction items generalizing i c with
  | nil => rfl
  | cons v rest ih =>
    obtain ⟨r, c', hcall⟩ : ∃ r c', f v i c = (r, c') := ⟨_, _, rfl⟩
    cases r with
    | error e =>
      rw [inTurn_of_error hcall] at h
      cases h
    | ok r =>
      rw [inTurn_of_ok hcall] at h ⊢
      exact congrArg (· + 1) (ih (i + 1) c' h)

end

/-! ## The loops

  Each loop is told what the function answers, and its result is a function of the answers. -/

/-- What is made of a result after it is there. -/
theorem fst_map {α β : Type} (act : Eval α) (g : α → β) (c : Context) :
    ((act >>= fun a => pure (g a)) c).1 = (act c).1.map g := by
  obtain ⟨r, c', h⟩ : ∃ r c', act c = (r, c') := ⟨_, _, rfl⟩
  cases r with
  | error e =>
    rw [bind_of_error h, h]
    rfl
  | ok a =>
    rw [bind_of_ok h, h]
    rfl

/-- The items for which the answer counts as true. -/
def truthyItems (items answers : List Value) : List Value :=
  ((items.zip answers).filter fun m => m.2.truthy).map (·.1)

/-- The first item is kept if its answer counts as true. -/
theorem truthyItems_cons (v r : Value) (items answers : List Value) :
    truthyItems (v :: items) (r :: answers) =
      if r.truthy then v :: truthyItems items answers else truthyItems items answers := by
  cases h : r.truthy <;> simp [truthyItems, h]

/-- The number of the first answer of a kind. -/
def firstAnswer? (wanted : Bool) (answers : List Value) : Option Nat :=
  answers.findIdx? fun r => r.truthy == wanted

section

variable (f : Value → Nat → Eval Value) (items : List Value) (i : Nat) (c : Context)

/-- `map` gives all answers. -/
theorem mapped_inTurn :
    (mapped f items i c).1 = (inTurn f items i c).finish (inTurn f items i c).answers := by
  induction items generalizing i c with
  | nil => rfl
  | cons v rest ih =>
    obtain ⟨r, c', h⟩ : ∃ r c', f v i c = (r, c') := ⟨_, _, rfl⟩
    rw [mapped]
    cases r with
    | error e => rw [bind_of_error h, inTurn_of_error h]; rfl
    | ok r =>
      rw [bind_of_ok h, inTurn_of_ok h, fst_map, ih, InTurn.finish_map]
      rfl

/-- `filter` gives the items with true answers. -/
theorem kept_inTurn : (kept f items i c).1 =
    (inTurn f items i c).finish (truthyItems items (inTurn f items i c).answers) := by
  induction items generalizing i c with
  | nil => rfl
  | cons v rest ih =>
    obtain ⟨r, c', h⟩ : ∃ r c', f v i c = (r, c') := ⟨_, _, rfl⟩
    rw [kept]
    cases r with
    | error e => rw [bind_of_error h, inTurn_of_error h]; rfl
    | ok r =>
      rw [bind_of_ok h, inTurn_of_ok h, fst_map, ih, InTurn.finish_map, truthyItems_cons]
      rfl

/-- The first item with a wanted answer, whatever would have come after it. -/
theorem firstWhere_inTurn (wanted : Bool) : (firstWhere f wanted items i c).1 =
    match firstAnswer? wanted (inTurn f items i c).answers with
    | some k => .ok (items[k]?.map fun v => (v, i + k))
    | none => (inTurn f items i c).finish none := by
  induction items generalizing i c with
  | nil => rfl
  | cons v rest ih =>
    obtain ⟨r, c', h⟩ : ∃ r c', f v i c = (r, c') := ⟨_, _, rfl⟩
    rw [firstWhere]
    cases r with
    | error e => rw [bind_of_error h, inTurn_of_error h]; rfl
    | ok r =>
      rw [bind_of_ok h, inTurn_of_ok h, firstAnswer?, List.findIdx?_cons]
      -- the loop leaves off here, and so does the search among the answers
      by_cases hr : r.truthy = wanted
      · rw [if_pos hr, if_pos (beq_iff_eq.mpr hr)]
        rfl
      · rw [if_neg hr, if_neg (mt beq_iff_eq.mp hr), ih, firstAnswer?]
        cases (inTurn f rest (i + 1) c').answers.findIdx? fun r => r.truthy == wanted with
        | none => rfl
        | some k =>
          -- counted from the next item on, the answer has a smaller number and the same place
          dsimp only [Option.map_some]
          rw [List.getElem?_cons_succ, Nat.add_right_comm i 1 k]
          rfl

end

/-! ## The first answer of a kind

  The facts about lists that the laws need: where the first wanted answer is, what a filter
  keeps up to there, and when it keeps everything. -/

/-- The answer with this number counts as true, and none before it does. -/
def FirstTrue (answers : List Value) (k : Nat) : Prop :=
  (∃ r, answers[k]? = some r ∧ r.truthy = true) ∧
  ∀ j < k, ∃ r, answers[j]? = some r ∧ r.truthy = false

/-- The first answer of the kind “true” is one, and those before it are not. -/
theorem firstTrue_of_firstAnswer? {answers : List Value} {k : Nat}
    (h : firstAnswer? true answers = some k) : FirstTrue answers k := by
  obtain ⟨hk, htrue, hfirst⟩ := List.findIdx?_eq_some_iff_getElem.mp h
  refine ⟨⟨answers[k], List.getElem?_eq_getElem hk, beq_iff_eq.mp htrue⟩, fun j hj => ?_⟩
  have hfalse : answers[j].truthy = false := by simpa using hfirst j hj
  exact ⟨answers[j], List.getElem?_eq_getElem (Nat.lt_trans hj hk), hfalse⟩

/-- There is no answer of a kind if all are of the other one. -/
theorem firstAnswer?_eq_none_iff {wanted : Bool} {answers : List Value} :
    firstAnswer? wanted answers = none ↔ ∀ r ∈ answers, r.truthy = !wanted := by
  rw [firstAnswer?, List.findIdx?_eq_none_iff]
  refine forall₂_congr fun r _ => ?_
  cases r.truthy <;> cases wanted <;> decide

/-- The first item that is kept is the one with the first true answer. -/
theorem head?_truthyItems {items answers : List Value} (h : answers.length = items.length) :
    (truthyItems items answers).head? = (firstAnswer? true answers).bind (items[·]?) := by
  induction items generalizing answers with
  | nil =>
    obtain rfl := List.eq_nil_of_length_eq_zero h
    rfl
  | cons v items ih =>
    cases answers with
    | nil => cases h
    | cons r answers =>
      rw [truthyItems_cons, firstAnswer?, List.findIdx?_cons]
      cases hr : r.truthy with
      | true => rfl
      | false =>
        rw [if_neg Bool.false_ne_true, if_neg (by decide), ih (Nat.succ.inj h), firstAnswer?]
        cases answers.findIdx? fun r => r.truthy == true <;> rfl

/-- As many items as there are answers: all answers count as true. -/
theorem length_truthyItems_eq_iff {items answers : List Value} (h : answers.length = items.length) :
    (truthyItems items answers).length = items.length ↔ firstAnswer? false answers = none := by
  have hzip : (items.zip answers).length = items.length := by
    rw [List.length_zip, h, Nat.min_self]
  have hanswers : (items.zip answers).map (·.2) = answers := List.map_snd_zip (Nat.le_of_eq h)
  rw [truthyItems, List.length_map, ← hzip, List.length_filter_eq_length_iff,
    firstAnswer?_eq_none_iff]
  constructor
  · intro hall r hr
    rw [← hanswers] at hr
    obtain ⟨m, hm, rfl⟩ := List.mem_map.mp hr
    exact hall m hm
  · intro hall m hm
    refine hall m.2 ?_
    rw [← hanswers]
    exact List.mem_map_of_mem hm

/-! ## The calls

  From the loops to the calls of the methods.  Every method but `map` and `filter` is a search
  followed by a function of what was found, and there are two kinds of searches, one for each
  wanted answer. -/

section

variable (invoke : Invoke) (xs : List Value) (f : Value) (span : Span) (c : Context)

/-- How the call of a method with the function `f` ends. -/
def outcome (s : ListSearch) : Except Halt Value :=
  (callMethod invoke (.list xs) s.name [f] span c).1

/-- What `f` answers for the items of a list in turn. -/
def answersOf : InTurn := inTurn (callBack invoke span f) xs 0 c

/-- If nothing stopped `f`, it answered for every item of the list. -/
theorem length_answersOf (h : (answersOf invoke xs f span c).stop = none) :
    (answersOf invoke xs f span c).answers.length = xs.length :=
  length_answers _ xs 0 c h

/-- The call of `map` ends with the answers. -/
theorem outcome_map : outcome invoke xs f span c .map =
    (answersOf invoke xs f span c).finish (.list (answersOf invoke xs f span c).answers) := by
  rw [outcome, callMethod_search]
  refine (fst_map _ Value.list c).trans ?_
  rw [mapped_inTurn, InTurn.finish_map]
  rfl

/-- The call of `filter` ends with the items that it keeps. -/
theorem outcome_filter : outcome invoke xs f span c .filter =
    (answersOf invoke xs f span c).finish
      (.list (truthyItems xs (answersOf invoke xs f span c).answers)) := by
  rw [outcome, callMethod_search]
  refine (fst_map _ Value.list c).trans ?_
  rw [kept_inTurn, InTurn.finish_map]
  rfl

/-- What `find` makes of the first item with a true answer. -/
def foundItem : Option (Value × Nat) → Value
  | some (v, _) => v
  | none => .undefined

/-- What `findIndex` makes of it. -/
def foundPlace : Option (Value × Nat) → Float
  | some (_, i) => Float.ofNat i
  | none => -1.0

/-- The item that a method ends at, if it ends at one. -/
def foundBy (wanted : Bool) : Except Halt (Option (Value × Nat)) :=
  (firstWhere (callBack invoke span f) wanted xs 0 c).1

/-- `every` looks for an answer that is not true. -/
theorem outcome_every : outcome invoke xs f span c .every =
    (foundBy invoke xs f span c false).map fun m => .bool m.isNone := by
  rw [outcome, callMethod_search]
  exact fst_map _ _ c

/-- `some` looks for one that is. -/
theorem outcome_some : outcome invoke xs f span c .some_ =
    (foundBy invoke xs f span c true).map fun m => .bool m.isSome := by
  rw [outcome, callMethod_search]
  exact fst_map _ _ c

/-- `find` looks for the same, and takes the item. -/
theorem outcome_find : outcome invoke xs f span c .find =
    (foundBy invoke xs f span c true).map foundItem := by
  rw [outcome, callMethod_search]
  exact fst_map _ _ c

/-- `findIndex` takes its place. -/
theorem outcome_findIndex : outcome invoke xs f span c .findIndex =
    (foundBy invoke xs f span c true).map fun m => .number (foundPlace m) := by
  rw [outcome, callMethod_search]
  exact fst_map _ _ c

/-- **A search ends at the first wanted answer**; if there is none, it ends as asking all items
    does. -/
theorem foundBy_cases (wanted : Bool) :
    (∃ k v, firstAnswer? wanted (answersOf invoke xs f span c).answers = some k ∧
      xs[k]? = some v ∧ foundBy invoke xs f span c wanted = .ok (some (v, k))) ∨
    (firstAnswer? wanted (answersOf invoke xs f span c).answers = none ∧
      foundBy invoke xs f span c wanted = (answersOf invoke xs f span c).finish none) := by
  have hfound := firstWhere_inTurn (callBack invoke span f) xs 0 c wanted
  have hle : (answersOf invoke xs f span c).answers.length ≤ xs.length :=
    length_answers_le _ xs 0 c
  rw [foundBy]
  cases hfirst : firstAnswer? wanted (answersOf invoke xs f span c).answers with
  | none =>
    rw [answersOf] at hfirst
    rw [hfirst] at hfound
    exact .inr ⟨rfl, hfound⟩
  | some k =>
    -- there are no more answers than items, so the answer belongs to one
    obtain ⟨hk, -, -⟩ := List.findIdx?_eq_some_iff_getElem.mp hfirst
    have hitem : xs[k]? = some xs[k] := List.getElem?_eq_getElem (Nat.lt_of_lt_of_le hk hle)
    rw [answersOf] at hfirst
    rw [hfirst] at hfound
    dsimp only at hfound
    rw [hitem, Nat.zero_add] at hfound
    exact .inl ⟨k, xs[k], rfl, hitem, hfound⟩

/-- `some`, `find` and `findIndex` end at the same item; if there is none, they end alike. -/
theorem search_cases :
    (∃ k v, FirstTrue (answersOf invoke xs f span c).answers k ∧ xs[k]? = some v ∧
      outcome invoke xs f span c .some_ = .ok (.bool true) ∧
      outcome invoke xs f span c .find = .ok v ∧
      outcome invoke xs f span c .findIndex = .ok (.number (Float.ofNat k))) ∨
    ((∀ r ∈ (answersOf invoke xs f span c).answers, r.truthy = false) ∧
      outcome invoke xs f span c .some_ = (answersOf invoke xs f span c).finish (.bool false) ∧
      outcome invoke xs f span c .find = (answersOf invoke xs f span c).finish .undefined ∧
      outcome invoke xs f span c .findIndex =
        (answersOf invoke xs f span c).finish (.number (-1.0))) := by
  rw [outcome_some, outcome_find, outcome_findIndex]
  obtain ⟨k, v, hfirst, hitem, hfound⟩ | ⟨hnone, hfound⟩ := foundBy_cases invoke xs f span c true
  · rw [hfound]
    exact .inl ⟨k, v, firstTrue_of_firstAnswer? hfirst, hitem, rfl, rfl, rfl⟩
  · rw [hfound, InTurn.finish_map, InTurn.finish_map, InTurn.finish_map]
    exact .inr ⟨firstAnswer?_eq_none_iff.mp hnone, rfl, rfl, rfl⟩

/-- `some` is true if and only if `findIndex` gives a place. -/
theorem some_iff_findIndex : outcome invoke xs f span c .some_ = .ok (.bool true) ↔
    ∃ i : Nat, outcome invoke xs f span c .findIndex = .ok (.number (Float.ofNat i)) := by
  obtain ⟨k, v, -, -, hsome, -, hindex⟩ | ⟨-, hsome, -, hindex⟩ := search_cases invoke xs f span c
  · exact iff_of_true hsome ⟨k, hindex⟩
  · rw [hsome, hindex]
    refine iff_of_false (fun h => ?_) fun ⟨i, h⟩ => ?_
    · cases (InTurn.finish_eq_ok_iff.mp h).2
    · -- minus one is no natural number, nor the nearest double to one
      have hone : -1.0 = Float.ofNat i := Value.number.inj (InTurn.finish_eq_ok_iff.mp h).2
      exact (Number.unsigned_ofNat i).ne_neg_one hone.symm

/-- `every` fails only where asking all items fails. -/
theorem stop_of_every {e : Halt} (h : outcome invoke xs f span c .every = .error e) :
    (answersOf invoke xs f span c).stop = some e := by
  rw [outcome_every] at h
  -- had it ended at an item, it would not have failed
  obtain ⟨k, v, -, -, hfound⟩ | ⟨-, hfound⟩ := foundBy_cases invoke xs f span c false
  · rw [hfound] at h
    cases h
  · rw [hfound, InTurn.finish_map] at h
    exact InTurn.finish_eq_error_iff.mp h

variable {ys : List Value} (hstop : (answersOf invoke xs f span c).stop = none)
  (hys : ys = truthyItems xs (answersOf invoke xs f span c).answers)

include hstop hys

/-- Where `f` answers for all items, a search for a true answer ends at the first item that a
    filter keeps. -/
theorem foundBy_true_of_answers : ∃ m, foundBy invoke xs f span c true = .ok m ∧
    m.map (·.1) = ys.head? := by
  rw [hys, head?_truthyItems (length_answersOf invoke xs f span c hstop)]
  obtain ⟨k, v, hfirst, hitem, hfound⟩ | ⟨hnone, hfound⟩ := foundBy_cases invoke xs f span c true
  · rw [hfirst]
    exact ⟨some (v, k), hfound, hitem.symm⟩
  · rw [hnone]
    exact ⟨none, hfound.trans (InTurn.finish_eq_ok_iff.mpr ⟨hstop, rfl⟩), rfl⟩

/-- `some` is true where a filter keeps something. -/
theorem some_of_answers : outcome invoke xs f span c .some_ = .ok (.bool !ys.isEmpty) := by
  obtain ⟨m, hfound, hm⟩ := foundBy_true_of_answers invoke xs f span c hstop hys
  have hsome : m.isSome = ys.head?.isSome := by rw [← hm, Option.isSome_map]
  rw [outcome_some, hfound, Except.map, hsome]
  cases ys <;> rfl

/-- `find` is the first item that a filter keeps. -/
theorem find_of_answers :
    outcome invoke xs f span c .find = .ok (ys.head?.getD .undefined) := by
  obtain ⟨m, hfound, hm⟩ := foundBy_true_of_answers invoke xs f span c hstop hys
  rw [outcome_find, hfound, Except.map, ← hm]
  cases m <;> rfl

/-- `every` is true where a filter keeps everything. -/
theorem every_of_answers :
    outcome invoke xs f span c .every = .ok (.bool (decide (ys.length = xs.length))) := by
  have hall := length_truthyItems_eq_iff (length_answersOf invoke xs f span c hstop)
  rw [outcome_every, hys]
  obtain ⟨k, v, hfirst, -, hfound⟩ | ⟨hnone, hfound⟩ := foundBy_cases invoke xs f span c false
  · rw [hfirst] at hall
    -- an item with a false answer is one that the filter drops
    rw [hfound, decide_eq_false (mt hall.mp (Option.some_ne_none k))]
    rfl
  · rw [hfound, InTurn.finish_map, decide_eq_true (hall.mpr hnone)]
    exact InTurn.finish_eq_ok_iff.mpr ⟨hstop, rfl⟩

end

/-- **The methods that call back agree.**  `some`, `find` and `findIndex` end at the same item, the
    first for which `f` answers something true, or fail alike.  If `filter` succeeds, it keeps
    exactly the items for which `f` answers something true; the others then are what these items
    say.  The result of `map` has an answer for every item.  Where `every` fails, `filter` does. -/
theorem callbacks_agree (invoke : Invoke) (xs : List Value) (f : Value) (span : Span)
    (c : Context) :
    (∀ e, (outcome invoke xs f span c .some_ = .error e ↔
        outcome invoke xs f span c .find = .error e) ∧
      (outcome invoke xs f span c .find = .error e ↔
        outcome invoke xs f span c .findIndex = .error e)) ∧
    (outcome invoke xs f span c .some_ = .ok (.bool true) ↔
      ∃ i : Nat, outcome invoke xs f span c .findIndex = .ok (.number (Float.ofNat i))) ∧
    (∀ found, outcome invoke xs f span c .find = .ok found →
      (∃ i : Nat, outcome invoke xs f span c .some_ = .ok (.bool true) ∧
        outcome invoke xs f span c .findIndex = .ok (.number (Float.ofNat i)) ∧
        xs[i]? = some found ∧ FirstTrue (answersOf invoke xs f span c).answers i) ∨
      (outcome invoke xs f span c .some_ = .ok (.bool false) ∧
        outcome invoke xs f span c .findIndex = .ok (.number (-1.0)) ∧ found = .undefined ∧
        (answersOf invoke xs f span c).answers.length = xs.length ∧
        ∀ r ∈ (answersOf invoke xs f span c).answers, r.truthy = false)) ∧
    (∀ kept, outcome invoke xs f span c .filter = .ok kept → ∃ ys, kept = .list ys ∧
      (answersOf invoke xs f span c).answers.length = xs.length ∧
      ys = truthyItems xs (answersOf invoke xs f span c).answers ∧
      outcome invoke xs f span c .some_ = .ok (.bool !ys.isEmpty) ∧
      outcome invoke xs f span c .find = .ok (ys.head?.getD .undefined) ∧
      outcome invoke xs f span c .every = .ok (.bool (decide (ys.length = xs.length)))) ∧
    (∀ mapped, outcome invoke xs f span c .map = .ok mapped →
      ∃ ys, mapped = .list ys ∧ ys.length = xs.length) ∧
    (∀ e, outcome invoke xs f span c .every = .error e →
      outcome invoke xs f span c .filter = .error e) := by
  have hlength := length_answersOf invoke xs f span c
  refine ⟨fun e => ?_, some_iff_findIndex invoke xs f span c, fun found h => ?_, fun kept h => ?_,
    fun mapped h => ?_, fun e h => ?_⟩
  · obtain ⟨k, v, -, -, hsome, hfind, hindex⟩ | ⟨-, hsome, hfind, hindex⟩ :=
      search_cases invoke xs f span c
    · rw [hsome, hfind, hindex]
      simp
    · rw [hsome, hfind, hindex, InTurn.finish_eq_error_iff, InTurn.finish_eq_error_iff,
        InTurn.finish_eq_error_iff]
      exact ⟨Iff.rfl, Iff.rfl⟩
  · obtain ⟨k, v, hfirst, hitem, hsome, hfind, hindex⟩ | ⟨hnone, hsome, hfind, hindex⟩ :=
      search_cases invoke xs f span c
    · obtain rfl : v = found := Except.ok.inj (hfind.symm.trans h)
      exact .inl ⟨k, hsome, hindex, hitem, hfirst⟩
    · obtain ⟨hstop, hfound⟩ := InTurn.finish_eq_ok_iff.mp (hfind.symm.trans h)
      exact .inr ⟨hsome.trans (InTurn.finish_eq_ok_iff.mpr ⟨hstop, rfl⟩),
        hindex.trans (InTurn.finish_eq_ok_iff.mpr ⟨hstop, rfl⟩), hfound.symm, hlength hstop, hnone⟩
  · obtain ⟨hstop, hkept⟩ := InTurn.finish_eq_ok_iff.mp ((outcome_filter ..).symm.trans h)
    exact ⟨_, hkept.symm, hlength hstop, rfl, some_of_answers invoke xs f span c hstop rfl,
      find_of_answers invoke xs f span c hstop rfl, every_of_answers invoke xs f span c hstop rfl⟩
  · obtain ⟨hstop, hmapped⟩ := InTurn.finish_eq_ok_iff.mp ((outcome_map ..).symm.trans h)
    exact ⟨_, hmapped.symm, hlength hstop⟩
  · rw [outcome_filter]
    exact InTurn.finish_eq_error_iff.mpr (stop_of_every invoke xs f span c h)

/-- `Boolean` keeps what counts as true; what is no function stops all of the methods. -/
theorem callbacks_agree_boolean :
    outcome (invokeArrow 1) [.string "", .string "a"] (.native .boolean) ⟨0, 6⟩
      ⟨[], 0, 0, 128, 32, 0⟩ .filter = .ok (.list [.string "a"]) ∧
    outcome (invokeArrow 1) [.string "", .string "a"] (.native .boolean) ⟨0, 6⟩
      ⟨[], 0, 0, 128, 32, 0⟩ .find = .ok (.string "a") ∧
    outcome (invokeArrow 1) [.string ""] .null ⟨0, 6⟩ ⟨[], 0, 0, 128, 32, 0⟩ .every =
      .error (.failed (.notFunction "null" ⟨0, 6⟩)) ∧
    outcome (invokeArrow 1) [.string ""] .null ⟨0, 6⟩ ⟨[], 0, 0, 128, 32, 0⟩ .filter =
      .error (.failed (.notFunction "null" ⟨0, 6⟩)) := by
  have hfilter : outcome (invokeArrow 1) [.string "", .string "a"] (.native .boolean) ⟨0, 6⟩
      ⟨[], 0, 0, 128, 32, 0⟩ .filter = .ok (.list [.string "a"]) := by
    rw [outcome, callMethod_search]
    rfl
  have hevery : outcome (invokeArrow 1) [.string ""] .null ⟨0, 6⟩ ⟨[], 0, 0, 128, 32, 0⟩ .every =
      .error (.failed (.notFunction "null" ⟨0, 6⟩)) := by
    rw [outcome, callMethod_search]
    rfl
  obtain ⟨-, -, -, hkept, -, -⟩ := callbacks_agree (invokeArrow 1) [.string "", .string "a"]
    (.native .boolean) ⟨0, 6⟩ ⟨[], 0, 0, 128, 32, 0⟩
  obtain ⟨-, -, -, -, -, hfailed⟩ := callbacks_agree (invokeArrow 1) [.string ""] .null ⟨0, 6⟩
    ⟨[], 0, 0, 128, 32, 0⟩
  obtain ⟨ys, hys, -, -, -, hfind, -⟩ := hkept _ hfilter
  obtain rfl : [.string "a"] = ys := Value.list.inj hys
  exact ⟨hfilter, hfind, hevery, hfailed _ hevery⟩

end ExerciseGrading.Snippet
