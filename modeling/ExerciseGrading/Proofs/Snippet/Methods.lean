/-
  METHODS BY NAME: what the call of a method comes to.

  1. `Gives act v` — the evaluation gives the value `v` and leaves the context as it is.  Two in a
     row give what the second gives (`Gives.bind`), and nothing gives two values (`Gives.unique`).
  2. `gives_text`, `gives_list` — the methods that only look at their arguments are found by their
     names, and give what they compute.
  3. `callMethod_search` — the methods that call back are found by theirs, and call their argument.
-/
import ExerciseGrading.Snippet.Evaluate

namespace ExerciseGrading.Snippet

open Eval

/-- The evaluation gives a value, in every context, and leaves the context as it is. -/
def Gives (act : Eval Value) (v : Value) : Prop := ∀ c, act c = (.ok v, c)

/-- A result that is a value is given as it is. -/
theorem gives_settle {r : Except Failure Value} {v : Value} (h : r = .ok v) :
    Gives (settle r) v := by
  intro c
  rw [h]
  rfl

/-- Two evaluations in a row. -/
theorem Gives.bind {act : Eval Value} {next : Value → Eval Value} {v w : Value} (h : Gives act v)
    (hnext : Gives (next v) w) : Gives (act >>= next) w := by
  intro c
  rw [bind_of_ok (h c), hnext c]

/-- There is one context to look at, and it decides. -/
theorem Gives.unique {act : Eval Value} {v w : Value} (h : Gives act v) (h' : Gives act w) :
    v = w := by
  have heq := (h ⟨[], 0, 0, 0, 0, 0⟩).symm.trans (h' ⟨[], 0, 0, 0, 0, 0⟩)
  cases heq
  rfl

/-! ## Names

  The groups of methods are lists, and a name is looked for in one after the other.  That it is
  found where it should be is checked for every method by computation. -/

/-- A method is found by its name, since no two have one name. -/
theorem TextMethod.find?_name (m : TextMethod) : all.find? (·.name = m.name) = some m := by
  cases m <;> rfl

theorem ListMethod.find?_name (m : ListMethod) : all.find? (·.name = m.name) = some m := by
  cases m <;> rfl

theorem ListSearch.find?_name (m : ListSearch) : all.find? (·.name = m.name) = some m := by
  cases m <;> rfl

/-- The two groups of methods of lists have no name in common. -/
theorem ListMethod.find?_name_search (m : ListSearch) : all.find? (·.name = m.name) = none := by
  cases m <;> rfl

/-! ## Calls

  Only an object has members of its own that a name could mean.  For a text and for a list the
  group decides, and the method is handed the arguments as they are. -/

variable (invoke : Invoke) (args : List Value) (span : Span)

/-- **A method of a text** gives what it computes from the text and the arguments. -/
theorem gives_text (m : TextMethod) {s : String} {v : Value} (h : m.call s args = .ok v) :
    Gives (callMethod invoke (.string s) m.name args span) v := by
  have hmethod : method? invoke (.string s) m.name = some fun args _ => settle (m.call s args) := by
    rw [method?, m.find?_name]
    rfl
  unfold callMethod
  rw [hmethod]
  exact gives_settle h

/-- **A method of a list** that calls nothing gives what it computes. -/
theorem gives_list (m : ListMethod) (items : List Value) :
    Gives (callMethod invoke (.list items) m.name args span) (m.call items args) := by
  have hmethod : method? invoke (.list items) m.name =
      some fun args _ => pure (m.call items args) := by
    rw [method?, m.find?_name]
  unfold callMethod
  rw [hmethod]
  exact fun c => rfl

/-- Calls a function with an item and its place. -/
def callBack (f : Value) (v : Value) (i : Nat) : Eval Value :=
  callValue invoke f [v, .number (Float.ofNat i)] span

/-- **A method that calls back** calls its first argument, at the place of the call. -/
theorem callMethod_search (m : ListSearch) (items : List Value) :
    callMethod invoke (.list items) m.name args span =
      m.call (callBack invoke span (arg args 0)) items := by
  have hmethod : method? invoke (.list items) m.name =
      some fun args span => m.call (callBack invoke span (arg args 0)) items := by
    rw [method?, ListMethod.find?_name_search, m.find?_name]
    rfl
  unfold callMethod
  rw [hmethod]

/-- A function of the program's own gives what it computes. -/
theorem gives_native (n : Native) {v : Value} (h : n.call args span = .ok v) :
    Gives (callValue invoke (.native n) args span) v :=
  gives_settle h

end ExerciseGrading.Snippet
