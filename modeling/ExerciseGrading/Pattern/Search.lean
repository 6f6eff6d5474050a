/-
  RUNNING a pattern machine over a text.

  All threads of the machine advance together, one character at a time, in order of preference;
  of threads at the same step only the preferred one goes on.  So the work is at most the number
  of steps times the length of the text, and the match found is the leftmost one and, of those,
  the one that the branches prefer.

  1. `expand`   — the threads that a list of steps leads to without taking a character.
  2. `advance`  — one character.
  3. `firstMatch` — the captures of the first match at or after a place.
-/
import ExerciseGrading.Pattern.Machine

namespace ExerciseGrading.Pattern

open Text

/-- Places in the text where groups begin and end. -/
abbrev Slots := Array (Option Nat)

/-- A step to run, with the groups seen on the way to it. -/
structure Thread where
  step : Nat
  slots : Slots
deriving Inhabited

def unicodeWord : RangeIndex := RangeIndex.ofRanges Property.wordChars
def asciiWord : RangeIndex := RangeIndex.ofRanges (Property.asciiClass "word")

/-- Whether a condition holds between two characters; none stands for an end of the text. -/
def Look.holds (before after : Option Char) : Look → Bool
  | .start => before.isNone
  | .stop => after.isNone
  | .startLine crlf =>
    before.isNone || before == some '\n' || (crlf && before == some '\r' && after != some '\n')
  | .endLine crlf =>
    after.isNone ||
      if crlf then after == some '\r' || (after == some '\n' && before != some '\r')
      else after == some '\n'
  | .word unicode look =>
    let table := if unicode then unicodeWord else asciiWord
    let left := before.any table.hasChar
    let right := after.any table.hasChar
    match look with
    | .boundary => left != right
    | .notBoundary => left == right
    | .start => !left && right
    | .stop => left && !right
    | .startHalf => !left
    | .stopHalf => !right

/-- Follows the steps on the stack that take no character, preferred ones first.  `seen` marks
    the steps that already have a thread. -/
def expand (m : Machine) (place : Nat) (before after : Option Char) :
    Nat → List Thread → Array Bool → Array Thread → Array Thread × Array Bool
  | 0, _, seen, out => (out, seen)
  | _, [], seen, out => (out, seen)
  | fuel + 1, t :: stack, seen, out =>
    if seen.getD t.step true then expand m place before after fuel stack seen out
    else
      let seen := seen.set! t.step true
      match m.steps.getD t.step .accept with
      | .char _ _ => expand m place before after fuel stack seen (out.push t)
      | .accept => expand m place before after fuel stack seen (out.push t)
      | .look l next =>
        if l.holds before after then
          expand m place before after fuel (⟨next, t.slots⟩ :: stack) seen out
        else expand m place before after fuel stack seen out
      | .save slot next =>
        expand m place before after fuel
          (⟨next, t.slots.set! slot (some place)⟩ :: stack) seen out
      | .branch nexts =>
        expand m place before after fuel (nexts.map (⟨·, t.slots⟩) ++ stack) seen out

/-- The fuel that following a step takes, and its continuations' places on the stack. -/
def Step.cost : Step → Nat
  | .branch nexts => nexts.length + 1
  | _ => 2

/-- Enough fuel to follow every step once. -/
def Machine.fuel (m : Machine) : Nat := m.steps.foldl (fun n s => n + s.cost) 2

/-- The threads before the first that accepts, and that thread's groups. -/
def untilAccept (m : Machine) : List Thread → List Thread × Option Slots
  | [] => ([], none)
  | t :: rest =>
    match m.steps.getD t.step .accept with
    | .accept => ([], some t.slots)
    | _ =>
      let (ts, r) := untilAccept m rest
      (t :: ts, r)

/-- The threads after taking `c`, not yet expanded. -/
def advance (m : Machine) (c : Char) (ts : List Thread) : List Thread :=
  ts.filterMap fun t =>
    match m.steps.getD t.step .accept with
    | .char set next => if set.hasChar c then some ⟨next, t.slots⟩ else none
    | _ => none

/-- What threads come to at a place: those that wait for a character, and the groups of the first
    that accepts before them all. -/
def settle (m : Machine) (text : Array Char) (place : Nat) (ts : List Thread) :
    List Thread × Option Slots :=
  let before := if place = 0 then none else text[place - 1]?
  let (threads, _) := expand m place before text[place]? (m.fuel + ts.length) ts
    (Array.replicate m.steps.size false) #[]
  untilAccept m threads.toList

/-- Runs all threads from `place` on; `found` is the best match so far.  While there is none, one
    more thread starts at every place. -/
def run (m : Machine) (slotCount : Nat) (text : Array Char) :
    Nat → Nat → List Thread → Option Slots → Option Slots
  | 0, _, _, found => found
  | fuel + 1, place, pending, found =>
    let starts := if found.isNone then
        pending ++ [⟨m.start, Array.replicate slotCount none⟩]
      else pending
    match text[place]? with
    | none => (settle m text place starts).2 <|> found
    | some c =>
      let (alive, hit) := settle m text place starts
      let found := hit <|> found
      let next := advance m c alive
      if next.isEmpty && found.isSome then found
      else run m slotCount text fuel (place + 1) next found

/-- The groups of the first match that begins at `place` or later. -/
def firstMatch (m : Machine) (slotCount : Nat) (text : Array Char) (place : Nat) : Option Slots :=
  run m slotCount text (text.size + 1 - place) place [] none

end ExerciseGrading.Pattern
