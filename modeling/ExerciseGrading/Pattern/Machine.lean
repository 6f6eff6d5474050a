/-
  PATTERN MACHINES: a regular expression as a list of steps.

  A machine is built from the end: `Builder.add node next` adds the steps for a node whose matches
  go on at step `next`, and gives the step to begin with.  Where a node branches, the step lists
  its continuations in the order in which they are preferred.

  A repetition without an upper limit whose body may match nothing is built as an optional
  repetition of at least once; that keeps the order of preference right when the body's match is
  empty.

  `sizeLimit` bounds the steps' storage; `storage` says beforehand how much a node takes.
-/
import ExerciseGrading.Pattern.Node

namespace ExerciseGrading.Pattern

open Text

/-- One step of a machine. -/
inductive Step where
  | char (set : RangeIndex) (next : Nat)
  | look (l : Look) (next : Nat)
  | save (slot : Nat) (next : Nat)
  | branch (nexts : List Nat)
  | accept
deriving Repr, Inhabited

/-- The most storage a machine may take. -/
def sizeLimit : Nat := 10 * 1024 * 1024

/-- Storage for a set: one step if it is within ASCII, else steps for the bytes of its members. -/
def setStorage (r : Ranges) : Nat :=
  if r.all (·.2 ≤ 127) then if r.length ≤ 1 then 32 else 32 + 8 * r.length
  else 100 + 64 * r.length

mutual
/-- An estimate of the storage that a node's steps take: what a set takes beyond ASCII depends on
    how its members share their bytes, which is not gone into. -/
def Node.storage : Node → Nat
  | .empty => 32
  | .oneOf r => setStorage r
  | .look _ => 32
  | .repetition min max _ body =>
    let copies := match max with
      | some m => m
      | none => Nat.max min 1
    copies * (body.storage + (if max = some min then 0 else 40)) + 32
  | .capture _ body => body.storage + 64
  | .choice branches => Node.storages branches + 36 * branches.length
  | .sequence parts => Node.storages parts
def Node.storages : List Node → Nat
  | [] => 0
  | n :: rest => n.storage + Node.storages rest
end

/-- The steps so far. -/
abbrev Builder := Array Step

namespace Builder

/-- Adds one step and gives its place. -/
def emit (b : Builder) (s : Step) : Nat × Builder := (b.size, b.push s)

/-- Two continuations in order of preference. -/
def prefer (greedy : Bool) (again done : Nat) : Step :=
  .branch (if greedy then [again, done] else [done, again])

/-- `n` copies of a body, one after the other. -/
def copies (body : Nat → Builder → Nat × Builder) : Nat → Nat → Builder → Nat × Builder
  | 0, next, b => (next, b)
  | n + 1, next, b =>
    let (s, b) := copies body n next b
    body s b

/-- Up to `n` copies of a body, each of which may be the last. -/
def optional (greedy : Bool) (body : Nat → Builder → Nat × Builder) (next : Nat) :
    Nat → Builder → Nat × Builder
  | 0, b => (next, b)
  | n + 1, b =>
    let (rest, b) := optional greedy body next n b
    let (s, b) := body rest b
    b.emit (prefer greedy s next)

/-- At least one copy of a body; also gives the step that decides whether to go on. -/
def oneOrMore (greedy : Bool) (body : Nat → Builder → Nat × Builder) (next : Nat) (b : Builder) :
    Nat × Builder :=
  let (loop, b) := b.emit .accept
  let (s, b) := body loop b
  (s, b.set! loop (prefer greedy s next))

/-- Any number of copies of a body that takes at least one character. -/
def anyNumber (greedy : Bool) (body : Nat → Builder → Nat × Builder) (next : Nat) (b : Builder) :
    Nat × Builder :=
  let (loop, b) := b.emit .accept
  let (s, b) := body loop b
  (loop, b.set! loop (prefer greedy s next))

mutual
/-- Adds the steps of a node that goes on at `next`; gives the first of them. -/
def add : Node → Nat → Builder → Nat × Builder
  | .empty, next, b => (next, b)
  | .oneOf r, next, b => b.emit (.char (RangeIndex.ofRanges r) next)
  | .look l, next, b => b.emit (.look l next)
  | .repetition min max greedy body, next, b =>
    let part := add body
    match max with
    | some m =>
      let (s, b) := optional greedy part next (m - min) b
      copies part min s b
    | none =>
      match min with
      | 0 =>
        if body.consumes then anyNumber greedy part next b
        else
          let (s, b) := oneOrMore greedy part next b
          b.emit (prefer greedy s next)
      | n + 1 =>
        let (s, b) := oneOrMore greedy part next b
        copies part n s b
  | .capture index body, next, b =>
    let (close, b) := b.emit (.save (2 * index + 1) next)
    let (s, b) := add body close b
    b.emit (.save (2 * index) s)
  | .choice branches, next, b =>
    let (starts, b) := addBranches branches next b
    b.emit (.branch starts)
  | .sequence parts, next, b => addParts parts next b
def addBranches : List Node → Nat → Builder → List Nat × Builder
  | [], _, b => ([], b)
  | n :: rest, next, b =>
    let (s, b) := add n next b
    let (ss, b) := addBranches rest next b
    (s :: ss, b)
def addParts : List Node → Nat → Builder → Nat × Builder
  | [], next, b => (next, b)
  | n :: rest, next, b =>
    let (s, b) := addParts rest next b
    add n s b
end

end Builder

/-- A machine: its steps and where it starts. -/
structure Machine where
  steps : Array Step
  start : Nat
deriving Inhabited

/-- The machine of a node, which captures the whole match as group zero. -/
def Machine.ofNode (n : Node) : Machine :=
  let (accept, b) := Builder.emit #[] .accept
  let (start, b) := Builder.add (.capture 0 n) accept b
  ⟨b, start⟩

end ExerciseGrading.Pattern
