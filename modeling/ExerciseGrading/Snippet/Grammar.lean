/-
  THE GRAMMAR of snippets.

  1. A `Rule` reads something at the start of an input, or does not apply.  Rules are tried in
     order, the first that applies is taken, and a repetition takes as much as it can.
  2. Between the parts of a rule layout is skipped; before a part that may be missing it is skipped
     even if the part is missing, so an expression takes the layout after it.
  3. Rules nest through expressions and statements only.  A `Level` holds the rules for these two
     one level further in; `exprRule` and `stmtRule` are the grammar of one level, and `level n`
     has `n` levels.  Every way further in takes a character first, so a text never needs more
     levels than it has characters.
-/
import ExerciseGrading.Failure
import ExerciseGrading.Snippet.Expr
import ExerciseGrading.Snippet.Operators
import ExerciseGrading.Snippet.Layout
import ExerciseGrading.Snippet.Literal

namespace ExerciseGrading.Snippet

/-- Reads something at the start of an input, or does not apply. -/
abbrev Rule (α : Type) := Input → Option (α × Input)

namespace Rule

/-- Takes the characters of `s`. -/
def sign (s : String) : Rule Unit := fun i =>
  (Text.dropStart? s.toList i.rest).map fun r => ((), i.after r)

/-- Takes a whole word. -/
def keyword (w : String) : Rule Unit := fun i =>
  (keyword? w i.rest).map fun r => ((), i.after r)

/-- Takes a name. -/
def name : Rule String := fun i => (name? i.rest).map fun (w, r) => (w, i.after r)

/-- Takes a word, keyword or not. -/
def word : Rule String := fun i =>
  (word? i.rest).map fun (w, r) => (String.ofList w, i.after r)

/-- The first of two rules that applies. -/
def orElse {α : Type} (a b : Rule α) : Rule α := fun i =>
  match a i with
  | some r => some r
  | none => b i

/-- As many as there are, with layout between them and after the last. -/
def many {α : Type} (r : Rule α) (i : Input) : List α × Input :=
  match r i with
  | some (a, j) =>
    let k := skip j
    if k.rest.length < i.rest.length then
      let (as, l) := many r k
      (a :: as, l)
    else ([a], k)
  | none => ([], i)
termination_by i.rest.length

/-- What follows a separator, again and again; the input is left after the layout that follows
    the last item. -/
def moreAfter {α : Type} (sep : String) (r : Rule α) (i : Input) : List α × Input :=
  match sign sep i with
  | some (_, j) =>
    match r (skip j) with
    | some (a, k) =>
      let l := skip k
      if l.rest.length < i.rest.length then
        let (as, m) := moreAfter sep r l
        (a :: as, m)
      else ([a], l)
    | none => ([], i)
  | none => ([], i)
termination_by i.rest.length

/-- Items with commas between them, or none; layout after the last is skipped. -/
def listed {α : Type} (r : Rule α) (i : Input) : List α × Input :=
  match r i with
  | some (a, j) =>
    let (as, k) := moreAfter "," r (skip j)
    (a :: as, k)
  | none => ([], i)

/-- The sign `s` if it is there, with layout before it. -/
def optionalSign (s : String) (i : Input) : Input :=
  match sign s (skip i) with
  | some (_, j) => j
  | none => skip i

/-- Wraps what a rule reads as an expression at its place. -/
def spanned {α : Type} (r : Rule α) (f : α → Form) : Rule Expr := fun i =>
  (r i).map fun (a, j) => (.mk ⟨i.pos, j.pos⟩ (f a), j)

end Rule

/-- The rules for expressions and statements one level further in. -/
structure Level where
  expr : Rule Expr
  stmt : Rule Stmt

open ExerciseGrading.Snippet.Rule

/-! ## Primary expressions -/

def number : Rule Expr := spanned (fun i => (numeral? i.rest).map fun (s, r) => (s, i.after r))
  fun s => .number (numeralValue s)

/-- A string literal, as the text it means. -/
def stringText : Rule String := fun i =>
  (quoted? i.rest).map fun (s, r) => (String.ofList (unescape s), i.after r)

def string : Rule Expr := spanned stringText .string

def constant : Rule Expr :=
  orElse (spanned (keyword "true") fun _ => .bool true) <|
  orElse (spanned (keyword "false") fun _ => .bool false) <|
  orElse (spanned (keyword "null") fun _ => .null) <|
  spanned (keyword "undefined") fun _ => .undefined

def regex : Rule Expr := spanned
  (fun i => (slashed? i.rest).map fun (p, f, r) => ((p, f), i.after r)) fun (p, f) => .regex p f

/-- Items between `left` and `right`, with a comma allowed after the last if `trailing`. -/
def enclosed {α : Type} (left right : String) (trailing : Bool) (r : Rule α) : Rule (List α) :=
  fun i => do
    let (_, j) ← sign left i
    let (items, k) := listed r (skip j)
    let k := if trailing && !items.isEmpty then optionalSign "," k else k
    let (_, l) ← sign right (skip k)
    return (items, l)

def array (l : Level) : Rule Expr := spanned (enclosed "[" "]" true l.expr) .array

/-- A key with its value, or a name that stands for both. -/
def property (l : Level) : Rule Member :=
  orElse
    (fun i => do
      let (key, j) ← orElse stringText word i
      let (_, k) ← sign ":" (skip j)
      let (value, m) ← l.expr (skip k)
      return (.mk key value, m))
    (fun i => do
      let (w, j) ← name i
      return (.mk w (.mk ⟨i.pos, j.pos⟩ (.name w)), j))

def object (l : Level) : Rule Expr := spanned (enclosed "\x7b" "\x7d" true (property l)) .object

def parenthesized (l : Level) : Rule Expr := fun i => do
  let (_, j) ← sign "(" i
  let (e, k) ← l.expr (skip j)
  let (_, m) ← sign ")" (skip k)
  return (e, m)

def primary (l : Level) : Rule Expr :=
  orElse number <| orElse string <| orElse constant <| orElse regex <| orElse (array l) <|
  orElse (object l) <| orElse (parenthesized l) <| spanned name .name

/-! ## Chains: operands and operators, as they stand -/

def postfixPart (l : Level) : Rule Postfix :=
  orElse (fun i => do
    let (_, j) ← sign "?." i
    let (w, k) ← word (skip j)
    return (.member w true, k)) <|
  orElse (fun i => do
    let (_, j) ← sign "." i
    let (w, k) ← word (skip j)
    return (.member w false, k)) <|
  orElse (fun i => do
    let (_, j) ← sign "[" i
    let (e, k) ← l.expr (skip j)
    let (_, m) ← sign "]" (skip k)
    return (.index e, m)) <|
  fun i => (enclosed "(" ")" false l.expr i).map fun (args, j) => (.call args, j)

/-- Where a rule applied, and what it read. -/
def placed {α : Type} (r : Rule α) : Rule (Span × α) := fun i =>
  (r i).map fun (a, j) => ((⟨i.pos, j.pos⟩, a), j)

def prefixOp : Rule UnaryOp :=
  orElse (fun i => (sign "!" i).map fun (_, j) => (.not, j))
    (fun i => (sign "-" i).map fun (_, j) => (.neg, j))

/-- The tokens of an operand: operators in front, a primary expression, what follows it.  Layout
    after it is skipped. -/
def operand (l : Level) : Rule (List Token) := fun i => do
  let (signs, j) := many (placed prefixOp) i
  let (e, k) ← primary l (skip j)
  let (parts, m) := many (placed (postfixPart l)) (skip k)
  return (signs.map .sign ++ .primary e :: parts.map .part, m)

/-- Operators in the order in which they are tried. -/
def binaryOps : List BinaryOp :=
  [.or, .and, .strictEq, .strictNe, .eq, .ne, .le, .ge, .lt, .gt, .add, .sub, .mul, .div, .rem]

def binaryOp : Rule BinaryOp := fun i =>
  binaryOps.findSome? fun op => (sign op.symbol i).map fun (_, j) => (op, j)

/-- An operator and the operand behind it. -/
def link (l : Level) : Rule (List Token) := fun i => do
  let (op, j) ← binaryOp i
  let (o, k) ← operand l (skip j)
  return (.operator op :: o, k)

/-- The tokens of a chain, in a row. -/
def row (l : Level) : Rule (List Token) := fun i => do
  let (first, j) ← operand l i
  let (rest, k) := many (link l) (skip j)
  return (first ++ rest.flatten, k)

/-! ## Expressions -/

/-- A chain, as the tree of its tokens. -/
def chain (l : Level) : Rule Expr := fun i => do
  let (tokens, j) ← row l i
  return (← tree? tokens, j)

/-- The two branches of a conditional. -/
def branches (l : Level) : Rule (Expr × Expr) := fun i => do
  let (_, j) ← sign "?" i
  let (yes, k) ← l.expr (skip j)
  let (_, m) ← sign ":" (skip k)
  let (no, n) ← l.expr (skip m)
  return ((yes, no), n)

/-- A chain, or a conditional on one; layout after it is skipped. -/
def conditional (l : Level) : Rule Expr := fun i => do
  let (c, j) ← chain l i
  match branches l (skip j) with
  | some ((yes, no), k) => return (.mk ⟨i.pos, k.pos⟩ (.conditional c yes no), k)
  | none => return (c, skip j)

/-- The parameters of an arrow function. -/
def parameters : Rule (List String) :=
  orElse (fun i => (name i).map fun (w, j) => ([w], j)) (enclosed "(" ")" false name)

/-- Statements between braces. -/
def block (l : Level) : Rule (List Stmt) := fun i => do
  let (_, j) ← sign "\x7b" i
  let (body, k) := many l.stmt (skip j)
  let (_, m) ← sign "\x7d" (skip k)
  return (body, m)

def arrowBody (l : Level) : Rule ArrowBody :=
  orElse (fun i => (block l i).map fun (b, j) => (.block b, j))
    (fun i => (l.expr i).map fun (e, j) => (.value e, j))

def arrow (l : Level) : Rule Expr := spanned
  (fun i => do
    let (params, j) ← parameters i
    let (_, k) ← sign "=>" (skip j)
    let (body, m) ← arrowBody l (skip k)
    return ((params, body), m))
  fun (params, body) => .arrow params body

/-- Expressions of one level. -/
def exprRule (l : Level) : Rule Expr := orElse (arrow l) (conditional l)

/-! ## Statements -/

def binding (l : Level) : Rule Stmt := fun i => do
  let (_, j) ← orElse (keyword "const") (keyword "let") i
  let (w, k) ← name (skip j)
  let (_, m) ← sign "=" (skip k)
  let (value, n) ← l.expr (skip m)
  let n := optionalSign ";" n
  return (.bind ⟨i.pos, n.pos⟩ w value, n)

/-- Whether a return ends here: no value begins with these. -/
def endsReturn (i : Input) : Bool := i.rest.head?.any fun c => c = '}' || c = ';'

def returning (l : Level) : Rule Stmt := fun i => do
  let (_, j) ← keyword "return" i
  let k := skip j
  match if endsReturn k then none else l.expr k with
  | some (value, m) =>
    let m := optionalSign ";" m
    return (.returnValue ⟨i.pos, m.pos⟩ value, m)
  | none =>
    let m := optionalSign ";" k
    return (.returnNothing ⟨i.pos, m.pos⟩, m)

def choosing (l : Level) : Rule Stmt := fun i => do
  let (_, j) ← keyword "if" i
  let (_, k) ← sign "(" (skip j)
  let (c, m) ← l.expr (skip k)
  let (_, n) ← sign ")" (skip m)
  let (yes, p) ← l.stmt (skip n)
  let otherwise : Rule Stmt := fun i => do
    let (_, j) ← keyword "else" i
    l.stmt (skip j)
  match otherwise (skip p) with
  | some (no, q) => return (.ifElse c yes no, q)
  | none => return (.ifThen c yes, skip p)

/-- Statements of one level. -/
def stmtRule (l : Level) : Rule Stmt :=
  orElse (binding l) <| orElse (returning l) <| orElse (choosing l) <|
  orElse (fun i => (block l i).map fun (b, j) => (.block b, j)) <|
  orElse (fun i => (sign ";" i).map fun (_, j) => (.empty, j)) <|
  fun i => (exprRule l i).map fun (e, j) => (.expr e, optionalSign ";" j)

/-- The grammar with `n` levels; beyond them nothing applies. -/
def level : Nat → Level
  | 0 => ⟨fun _ => none, fun _ => none⟩
  | n + 1 => ⟨exprRule (level n), stmtRule (level n)⟩

/-- The statements of a whole text, with a given number of levels. -/
def programWith (n : Nat) (s : String) : Option Program :=
  let (body, i) := many (level n).stmt (skip (Input.ofText s))
  if i.rest = [] then some ⟨body⟩ else none

/-- Reads a snippet. -/
def parse (snippet : String) : Except Failure Program :=
  match programWith (snippet.length + 1) snippet with
  | some p => .ok p
  | none => .error (.snippetSyntax snippet)

end ExerciseGrading.Snippet
