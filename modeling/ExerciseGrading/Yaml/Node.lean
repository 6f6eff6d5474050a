/-
  NODES: the tree that the tokens of a document describe.

  1. `Node.ofTokens?` reads the one document of a text.  More than one is refused; none at all
     is the empty scalar.
  2. An anchored node carries a number, and an alias the number of the node that it stands for:
     the last one before it that had its name.
  3. Tags are written out by the directives in front of the document.

  Recursion is on fuel; every step takes a token or ends, so that four times the number of
  tokens is enough.
-/
import ExerciseGrading.Yaml.Token

namespace ExerciseGrading.Yaml

inductive Node where
  | scalar (s : Scalar)
  | sequence (tag : Option String) (items : List Node)
  | mapping (tag : Option String) (members : List (Node × Node))
  | anchored (id : Nat) (node : Node)
  | alias (id : Nat)
deriving Inhabited

namespace Node

/-- What stands where nothing is written. -/
def empty : Node := .scalar ⟨"", .plain, none⟩

/-- The tokens that are left, and the numbers of the anchors so far, the last one first. -/
structure Reading where
  tokens : List Token
  names : List (String × Nat)

abbrev Read := StateT Reading Option

namespace Read

def peek : Read (Option Token) := do return (← get).tokens.head?

def drop : Read Unit := modify fun r => { r with tokens := r.tokens.drop 1 }

/-- Whether the next token is one of these. -/
def nextIn (ts : List Token) : Read Bool := do
  return match ← peek with
    | some t => ts.contains t
    | none => false

/-- Gives the node that comes the number of its anchor. -/
def nameAnchor (anchor : Option String) : Read (Option Nat) := do
  match anchor with
  | none => return none
  | some name =>
    let r ← get
    set { r with names := (name, r.names.length) :: r.names }
    return some r.names.length

end Read

open Read

/-- Anchor and tag in front of a node, in any order. -/
def properties (tokens : List Token) :
    Option String × Option (String × String) × List Token :=
  match tokens with
  | .anchor a :: .tag h s :: r => (some a, some (h, s), r)
  | .tag h s :: .anchor a :: r => (some a, some (h, s), r)
  | .anchor a :: r => (some a, none, r)
  | .tag h s :: r => (none, some (h, s), r)
  | r => (none, none, r)

/-- A tag written out; none if its handle stands for nothing. -/
def expand? (handles : List (String × String)) : Option (String × String) → Option (Option String)
  | none => some none
  | some ("", suffix) => some (some suffix)
  | some (handle, suffix) => (handles.lookup handle).map fun e => some (e ++ suffix)

/-- A node under its anchor. -/
def under (id : Option Nat) (n : Node) : Node :=
  match id with
  | some i => .anchored i n
  | none => n

mutual
/-- A node.  In a `block` it may be a block; `indentless` says that list items may start in the
    column of the key that the list belongs to. -/
def read (handles : List (String × String)) : Nat → Bool → Bool → Read Node
  | 0, _, _ => failure
  | fuel + 1, block, indentless => do
    match (← get).tokens with
    | .alias name :: _ =>
      match (← get).names.lookup name with
      | some id => do drop; return .alias id
      | none => failure
    | tokens =>
      let (anchor, tag, rest) := properties tokens
      modify fun r => { r with tokens := rest }
      let tag ← (expand? handles tag : Option (Option String))
      let id ← nameAnchor anchor
      match rest with
      | .scalar text style :: _ => do
        drop
        return under id (.scalar ⟨text, style, tag⟩)
      | .flowSequenceStart :: _ => do
        drop
        return under id (.sequence tag (← flowItems handles fuel true))
      | .flowMappingStart :: _ => do
        drop
        return under id (.mapping tag (← flowMembers handles fuel true))
      | t :: _ =>
        if indentless && t = .blockEntry then
          return under id (.sequence tag (← indentlessItems handles fuel))
        else if block && t = .blockSequenceStart then do
          drop
          return under id (.sequence tag (← blockItems handles fuel))
        else if block && t = .blockMappingStart then do
          drop
          return under id (.mapping tag (← blockMembers handles fuel))
        else if anchor.isSome || tag.isSome then return under id (.scalar ⟨"", .plain, tag⟩)
        else failure
      | [] =>
        if anchor.isSome || tag.isSome then return under id (.scalar ⟨"", .plain, tag⟩)
        else failure

/-- A node, or the empty node if one of `stops` comes next. -/
def readUnless (handles : List (String × String)) :
    Nat → Bool → Bool → List Token → Read Node
  | 0, _, _, _ => failure
  | fuel + 1, block, indentless, stops => do
    if ← nextIn stops then return empty else read handles fuel block indentless

/-- The items of a block list, after its start. -/
def blockItems (handles : List (String × String)) : Nat → Read (List Node)
  | 0 => failure
  | fuel + 1 => do
    match ← peek with
    | some .blockEntry =>
      drop
      let n ← readUnless handles fuel true false [.blockEntry, .blockEnd]
      return n :: (← blockItems handles fuel)
    | some .blockEnd => do drop; return []
    | _ => failure

/-- The items of a list in the column of its key. -/
def indentlessItems (handles : List (String × String)) : Nat → Read (List Node)
  | 0 => failure
  | fuel + 1 => do
    match ← peek with
    | some .blockEntry =>
      drop
      let n ← readUnless handles fuel true false [.blockEntry, .key, .value, .blockEnd]
      return n :: (← indentlessItems handles fuel)
    | _ => return []

/-- The members of a block mapping, after its start. -/
def blockMembers (handles : List (String × String)) : Nat → Read (List (Node × Node))
  | 0 => failure
  | fuel + 1 => do
    match ← peek with
    | some .key =>
      drop
      let k ← readUnless handles fuel true true [.key, .value, .blockEnd]
      let v ←
        if ← nextIn [.value] then do
          drop
          readUnless handles fuel true true [.key, .value, .blockEnd]
        else pure empty
      return (k, v) :: (← blockMembers handles fuel)
    | some .blockEnd => do drop; return []
    | _ => failure

/-- The value behind a key in brackets. -/
def flowValue (handles : List (String × String)) : Nat → List Token → Read Node
  | 0, _ => failure
  | fuel + 1, stops => do
    if ← nextIn [.value] then
      drop
      readUnless handles fuel false false stops
    else return empty

/-- The items of a list in brackets; each but the first follows a comma. -/
def flowItems (handles : List (String × String)) : Nat → Bool → Read (List Node)
  | 0, _ => failure
  | fuel + 1, first => do
    if ← nextIn [.flowSequenceEnd] then
      drop
      return []
    if !first then
      if ← nextIn [.flowEntry] then drop else failure
    match ← peek with
    | some .flowSequenceEnd => do drop; return []
    | some .key =>
      drop
      let k ←
        if ← nextIn [.value, .flowEntry, .flowSequenceEnd] then do drop; pure empty
        else read handles fuel false false
      let v ← flowValue handles fuel [.flowEntry, .flowSequenceEnd]
      return .mapping none [(k, v)] :: (← flowItems handles fuel false)
    | _ =>
      let n ← read handles fuel false false
      return n :: (← flowItems handles fuel false)

/-- The members of a mapping in brackets; each but the first follows a comma. -/
def flowMembers (handles : List (String × String)) : Nat → Bool → Read (List (Node × Node))
  | 0, _ => failure
  | fuel + 1, first => do
    if ← nextIn [.flowMappingEnd] then
      drop
      return []
    if !first then
      if ← nextIn [.flowEntry] then drop else failure
    match ← peek with
    | some .flowMappingEnd => do drop; return []
    | some .key =>
      drop
      let k ← readUnless handles fuel false false [.value, .flowEntry, .flowMappingEnd]
      let v ← flowValue handles fuel [.flowEntry, .flowMappingEnd]
      return (k, v) :: (← flowMembers handles fuel false)
    | _ =>
      let k ← read handles fuel false false
      return (k, empty) :: (← flowMembers handles fuel false)
end

/-! ## Documents -/

/-- What the two handles without a directive stand for. -/
def standardHandles : List (String × String) := [("!", "!"), ("!!", "tag:yaml.org,2002:")]

/-- Adds a directive to what is known; none if it is given twice or asks for another version. -/
def direct? (acc : Bool × List (String × String)) :
    Directive → Option (Bool × List (String × String))
  | .version major minor =>
    if acc.1 || major ≠ 1 || (minor ≠ 1 && minor ≠ 2) then none else some (true, acc.2)
  | .tag handle expansion =>
    if (acc.2.lookup handle).isSome then none else some (acc.1, acc.2 ++ [(handle, expansion)])

/-- The directives in front of a document. -/
def directives? (acc : Bool × List (String × String)) :
    List Token → Option (List (String × String) × List Token)
  | .directive d :: r => do directives? (← direct? acc d) r
  | r => some (acc.2 ++ standardHandles, r)

/-- A node, and nothing but ends of documents after it. -/
def only? (handles : List (String × String)) (tokens : List Token) : Option Node := do
  let (n, r) ← (read handles (4 * tokens.length + 4) true false).run ⟨tokens, []⟩
  if r.tokens.all (· = .documentEnd) then return n else none

/-- The one document of a text. -/
def ofTokens? (tokens : List Token) : Option Node := do
  let explicitStart := match tokens with
    | .directive _ :: _ | .documentStart :: _ => true
    | _ => false
  if tokens = [] then return empty
  else if explicitStart then
    let (handles, r) ← directives? (false, []) tokens
    match r with
    | .documentStart :: r =>
      match r with
      | .directive _ :: _ | .documentStart :: _ => none
      | .documentEnd :: r => if r.all (· = .documentEnd) then return empty else none
      | [] => return empty
      | r => only? handles r
    | _ => none
  else only? standardHandles tokens

/-! ## What a tree stands for -/

mutual
/-- The size of a tree: one for a leaf, two for what has a start and an end. -/
def events : Node → Nat
  | .scalar _ | .alias _ => 1
  | .sequence _ items => 2 + itemEvents items
  | .mapping _ members => 2 + memberEvents members
  | .anchored _ n => events n
def itemEvents : List Node → Nat
  | [] => 0
  | n :: rest => events n + itemEvents rest
def memberEvents : List (Node × Node) → Nat
  | [] => 0
  | (k, v) :: rest => events k + events v + memberEvents rest
end

mutual
/-- The anchored nodes by number. -/
def anchors : Node → List (Nat × Node)
  | .scalar _ | .alias _ => []
  | .sequence _ items => itemAnchors items
  | .mapping _ members => memberAnchors members
  | .anchored id n => (id, n) :: anchors n
def itemAnchors : List Node → List (Nat × Node)
  | [] => []
  | n :: rest => anchors n ++ itemAnchors rest
def memberAnchors : List (Node × Node) → List (Nat × Node)
  | [] => []
  | (k, v) :: rest => anchors k ++ anchors v ++ memberAnchors rest
end

/-- The node that is meant: what an anchor or an alias stands for.  Aliases are counted, and none
    beyond the limit means anything. -/
def meant (table : List (Nat × Node)) (limit : Nat) : Node → StateM Nat (Option Node)
  | .anchored _ n => return some n
  | .alias id => do
    let count := (← get) + 1
    set count
    return if limit < count then none else table.lookup id
  | n => return some n

/-- The record of a node whose lists and mappings may nest so deep. -/
def toRecord (table : List (Nat × Node)) (limit : Nat) : Nat → Node → StateM Nat Record
  | 0, n => do
    match ← meant table limit n with
    | some (.scalar s) => return .leaf (.scalar s)
    | _ => return .unusable
  | depth + 1, n => do
    match ← meant table limit n with
    | some (.scalar s) => return .leaf (.scalar s)
    | some (.sequence tag items) => return .sequence tag (← items.mapM (toRecord table limit depth))
    | some (.mapping tag members) =>
      return .fields tag (← members.mapM fun (k, v) => do
        return (← toRecord table limit depth k, ← toRecord table limit depth v))
    | _ => return .unusable

/-- Lists and mappings may nest this deep. -/
def depthLimit : Nat := 128

/-- The record of a tree. -/
def record (n : Node) : Record :=
  ((toRecord n.anchors (100 * n.events) depthLimit n).run 0).1

end Node

/-- The record that a text is, as a document. -/
def record? (text : String) : Option Record := do
  let tokens ← tokens? text
  let n ← Node.ofTokens? tokens
  return n.record

end ExerciseGrading.Yaml
