/-
  THE DENYLIST PATTERN finds the first denied name that stands as a word.

  The pattern takes the characters beside a name into the match, so its matches begin one character
  earlier than the names and may overlap; it tries every name at every place, and goes on with the
  next name where a character of a longer word follows.  A scan is easier to reason about:
  `firstDenied?` goes through the text once, and knows only whether it stands behind a name
  character.

  1. `denylist_eq` — the pattern is one, and what it is.
  2. `matchesAt_eq` — its matches that begin at a place.
  3. `screen_eq` — the screen reports what the scan finds.  A match at a place is a name there, at
     the start of the text, or a name behind the character there.  So apart from the start, names
     are found at the places behind characters that belong to no name, in the order of the scan.

  **The crux (an order on matches).**  A search takes the match that begins first, and of several at
  one place the one that the pattern prefers.  So the matches of all places are listed in the order
  of the search (`matches_eq`), each by what its group reports, and the scan is the head of that
  list (`firstDenied?_eq_head?`).  Two matches may report one name, which does no harm to the head;
  and a match cannot hide an earlier name, since matches that overlap are all in the list.

  The pattern is not run to find out what it is.  Its text is read by the lemmas of
  `Proofs.Pattern.Reading`, one for each thing that is written in it, so that the list of names
  stays a list; and that the machine for the pattern finds its matches in the order of the choices
  is `firstMatch_ofNode` of `Proofs.Pattern.Building`.
-/
import ExerciseGrading.Proofs.Pattern.Building
import ExerciseGrading.Proofs.Pattern.Reading
import ExerciseGrading.Proofs.Snippet.Places
import ExerciseGrading.Proofs.Text.Ranges
import ExerciseGrading.Snippet.Outcome

namespace ExerciseGrading.Snippet

open Pattern Pattern.Reader

/-! ## The scan -/

/-- Whether a name stands at the start of a text as a whole word. -/
def standsAt (s : List Char) (w : String) : Bool :=
  match Text.dropStart? w.toList s with
  | some rest => atWordEnd rest
  | none => false

/-- The denied name that stands at the start of a text as a whole word. -/
def deniedAt? (s : List Char) : Option String := deniedNames.find? (standsAt s)

/-- The first denied name in a text, and the bytes before it; `inWord` says whether the character
    before the text belongs to a word. -/
def firstDenied? (inWord : Bool) (pos : Nat) : List Char → Option (String × Nat)
  | [] => none
  | c :: s =>
    let here := if inWord then none else deniedAt? (c :: s)
    match here with
    | some w => some (w, pos)
    | none => firstDenied? (isNameChar c) (pos + c.utf8Size) s

/-! ## The pattern

  Three steps lead from the text of a pattern to its machine: the text is read as a tree, the
  tree is taken over as a node with the flags that hold there, and the node is built.  Each is
  followed for this pattern, with the list of names as a list. -/

/-- The class of the characters that no name has, as it is written. -/
def notNameTree : Tree :=
  .bracketed true (.items [.range ⟨'A', false⟩ ⟨'Z', false⟩, .range ⟨'a', false⟩ ⟨'z', false⟩,
    .range ⟨'0', false⟩ ⟨'9', false⟩, .char ⟨'_', false⟩, .char ⟨'$', false⟩])

/-- The pattern as it is written. -/
def denylistTree : Tree :=
  .concat [.group [] (.alternation [.assertion .startLine, notNameTree]),
    .capture 1 none (.alternation (deniedNames.map Tree.ofText)),
    .group [] (.alternation [.assertion .endLine, notNameTree])]

/-- The same class behind its bracket. -/
def notNameSource : List Char :=
  ['^', 'A', '-', 'Z', 'a', '-', 'z', '0', '-', '9', '_', '$', ']']

/-- The class is read item by item: three ranges and two characters. -/
theorem bracketed_notName (s : List Char) (k : Nat) :
    bracketed (before ('[' :: (notNameSource ++ s)) k) = some (notNameTree, before s k) := by
  have hremaining : remaining (before ('[' :: (notNameSource ++ s)) k) =
      some (s.length + 14, before ('[' :: (notNameSource ++ s)) k) := rfl
  have hopen : setOpen (before ('[' :: (notNameSource ++ s)) k) =
      some ((true, []), before (notNameSource.tail ++ s) k) := rfl
  have hbody : setBody (s.length + 14) none [] (before (notNameSource.tail ++ s) k) =
      some (.items [.range ⟨'A', false⟩ ⟨'Z', false⟩, .range ⟨'a', false⟩ ⟨'z', false⟩,
        .range ⟨'0', false⟩ ⟨'9', false⟩, .char ⟨'_', false⟩, .char ⟨'$', false⟩], before s k) := by
    simp only [notNameSource, List.tail_cons, List.cons_append, List.nil_append]
    rw [setBody_item (by decide) (setRange_range (by decide) (by decide) (by decide)),
      setBody_item (by decide) (setRange_range (by decide) (by decide) (by decide)),
      setBody_item (by decide) (setRange_range (by decide) (by decide) (by decide)),
      setBody_item (by decide) (setRange_char (by decide) (by decide)),
      setBody_item (by decide) (setRange_char (by decide) (by decide)), setBody_close]
    rfl
  rw [bracketed, bind_apply, hremaining, Option.bind_some, bind_apply, hopen, Option.bind_some]
  simp only [List.reverse_nil, bind_apply, hbody, Option.bind_some]
  rfl

/-- What is written: an edge, the names with bars between them in a group, an edge. -/
theorem toList_denylistSource (names : List String) :
    (denylistSource names).toList =
      '(' :: '?' :: ':' :: '^' :: '|' :: '[' :: (notNameSource ++ ')' :: '(' ::
        (textsSource names ++ ')' ::
          '(' :: '?' :: ':' :: '$' :: '|' :: '[' :: (notNameSource ++ [')']))) := by
  have hsource : denylistSource names = "(?:^|[^A-Za-z0-9_$])(" ++
      "|".intercalate (names.map Pattern.escape) ++ ")(?:$|[^A-Za-z0-9_$])" := rfl
  rw [hsource]
  simp only [String.toList_append, String.toList_intercalate, String.reduceToList,
    List.cons_append, List.nil_append, notNameSource, textsSource, List.map_map,
    Function.comp_def]

/-- Two or more branches are an alternation. -/
theorem ofBranches_eq {ts : List Tree} (h : 2 ≤ ts.length) :
    Tree.ofBranches ts = .alternation ts := by
  unfold Tree.ofBranches
  split
  · simp at h
  · rfl

/-- **The source is read as the tree**, part by part. -/
theorem reads_denylist :
    Pattern.Reads 1 [] [] (denylistSource deniedNames).toList denylistTree [] 2 := by
  have hnames (s : List Char) : Pattern.Reads 2 [] [] (textsSource deniedNames ++ ')' :: s)
      (.alternation (deniedNames.map Tree.ofText)) (')' :: s) 2 := by
    rw [← ofBranches_eq (by decide)]
    exact Pattern.Reads.texts [] s (by decide)
  rw [toList_denylistSource]
  refine .group (.startLine (.bar (.set (bracketed_notName _ _) (by simp) .close))) ?_
  refine .capture (head?_textsSource _ _) (hnames _) ?_
  exact .group (.endLine (.bar (.set (bracketed_notName _ _) (by simp) .close))) .stop

/-- A text is a row of characters, and no deeper than that. -/
theorem depths_ofText (ws : List String) : Tree.depths (ws.map Tree.ofText) ≤ 1 := by
  have hlits (cs : List Char) : Tree.depths (cs.map lit) = 0 := by
    induction cs with
    | nil => rfl
    | cons c cs ih => rw [List.map_cons, Tree.depths, ih]; rfl
  have hparts (ts : List Tree) (h : Tree.depths ts = 0) : (Tree.ofParts ts).depth ≤ 1 := by
    unfold Tree.ofParts
    split
    · exact Nat.zero_le _
    · rename_i t
      rw [Tree.depths, Tree.depths] at h
      omega
    · simp [Tree.depth, h]
  induction ws with
  | nil => exact Nat.zero_le _
  | cons w ws ih =>
    rw [List.map_cons, Tree.depths]
    exact Nat.max_le.mpr ⟨hparts _ (hlits _), ih⟩

/-- The tree is not nested too deep. -/
theorem ofText?_denylist : Tree.ofText? (denylistSource deniedNames) = some denylistTree := by
  have hnames := depths_ofText deniedNames
  have hset : notNameTree.depth = 2 := by decide
  refine ofText?_of_reads reads_denylist ?_
  simp only [denylistTree, Tree.depth, Tree.depths, hset, nestLimit]
  omega

/-! ## What it matches -/

/-- A text that stands for itself. -/
def textNode (w : String) : Pattern.Node :=
  .sequence (w.toList.map fun c => .oneOf [(c.toNat, c.toNat)])

/-- The characters of names. -/
def nameRanges : Text.Ranges := [(65, 90), (97, 122), (48, 57), (95, 95), (36, 36)]

/-- The characters that no name has. -/
def notName : Pattern.Node := .oneOf (Text.Ranges.negate nameRanges)

/-- What the pattern matches. -/
def denylistNode : Pattern.Node :=
  .sequence [.choice [.look .start, notName], .capture 1 (.choice (deniedNames.map textNode)),
    .choice [.look .stop, notName]]

/-- The flags of a pattern without switches. -/
def plainFlags : Flags := ⟨false, false, false, false, true, false⟩

/-- The class becomes what is outside its ranges. -/
theorem ofTree?_notName :
    Pattern.Node.ofTree? plainFlags notNameTree = some (notName, plainFlags) := by
  rw [notNameTree, Pattern.Node.ofTree?]
  rfl

theorem two_le_length : ∀ w ∈ deniedNames, 2 ≤ w.length := by decide

/-- Parts that stand in a row are taken over one after the other. -/
theorem ofTrees?_cons {f f' f'' : Flags} {t : Tree} {ts : List Tree} {n : Pattern.Node}
    {ns : List Pattern.Node} (h : Pattern.Node.ofTree? f t = some (n, f'))
    (hrest : Pattern.Node.ofTrees? f' ts = some (ns, f'')) :
    Pattern.Node.ofTrees? f (t :: ts) = some (n :: ns, f'') := by
  simp [Pattern.Node.ofTrees?, h, hrest]

/-- Characters in a row are taken over as classes of one character each. -/
theorem ofTrees?_chars (cs : List Char) :
    Pattern.Node.ofTrees? plainFlags (cs.map lit) =
      some (cs.map fun c => .oneOf [(c.toNat, c.toNat)], plainFlags) := by
  induction cs with
  | nil => rfl
  | cons c cs ih => exact ofTrees?_cons rfl ih

/-- Texts of more than one character are sequences. -/
theorem ofTrees?_texts {ws : List String} (hws : ∀ w ∈ ws, 2 ≤ w.length) :
    Pattern.Node.ofTrees? plainFlags (ws.map Tree.ofText) = some (ws.map textNode, plainFlags) := by
  induction ws with
  | nil => rfl
  | cons w ws ih =>
    obtain ⟨hw, hws⟩ := List.forall_mem_cons.mp hws
    have htree : Tree.ofText w = .concat (w.toList.map lit) := by
      rw [← String.length_toList] at hw
      unfold Tree.ofText
      match w.toList, hw with
      | c :: d :: cs, _ => rfl
    refine ofTrees?_cons ?_ (ih hws)
    rw [htree, Pattern.Node.ofTree?, ofTrees?_chars]
    rfl

/-- **The tree is taken over as the node.** -/
theorem ofTree?_denylist :
    Pattern.Node.ofTree? plainFlags denylistTree = some (denylistNode, plainFlags) := by
  -- the two edges differ in the assertion alone
  have hedge (a : Assertion) : Pattern.Node.ofTree? plainFlags
      (.group [] (.alternation [.assertion a, notNameTree])) =
        some (.choice [.look (Pattern.Node.lookOf plainFlags a), notName], plainFlags) := by
    have hbranches : Pattern.Node.ofTrees? plainFlags [.assertion a, notNameTree] =
        some ([.look (Pattern.Node.lookOf plainFlags a), notName], plainFlags) :=
      ofTrees?_cons rfl (ofTrees?_cons ofTree?_notName rfl)
    simp [Pattern.Node.ofTree?, Flags.changes, hbranches]
  have hnames : Pattern.Node.ofTree? plainFlags
      (.capture 1 none (.alternation (deniedNames.map Tree.ofText))) =
        some (.capture 1 (.choice (deniedNames.map textNode)), plainFlags) := by
    rw [Pattern.Node.ofTree?, Pattern.Node.ofTree?, ofTrees?_texts two_le_length]
    rfl
  have hnone : Pattern.Node.ofTrees? plainFlags [] = some ([], plainFlags) := rfl
  have hparts := ofTrees?_cons (hedge .startLine)
    (ofTrees?_cons hnames (ofTrees?_cons (hedge .endLine) hnone))
  rw [denylistTree, Pattern.Node.ofTree?, hparts]
  rfl

/-- The machine for it is not too large. -/
theorem storage_denylistNode : denylistNode.storage ≤ sizeLimit := by
  -- the ranges outside the class are computed, for their bytes are counted
  have hset : (notName).storage = 548 := by
    have hsorted : Text.Ranges.normalize nameRanges =
        [(36, 36), (48, 57), (65, 90), (95, 95), (97, 122)] := by
      simp [Text.Ranges.normalize, nameRanges, List.mergeSort, Text.Ranges.joinTo]
    have hranges : Text.Ranges.negate nameRanges = [(0, 35), (37, 47), (58, 64), (91, 94),
        (96, 96), (123, 55295), (57344, 1114111)] := by
      rw [Text.Ranges.negate, hsorted]
      rfl
    rw [notName, hranges]
    rfl
  have hnames : Pattern.Node.storages (deniedNames.map textNode) ≤ 5000 := by decide
  have hlength : (deniedNames.map textNode).length = 16 := rfl
  simp only [denylistNode, Pattern.Node.storage, Pattern.Node.storages, hset, hlength, sizeLimit]
  generalize Pattern.Node.storages (deniedNames.map textNode) = names at hnames ⊢
  simp only [List.length_cons, List.length_nil]
  omega

/-- A pattern is compiled in three steps, and none may fail. -/
theorem compile?_eq {source : String} {tree : Tree} {node : Pattern.Node} {f : Flags}
    (htree : Tree.ofText? source = some tree)
    (hnode : Pattern.Node.ofTree? plainFlags tree = some (node, f))
    (hsize : node.storage ≤ sizeLimit) :
    compile? source {} = some ⟨source, Machine.ofNode node, node.groups tree.captureNames⟩ := by
  have hflags : Pattern.Node.ofTree? ⟨false, false, false, false, true, false⟩ tree =
      some (node, f) := hnode
  simp [compile?, htree, hflags, hsize]

/-- **The pattern is a regular expression**, with one group. -/
theorem denylist_eq :
    compile? (denylistSource deniedNames) {} = some denylist ∧
      denylist = ⟨denylistSource deniedNames, Machine.ofNode denylistNode, [(1, none)]⟩ := by
  have hgroups : denylistNode.groups denylistTree.captureNames = [(1, none)] := by decide
  have hcompile := compile?_eq ofText?_denylist ofTree?_denylist storage_denylistNode
  rw [hgroups] at hcompile
  delta denylist
  rw [hcompile]
  exact ⟨rfl, rfl⟩

/-! ## Its matches

  At one place: first the edge in front of a name, then the names that stand behind it, then the
  edge behind the name.  What a match reports is read off the places that its group has saved. -/

/-- The bytes of a text, counted by its characters. -/
theorem utf8ByteSize_eq_byteLength (w : String) : w.utf8ByteSize = Text.byteLength w.toList := by
  have ofList (s : List Char) : (String.ofList s).utf8ByteSize = Text.byteLength s := by
    induction s with
    | nil => rfl
    | cons c s ih =>
      rw [String.ofList_cons, String.utf8ByteSize_append, String.utf8ByteSize_singleton, ih,
        Text.byteLength]
  rw [← ofList, String.ofList_toList]

/-- A class of one character. -/
theorem hasChar_single (c d : Char) :
    (Text.RangeIndex.ofRanges [(c.toNat, c.toNat)]).hasChar d = decide (c = d) := by
  rw [Text.RangeIndex.hasChar_ofRanges (by simp [Text.Ranges.Valid]), Bool.eq_iff_iff,
    Text.Ranges.contains_iff]
  simp only [List.mem_singleton, exists_eq_left, Text.Ranges.Within, decide_eq_true_eq]
  constructor
  · rintro ⟨h, h'⟩
    exact Char.toNat_inj.mp (Nat.le_antisymm h h')
  · rintro rfl
    exact ⟨Nat.le_refl _, Nat.le_refl _⟩

/-- The characters outside the class are those of names. -/
theorem hasChar_notName (c : Char) :
    (Text.RangeIndex.ofRanges (Text.Ranges.negate nameRanges)).hasChar c = !isNameChar c := by
  have hdef : isNameChar c = (decide (c.val ≥ 65 ∧ c.val ≤ 90) || (c.val ≥ 97 && c.val ≤ 122) ||
      (c.val ≥ 48 && c.val ≤ 57) || c = '_' || c = '$') := rfl
  have hname : Text.Ranges.contains nameRanges c.toNat = isNameChar c := by
    rw [Bool.eq_iff_iff, Text.Ranges.contains_iff, hdef]
    simp only [nameRanges, List.mem_cons, List.not_mem_nil, or_false, exists_eq_or_imp,
      exists_eq_left, Text.Ranges.Within, Bool.or_eq_true, Bool.and_eq_true, decide_eq_true_eq,
      ge_iff_le, UInt32.le_iff_toNat_le, ← Char.toNat_inj, Char.toNat_val, Char.reduceToNat,
      UInt32.reduceToNat]
    omega
  rw [Text.RangeIndex.hasChar_ofRanges Text.Ranges.valid_negate,
    Text.Ranges.contains_negate (by simp [Text.Ranges.Valid, nameRanges]), hname]

variable (text : List Char)

/-- Characters in a row match where the text has them, one after the other. -/
theorem outcomesOfAll_chars (cs : List Char) (place : Nat) (slots : Slots) :
    Pattern.Node.outcomesOfAll text.toArray (cs.map fun c => .oneOf [(c.toNat, c.toNat)])
        place slots =
      if (Text.dropStart? cs (text.drop place)).isSome then [(place + cs.length, slots)]
      else [] := by
  induction cs generalizing place with
  | nil => rfl
  | cons c cs ih =>
    rw [List.map_cons, Pattern.Node.outcomesOfAll, Pattern.Node.outcomes, List.getElem?_toArray]
    cases hd : text[place]? with
    | none =>
      rw [List.drop_eq_nil_of_le (List.getElem?_eq_none_iff.mp hd)]
      rfl
    | some d =>
      have hdrop : text.drop place = d :: text.drop (place + 1) := by
        obtain ⟨hlt, rfl⟩ := List.getElem?_eq_some_iff.mp hd
        exact List.drop_eq_getElem_cons hlt
      rw [hdrop, Text.dropStart?, Option.any_some, hasChar_single]
      by_cases hcd : c = d
      · rw [if_pos (by simpa using hcd), if_pos hcd, List.flatMap_singleton, ih,
          List.length_cons, Nat.add_right_comm, Nat.add_assoc]
      · rw [if_neg (by simpa using hcd), if_neg hcd]
        rfl

/-- A text at a place of another. -/
theorem outcomes_textNode (w : String) (place : Nat) (slots : Slots) :
    (textNode w).outcomes text.toArray place slots =
      if (Text.dropStart? w.toList (text.drop place)).isSome then [(place + w.length, slots)]
      else [] := by
  rw [textNode, Pattern.Node.outcomes, outcomesOfAll_chars, String.length_toList]

/-- Where the edge of the pattern ends behind a name. -/
def edgeEnd (place : Nat) : Nat := if place < text.length then place + 1 else place

/-- The end of the pattern matches where a word can end. -/
theorem outcomes_close (place : Nat) (slots : Slots) :
    (Pattern.Node.choice [.look .stop, notName]).outcomes text.toArray place slots =
      if atWordEnd (text.drop place) then [(edgeEnd text place, slots)] else [] := by
  simp only [Pattern.Node.outcomes, Pattern.Node.outcomesOfAny, notName, Look.holds,
    List.getElem?_toArray, List.append_nil, edgeEnd]
  cases hd : text[place]? with
  | none =>
    have hend := List.getElem?_eq_none_iff.mp hd
    rw [List.drop_eq_nil_of_le hend, if_neg (Nat.not_lt.mpr hend)]
    rfl
  | some d =>
    obtain ⟨hlt, rfl⟩ := List.getElem?_eq_some_iff.mp hd
    rw [List.drop_eq_getElem_cons hlt, if_pos hlt, Option.any_some, hasChar_notName, atWordEnd]
    rfl

/-- The start of the pattern matches at the start of the text, and over a character that no name
    has. -/
theorem outcomes_open {place : Nat} (hplace : place ≤ text.length) (slots : Slots) :
    (Pattern.Node.choice [.look .start, notName]).outcomes text.toArray place slots =
      (if place = 0 then [(place, slots)] else []) ++
        if text[place]?.any fun c => !isNameChar c then [(place + 1, slots)] else [] := by
  have hstart : (charBefore text.toArray place).isNone = decide (place = 0) := by
    unfold charBefore
    split
    · rename_i h
      simp [h]
    · rename_i h
      simp [h]
      omega
  simp only [Pattern.Node.outcomes, Pattern.Node.outcomesOfAny, notName, Look.holds,
    List.getElem?_toArray, List.append_nil, hstart, decide_eq_true_eq]
  congr 2
  cases text[place]? with
  | none => rfl
  | some c => rw [Option.any_some, Option.any_some, hasChar_notName]

/-- The names of a list that stand at a place. -/
theorem outcomes_names (ws : List String) (place : Nat) (slots : Slots) :
    ((Pattern.Node.outcomesOfAny text.toArray (ws.map textNode) place slots).map fun o =>
        (o.1, o.2.set! 3 (some o.1))).flatMap
      (fun o => (Pattern.Node.choice [.look .stop, notName]).outcomes text.toArray o.1 o.2) =
    (ws.filter (standsAt (text.drop place))).map fun w =>
      (edgeEnd text (place + w.length), slots.set! 3 (some (place + w.length))) := by
  induction ws with
  | nil => rfl
  | cons w ws ih =>
    rw [List.map_cons, Pattern.Node.outcomesOfAny, List.map_append, List.flatMap_append, ih,
      outcomes_textNode]
    cases hw : Text.dropStart? w.toList (text.drop place) with
    | none =>
      have hnot : ¬standsAt (text.drop place) w = true := by simp [standsAt, hw]
      rw [List.filter_cons_of_neg hnot]
      rfl
    | some rest =>
      have hrest : text.drop (place + w.length) = rest := by
        rw [← List.drop_drop, Text.dropStart?_eq_some.mp hw, ← String.length_toList,
          List.drop_left]
      have hstands : standsAt (text.drop place) w = atWordEnd rest := by simp [standsAt, hw]
      simp only [Option.isSome_some, if_true, List.map_singleton, List.flatMap_singleton,
        outcomes_close, hrest]
      -- the name stands here; whether it is whole is up to the edge behind it
      cases hend : atWordEnd rest with
      | false =>
        rw [List.filter_cons_of_neg (by simp [hstands, hend])]
        rfl
      | true =>
        rw [List.filter_cons_of_pos (by simp [hstands, hend])]
        rfl

/-- What is reported of a name at a place. -/
def reportAt (place : Nat) (w : String) : String × Span :=
  (w, ⟨Text.byteLength (text.take place), Text.byteLength (text.take place) + w.utf8ByteSize⟩)

/-- The denied names that stand at a place. -/
def reportsAt (place : Nat) : List (String × Span) :=
  (deniedNames.filter (standsAt (text.drop place))).map (reportAt text place)

/-- Where a name stands, the text goes on with it. -/
theorem take_of_standsAt {place : Nat} {w : String} (h : standsAt (text.drop place) w = true) :
    (text.drop place).take w.length = w.toList := by
  unfold standsAt at h
  split at h
  · rename_i rest hrest
    rw [Text.dropStart?_eq_some.mp hrest, ← String.length_toList, List.take_left]
  · cases h

/-- Group 1 of a match, by the places where it was saved. -/
theorem groupAt?_eq {place : Nat} {w : String} (h : standsAt (text.drop place) w = true)
    (first last : Option Nat) :
    groupAt? text.toArray 1 #[first, last, some place, some (place + w.length)] =
      some (reportAt text place w) := by
  have hword := take_of_standsAt text h
  simp [groupAt?, List.take_add, hword, reportAt, utf8ByteSize_eq_byteLength]

/-- What the matches report that begin over a character. -/
def reportsBehind (place : Nat) : List (String × Span) :=
  if text[place]?.any fun c => !isNameChar c then reportsAt text (place + 1) else []

/-- **The matches of the pattern** that begin at a place, by what they report: names at the place if
    it is the start of the text, and names behind the character there if no name has it. -/
theorem matchesAt_eq {place : Nat} (hplace : place ≤ text.length) :
    (denylistNode.matchesAt text.toArray 4 place).map (groupAt? text.toArray 1) =
      ((if place = 0 then reportsAt text place else []) ++
        reportsBehind text place).map some := by
  -- wherever the first edge ended, the names at that place follow
  have hnames (first p : Nat) :
      ((Pattern.Node.outcomesOfAll text.toArray
          [.capture 1 (.choice (deniedNames.map textNode)), .choice [.look .stop, notName]] p
          ((Array.replicate 4 none).set! (2 * 0) (some first))).map fun o =>
        groupAt? text.toArray 1 (o.2.set! 1 (some o.1))) = (reportsAt text p).map some := by
    rw [Pattern.Node.outcomesOfAll, Pattern.Node.outcomes, Pattern.Node.outcomes]
    simp only [Pattern.Node.outcomesOfAll, List.flatMap_singleton']
    rw [outcomes_names, List.map_map, reportsAt, List.map_map]
    refine List.map_congr_left fun w hw => ?_
    exact groupAt?_eq text (List.mem_filter.mp hw).2 (some first)
      (some (edgeEnd text (p + w.length)))
  rw [Pattern.Node.matchesAt, Pattern.Node.outcomes, denylistNode, Pattern.Node.outcomes,
    Pattern.Node.outcomesOfAll, outcomes_open text hplace, List.flatMap_append, List.map_append,
    List.map_append, List.map_append, List.map_append]
  congr 1
  · split
    · rw [List.flatMap_singleton, List.map_map, List.map_map]
      exact hnames place place
    · rfl
  · unfold reportsBehind
    split
    · rw [List.flatMap_singleton, List.map_map, List.map_map]
      exact hnames place (place + 1)
    · rfl

/-! ## The scan finds the first match

  Both go through the text from left to right.  The scan asks at a place whether a name begins
  there; the pattern has that name in a match that begins one character earlier. -/

/-- The name that is preferred is the one that the scan finds. -/
theorem head?_reportsAt (place : Nat) :
    (reportsAt text place).head? = (deniedAt? (text.drop place)).map (reportAt text place) := by
  rw [reportsAt, List.head?_map, List.head?_filter]
  rfl

/-- No name stands at the end of a text. -/
theorem reportsAt_end {place : Nat} (hplace : text.length ≤ place) : reportsAt text place = [] := by
  have hempty : deniedNames.filter (standsAt []) = [] := by
    refine List.filter_eq_nil_iff.mpr fun w hw => ?_
    have hlength := two_le_length w hw
    rw [← String.length_toList] at hlength
    unfold standsAt
    match w.toList, hlength with
    | _ :: _, _ => simp [Text.dropStart?]
  rw [reportsAt, List.drop_eq_nil_of_le hplace, hempty]
  rfl

/-- From a place on, the scan finds the first name that stands at the place, if it is not inside a
    word, or behind a character that no name has. -/
theorem firstDenied?_eq_head? (before s : List Char) (inWord : Bool) :
    (firstDenied? inWord (Text.byteLength before) s).map
        (fun found => (found.1, (⟨found.2, found.2 + found.1.utf8ByteSize⟩ : Span))) =
      ((if inWord then [] else reportsAt (before ++ s) before.length) ++
        (List.range' before.length (s.length + 1)).flatMap
          (reportsBehind (before ++ s))).head? := by
  induction s generalizing before inWord with
  | nil =>
    have hbehind : reportsBehind (before ++ []) before.length = [] := by
      simp [reportsBehind]
    rw [reportsAt_end _ (by simp), List.length_nil, List.range'_one, List.flatMap_singleton,
      hbehind]
    simp [firstDenied?]
  | cons c s ih =>
    have hrest := ih (before ++ [c]) (isNameChar c)
    rw [List.append_assoc, List.singleton_append, Text.byteLength_append, List.length_append,
      List.length_singleton] at hrest
    have hbehind : reportsBehind (before ++ c :: s) before.length =
        if isNameChar c then [] else reportsAt (before ++ c :: s) (before.length + 1) := by
      cases hc : isNameChar c <;> simp [reportsBehind, hc]
    rw [List.length_cons, List.range'_succ, List.flatMap_cons, hbehind, List.head?_append, ← hrest,
      firstDenied?]
    -- inside a word no name begins here; else the scan asks here first
    cases inWord with
    | true => rfl
    | false =>
      rw [if_neg (by decide), if_neg (by decide), head?_reportsAt, List.drop_left]
      cases deniedAt? (c :: s) with
      | none => rfl
      | some w => simp [reportAt]

/-- The matches at all places report what stands at the start of the text, and then what stands
    behind the characters that no name has. -/
theorem matches_eq :
    ((List.range (text.length + 1)).flatMap (denylistNode.matchesAt text.toArray 4)).map
        (groupAt? text.toArray 1) =
      (reportsAt text 0 ++
        (List.range' 0 (text.length + 1)).flatMap (reportsBehind text)).map some := by
  -- at every place but the first the assertion fails
  have hlater : ∀ place ∈ List.range' 1 text.length,
      (denylistNode.matchesAt text.toArray 4 place).map (groupAt? text.toArray 1) =
        (reportsBehind text place).map some := by
    intro place hplace
    obtain ⟨hpos, hle⟩ := List.mem_range'_1.mp hplace
    rw [matchesAt_eq text (by omega), if_neg (by omega), List.nil_append]
  rw [List.range_eq_range', List.range'_succ, List.flatMap_cons, List.flatMap_cons,
    List.map_append, matchesAt_eq text (Nat.zero_le _), if_pos rfl, List.map_flatMap,
    List.flatMap_def, List.map_congr_left hlater, ← List.flatMap_def]
  simp only [List.map_append, List.map_flatMap, List.append_assoc]

/-- The first match of the pattern reports what the scan finds. -/
theorem group?_eq (snippet : String) :
    denylist.group? snippet 1 =
      (firstDenied? false 0 snippet.toList).map fun found =>
        (found.1, ⟨found.2, found.2 + found.1.utf8ByteSize⟩) := by
  have hmatch : denylist.group? snippet 1 =
      (((List.range (snippet.toList.length + 1)).flatMap
        (denylistNode.matchesAt snippet.toList.toArray 4)).head?).bind
          (groupAt? snippet.toList.toArray 1) := by
    have hfirst := firstMatch_ofNode (n := denylistNode) rfl 4 snippet.toList.toArray
    rw [denylist_eq.2, ← List.size_toArray, ← hfirst]
    rfl
  -- what the first match reports is the first of all that is reported
  have hreport {α β : Type} {g : α → Option β} {l : List α} {l' : List β}
      (h : l.map g = l'.map some) : l.head?.bind g = l'.head? := by
    cases l <;> cases l' <;> simp_all
  rw [hmatch, hreport (matches_eq snippet.toList)]
  exact (firstDenied?_eq_head? [] snippet.toList false).symm

/-- **The screen reports what the scan finds.** -/
theorem screen_eq (snippet : String) :
    screen snippet =
      match firstDenied? false 0 snippet.toList with
      | some (w, pos) => .error (.deniedName w ⟨pos, pos + w.utf8ByteSize⟩)
      | none => .ok () := by
  rw [screen, group?_eq]
  cases firstDenied? false 0 snippet.toList <;> rfl

/-- Where the scan finds nothing, the screen lets the text through. -/
theorem screen_eq_ok_iff {snippet : String} :
    screen snippet = .ok () ↔ firstDenied? false 0 snippet.toList = none := by
  rw [screen_eq]
  cases firstDenied? false 0 snippet.toList <;> simp

/-- What the scan lets through is parsed. -/
theorem compile_eq_parse {snippet : String} (h : firstDenied? false 0 snippet.toList = none) :
    compile snippet = parse snippet := by
  rw [compile, screen_eq_ok_iff.mpr h]
  rfl

/-- So is what is judged. -/
theorem judge_eq_parse {snippet : String} (h : firstDenied? false 0 snippet.toList = none)
    (code : String) (limits : Limits) :
    judge snippet code limits =
      (parse snippet).map fun p => Outcome.ofProgram p code limits := by
  rw [judge, compile_eq_parse h]
  cases parse snippet <;> rfl

end ExerciseGrading.Snippet
