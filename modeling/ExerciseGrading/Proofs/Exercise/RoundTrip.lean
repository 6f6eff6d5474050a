/-
  EXERCISES IN RECORDS: what is written is read again.

  An exercise is written with all its fields, in a fixed order and under the first of their names;
  it is read with fields missing, under other names and in any order.  So what is read is more than
  what was written, and the round trip goes one way: from the exercise to the record and back.

  1. `Exercise.WellFormed` — exit codes are words of 32 bits, and the values that checks compare
     with are canonical.  Nothing else could be lost on the way.
  2. `commands?_eq_some_iff` — commands are collected from the entries of their record, so that
     their patterns are distinct.  `commandsOf_eq_self` — commands with distinct patterns stay as
     they are.
  3. `Exercise.round_trip` — a well-formed exercise with distinct patterns is read as it was
     written, and every exercise that is read, from any record, is one.
-/
import ExerciseGrading.Exercise.Record
import ExerciseGrading.Proofs.Check.RoundTrip
import ExerciseGrading.Proofs.Keyed.Collected

namespace ExerciseGrading

open Record (ofJson ofJsons ofMembers)

/-! ## Rules -/

/-- Each kind of rule is known by its name. -/
theorem RuleKind.ofRecord?_name (k : RuleKind) : RuleKind.ofRecord? (.ofText k.name) = some k := by
  cases k <;> rfl

namespace Rule

/-- A rule is read as it was written, if its check is. -/
theorem ofRecord?_toJson {r : Rule} (hcheck : r.check.Canonical) :
    Rule.ofRecord? (ofJson r.toJson) = some r := by
  have hfields : Record.fields? false
      [["type", "kind"], ["check"], ["errorMessage"], ["failMessage"]] (ofJson r.toJson) =
        some [some (.ofText r.kind.name), some (ofJson r.check.toJson), some (.ofText r.label),
          some (.ofText r.failMessage)] := by
    simp only [toJson, ofJson, ofMembers]
    rfl
  rw [Rule.ofRecord?, hfields, Option.bind_eq_bind, Option.bind_some]
  simp only [RuleKind.ofRecord?_name, Check.ofRecord?_toJson hcheck]
  rfl

/-- The check of a rule that is read is canonical. -/
theorem canonical_of_ofRecord? {record : Record} {r : Rule} (h : Rule.ofRecord? record = some r) :
    r.check.Canonical := by
  obtain ⟨slots, -, h⟩ := Option.bind_eq_some_iff.mp h
  split at h
  · obtain ⟨kind, -, h⟩ := Option.bind_eq_some_iff.mp h
    obtain ⟨check, hcheck, h⟩ := Option.bind_eq_some_iff.mp h
    obtain ⟨label, -, h⟩ := Option.bind_eq_some_iff.mp h
    obtain ⟨failMessage, -, h⟩ := Option.bind_eq_some_iff.mp h
    obtain rfl := Option.some.inj h
    exact Check.canonical_of_ofRecord? hcheck
  · cases h

end Rule

/-! ## Replies -/

namespace Reply

/-- What a reply can hold. -/
structure WellFormed (r : Reply) : Prop where
  condition : ∀ c, r.condition? = some c → c.Canonical
  exitCode : Number.minInt32 ≤ r.exitCode ∧ r.exitCode ≤ Number.maxInt32

/-- An exit code that is a word of 32 bits comes back. -/
theorem exitCode?_ofJson {n : Int} (hn : Number.minInt32 ≤ n ∧ n ≤ Number.maxInt32) :
    exitCode? (ofJson (.number (.whole n))) = some n := by
  rw [ofJson, exitCode?, Record.whole?]
  simp [hn]

/-- **A reply is read as it was written**: with no condition if there was none, and with the one
    that always holds if it was that. -/
theorem ofRecord?_toJson {r : Reply} (hr : r.WellFormed) :
    Reply.ofRecord? (ofJson r.toJson) = some r := by
  obtain ⟨condition?, output, exitCode⟩ := r
  obtain ⟨hcondition, hexitCode⟩ := hr
  have hfields : Record.fields? false [["when"], ["output"], ["exitCode"]]
      (ofJson (toJson ⟨condition?, output, exitCode⟩)) =
        some [condition?.map fun c => ofJson c.toJson, some (.ofText output),
          some (ofJson (.number (.whole exitCode)))] := by
    -- only the condition may be left out when it is written
    cases condition? <;>
      simp only [toJson, ofJson, ofMembers, List.nil_append, List.cons_append] <;> rfl
  rw [Reply.ofRecord?, hfields, Option.bind_eq_bind, Option.bind_some]
  have hcode :
      Record.orElse 0 exitCode? (some (ofJson (.number (.whole exitCode)))) = some exitCode :=
    exitCode?_ofJson hexitCode
  have hwhen : Record.orElse none (Record.optional? Check.ofRecord?)
      (condition?.map fun c => ofJson c.toJson) = some condition? := by
    cases condition? with
    | none => rfl
    | some c =>
      exact Record.optional?_of_read (Check.ofJson_toJson_ne_leaf c)
        (Check.ofRecord?_toJson (hcondition c rfl))
  simp only [hcode, hwhen]
  rfl

/-- A reply that is read can be written: its exit code is one, and its condition is canonical. -/
theorem wellFormed_of_ofRecord? {record : Record} {r : Reply}
    (h : Reply.ofRecord? record = some r) : r.WellFormed := by
  obtain ⟨slots, -, h⟩ := Option.bind_eq_some_iff.mp h
  split at h
  · obtain ⟨condition, hcondition, h⟩ := Option.bind_eq_some_iff.mp h
    obtain ⟨output, -, h⟩ := Option.bind_eq_some_iff.mp h
    obtain ⟨exitCode, hexitCode, h⟩ := Option.bind_eq_some_iff.mp h
    obtain rfl := Option.some.inj h
    constructor
    · intro c hc
      rcases Record.orElse_cases hcondition with hnone | ⟨r, hr⟩
      · cases hnone.symm.trans hc
      · exact Check.canonical_of_ofRecord? (Record.read_of_optional? (hr.trans (congrArg some hc)))
    · -- no exit code at all is zero, which is a word
      rcases Record.orElse_cases hexitCode with rfl | ⟨r, hr⟩
      · show Number.minInt32 ≤ 0 ∧ 0 ≤ Number.maxInt32
        decide
      · exact Record.whole?_bounds hr
  · cases h

end Reply

/-! ## Commands -/

namespace Exercise

variable {members : List (String × List Reply)}

/-- Nothing is replaced among commands whose patterns are distinct. -/
theorem commandsOf_eq_self (h : (members.map (·.1)).Nodup) : commandsOf members = members := by
  -- each key is new when it is put, for it stands only once
  refine Keyed.foldl_eq_append [] fun a m b hsplit => Keyed.put_of_not_mem fun hkey => ?_
  have hnodup : ((a ++ m :: b).map (·.1)).Nodup := hsplit ▸ h
  rw [List.map_append, List.map_cons] at hnodup
  exact (List.nodup_append.mp hnodup).2.2 m.1 hkey m.1 List.mem_cons_self rfl

/-- Commands are the collection of the entries: each pattern once, in the order in which it came
    first, with the replies that came last. -/
theorem commandsOf_eq_iff {commands : List (String × List Reply)} :
    commandsOf members = commands ↔ Keyed.Collected members commands :=
  Keyed.foldl_put_eq_iff

/-- What an entry of a record is read as: a pattern with its replies. -/
def IsCommand (entry : Record × Record) (c : String × List Reply) : Prop :=
  entry.1.text? = some c.1 ∧
    ∃ items, entry.2.items? = some items ∧ items.mapM Reply.ofRecord? = some c.2

/-- What the reader of an entry finds, said without the reader. -/
theorem isCommand_iff {entry : Record × Record} {c : String × List Reply} :
    (do return (← entry.1.text?, ← (← entry.2.items?).mapM Reply.ofRecord?)) = some c ↔
      IsCommand entry c := by
  constructor
  · intro h
    obtain ⟨pattern, hpattern, h⟩ := Option.bind_eq_some_iff.mp h
    obtain ⟨items, hitems, h⟩ := Option.bind_eq_some_iff.mp h
    obtain ⟨replies, hreplies, h⟩ := Option.bind_eq_some_iff.mp h
    obtain rfl := Option.some.inj h
    exact ⟨hpattern, items, hitems, hreplies⟩
  · rintro ⟨hpattern, items, hitems, hreplies⟩
    refine Option.bind_eq_some_iff.mpr ⟨c.1, hpattern, ?_⟩
    refine Option.bind_eq_some_iff.mpr ⟨items, hitems, ?_⟩
    exact Option.bind_eq_some_iff.mpr ⟨c.2, hreplies, rfl⟩

/-- **Commands are collected from the entries** of their record, in the order written. -/
theorem commands?_eq_some_iff {record : Record} {commands : List (String × List Reply)} :
    commands? record = some commands ↔
      ∃ entries members, record.entries? = some entries ∧
        List.Forall₂ IsCommand entries members ∧ Keyed.Collected members commands := by
  constructor
  · intro h
    obtain ⟨entries, hentries, h⟩ := Option.bind_eq_some_iff.mp h
    obtain ⟨members, hmembers, h⟩ := Option.bind_eq_some_iff.mp h
    refine ⟨entries, members, hentries, ?_, commandsOf_eq_iff.mp (Option.some.inj h)⟩
    exact (mapM_eq_some_iff.mp hmembers).imp fun _ _ => isCommand_iff.mp
  · rintro ⟨entries, members, hentries, hmembers, hcollected⟩
    refine Option.bind_eq_some_iff.mpr ⟨entries, hentries, ?_⟩
    refine Option.bind_eq_some_iff.mpr ⟨members, mapM_eq_some_iff.mpr ?_, ?_⟩
    · exact hmembers.imp fun _ _ => isCommand_iff.mpr
    · exact congrArg some (commandsOf_eq_iff.mpr hcollected)

/-- A command that is written is an entry for it. -/
theorem isCommand_ofJson {c : String × List Reply} (h : ∀ r ∈ c.2, r.WellFormed) :
    IsCommand (.ofText c.1, ofJson (.array (c.2.map Reply.toJson))) c := by
  refine ⟨rfl, ofJsons (c.2.map Reply.toJson), by rw [ofJson]; rfl, ?_⟩
  rw [Record.ofJsons_eq_map, List.map_map]
  exact mapM_map_eq_some fun r hr => Reply.ofRecord?_toJson (h r hr)

/-- **Commands are read as they were written**, if no pattern stands twice. -/
theorem commands?_ofJson {commands : List (String × List Reply)}
    (hpatterns : (commands.map (·.1)).Nodup) (h : ∀ c ∈ commands, ∀ r ∈ c.2, r.WellFormed) :
    commands? (ofJson (.object (commands.map fun c => (c.1, .array (c.2.map Reply.toJson))))) =
      some commands := by
  rw [ofJson, Record.ofMembers_eq_map, List.map_map]
  have hcollected := commandsOf_eq_iff.mp (commandsOf_eq_self hpatterns)
  refine commands?_eq_some_iff.mpr ⟨_, commands, rfl, ?_, hcollected⟩
  rw [List.forall₂_map_left_iff, List.forall₂_same]
  exact fun c hc => isCommand_ofJson (h c hc)

/-- Commands that are read have distinct patterns, and replies that can be written. -/
theorem wellFormed_of_commands? {record : Record} {commands : List (String × List Reply)}
    (h : commands? record = some commands) :
    (commands.map (·.1)).Nodup ∧ ∀ c ∈ commands, ∀ r ∈ c.2, r.WellFormed := by
  obtain ⟨entries, members, -, hmembers, hcollected⟩ := commands?_eq_some_iff.mp h
  refine ⟨hcollected.nodup_keys, fun c hc r hr => ?_⟩
  have hmember : c ∈ members := (hcollected.last c hc).mem
  obtain ⟨entry, -, -, items, -, hreplies⟩ := exists_of_forall₂ hmembers hmember
  obtain ⟨item, -, hitem⟩ := exists_of_mem_mapM hreplies hr
  exact Reply.wellFormed_of_ofRecord? hitem

/-! ## Exercises -/

/-- What an exercise can hold. -/
structure WellFormed (e : Exercise) : Prop where
  rules : ∀ r ∈ e.rules, r.check.Canonical
  replies : ∀ c ∈ e.commands, ∀ r ∈ c.2, r.WellFormed

/-- **An exercise is read as it was written**, if no pattern stands twice. -/
theorem ofRecord?_toJson {e : Exercise} (he : e.WellFormed) (hpatterns : e.patterns.Nodup) :
    Exercise.ofRecord? (ofJson e.toJson) = some e := by
  obtain ⟨id, rules, commands, hints, success⟩ := e
  obtain ⟨hrules, hreplies⟩ := he
  have hfields : Record.fields? false
      [["id"], ["validations"], ["terminalCommands"], ["hints"], ["successMessage"]]
      (ofJson (toJson ⟨id, rules, commands, hints, success⟩)) =
        some [some (.ofText id), some (ofJson (.array (rules.map Rule.toJson))),
          some (ofJson (.object (commands.map fun c => (c.1, .array (c.2.map Reply.toJson))))),
          some (ofJson (.array (hints.map .string))), some (.ofText success)] := by
    simp only [toJson, ofJson, ofMembers]
    rfl
  have hreadRules : (ofJsons (rules.map Rule.toJson)).mapM Rule.ofRecord? = some rules := by
    rw [Record.ofJsons_eq_map, List.map_map]
    exact mapM_map_eq_some fun r hr => Rule.ofRecord?_toJson (hrules r hr)
  have hreadCommands := commands?_ofJson hpatterns hreplies
  have hreadHints := Record.texts?_ofJson hints
  -- field by field, in the order in which they are read
  rw [ofRecord?, hfields, Option.bind_eq_bind, Option.bind_some]
  refine Option.bind_eq_some_iff.mpr ⟨id, rfl, ?_⟩
  refine Option.bind_eq_some_iff.mpr ⟨rules, ?_, ?_⟩
  · show Record.items? (ofJson (.array (rules.map Rule.toJson))) >>= _ = _
    rw [ofJson]
    exact hreadRules
  refine Option.bind_eq_some_iff.mpr ⟨commands, hreadCommands, ?_⟩
  refine Option.bind_eq_some_iff.mpr ⟨hints, hreadHints, ?_⟩
  exact Option.bind_eq_some_iff.mpr ⟨success, rfl, rfl⟩

/-- **Whatever is read as an exercise is well-formed**, and no pattern stands twice in it. -/
theorem wellFormed_of_ofRecord? {record : Record} {e : Exercise}
    (h : Exercise.ofRecord? record = some e) : e.WellFormed ∧ e.patterns.Nodup := by
  obtain ⟨slots, -, h⟩ := Option.bind_eq_some_iff.mp h
  split at h
  · obtain ⟨id, -, h⟩ := Option.bind_eq_some_iff.mp h
    obtain ⟨rules, hrules, h⟩ := Option.bind_eq_some_iff.mp h
    obtain ⟨commands, hcommands, h⟩ := Option.bind_eq_some_iff.mp h
    obtain ⟨hints, -, h⟩ := Option.bind_eq_some_iff.mp h
    obtain ⟨success, -, h⟩ := Option.bind_eq_some_iff.mp h
    obtain rfl := Option.some.inj h
    have hcommands : (commands.map (·.1)).Nodup ∧ ∀ c ∈ commands, ∀ r ∈ c.2, r.WellFormed := by
      rcases Record.orElse_cases hcommands with rfl | ⟨r, hr⟩
      · exact ⟨List.nodup_nil, fun c hc => absurd hc List.not_mem_nil⟩
      · exact wellFormed_of_commands? hr
    refine ⟨⟨fun r hr => ?_, hcommands.2⟩, hcommands.1⟩
    rcases Record.orElse_cases hrules with rfl | ⟨record, hrecord⟩
    · exact absurd hr List.not_mem_nil
    · obtain ⟨items, -, hitems⟩ := Option.bind_eq_some_iff.mp hrecord
      obtain ⟨item, -, hitem⟩ := exists_of_mem_mapM hitems hr
      exact Rule.canonical_of_ofRecord? hitem
  · cases h

/-- **Writing an exercise and reading it again changes nothing**: for every well-formed exercise
    with distinct patterns, and so for every exercise that was read, from any record. -/
theorem round_trip :
    (∀ e : Exercise, e.WellFormed → e.patterns.Nodup →
      Exercise.ofRecord? (ofJson e.toJson) = some e) ∧
    ∀ (record : Record) (e : Exercise), Exercise.ofRecord? record = some e →
      e.WellFormed ∧ e.patterns.Nodup ∧ Exercise.ofRecord? (ofJson e.toJson) = some e := by
  refine ⟨fun e he hpatterns => ofRecord?_toJson he hpatterns, fun record e hread => ?_⟩
  obtain ⟨he, hpatterns⟩ := wellFormed_of_ofRecord? hread
  exact ⟨he, hpatterns, ofRecord?_toJson he hpatterns⟩

/-- A check that is `all` of one, a condition that always holds beside none at all, two patterns;
    and an exercise of which only the id is written. -/
theorem round_trip_conditions :
    let check : Check := .all [.equals "spec" (.object [("a", .null), ("b", .bool true)])];
    let replies : List Reply := [⟨some (.all []), "created", 1⟩, ⟨none, "", 0⟩];
    let e : Exercise :=
      ⟨"pods", [⟨.syntactic, check, "spec", "No."⟩], [("get", replies), ("apply", [])], ["Try."],
        ""⟩;
    Exercise.ofRecord? (ofJson e.toJson) = some e ∧
      Exercise.ofRecord? (ofJson (toJson ⟨"bare", [], [], [], ""⟩)) =
        some ⟨"bare", [], [], [], ""⟩ := by
  intro check replies e
  have hsorted : Keyed.Sorted [("a", Json.null), ("b", .bool true)] := by
    refine List.pairwise_cons.mpr ⟨fun m hm => ?_, List.pairwise_singleton _ _⟩
    rw [List.mem_singleton.mp hm]
    decide
  have hvalue : (Json.object [("a", .null), ("b", .bool true)]).Canonical := by
    refine .object hsorted fun m hm => ?_
    rcases List.mem_pair.mp hm with rfl | rfl
    · exact .null
    · exact .bool true
  have hcheck : check.Canonical := by
    intro v hv
    simp only [check, Check.values, Check.valuesOf, List.append_nil] at hv
    exact List.mem_singleton.mp hv ▸ hvalue
  have hvacuous : (Check.all []).Canonical :=
    Check.canonical_of_no_values (by rw [Check.values, Check.valuesOf])
  have hreplies : ∀ r ∈ replies, r.WellFormed := by
    intro r hr
    rcases List.mem_pair.mp hr with rfl | rfl
    · exact ⟨fun c hc => Option.some.inj hc ▸ hvacuous, by decide⟩
    · exact ⟨fun c hc => absurd hc.symm (Option.some_ne_none c), by decide⟩
  have hwellFormed : e.WellFormed := by
    refine ⟨fun r hr => List.mem_singleton.mp hr ▸ hcheck, fun c hc => ?_⟩
    rcases List.mem_pair.mp hc with rfl | rfl
    · exact hreplies
    · exact fun r hr => absurd hr List.not_mem_nil
  have hread : Exercise.ofRecord? (.fields none [(.ofText "id", .ofText "bare")]) =
    some ⟨"bare", [], [], [], ""⟩ := rfl
  have h := round_trip
  exact ⟨h.1 e hwellFormed (by decide), (h.2 _ _ hread).2.2⟩

end Exercise

end ExerciseGrading
