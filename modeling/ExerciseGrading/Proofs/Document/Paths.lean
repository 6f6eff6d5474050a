/-
  PATHS in print: which paths come back from their text, and what a longer path finds.

  A path is a list of segments, and its text has dots between them.  Every text is the text of some
  path, but not every path comes back from its text: a segment with a dot falls apart, and no
  segment at all is written like one that is empty.

  1. `not_mem_cutAtDots` — no part between dots has a dot.
  2. `cutAtDots_join` — parts without a dot come back from between the dots, unless there is none:
     no parts at all are written like one part that is empty.
  3. `ofText_text_iff` — so these are the paths that come back from their text, and no others.
  4. `paths_compose` — a path and its text, and the query for two paths with a dot between them.
     The middle of a walk loses its tags whether it is the end of one path or not, so that nothing
     is lost by stopping there.
-/
import ExerciseGrading.Proofs.Document.Queries

namespace ExerciseGrading

namespace Path

/-- No part between dots has a dot. -/
theorem not_mem_cutAtDots {s part : List Char} (h : part ∈ cutAtDots s) : '.' ∉ part := by
  induction s generalizing part with
  | nil =>
    rw [cutAtDots, List.mem_singleton] at h
    rw [h]
    exact List.not_mem_nil
  | cons c s ih =>
    rw [cutAtDots] at h
    by_cases hc : c = '.'
    · rw [if_pos hc] at h
      rcases List.mem_cons.mp h with rfl | hrest
      · exact List.not_mem_nil
      · exact ih hrest
    · rw [if_neg hc] at h
      cases hs : cutAtDots s with
      | nil => exact absurd hs (cutAtDots_ne_nil s)
      | cons first rest =>
        rw [hs] at h
        rcases List.mem_cons.mp h with rfl | hrest
        · -- the first part grows by `c`
          have hfirst : '.' ∉ first := ih (hs ▸ List.mem_cons_self)
          exact fun hmem => (List.mem_cons.mp hmem).elim (fun hdot => hc hdot.symm) hfirst
        · exact ih (hs ▸ List.mem_cons_of_mem first hrest)

/-- **Parts without a dot come back from between the dots.** -/
theorem cutAtDots_join {parts : List (List Char)} (hne : parts ≠ []) (h : ∀ p ∈ parts, '.' ∉ p) :
    cutAtDots (Text.join ['.'] parts) = parts := by
  induction parts with
  | nil => exact absurd rfl hne
  | cons p rest ih =>
    have hp : cutAtDots p = [p] := cutAtDots_of_no_dot (h p List.mem_cons_self)
    cases rest with
    | nil => exact hp
    | cons q rest =>
      have hrest : ∀ r ∈ q :: rest, '.' ∉ r := fun r hr => h r (List.mem_cons_of_mem p hr)
      rw [Text.join, List.append_assoc, List.singleton_append, cutAtDots_append, hp,
        ih (List.cons_ne_nil q rest) hrest]
      rfl

/-- **Which paths come back from their text.** -/
theorem ofText_text_iff (p : Path) :
    ofText p.text = p ↔ p.segments ≠ [] ∧ ∀ s ∈ p.segments, '.' ∉ s.toList := by
  have htext : p.text.toList = Text.join ['.'] (p.segments.map String.toList) := by
    rw [text, String.toList_ofList]
  constructor
  · intro h
    -- whatever is read from a text has a segment, and none with a dot
    rw [← h]
    refine ⟨mt List.map_eq_nil_iff.mp (cutAtDots_ne_nil _), fun s hs => ?_⟩
    obtain ⟨part, hpart, rfl⟩ := List.mem_map.mp hs
    rw [String.toList_ofList]
    exact not_mem_cutAtDots hpart
  · rintro ⟨hne, hdots⟩
    have hparts : ∀ part ∈ p.segments.map String.toList, '.' ∉ part := by
      intro part hpart
      obtain ⟨s, hs, rfl⟩ := List.mem_map.mp hpart
      exact hdots s hs
    have hback : (p.segments.map String.toList).map String.ofList = p.segments := by
      rw [List.map_map]
      exact (List.map_congr_left fun s _ => String.ofList_toList).trans (List.map_id _)
    rw [ofText, htext, cutAtDots_join (mt List.map_eq_nil_iff.mp hne) hparts, hback]

end Path

/-- **Paths compose, and come back from their text.**  A path, a dot and another path find what the
    second finds where the first leads, and nothing if that leads nowhere.  Every text is the text
    of the path read from it.  A path comes back from its text if and only if it has a segment and
    no segment has a dot. -/
theorem paths_compose :
    (∀ (d : Document) (p q : String),
      d.query? (p ++ "." ++ q) = (d.query? p).bind fun e => e.query? q) ∧
    (∀ (d : Document) (p q : String), d.query? p = none → d.query? (p ++ "." ++ q) = none) ∧
    (∀ s : String, (Path.ofText s).text = s) ∧
    (∀ p : Path, Path.ofText p.text = p ↔
      p.segments ≠ [] ∧ ∀ s ∈ p.segments, '.' ∉ s.toList) := by
  refine ⟨Document.query?_append, fun d p q h => ?_, Path.text_ofText, Path.ofText_text_iff⟩
  rw [Document.query?_append, h]
  rfl

/-- Below a text there is nothing, however far the path goes on.  In a list of named things, under a
    tag, the second name is where the rest of the path ends. -/
theorem paths_compose_found_and_missing :
    (Document.string "Pod").query? "length" = none ∧
    (Document.string "Pod").query? ("length" ++ "." ++ "0..") = none ∧
    (Document.mapping [(.string "env", .tagged "!list" (.sequence [.null,
      .mapping [(.string "name", .string "LOG_LEVEL")]]))]).query? ("env" ++ "." ++ "1.name") =
        some (.string "LOG_LEVEL") := by
  have hmissing : (Document.string "Pod").query? "length" = none := by decide +kernel
  refine ⟨hmissing, paths_compose.2.1 (.string "Pod") "length" "0.." hmissing, ?_⟩
  rw [paths_compose.1]
  rfl

end ExerciseGrading
