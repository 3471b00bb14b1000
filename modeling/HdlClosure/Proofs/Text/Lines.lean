import HdlClosure.Proofs.Text.Runs
import HdlClosure.Text.Lines

namespace HdlClosure.Text

/-- A text and its lines. A line feed ends a line, and takes the carriage return before it along;
only the last line can do without. -/
inductive HasLines : List Char → List (List Char) → Prop where
  | none : HasLines [] []
  | last {line : List Char} (visible : line ≠ []) (plain : '\n' ∉ line) : HasLines line [line]
  | more {line rest : List Char} {following : List (List Char)} (plain : '\n' ∉ line)
    (after : HasLines rest following) :
    HasLines (line ++ '\n' :: rest) (dropReturn line :: following)

section Lines

theorem lines_of_plain {line : List Char} (plain : '\n' ∉ line) :
    lines line = if line.isEmpty then [] else [line] := by
  simp [lines, List.splitOnP_eq_singleton (beq_of_not_mem plain)]

theorem lines_append_feed {line : List Char} (plain : '\n' ∉ line) (rest : List Char) :
    lines (line ++ '\n' :: rest) = dropReturn line :: lines rest := by
  have pieces := List.splitOnP_append_cons_of_forall_mem (beq_of_not_mem plain) '\n' (by decide) rest
  obtain ⟨piece, others, same⟩ :=
    List.exists_cons_of_ne_nil (List.splitOnP_ne_nil (· == '\n') rest)
  simp [lines, pieces, same]

theorem hasLines_lines (text : List Char) : HasLines text (lines text) := by
  by_cases fed : '\n' ∈ text
  · obtain ⟨line, rest, same, plain⟩ := List.eq_append_cons_of_mem fed
    rw [same, lines_append_feed plain]
    exact .more plain (hasLines_lines rest)
  · rw [lines_of_plain fed]
    split
    · rename_i empty
      rw [List.isEmpty_iff.mp empty]
      exact .none
    · rename_i visible
      exact .last (fun empty => visible (List.isEmpty_iff.mpr empty)) fed
termination_by text.length
decreasing_by simp [same]; omega

theorem hasLines_iff {text : List Char} {listed : List (List Char)} :
    HasLines text listed ↔ lines text = listed := by
  constructor
  · intro split
    induction split with
    | none => rfl
    | last visible plain => simp [lines_of_plain plain, visible]
    | more plain _ ih => rw [lines_append_feed plain, ih]
  · rintro rfl
    exact hasLines_lines text

end Lines

/-- Names read off lines, in order: one from every line that spells one out, none from any other. -/
inductive ReadsOff (spells : List Char → String → Prop) :
    List (List Char) → List String → Prop where
  | done : ReadsOff spells [] []
  | take {line : List Char} {name : String} {lines : List (List Char)} {names : List String}
    (spelled : spells line name) (rest : ReadsOff spells lines names) :
    ReadsOff spells (line :: lines) (name :: names)
  | skip {line : List Char} {lines : List (List Char)} {names : List String}
    (silent : ∀ name, ¬ spells line name) (rest : ReadsOff spells lines names) :
    ReadsOff spells (line :: lines) names

/-- Reading off is filtering, for a reader that finds what lines spell out. -/
theorem readsOff_iff {spells : List Char → String → Prop} {read? : List Char → Option String}
    (reads : ∀ line name, read? line = some name ↔ spells line name)
    {lines : List (List Char)} {names : List String} :
    ReadsOff spells lines names ↔ lines.filterMap read? = names := by
  constructor
  · intro given
    induction given with
    | done => rfl
    | take spelled _ ih => rw [List.filterMap_cons_some ((reads _ _).mpr spelled), ih]
    | @skip line _ _ silent _ ih =>
      have unread : read? line = none :=
        Option.eq_none_iff_forall_ne_some.mpr fun name found => silent name ((reads _ _).mp found)
      rw [List.filterMap_cons_none unread, ih]
  · rintro rfl
    induction lines with
    | nil => exact .done
    | cons line rest ih =>
      cases found : read? line with
      | none =>
        rw [List.filterMap_cons_none found]
        refine .skip (fun name spelled => ?_) ih
        rw [(reads line name).mpr spelled] at found
        cases found
      | some name =>
        rw [List.filterMap_cons_some found]
        exact .take ((reads line name).mp found) ih

end HdlClosure.Text
