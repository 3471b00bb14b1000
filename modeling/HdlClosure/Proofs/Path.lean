import HdlClosure.Path
import HdlClosure.Proofs.Text.Runs
import Mathlib.Data.List.Basic

namespace HdlClosure.Path

theorem pieces_ofList (text : List Char) :
    pieces (String.ofList text) = (text.splitOnP (· == '/')).map String.ofList := by
  rw [pieces, String.toList_ofList]

theorem pieces_of_plain {name : String} (plain : '/' ∉ name.toList) : pieces name = [name] := by
  rw [pieces, List.splitOnP_eq_singleton (beq_of_not_mem plain), List.map_singleton,
    String.ofList_toList]

theorem pieces_append_slash (first rest : List Char) :
    pieces (String.ofList (first ++ '/' :: rest)) =
      pieces (String.ofList first) ++ pieces (String.ofList rest) := by
  simp only [pieces_ofList]
  rw [List.splitOnP_append_cons first rest (by decide), List.map_append]

/-- A directory and a name are joined by one slash at least, unless the directory is empty. -/
theorem join_cases (directory name : String) :
    join directory name = name ∨
      ∃ above, join directory name = String.ofList (above ++ '/' :: name.toList) := by
  unfold join
  by_cases empty : directory = ""
  · exact .inl (if_pos empty)
  · rw [if_neg empty]
    right
    by_cases slashed : directory.toList.getLast? = some '/'
    · obtain ⟨above, split⟩ := List.getLast?_eq_some_iff.mp slashed
      rw [if_pos slashed]
      refine ⟨above, String.toList_injective ?_⟩
      simp [split]
    · rw [if_neg slashed]
      exact ⟨directory.toList, String.toList_injective (by simp)⟩

theorem fileName?_join {directory name : String} (plain : '/' ∉ name.toList)
    (named : componentOf? name = some (.name name)) :
    fileName? (join directory name) = some name := by
  have last : ∃ above, pieces (join directory name) = above ++ [name] := by
    rcases join_cases directory name with alone | ⟨above, joined⟩
    · exact ⟨[], by rw [alone, pieces_of_plain plain, List.nil_append]⟩
    · refine ⟨pieces (String.ofList above), ?_⟩
      rw [joined, pieces_append_slash, String.ofList_toList, pieces_of_plain plain]
  obtain ⟨above, split⟩ := last
  rw [fileName?, components, split, List.filterMap_append, ← List.append_assoc,
    List.filterMap_cons_some named, List.filterMap_nil, List.getLast?_concat]

/-- Read backwards, a text without dots is passed over up to the dot before it. -/
theorem dropWhile_reverse_dotted (stem : List Char) {extension : List Char}
    (plain : '.' ∉ extension) :
    (stem ++ '.' :: extension).reverse.dropWhile (· != '.') = '.' :: stem.reverse := by
  have passed : ∀ c ∈ extension.reverse, (c != '.') = true := by
    intro c member
    rw [bne, beq_of_not_mem plain c (List.mem_reverse.mp member)]
    rfl
  rw [List.reverse_append, List.reverse_cons, List.append_assoc,
    List.dropWhile_append_of_pos passed]
  rfl

/-- The stem ends at the last dot, unless nothing stands before it. -/
theorem stemOf_append {stem extension : List Char} (visible : stem ≠ []) (plain : '.' ∉ extension) :
    stemOf (stem ++ '.' :: extension) = stem := by
  have cut := dropWhile_reverse_dotted stem plain
  cases back : stem.reverse with
  | nil => exact absurd (List.reverse_eq_nil_iff.mp back) visible
  | cons c rest =>
    rw [back] at cut
    rw [stemOf, cut]
    show (c :: rest).reverse = stem
    rw [← back, List.reverse_reverse]

theorem stemOf_hidden {extension : List Char} (plain : '.' ∉ extension) :
    stemOf ('.' :: extension) = '.' :: extension := by
  have cut := dropWhile_reverse_dotted [] plain
  rw [List.nil_append] at cut
  rw [stemOf, cut]
  rfl

end HdlClosure.Path
