import HdlClosure.Proofs.Path.Spelling

namespace HdlClosure.Path

/-- The path of a name in a directory. -/
def inside (directory name : String) : String :=
  (if isAbsolute directory then "/" else "") ++ "/".intercalate (moves directory ++ [name])

section Join

variable {directory name : String}

theorem eq_of_slashed (slashed : directory.toList.getLast? = some '/') :
    ∃ above, directory = above ++ "/" ++ "" := by
  obtain ⟨above, split⟩ := List.getLast?_eq_some_iff.mp slashed
  exact ⟨String.ofList above, String.toList_injective (by simp [split])⟩

theorem EntryName.moves_eq (entryName : EntryName name) : Path.moves name = [name] := by
  rw [Path.moves, pieces_of_plain entryName.plain]
  simp [entryName.moves]

theorem moves_join (given : directory ≠ "") (entryName : EntryName name) :
    moves (join directory name) = moves directory ++ [name] := by
  rw [join, if_neg given]
  by_cases slashed : directory.toList.getLast? = some '/'
  · obtain ⟨above, rfl⟩ := eq_of_slashed slashed
    rw [if_pos slashed, String.append_empty, moves_between, entryName.moves_eq,
      ← String.append_empty (s := above ++ "/"), moves_between, moves_empty, List.append_nil]
  · rw [if_neg slashed, moves_between, entryName.moves_eq]

theorem isAbsolute_join (given : directory ≠ "") (name : String) :
    isAbsolute (join directory name) = isAbsolute directory := by
  rw [join, if_neg given]
  split
  · exact isAbsolute_append given name
  · rw [String.append_assoc, isAbsolute_append given]

end Join

section Plain

variable {directory : String}

/-- The plain spelling of a directory that goes anywhere ends in a name, not in a slash. -/
theorem getLast?_plain (goes : moves directory ≠ []) :
    (plain directory).toList.getLast? ≠ some '/' := by
  intro slashed
  obtain ⟨above, split⟩ := eq_of_slashed slashed
  have idle : (pieces (plain directory)).getLast? = some "" := by
    rw [split, pieces_between]
    exact List.getLast?_append_cons _ _ _
  have last : (pieces (plain directory)).getLast? = (moves directory).getLast? := by
    rw [plain_eq]
    split
    · have root := pieces_between "" ("/".intercalate (moves directory))
      rw [String.empty_append] at root
      rw [root, pieces_intercalate goes slash_not_mem_of_mem_moves,
        List.getLast?_append_of_ne_nil _ goes]
    · rw [String.empty_append, pieces_intercalate goes slash_not_mem_of_mem_moves]
  rw [last] at idle
  exact (begins_of_mem_moves (List.mem_of_getLast? idle)).1 rfl

/-- A name is joined to the plain spelling of a directory by one slash. -/
theorem join_plain (directory name : String) :
    join (plain directory) name = inside directory name := by
  by_cases goes : moves directory = []
  · rw [inside, plain_eq, goes, List.nil_append, String.intercalate_singleton,
      String.intercalate_nil, String.append_empty]
    by_cases absolute : isAbsolute directory = true
    · simp [join, absolute]
    · simp [join, absolute]
  · have given : plain directory ≠ "" := by
      intro empty
      apply goes
      rw [← moves_plain, empty, moves_empty]
    rw [join, if_neg given, if_neg (getLast?_plain goes), inside, plain_eq,
      String.intercalate_append_of_ne_nil goes (List.cons_ne_nil _ _),
      String.intercalate_singleton]
    simp only [String.append_assoc]

end Plain

section Inside

variable {directory name other : String}

theorem isAbsolute_eq_false_of_plain (plain : '/' ∉ name.toList) : isAbsolute name = false := by
  rw [Bool.eq_false_iff]
  intro absolute
  obtain ⟨rest, rfl⟩ := exists_of_isAbsolute absolute
  exact plain (by simp)

theorem isAbsolute_inside (entryName : EntryName name) :
    isAbsolute (inside directory name) = isAbsolute directory := by
  rw [← join_plain, ← isAbsolute_plain directory]
  by_cases empty : plain directory = ""
  · rw [join, if_pos empty, empty, isAbsolute_eq_false_of_plain entryName.plain]
    rfl
  · exact isAbsolute_join empty name

theorem moves_inside (entryName : EntryName name) :
    moves (inside directory name) = moves directory ++ [name] := by
  rw [← join_plain, ← moves_plain directory]
  by_cases empty : plain directory = ""
  · rw [join, if_pos empty, empty, entryName.moves_eq, moves_empty, List.nil_append]
  · exact moves_join empty entryName

/-- Paths of names in directories have the same components only where the names are the same, and the
plain spellings of the directories. -/
theorem eq_of_components_inside {elsewhere : String} (entryName : EntryName name)
    (otherName : EntryName other)
    (same : components (inside directory name) = components (inside elsewhere other)) :
    plain directory = plain elsewhere ∧ name = other := by
  have spelled : plain (inside directory name) = plain (inside elsewhere other) := by
    rw [plain, plain, same]
  have moved := congrArg moves spelled
  have rooted := congrArg isAbsolute spelled
  rw [moves_plain, moves_plain, moves_inside entryName, moves_inside otherName] at moved
  rw [isAbsolute_plain, isAbsolute_plain, isAbsolute_inside entryName,
    isAbsolute_inside otherName] at rooted
  obtain ⟨above, last⟩ := List.append_inj' moved rfl
  exact ⟨by rw [plain_eq, plain_eq, above, rooted], List.singleton_inj.mp last⟩

end Inside

end HdlClosure.Path
