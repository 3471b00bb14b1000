import HdlClosure.Proofs.FileTree.Access
import HdlClosure.Proofs.Path.Spelling

/-! Which directory a path leads to does not depend on how the path is spelled. A look-up stays
where it is at a dot or between two slashes, as long as it is in a directory; where it is not, it
ends in no directory either way. -/
namespace HdlClosure.FileTree

/-- The directory that a look-up ends in, if it ends in one. -/
def directoryOf? (tree : FileTree) : Except AccessError Spot → Option Location
  | .ok (.found location) => if tree.isDirectoryAt location then some location else none
  | .ok (.vacant ..) => none
  | .error _ => none

def directory? (tree : FileTree) (path : String) : Option Location :=
  tree.directoryOf? (tree.locate path)

/-- The steps at which a look-up moves on. -/
def moving (steps : List String) : List String := steps.filter fun step => !Path.isIdle step

theorem moving_steps (path : String) : moving (steps path) = Path.moves path := by
  have slash : moving (if path.toList.getLast? = some '/' then [""] else []) = [] := by
    split <;> rfl
  rw [moving] at slash
  rw [moving, steps, List.filter_append, slash, List.append_nil, List.filter_filter, Path.moves]
  congr 1
  funext piece
  by_cases none : piece = ""
  · simp [Path.isIdle, none]
  · simp [Path.isIdle, none]

variable {tree : FileTree} {follow : Location → List String → Except AccessError Spot}

theorem directoryOf?_walkWith_of_not {place : Location} (other : tree.isDirectoryAt place = false)
    (steps : List String) : tree.directoryOf? (walkWith tree false follow place steps) = none := by
  cases steps with
  | nil => simp [walkWith, directoryOf?, other]
  | cons step rest => simp [walkWith, directoryOf?, other]

/-- A name that is free, or too long for any entry, leads to no directory. -/
theorem directoryOf?_walkWith_free {place : Location} {step : String}
    (moves : ¬(step = "" ∨ step = ".")) (down : step ≠ "..")
    (free : nameLimit < step.utf8ByteSize ∨ tree.entry? (place ++ [step]) = none)
    (rest : List String) :
    tree.directoryOf? (walkWith tree false follow place (step :: rest)) = none := by
  rw [walkWith]
  simp only [moves, down, if_false, Bool.false_eq_true, false_and]
  by_cases long : nameLimit < step.utf8ByteSize
  · split <;> simp [directoryOf?]
  · rw [if_neg long, free.resolve_left long]
    split_ifs <;> rfl

/-- What goes on after a link ends in one directory for all steps that move alike. -/
def SameForAlike (tree : FileTree) (follow : Location → List String → Except AccessError Spot) :
    Prop :=
  ∀ place first second, moving first = moving second →
    tree.directoryOf? (follow place first) = tree.directoryOf? (follow place second)

section Follow

variable (same : SameForAlike tree follow)

include same

/-- A look-up may leave out the steps at which it stays where it is. -/
theorem directoryOf?_walkWith_moving (place : Location) (steps : List String) :
    tree.directoryOf? (walkWith tree false follow place steps) =
      tree.directoryOf? (walkWith tree false follow place (moving steps)) := by
  induction steps generalizing place with
  | nil => rfl
  | cons step rest ih =>
    cases directory : tree.isDirectoryAt place with
    | false => rw [directoryOf?_walkWith_of_not directory, directoryOf?_walkWith_of_not directory]
    | true =>
      by_cases idle : Path.isIdle step = true
      · have stays : moving (step :: rest) = moving rest := by simp [moving, idle]
        rw [stays, walkWith, if_pos directory, if_pos (Path.isIdle_iff.mp idle)]
        exact ih place
      have goes : moving (step :: rest) = step :: moving rest := by simp [moving, idle]
      have moves := Path.isIdle_iff.not.mp idle
      rw [goes]
      by_cases up : step = ".."
      · simp only [walkWith, directory, up, if_true]
        exact ih place.dropLast
      by_cases long : nameLimit < step.utf8ByteSize
      · rw [directoryOf?_walkWith_free moves up (.inl long),
          directoryOf?_walkWith_free moves up (.inl long)]
      have name : IsName step := ⟨moves, up, long⟩
      cases present : tree.entry? (place ++ [step]) with
      | none =>
        rw [directoryOf?_walkWith_free moves up (.inr present),
          directoryOf?_walkWith_free moves up (.inr present)]
      | some entry =>
        by_cases link : ∃ target, entry = .link target
        -- The steps of the link come first on both sides, and may be idle themselves.
        · obtain ⟨target, rfl⟩ := link
          rw [walkWith_link directory name present, walkWith_link directory name present]
          refine same _ _ _ ?_
          simp [moving, List.filter_append, List.filter_filter]
        · have noLink (target : String) : entry ≠ .link target := fun is => link ⟨target, is⟩
          rw [walkWith_entry directory name present noLink,
            walkWith_entry directory name present noLink]
          exact ih (place ++ [step])

theorem sameForAlike_walkWith : SameForAlike tree (walkWith tree false follow) := by
  intro place first second alike
  rw [directoryOf?_walkWith_moving same place first, alike,
    ← directoryOf?_walkWith_moving same place second]

end Follow

/-- Steps that move alike lead to the same directory, through however many links. -/
theorem sameForAlike_walk (tree : FileTree) (links : Nat) :
    SameForAlike tree (walk tree false links) := by
  induction links with
  | zero => exact sameForAlike_walkWith fun _ _ _ _ => rfl
  | succ links ih => exact sameForAlike_walkWith ih

section Spelling

variable {path other : String} (alike : Path.Alike path other)

include alike

theorem contains_zero_of_alike : path.toList.contains '\x00' = other.toList.contains '\x00' := by
  rw [Bool.eq_iff_iff, List.contains_iff_mem, List.contains_iff_mem,
    Path.mem_toList_iff (by decide) (by decide), Path.mem_toList_iff (by decide) (by decide),
    alike.moves]

/-- Two spellings of a path lead to the same directory, when both are short enough to be looked
up. -/
theorem directory?_alike (fits : path.utf8ByteSize < pathLimit)
    (otherFits : other.utf8ByteSize < pathLimit) :
    tree.directory? path = tree.directory? other := by
  have start : startOf tree.here path = startOf tree.here other := by
    rw [startOf, startOf, alike.start]
  have steps : moving (steps path) = moving (steps other) := by
    rw [moving_steps, moving_steps, alike.moves]
  unfold directory? locate spotOf
  rw [contains_zero_of_alike alike, if_neg alike.given, if_neg alike.otherGiven,
    if_neg (Nat.not_le.mpr fits), if_neg (Nat.not_le.mpr otherFits), start]
  split
  · rfl
  · exact sameForAlike_walk tree linkLimit _ _ _ steps

end Spelling

/-- A directory is the one that is found where it is walked. -/
theorem directory?_walked {directory : String} (given : directory ≠ "")
    (fits : directory.utf8ByteSize < pathLimit) :
    tree.directory? (Path.walked directory) = tree.directory? directory :=
  (directory?_alike (Path.alike_walked given) fits
    (Nat.lt_of_le_of_lt (Path.utf8ByteSize_walked_le given) fits)).symm

end HdlClosure.FileTree
