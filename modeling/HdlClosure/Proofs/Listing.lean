import HdlClosure.Listing
import HdlClosure.Proofs.FileTree.Leads
import Mathlib.Data.List.Forall2

namespace HdlClosure

/-- A source file whose module is the stem of its path, in lowercase. -/
def SourceFile.Named (file : SourceFile) : Prop :=
  (Path.stem? file.path).map Text.lowercase = some file.moduleName

theorem SourceFile.named_of_ofPath? {path : String} {file : SourceFile}
    (made : ofPath? path = some file) : file.Named := by
  unfold ofPath? at made
  obtain ⟨stem, found, rfl⟩ := Option.map_eq_some_iff.mp made
  simp [Named, found]

namespace Listing

theorem named_of_source? {extension base name : String} {isFile : Bool} {file : SourceFile}
    (taken : source? extension base name isFile = some file) : file.Named := by
  unfold source? at taken
  split at taken
  · exact SourceFile.named_of_ofPath? taken
  · cases taken

theorem named_of_sourcesAmong {tree : FileTree} {extension directory : String}
    {location : Location} {entries : List (String × Entry)} {files : List SourceFile}
    (listed : (sourcesAmong tree extension directory location entries).result = .ok files) :
    ∀ file ∈ files, file.Named := by
  induction entries generalizing files with
  | nil =>
    cases listed
    exact fun file member => nomatch member
  | cons entry rest ih =>
    obtain ⟨name, entry⟩ := entry
    unfold sourcesAmong at listed
    split at listed
    · cases listed
    · rename_i isFile _
      cases taken : source? extension (Path.plain directory) name isFile with
      | none =>
        rw [taken] at listed
        exact ih listed
      | some file =>
        rw [taken] at listed
        obtain ⟨_, _, listed⟩ := Traced.result_bind_eq_ok_iff.mp listed
        obtain ⟨others, listedRest, same⟩ := Traced.result_bind_eq_ok_iff.mp listed
        cases same
        exact List.forall_mem_cons.mpr ⟨named_of_source? taken, ih listedRest⟩

theorem named_of_sources {tree : FileTree} {order : Order} {extension directory : String}
    {files : List SourceFile}
    (listed : (sources tree extension directory order).result = .ok files) :
    ∀ file ∈ files, file.Named := by
  have vacuous (empty : [] = files) : ∀ file ∈ files, file.Named :=
    empty ▸ fun file member => nomatch member
  unfold sources at listed
  split at listed
  case isFalse => exact vacuous (Except.ok.inj listed)
  case isTrue =>
    split at listed
    case isTrue => exact vacuous (Except.ok.inj listed)
    case isFalse =>
      split at listed
      · cases listed
      · exact named_of_sourcesAmong listed

/-- The entries of a directory leave a trace of its plain spelling only. -/
theorem sourcesAmong_eq_of_plain {directory other : String}
    (spelled : Path.plain directory = Path.plain other) (tree : FileTree) (extension : String)
    (location : Location) (entries : List (String × Entry)) :
    sourcesAmong tree extension directory location entries =
      sourcesAmong tree extension other location entries := by
  have walked : Path.walked directory = Path.walked other := by
    rw [Path.walked, Path.walked, spelled]
  induction entries with
  | nil => rfl
  | cons entry rest ih => rw [sourcesAmong, sourcesAmong, walked, spelled, ih]

/-- A directory is looked for under the spelling that is asked for and opened under the one that is
walked; it is one directory. -/
theorem sources_result (tree : FileTree) (extension directory : String) (order : Order) :
    (sources tree extension directory order).result =
      match tree.directory? directory with
      | some location =>
        if Path.plain directory = "-" then .ok []
        else (sourcesAmong tree extension directory location (order location)).result
      | none => .ok [] := by
  unfold sources
  rw [FileTree.isDirectory_eq_isSome]
  cases leads : tree.directory? directory with
  | none => rfl
  | some location =>
    have walked := FileTree.directory?_walked_of_some leads
    rw [(FileTree.directory?_eq_some_iff.mp walked).1]
    simp only [Option.isSome_some, if_true, Path.walked_eq_dash_iff]
    split <;> rfl

/-- Directories are listed one after the other, either all of them or none. -/
theorem allSources_result {tree : FileTree} {order : Order} {extension : String}
    {directories : List String} {files : List SourceFile} :
    (allSources tree extension directories order).result = .ok files ↔
      ∃ lists, List.Forall₂
        (fun directory list => (sources tree extension directory order).result = .ok list)
        directories lists ∧ files = lists.flatten := by
  induction directories generalizing files with
  | nil =>
    constructor
    · intro given
      cases given
      exact ⟨[], .nil, rfl⟩
    · rintro ⟨lists, listed, rfl⟩
      cases listed
      rfl
  | cons directory rest ih =>
    simp only [allSources, Traced.result_bind_eq_ok_iff, Traced.result_pure, ih]
    constructor
    · intro given
      obtain ⟨first, listed, _, ⟨lists, listedRest, rfl⟩, same⟩ := given
      cases same
      exact ⟨first :: lists, .cons listed listedRest, List.flatten_cons.symm⟩
    · rintro ⟨_, all, rfl⟩
      obtain ⟨first, lists, listed, listedRest, rfl⟩ := List.forall₂_cons_left_iff.mp all
      exact ⟨first, listed, lists.flatten, ⟨lists, listedRest, rfl⟩,
        congrArg _ List.flatten_cons.symm⟩

theorem allSources_pair {tree : FileTree} {order : Order} {extension first second : String}
    {files : List SourceFile} :
    (allSources tree extension [first, second] order).result = .ok files ↔
      ∃ left right, (sources tree extension first order).result = .ok left ∧
        (sources tree extension second order).result = .ok right ∧ files = left ++ right := by
  rw [allSources_result]
  constructor
  · rintro ⟨_, both, rfl⟩
    obtain ⟨left, _, listed, next, rfl⟩ := List.forall₂_cons_left_iff.mp both
    obtain ⟨right, _, listedNext, nothing, rfl⟩ := List.forall₂_cons_left_iff.mp next
    cases nothing
    exact ⟨left, right, listed, listedNext, by simp⟩
  · rintro ⟨left, right, listed, listedNext, rfl⟩
    exact ⟨[left, right], .cons listed (.cons listedNext .nil), by simp⟩

end Listing

end HdlClosure
