import HdlClosure.Proofs.Analysis.Spelling
import HdlClosure.Proofs.FileTree.WellFormed
import HdlClosure.Proofs.Listing
import HdlClosure.Proofs.Path.Inside
import HdlClosure.Proofs.Source

namespace HdlClosure

/-- A name leads from a directory to a file, through however many links. -/
def FileTree.LeadsToFile (tree : FileTree) (location : Location) (name : String) : Prop :=
  ∃ target content, tree.Leads location [name] target ∧ tree.entry? target = some (.file content)

namespace Listing

/-- A child of the directory that is a source: a file, once links are followed, whose name ends in a
dot and the extension. -/
structure IsSource (tree : FileTree) (extension : String) (location : Location) (name : String) :
    Prop where
  child : ∃ entry, (name, entry) ∈ tree.children location
  regular : tree.LeadsToFile location name
  extended : ∃ stem, name = stem ++ "." ++ extension

/-- A child that stops the listing of a directory: a link that cannot be looked up, or one that
leads back to the directory. -/
inductive Stops (tree : FileTree) (directory : String) (location : Location) :
    String × Entry → Prop where
  | unreachable {name text : String} {cause : AccessError}
    (refused : tree.resolve (Path.join (Path.walked directory) name) = .error cause) :
    Stops tree directory location (name, .link text)
  | loop {name text : String}
    (back : tree.resolve (Path.join (Path.walked directory) name) = .ok location) :
    Stops tree directory location (name, .link text)

/-- The files are those of the sources in the directory, one for each. -/
structure Contents (tree : FileTree) (extension directory : String) (location : Location)
    (names : List String) (files : List SourceFile) : Prop where
  once : names.Nodup
  sources : ∀ name, name ∈ names ↔ IsSource tree extension location name
  files : List.Forall₂
    (fun name file => file.path = Path.inside directory name ∧
      NamedFor extension name file.moduleName) names files

/-- What comes of listing the children of a directory: a failure if one of them stops the listing,
and exactly the sources among them if none does. -/
structure ListsChildren (tree : FileTree) (extension directory : String) (location : Location)
    (outcome : Except Failure (List SourceFile)) : Prop where
  stops : (∃ child ∈ tree.children location, Stops tree directory location child) →
    ∃ cause, outcome = .error (.listing cause)
  succeeds : (∀ child ∈ tree.children location, ¬Stops tree directory location child) →
    ∃ files, outcome = .ok files
  exact : ∀ files, outcome = .ok files →
    ∃ names, Contents tree extension directory location names files

/-- What comes of listing a directory. What is no directory holds nothing, and a directory whose
plain spelling is a lone dash lists nothing, whatever it holds. -/
structure ListsExactly (tree : FileTree) (extension directory : String)
    (outcome : Except Failure (List SourceFile)) : Prop where
  missing : tree.directory? directory = none → outcome = .ok []
  dash : Path.plain directory = "-" → outcome = .ok []
  walked : ∀ location, tree.directory? directory = some location → Path.plain directory ≠ "-" →
    ListsChildren tree extension directory location outcome

section Child

variable {tree : FileTree} {directory : String} {location : Location}

/-- A name is looked up in the directory by its path. -/
theorem leads_of_resolve_join {name : String} {place : Location}
    (leads : tree.directory? directory = some location) (entryName : Path.EntryName name)
    (resolved : tree.resolve (Path.join (Path.walked directory) name) = .ok place) :
    tree.Leads location [name] place := by
  obtain ⟨found, _⟩ := FileTree.directory?_eq_some_iff.mp leads
  obtain ⟨given, _⟩ := FileTree.walk_of_resolve found
  have walkedLeads := FileTree.directory?_walked_of_some leads
  have alike := Path.alike_walked given
  have above := FileTree.leads_of_resolve (FileTree.directory?_eq_some_iff.mp walkedLeads).1
  have whole := FileTree.leads_of_resolve resolved
  rw [FileTree.startOf, Path.isAbsolute_join alike.otherGiven,
    Path.moves_join alike.otherGiven entryName] at whole
  obtain ⟨middle, before, after⟩ := whole.split
  rwa [before.unique above] at after

/-- Where a name leads, there is a file unless there is a directory. -/
theorem leadsToFile_iff {name : String} {place : Location}
    (leads : tree.Leads location [name] place) (solid : tree.Solid place) :
    tree.LeadsToFile location name ↔ tree.isDirectoryAt place = false := by
  constructor
  · rintro ⟨target, content, also, file⟩
    rw [leads.unique also, FileTree.isDirectoryAt, file]
    rfl
  · intro other
    obtain ⟨content, file⟩ := solid.exists_content other
    exact ⟨place, content, leads, file⟩

theorem not_stops {name : String} {entry : Entry} (noLink : ∀ text, entry ≠ .link text) :
    ¬Stops tree directory location (name, entry) := by
  intro stops
  cases stops with
  | unreachable => exact noLink _ rfl
  | loop => exact noLink _ rfl

/-- What is found out about a child: that it stops the listing, or whether it is a file. -/
theorem isFile_child (wellFormed : tree.WellFormed)
    (leads : tree.directory? directory = some location) {name : String} {entry : Entry}
    (child : (name, entry) ∈ tree.children location) :
    (Stops tree directory location (name, entry) ∧
      ∃ cause, isFile tree (Path.walked directory) location name entry = .error cause) ∨
    (¬Stops tree directory location (name, entry) ∧
      ∃ regular, isFile tree (Path.walked directory) location name entry = .ok regular ∧
        (regular = true ↔ tree.LeadsToFile location name)) := by
  have present := FileTree.mem_children_iff.mp child
  have entryName := wellFormed.named present
  obtain ⟨_, there⟩ := FileTree.directory?_eq_some_iff.mp leads
  -- A child that is no link is found where it stands.
  have direct (noLink : ∀ text, entry ≠ .link text) :
      (!tree.isDirectoryAt (location ++ [name])) = true ↔ tree.LeadsToFile location name := by
    have inner := FileTree.Leads.into there entryName.toNamed present noLink (.here _)
    rw [leadsToFile_iff inner ⟨entry, present, noLink⟩, Bool.not_eq_true']
  cases entry with
  | file content =>
    have noLink (text : String) : Entry.file content ≠ .link text := by simp
    refine .inr ⟨not_stops noLink, _, ?_, direct noLink⟩
    rw [FileTree.isDirectoryAt, present]
    rfl
  | directory =>
    have noLink (text : String) : Entry.directory ≠ .link text := by simp
    refine .inr ⟨not_stops noLink, _, ?_, direct noLink⟩
    rw [FileTree.isDirectoryAt, present]
    rfl
  | link text =>
    cases resolved : tree.resolve (Path.join (Path.walked directory) name) with
    | error cause => exact .inl ⟨.unreachable resolved, _, by simp only [isFile, resolved]; rfl⟩
    | ok place =>
      have inner := leads_of_resolve_join leads entryName resolved
      have solid := wellFormed.solid_of_leads (FileTree.solid_of_isDirectoryAt there) inner
      by_cases back : place = location
      · subst back
        exact .inl ⟨.loop resolved, _, by simp only [isFile, resolved, there]; rfl⟩
      · refine .inr ⟨?_, !tree.isDirectoryAt place, ?_, ?_⟩
        · rintro (refused | loop)
          · rw [resolved] at refused
            cases refused
          · rw [resolved] at loop
            exact back (Except.ok.inj loop)
        · simp only [isFile, resolved, if_neg back]
          cases tree.isDirectoryAt place <;> rfl
        · rw [leadsToFile_iff inner solid, Bool.not_eq_true']

end Child

section Entries

variable {tree : FileTree} {directory name : String} {location : Location}

theorem hasExtension_iff {extension : String} :
    hasExtension extension name = true ↔ ∃ stem, name = stem ++ "." ++ extension := by
  rw [hasExtension, List.isSuffixOf_iff_suffix]
  constructor
  · rintro ⟨stem, split⟩
    exact ⟨String.ofList stem, String.toList_injective (by simp [← split])⟩
  · rintro ⟨stem, rfl⟩
    exact ⟨stem.toList, by simp⟩

/-- A file with the extension is listed, and nothing else: under its path in the directory, and with
the module that it is named for. -/
theorem source?_entry (language : Language) (entryName : Path.EntryName name)
    (directory : String) (regular : Bool) :
    ((source? language.extension (Path.plain directory) name regular).isSome = true ↔
      regular = true ∧ ∃ stem, name = stem ++ "." ++ language.extension) ∧
    ∀ file, source? language.extension (Path.plain directory) name regular = some file →
      file.path = Path.inside directory name ∧
      NamedFor language.extension name file.moduleName := by
  rw [source?, Path.join_plain, ← hasExtension_iff, ← Bool.and_eq_true_iff]
  split
  case isTrue extended =>
    obtain ⟨stem, rfl⟩ := hasExtension_iff.mp (Bool.and_eq_true_iff.mp extended).2
    obtain ⟨moduleName, made, named⟩ :=
      SourceFile.exists_ofPath? language entryName (Path.plain directory)
    rw [Path.join_plain] at made
    rw [made]
    refine ⟨⟨fun _ => extended, fun _ => rfl⟩, fun file same => ?_⟩
    cases same
    exact ⟨rfl, named⟩
  case isFalse other => exact ⟨⟨nofun, fun extended => absurd extended other⟩, nofun⟩

/-- The source that a child of the directory is listed as. -/
def listed? (tree : FileTree) (extension directory : String) (location : Location)
    (child : String × Entry) : Option SourceFile :=
  match isFile tree (Path.walked directory) location child.1 child.2 with
  | .ok regular => source? extension (Path.plain directory) child.1 regular
  | .error _ => none

theorem sourcesAmong_cons (tree : FileTree) (extension directory : String) (location : Location)
    (child : String × Entry) (rest : List (String × Entry)) :
    (sourcesAmong tree extension directory location (child :: rest)).result =
      match isFile tree (Path.walked directory) location child.1 child.2 with
      | .error cause => .error (.listing cause)
      | .ok _ => (sourcesAmong tree extension directory location rest).result.map
          ((listed? tree extension directory location child).toList ++ ·) := by
  obtain ⟨name, entry⟩ := child
  rw [sourcesAmong, listed?]
  cases isFile tree (Path.walked directory) location name entry with
  | error cause => rfl
  | ok regular =>
    dsimp only
    cases source? extension (Path.plain directory) name regular with
    | none =>
      cases (sourcesAmong tree extension directory location rest).result <;> rfl
    | some file =>
      simp only [Traced.result_bind, Traced.result_tell, Traced.result_pure]
      cases (sourcesAmong tree extension directory location rest).result <;> rfl

theorem sourcesAmong_listed {extension : String} {entries : List (String × Entry)}
    (found : ∀ child ∈ entries, ∃ regular,
      isFile tree (Path.walked directory) location child.1 child.2 = .ok regular) :
    (sourcesAmong tree extension directory location entries).result =
      .ok (entries.filterMap (listed? tree extension directory location)) := by
  induction entries with
  | nil => rfl
  | cons child rest ih =>
    obtain ⟨⟨regular, first⟩, others⟩ := List.forall_mem_cons.mp found
    rw [sourcesAmong_cons, first, ih others, List.filterMap_cons]
    cases listed? tree extension directory location child <;> rfl

theorem sourcesAmong_stopped {extension : String} {entries : List (String × Entry)}
    (stopped : ∃ child ∈ entries, ∃ cause,
      isFile tree (Path.walked directory) location child.1 child.2 = .error cause) :
    ∃ cause, (sourcesAmong tree extension directory location entries).result =
      .error (.listing cause) := by
  induction entries with
  | nil =>
    obtain ⟨child, member, _⟩ := stopped
    cases member
  | cons child rest ih =>
    rw [sourcesAmong_cons]
    cases first : isFile tree (Path.walked directory) location child.1 child.2 with
    | error cause => exact ⟨cause, rfl⟩
    | ok regular =>
      obtain ⟨other, member, cause, refused⟩ := stopped
      rcases List.mem_cons.mp member with rfl | member
      · rw [first] at refused
        cases refused
      · obtain ⟨cause, failed⟩ := ih ⟨other, member, cause, refused⟩
        exact ⟨cause, by rw [failed]; rfl⟩

end Entries

section Exact

theorem forall₂_filterMap {α β : Type} (map : α → Option β) (list : List α) :
    List.Forall₂ (fun item value => item ∈ list ∧ map item = some value)
      (list.filter fun item => (map item).isSome) (list.filterMap map) := by
  induction list with
  | nil => exact .nil
  | cons first rest ih =>
    have later := ih.imp fun {item value} (known : item ∈ rest ∧ map item = some value) =>
      And.intro (List.mem_cons_of_mem first known.1) known.2
    cases found : map first with
    | none => simpa [found] using later
    | some value => simpa [found] using later

variable {tree : FileTree} {directory : String} {location : Location}

/-- A child that does not stop the listing is listed if it is a source. -/
theorem listed?_child (language : Language) (wellFormed : tree.WellFormed)
    (leads : tree.directory? directory = some location) {name : String} {entry : Entry}
    (member : (name, entry) ∈ tree.children location)
    (goesOn : ¬Stops tree directory location (name, entry)) :
    ((listed? tree language.extension directory location (name, entry)).isSome = true ↔
      IsSource tree language.extension location name) ∧
    ∀ file, listed? tree language.extension directory location (name, entry) = some file →
      file.path = Path.inside directory name ∧
      NamedFor language.extension name file.moduleName := by
  have entryName := wellFormed.named (FileTree.mem_children_iff.mp member)
  obtain ⟨_, regular, found, regular_iff⟩ :=
    (isFile_child wellFormed leads member).resolve_left fun stopped => goesOn stopped.1
  obtain ⟨taken, told⟩ := source?_entry language entryName directory regular
  have same : listed? tree language.extension directory location (name, entry) =
      source? language.extension (Path.plain directory) name regular := by
    rw [listed?, found]
  rw [same, taken, regular_iff]
  refine ⟨⟨fun is => ⟨⟨entry, member⟩, is.1, is.2⟩, fun source => ?_⟩, told⟩
  exact ⟨source.regular, source.extended⟩

/-- When no child stops the listing, the sources among the children are listed, one after the
other. -/
theorem contents_of_perm (language : Language) (wellFormed : tree.WellFormed)
    (leads : tree.directory? directory = some location) {entries : List (String × Entry)}
    (perm : entries.Perm (tree.children location))
    (goesOn : ∀ child ∈ tree.children location, ¬Stops tree directory location child) :
    ∃ names, Contents tree language.extension directory location names
      (entries.filterMap (listed? tree language.extension directory location)) := by
  have listed {name : String} {entry : Entry} (member : (name, entry) ∈ entries) :=
    listed?_child language wellFormed leads (perm.mem_iff.mp member)
      (goesOn _ (perm.mem_iff.mp member))
  refine ⟨(entries.filter fun child =>
    (listed? tree language.extension directory location child).isSome).map Prod.fst, ?_, ?_, ?_⟩
  -- No two children have one name, in whatever order they come.
  · have distinct := (perm.map Prod.fst).nodup_iff.mpr (FileTree.nodup_children tree location)
    exact distinct.sublist (List.filter_sublist.map Prod.fst)
  · intro name
    rw [List.mem_map]
    constructor
    · rintro ⟨⟨name, entry⟩, member, rfl⟩
      obtain ⟨member, some⟩ := List.mem_filter.mp member
      exact (listed member).1.mp some
    · intro source
      obtain ⟨entry, member⟩ := source.child
      have given := perm.mem_iff.mpr member
      exact ⟨(name, entry), List.mem_filter.mpr ⟨given, (listed given).1.mpr source⟩, rfl⟩
  · rw [List.forall₂_map_left_iff]
    refine (forall₂_filterMap _ entries).imp ?_
    rintro ⟨name, entry⟩ file ⟨member, found⟩
    exact (listed member).2 file found

theorem listsChildren_of_perm (language : Language) (wellFormed : tree.WellFormed)
    (leads : tree.directory? directory = some location) {entries : List (String × Entry)}
    (perm : entries.Perm (tree.children location)) :
    ListsChildren tree language.extension directory location
      (sourcesAmong tree language.extension directory location entries).result := by
  have stopped (stops : ∃ child ∈ tree.children location, Stops tree directory location child) :
      ∃ cause, (sourcesAmong tree language.extension directory location
        entries).result = .error (.listing cause) := by
    obtain ⟨child, member, stops⟩ := stops
    obtain ⟨_, refused⟩ :=
      (isFile_child wellFormed leads member).resolve_right fun goesOn => goesOn.1 stops
    exact sourcesAmong_stopped ⟨child, perm.mem_iff.mpr member, refused⟩
  have listed (goesOn : ∀ child ∈ tree.children location, ¬Stops tree directory location child) :
      (sourcesAmong tree language.extension directory location entries).result =
        .ok (entries.filterMap (listed? tree language.extension directory location)) := by
    refine sourcesAmong_listed fun child member => ?_
    have given := perm.mem_iff.mp member
    obtain ⟨_, regular, found, _⟩ :=
      (isFile_child wellFormed leads given).resolve_left fun stops => goesOn child given stops.1
    exact ⟨regular, found⟩
  refine ⟨stopped, fun goesOn => ⟨_, listed goesOn⟩, fun files succeeds => ?_⟩
  have goesOn : ∀ child ∈ tree.children location, ¬Stops tree directory location child := by
    intro child member stops
    obtain ⟨cause, failed⟩ := stopped ⟨child, member, stops⟩
    rw [succeeds] at failed
    cases failed
  rw [listed goesOn] at succeeds
  cases succeeds
  exact contents_of_perm language wellFormed leads perm goesOn

theorem listsExactly_sources (wellFormed : tree.WellFormed) {order : Order}
    (once : ∀ location, (order location).Perm (tree.children location)) (language : Language)
    (directory : String) :
    ListsExactly tree language.extension directory
      (sources tree language.extension directory order).result := by
  rw [sources_result]
  constructor
  case missing =>
    intro missing
    rw [missing]
  case dash =>
    intro dash
    cases tree.directory? directory with
    | none => rfl
    | some location => exact if_pos dash
  case walked =>
    intro location leads other
    rw [leads]
    dsimp only
    rw [if_neg other]
    exact listsChildren_of_perm language wellFormed leads (once location)

/-- The listing of a directory is exact, in whatever order its children come, and the listings of
several directories stand one after the other. -/
theorem sources_exact (wellFormed : tree.WellFormed) {order : Order}
    (once : ∀ location, (order location).Perm (tree.children location)) (language : Language) :
    (∀ directory, ListsExactly tree language.extension directory
      (sources tree language.extension directory order).result) ∧
    ∀ directories files, (allSources tree language.extension directories order).result = .ok files ↔
      ∃ lists, List.Forall₂
        (fun directory list => (sources tree language.extension directory order).result = .ok list)
        directories lists ∧ files = lists.flatten :=
  ⟨listsExactly_sources wellFormed once language, fun _ _ => allSources_result⟩

/-- A library behind a link, a name with two dots, one that is nothing but the extension, and others
that only look like sources. -/
def shelf : FileTree where
  entries := Std.TreeMap.ofList [
    (["lib"], Entry.directory),
    (["lib", "Adder.v"], .file "".toUTF8),
    (["rtl"], .directory),
    (["rtl", ".v"], .file "".toUTF8),
    (["rtl", "My.Core.v"], .file "".toUTF8),
    (["rtl", "alias.v"], .link "../lib/Adder.v"),
    (["rtl", "deep.v"], .directory),
    (["rtl", "deep.v", "inner.v"], .file "".toUTF8),
    (["rtl", "shelf.v"], .link "deep.v"),
    (["rtl", "top.V"], .file "".toUTF8)]

/-- Read backwards, the directory lists the same three sources. -/
theorem sources_shelf :
    let files : List SourceFile :=
      [⟨"rtl/alias.v", "alias"⟩, ⟨"rtl/My.Core.v", "my.core"⟩, ⟨"rtl/.v", ".v"⟩]
    let order : Order := fun location => (shelf.children location).reverse
    shelf.WellFormed ∧ (∀ location, (order location).Perm (shelf.children location)) ∧
      (sources shelf "v" "./rtl//" order).result = .ok files ∧
      ∃ names, Contents shelf "v" "./rtl//" ["rtl"] names files := by
  intro files order
  have wellFormed : shelf.WellFormed := by decide +kernel
  have once (location : Location) : (order location).Perm (shelf.children location) :=
    List.reverse_perm _
  have listed : (sources shelf "v" "./rtl//" order).result = .ok files := by decide +kernel
  have exactly := (sources_exact wellFormed once .verilog).1 "./rtl//"
  have walked := exactly.walked ["rtl"] (by decide +kernel) (by decide +kernel)
  exact ⟨wellFormed, once, listed, walked.exact files listed⟩

/-- A directory whose plain spelling is a lone dash lists nothing, although it holds a source. -/
theorem sources_dash :
    let tree : FileTree :=
      { entries := .ofList [(["-"], Entry.directory), (["-", "a.v"], .file "".toUTF8)] }
    tree.WellFormed ∧ tree.directory? "./-" = some ["-"] ∧ IsSource tree "v" ["-"] "a.v" ∧
      (∀ order, (sources tree "v" "./-" order).result = .ok []) ∧
      ¬∃ names, Contents tree "v" "./-" ["-"] names [] := by
  intro tree
  have present : tree.entry? (["-"] ++ ["a.v"]) = some (.file "".toUTF8) := by decide +kernel
  have leads : tree.Leads ["-"] ["a.v"] ["-", "a.v"] :=
    .into (by decide +kernel) ⟨by decide, by decide⟩ present nofun (.here _)
  have source : IsSource tree "v" ["-"] "a.v" :=
    ⟨⟨_, FileTree.mem_children_iff.mpr present⟩, ⟨_, _, leads, present⟩, "a", by decide⟩
  have found : tree.directory? "./-" = some ["-"] := by decide +kernel
  have dash : Path.plain "./-" = "-" := by decide +kernel
  refine ⟨by decide +kernel, found, source, fun order => ?_, ?_⟩
  · rw [sources_result, found]
    exact if_pos dash
  rintro ⟨names, contents⟩
  have member := (contents.sources "a.v").mpr source
  rw [List.forall₂_nil_right_iff.mp contents.files] at member
  cases member

end Exact

end Listing

end HdlClosure
