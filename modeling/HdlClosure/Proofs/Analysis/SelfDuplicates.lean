import HdlClosure.Proofs.Analysis.Closure
import HdlClosure.Proofs.Listing.Contents
import HdlClosure.Proofs.ModuleGraph.Objection
import HdlClosure.Proofs.ModuleGraph.Shadowing

/-! Whether a file counts as its own duplicate. It does not where the plain spellings of the two
directories differ, since no path is listed twice; where they are the same, every file is listed
twice, and is its own duplicate if it alone has its name. -/
namespace HdlClosure

/-- No two of the files have one path. -/
def Apart (files : List SourceFile) : Prop :=
  (files.map fun file => Path.components file.path).Nodup

section Graph

variable {policy : DuplicatePolicy} {dialect : Dialect} {tree : FileTree} {files : List SourceFile}

/-- A duplicate is of two declarations, one after the other. -/
theorem apart_of_mem_shadowings {declarations : List Declaration}
    (distinct : (declarations.map fun declaration => Path.components declaration.path).Nodup) :
    ∀ duplicate ∈ shadowings [] declarations,
      Path.components duplicate.kept ≠ Path.components duplicate.shadowed := by
  induction declarations using List.reverseRecOn with
  | nil => exact nofun
  | append_singleton declarations last ih =>
    rw [List.map_append] at distinct
    obtain ⟨before, _, apart⟩ := List.nodup_append.mp distinct
    intro duplicate member
    rw [shadowings_concat, List.mem_append] at member
    rcases member with member | member
    · exact ih before duplicate member
    · obtain ⟨earlier, found, rfl⟩ := Option.map_eq_some_iff.mp (Option.mem_toList.mp member)
      have listed := List.mem_map_of_mem (f := fun declaration : Declaration =>
        Path.components declaration.path) (mem_of_lastNamed? found)
      exact (apart _ listed _ List.mem_cons_self).symm

/-- What stops the making of a graph is the refusal of one of the files. -/
theorem exists_refused {failure : Failure}
    (stopped : (ModuleGraph.ofFiles policy dialect tree files).result = .error failure) :
    ∃ position, Refused policy tree files position failure := by
  have objected : ∃ position, Objection policy tree files position := by
    by_contra clear
    obtain ⟨graph, made, _⟩ := ModuleGraph.ofFiles_unobjected dialect (not_exists.mp clear)
    cases stopped.symm.trans made
  classical
  obtain ⟨refusal, refused, failed⟩ := ModuleGraph.ofFiles_refused dialect
    (Nat.find_spec objected) fun _ => Nat.find_min objected
  cases stopped.symm.trans failed
  exact ⟨_, refused⟩

theorem apart_of_refused {position : Nat} {name first second : String} (apart : Apart files)
    (refused : Refused policy tree files position (.duplicateModule name first second)) :
    Path.components first ≠ Path.components second := by
  cases refused with
  | @repeated file earlier present _ single =>
    obtain ⟨inside, rfl⟩ := List.getElem?_eq_some_iff.mp present
    have before : earlier ∈ files.take position :=
      List.mem_of_mem_filter (single ▸ List.mem_singleton_self earlier)
    rw [Apart, ← List.take_append_drop position files, List.drop_eq_getElem_cons inside,
      List.map_append, List.map_cons] at apart
    exact (List.nodup_append.mp apart).2.2 _ (List.mem_map_of_mem before) _ List.mem_cons_self

end Graph

namespace Listing

variable {tree : FileTree} {directory : String} {files : List SourceFile}

section Sources

variable {order : Order} (wellFormed : tree.WellFormed)
  (once : ∀ location, (order location).Perm (tree.children location)) {language : Language}

include wellFormed once

/-- The paths that a directory lists are those of different names in it. -/
theorem exists_names_of_sources
    (listed : (sources tree language.extension directory order).result = .ok files) :
    ∃ names : List String, names.Nodup ∧ (∀ name ∈ names, Path.EntryName name) ∧
      files.map (·.path) = names.map (Path.inside directory) := by
  have exactly := listsExactly_sources wellFormed once language directory
  have nothing (empty : (sources tree language.extension directory order).result = .ok []) :
      ∃ names : List String, names.Nodup ∧ (∀ name ∈ names, Path.EntryName name) ∧
        files.map (·.path) = names.map (Path.inside directory) := by
    cases listed.symm.trans empty
    exact ⟨[], List.nodup_nil, nofun, rfl⟩
  cases leads : tree.directory? directory with
  | none => exact nothing (exactly.missing leads)
  | some location =>
    by_cases dash : Path.plain directory = "-"
    · exact nothing (exactly.dash dash)
    obtain ⟨names, contents⟩ := (exactly.walked location leads dash).exact files listed
    refine ⟨names, contents.once, fun name member => ?_, ?_⟩
    · obtain ⟨entry, child⟩ := ((contents.sources name).mp member).child
      exact wellFormed.named (FileTree.mem_children_iff.mp child)
    · rw [← List.forall₂_eq_eq_eq, List.forall₂_map_left_iff, List.forall₂_map_right_iff]
      exact contents.files.flip.imp fun _ _ named => named.1

theorem apart_of_sources
    (listed : (sources tree language.extension directory order).result = .ok files) :
    Apart files := by
  obtain ⟨names, distinct, named, paths⟩ := exists_names_of_sources wellFormed once listed
  have places := congrArg (List.map Path.components) paths
  rw [List.map_map, List.map_map] at places
  refine (congrArg List.Nodup places).mpr ((List.nodup_map_iff_inj_on distinct).mpr ?_)
  intro name member other also same
  exact (Path.eq_of_components_inside (named name member) (named other also) same).2

theorem exists_inside_of_sources
    (listed : (sources tree language.extension directory order).result = .ok files) {place}
    (member : place ∈ files.map fun file => Path.components file.path) :
    ∃ name, Path.EntryName name ∧ place = Path.components (Path.inside directory name) := by
  obtain ⟨names, _, named, paths⟩ := exists_names_of_sources wellFormed once listed
  obtain ⟨file, among, rfl⟩ := List.mem_map.mp member
  have path := paths ▸ List.mem_map_of_mem (f := SourceFile.path) among
  obtain ⟨name, given, same⟩ := List.mem_map.mp path
  exact ⟨name, named name given, congrArg Path.components same.symm⟩

/-- Directories with different plain spellings list no path twice. -/
theorem apart_append {other : String} {more : List SourceFile}
    (spelled : Path.plain directory ≠ Path.plain other)
    (listed : (sources tree language.extension directory order).result = .ok files)
    (also : (sources tree language.extension other order).result = .ok more) :
    Apart (files ++ more) := by
  rw [Apart, List.map_append, List.nodup_append]
  refine ⟨apart_of_sources wellFormed once listed, apart_of_sources wellFormed once also, ?_⟩
  rintro place member _ among rfl
  obtain ⟨name, entryName, rfl⟩ := exists_inside_of_sources wellFormed once listed member
  obtain ⟨_, otherName, same⟩ := exists_inside_of_sources wellFormed once also among
  exact spelled (Path.eq_of_components_inside entryName otherName same).1

/-- Only an entry of the directory can make its listing fail. -/
theorem listing_of_sources_error {failure : Failure}
    (failed : (sources tree language.extension directory order).result = .error failure) :
    ∃ cause, failure = .listing cause := by
  have exactly := listsExactly_sources wellFormed once language directory
  cases leads : tree.directory? directory with
  | none => cases failed.symm.trans (exactly.missing leads)
  | some location =>
    by_cases dash : Path.plain directory = "-"
    · cases failed.symm.trans (exactly.dash dash)
    have children := exactly.walked location leads dash
    by_cases stops : ∃ child ∈ tree.children location, Stops tree directory location child
    · obtain ⟨cause, stopped⟩ := children.stops stops
      cases failed.symm.trans stopped
      exact ⟨cause, rfl⟩
    · push Not at stops
      obtain ⟨files, listed⟩ := children.succeeds stops
      cases failed.symm.trans listed

end Sources

theorem sources_eq_of_plain {other : String} (spelled : Path.plain directory = Path.plain other)
    (there : tree.directory? directory ≠ none) (also : tree.directory? other ≠ none)
    (extension : String) (order : Order) :
    (sources tree extension directory order).result =
      (sources tree extension other order).result := by
  have walks {path : String} (found : tree.directory? path ≠ none) :
      tree.directory? path = tree.directory? (Path.walked path) := by
    obtain ⟨location, leads⟩ := Option.ne_none_iff_exists'.mp found
    rw [leads, FileTree.directory?_walked_of_some leads]
  have one : tree.directory? directory = tree.directory? other := by
    rw [walks there, walks also, Path.walked, Path.walked, spelled]
  simp only [sources_result, one, spelled, sourcesAmong_eq_of_plain spelled]

end Listing

namespace Settings

variable {settings : Settings} {tree : FileTree} {order : Listing.Order}

theorem exists_files_of_run {analysis : Analysis}
    (ran : (settings.run tree order).result = .ok analysis) :
    ∃ hdl sim,
      (Listing.sources tree settings.language.extension settings.hdlDir order).result = .ok hdl ∧
      (Listing.sources tree settings.language.extension settings.simDir order).result = .ok sim ∧
      analysis.duplicates =
        shadowings [] (Gathering.declarationsOf settings.dialect tree (hdl ++ sim)) := by
  obtain ⟨graph, made, analyzed⟩ := Traced.result_bind_eq_ok_iff.mp ran
  obtain ⟨files, listed, _, rfl⟩ := graph_result.mp made
  obtain ⟨hdl, sim, hdlListed, simListed, rfl⟩ := Listing.allSources_pair.mp listed
  refine ⟨hdl, sim, hdlListed, simListed, ?_⟩
  rw [(analyze_result_eq_ok_iff.mp analyzed).2]
  exact ModuleGraph.duplicates_assembled _ _ _

/-- A run complains of a name only where the files in both directories make no graph. -/
theorem exists_files_of_duplicateModule (wellFormed : tree.WellFormed)
    (once : ∀ location, (order location).Perm (tree.children location))
    {name first second : String}
    (stopped : (settings.run tree order).result = .error (.duplicateModule name first second)) :
    ∃ hdl sim,
      (Listing.sources tree settings.language.extension settings.hdlDir order).result = .ok hdl ∧
      (Listing.sources tree settings.language.extension settings.simDir order).result = .ok sim ∧
      (ModuleGraph.ofFiles settings.duplicates settings.dialect tree (hdl ++ sim)).result =
        .error (.duplicateModule name first second) := by
  rw [run_result_eq] at stopped
  cases hdlListed :
      (Listing.sources tree settings.language.extension settings.hdlDir order).result with
  | error failure =>
    obtain ⟨cause, rfl⟩ := Listing.listing_of_sources_error wellFormed once hdlListed
    rw [hdlListed] at stopped
    cases stopped
  | ok hdl =>
  cases simListed :
      (Listing.sources tree settings.language.extension settings.simDir order).result with
  | error failure =>
    obtain ⟨cause, rfl⟩ := Listing.listing_of_sources_error wellFormed once simListed
    rw [hdlListed, simListed] at stopped
    cases stopped
  | ok sim =>
  rw [hdlListed, simListed] at stopped
  simp only [Except.bind] at stopped
  refine ⟨hdl, sim, rfl, rfl, ?_⟩
  split at stopped
  case h_1 failure made =>
    cases stopped
    exact made
  case h_2 graph made =>
    rw [analyze_result] at stopped
    split at stopped <;> cases stopped

/-- A file that alone has its name among those of a directory is a duplicate of itself when the
directory is listed twice. -/
theorem self_mem_shadowings {files : List SourceFile} {file : SourceFile} (apart : Apart files)
    (member : file ∈ files)
    (alone : ∀ other ∈ files, other.moduleName = file.moduleName → other = file)
    (dialect : Dialect) (tree : FileTree) :
    { name := file.moduleName, kept := file.path, shadowed := file.path : Duplicate } ∈
      shadowings [] (Gathering.declarationsOf dialect tree (files ++ files)) := by
  have single : files.filter (·.moduleName == file.moduleName) = [file] := by
    have only : files.filter (·.moduleName == file.moduleName) = files.filter (· == file) :=
      List.filter_congr fun other among => by
        rw [Bool.eq_iff_iff, beq_iff_eq, beq_iff_eq]
        exact ⟨alone other among, congrArg SourceFile.moduleName⟩
    rw [only, List.filter_beq, List.count_eq_one_of_mem apart.of_map member]
    rfl
  have twice : (files ++ files).filter (·.moduleName == file.moduleName) = [file, file] := by
    rw [List.filter_append, single]
    rfl
  have paths : ((Gathering.declarationsOf dialect tree (files ++ files)).filter
      (·.name == file.moduleName)).map (·.path) = [file.path, file.path] := by
    rw [Gathering.declarationsOf, List.filter_map, List.map_map]
    exact congrArg (List.map SourceFile.path) twice
  have told : { name := file.moduleName, kept := file.path, shadowed := file.path : Duplicate } ∈
      replacements file.moduleName [file.path, file.path] := List.mem_singleton_self _
  rw [← paths, ← filter_shadowings] at told
  exact List.mem_of_mem_filter told

/-- Where the plain spellings of the directories differ, a duplicate is always one of two files,
whether it is recorded or stops the run. Where they are the same, and the directories are there, a
file is a duplicate of itself if it alone has its name. -/
theorem duplicates_apart {tree : FileTree} (wellFormed : tree.WellFormed) {order : Listing.Order}
    (once : ∀ location, (order location).Perm (tree.children location)) (settings : Settings) :
    (Path.plain settings.hdlDir ≠ Path.plain settings.simDir →
      (∀ analysis, (settings.run tree order).result = .ok analysis →
        ∀ duplicate ∈ analysis.duplicates,
          Path.components duplicate.kept ≠ Path.components duplicate.shadowed) ∧
      ∀ name first second,
        (settings.run tree order).result = .error (.duplicateModule name first second) →
          Path.components first ≠ Path.components second) ∧
    (Path.plain settings.hdlDir = Path.plain settings.simDir →
      tree.directory? settings.hdlDir ≠ none → tree.directory? settings.simDir ≠ none →
      ∀ files analysis,
        (Listing.sources tree settings.language.extension settings.hdlDir order).result =
          .ok files →
        (settings.run tree order).result = .ok analysis →
          ∀ file ∈ files, (∀ other ∈ files, other.moduleName = file.moduleName → other = file) →
            ⟨file.moduleName, file.path, file.path⟩ ∈ analysis.duplicates) := by
  refine ⟨fun spelled => ⟨fun analysis ran => ?_, fun name first second stopped => ?_⟩, ?_⟩
  · obtain ⟨hdl, sim, hdlListed, simListed, recorded⟩ := exists_files_of_run ran
    rw [recorded]
    apply apart_of_mem_shadowings
    have apart := Listing.apart_append wellFormed once spelled hdlListed simListed
    rwa [Gathering.declarationsOf, List.map_map]
  · obtain ⟨hdl, sim, hdlListed, simListed, refusal⟩ :=
      exists_files_of_duplicateModule wellFormed once stopped
    obtain ⟨position, refused⟩ := exists_refused refusal
    exact apart_of_refused
      (Listing.apart_append wellFormed once spelled hdlListed simListed) refused
  · intro spelled there also files analysis listed ran file member alone
    obtain ⟨hdl, sim, hdlListed, simListed, recorded⟩ := exists_files_of_run ran
    have same :=
      Listing.sources_eq_of_plain spelled there also settings.language.extension order
    -- Both listings are the same list, so that every file is met twice.
    cases listed.symm.trans hdlListed
    cases listed.symm.trans (same.trans simListed)
    rw [recorded]
    exact self_mem_shadowings (Listing.apart_of_sources wellFormed once listed) member alone _ _

/-- The clock of one directory replaces that of the other. -/
theorem duplicates_apart_clocks :
    let settings : Settings :=
      { language := .verilog, testbenches := ["bench"], hdlDir := "hdl", simDir := "sim" }
    ∃ analysis, (settings.run .clocks).result = .ok analysis ∧
      ∃ duplicate ∈ analysis.duplicates, duplicate.name = "clock" ∧
        Path.components duplicate.kept ≠ Path.components duplicate.shadowed := by
  intro settings
  obtain ⟨analysis, ran⟩ : ∃ analysis, (settings.run .clocks).result = .ok analysis :=
    run_clocks_succeeds (by decide)
  have wellFormed : FileTree.clocks.WellFormed := by decide +kernel
  have spelled : Path.plain "hdl" ≠ Path.plain "sim" := by decide +kernel
  have once (location : Location) := List.Perm.refl (FileTree.clocks.children location)
  have apart := ((duplicates_apart wellFormed once settings).1 spelled).1 analysis ran
  obtain ⟨hdlListed, simListed⟩ := Listing.sources_clocks
  obtain ⟨hdl, sim, hdlAgain, simAgain, recorded⟩ := exists_files_of_run ran
  cases hdlListed.symm.trans hdlAgain
  cases simListed.symm.trans simAgain
  have clock : ⟨"clock", "sim/clock.v", "hdl/clock.v"⟩ ∈ analysis.duplicates := by
    rw [recorded]
    exact List.mem_singleton_self _
  exact ⟨analysis, ran, _, clock, rfl, apart _ clock⟩

/-- A lone file is its own duplicate when its directory is given for both kinds of sources, and under
the strict policy it stops the run. -/
theorem duplicates_same_directory :
    let settings : Settings :=
      { language := .verilog, testbenches := ["a"], hdlDir := "hdl", simDir := "hdl" }
    let tree : FileTree :=
      { entries := .ofList [(["hdl"], Entry.directory), (["hdl", "a.v"], .file "".toUTF8)] }
    tree.WellFormed ∧
      (¬∀ analysis, (settings.run tree).result = .ok analysis →
        ∀ duplicate ∈ analysis.duplicates,
          Path.components duplicate.kept ≠ Path.components duplicate.shadowed) ∧
      ¬∀ name first second,
        ({ settings with duplicates := .error }.run tree).result =
          .error (.duplicateModule name first second) →
            Path.components first ≠ Path.components second := by
  intro settings tree
  have listed : (Listing.sources tree "v" "hdl").result = .ok [⟨"hdl/a.v", "a"⟩] := by
    decide +kernel
  refine ⟨by decide +kernel, fun apart => ?_, fun apart => ?_⟩
  · let files : List SourceFile := [⟨"hdl/a.v", "a"⟩, ⟨"hdl/a.v", "a"⟩]
    have readable : ∀ file ∈ files, tree.Readable file.path := by
      have text : tree.readText "hdl/a.v" = .ok "" :=
        FileTree.readText_of_file ["hdl", "a.v"] "" (by decide +kernel) (by decide +kernel)
      simpa [files] using ⟨"", text⟩
    have needed : settings.Needs tree files "a" := ⟨"a", by decide, .refl⟩
    have file : definer? files "a" = some "hdl/a.v" := by decide +kernel
    obtain ⟨analysis, ran⟩ : ∃ analysis, (settings.run tree).result = .ok analysis :=
      run_succeeds listed listed (by decide) readable needed file
    obtain ⟨hdl, sim, hdlAgain, simAgain, recorded⟩ := exists_files_of_run ran
    cases listed.symm.trans hdlAgain
    cases listed.symm.trans simAgain
    have own : ⟨"a", "hdl/a.v", "hdl/a.v"⟩ ∈ analysis.duplicates := by
      rw [recorded]
      exact List.mem_singleton_self _
    exact apart analysis ran _ own rfl
  · have stopped : ({ settings with duplicates := .error }.run tree).result.map (fun _ => ()) =
        .error (.duplicateModule "a" "hdl/a.v" "hdl/a.v") := by decide +kernel
    cases ran : ({ settings with duplicates := .error }.run tree).result with
    | ok analysis =>
      rw [ran] at stopped
      cases stopped
    | error failure =>
      rw [ran] at stopped
      cases stopped
      exact apart _ _ _ ran rfl

end Settings

end HdlClosure
