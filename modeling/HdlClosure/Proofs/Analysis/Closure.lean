import HdlClosure.Proofs.Analysis.Definers

namespace HdlClosure

/-- A chain of uses leads from some testbench to the module. -/
def Settings.Needs (settings : Settings) (tree : FileTree) (files : List SourceFile)
    (name : String) : Prop :=
  ∃ testbench ∈ settings.testbenches,
    Relation.ReflTransGen (Uses settings.dialect tree files) testbench name

/-- An analysis that says which modules are needed, in which files they are, and which of them are
in none. Both lists ascend strictly, byte by byte. -/
structure Analysis.Lists (analysis : Analysis) (needed : String → Prop)
    (file? : String → Option String) : Prop where
  reachable : ∀ name, name ∈ analysis.reachable ↔ needed name
  files_ascend : analysis.files.Pairwise Text.Before
  files : ∀ path, path ∈ analysis.files ↔ ∃ name, needed name ∧ file? name = some path
  unresolved_ascend : analysis.unresolved.Pairwise Text.Before
  unresolved : ∀ name, name ∈ analysis.unresolved ↔ needed name ∧ file? name = none

section Assembled

variable {settings : Settings} {tree : FileTree} {files : List SourceFile}
  (named : ∀ file ∈ files, file.Named)

include named

theorem Settings.mem_reach_iff_needs {name : String} :
    name ∈ (ModuleGraph.assembled settings.dialect tree files).reach settings.testbenches ↔
      settings.Needs tree files name := by
  rw [ModuleGraph.mem_reach_iff (ModuleGraph.complete_assembled _ tree files),
    reaches_eq_uses named, Needs]

theorem Settings.mem_filesFor_iff_needs {path : String} :
    path ∈ (ModuleGraph.assembled settings.dialect tree files).filesFor
        ((ModuleGraph.assembled settings.dialect tree files).reach settings.testbenches) ↔
      ∃ name, settings.Needs tree files name ∧ definer? files name = some path := by
  rw [ModuleGraph.mem_filesFor, definer?_eq_fileFor? named settings.dialect tree]
  simp only [mem_reach_iff_needs named]

theorem Settings.found_lists : Analysis.Lists
    (settings.found (ModuleGraph.assembled settings.dialect tree files))
    (settings.Needs tree files) (definer? files) where
  reachable _ := mem_reach_iff_needs named
  files_ascend := by
    apply ModuleGraph.pairwise_before_filesFor
    intro first second path
    rw [← definer?_eq_fileFor? named settings.dialect tree]
    exact definer?_injective
  files _ := mem_filesFor_iff_needs named
  unresolved_ascend := (Text.pairwise_before_toList _).filter _
  unresolved name := by
    rw [mem_unresolved, mem_reach_iff_needs named,
      definer?_eq_fileFor? named settings.dialect tree]

end Assembled

section Listed

variable {settings : Settings} {tree : FileTree} {order : Listing.Order}
  {hdl sim : List SourceFile}
  (hdlListed : (Listing.sources tree settings.language.extension settings.hdlDir order).result =
    .ok hdl)
  (simListed : (Listing.sources tree settings.language.extension settings.simDir order).result =
    .ok sim)

include hdlListed simListed

theorem Settings.named_of_listed : ∀ file ∈ hdl ++ sim, file.Named := by
  intro file member
  rcases List.mem_append.mp member with first | second
  · exact Listing.named_of_sources hdlListed file first
  · exact Listing.named_of_sources simListed file second

theorem Settings.graph_of_listed (lenient : settings.duplicates ≠ .error)
    (readable : ∀ file ∈ hdl ++ sim, tree.Readable file.path) :
    (settings.graph tree order).result =
      .ok (ModuleGraph.assembled settings.dialect tree (hdl ++ sim)) :=
  graph_result.mpr ⟨_, Listing.allSources_pair.mpr ⟨hdl, sim, hdlListed, simListed, rfl⟩,
    ⟨readable, fun strict => absurd strict lenient⟩, rfl⟩

/-- One needed module with a file is enough. -/
theorem Settings.run_succeeds (lenient : settings.duplicates ≠ .error)
    (readable : ∀ file ∈ hdl ++ sim, tree.Readable file.path) {name path : String}
    (needed : settings.Needs tree (hdl ++ sim) name)
    (file : definer? (hdl ++ sim) name = some path) :
    ∃ analysis, (settings.run tree order).result = .ok analysis := by
  have named := named_of_listed hdlListed simListed
  have member := (mem_filesFor_iff_needs named).mpr ⟨name, needed, file⟩
  rw [run_result (graph_of_listed hdlListed simListed lenient readable)]
  exact ⟨_, analyze_result_eq_ok_iff.mpr ⟨List.ne_nil_of_mem member, rfl⟩⟩

end Listed

/-- When both directories can be listed and all listed files can be read, a run that tolerates
duplicates succeeds exactly when some needed module has a file. It lists what is needed, or fails
for want of sources. Of two files with one name the one that is listed last defines it, in whatever
order the directories list their entries. -/
theorem Settings.run_closure (settings : Settings) (tree : FileTree) (order : Listing.Order)
    {hdl sim : List SourceFile} (lenient : settings.duplicates ≠ .error)
    (hdlListed : (Listing.sources tree settings.language.extension settings.hdlDir order).result =
      .ok hdl)
    (simListed : (Listing.sources tree settings.language.extension settings.simDir order).result =
      .ok sim)
    (readable : ∀ file ∈ hdl ++ sim, tree.Readable file.path) :
    ((∃ analysis, (settings.run tree order).result = .ok analysis) ↔
      ∃ name path, settings.Needs tree (hdl ++ sim) name ∧
        definer? (hdl ++ sim) name = some path) ∧
    (∀ analysis, (settings.run tree order).result = .ok analysis →
      analysis.Lists (settings.Needs tree (hdl ++ sim)) (definer? (hdl ++ sim))) ∧
    ∀ failure, (settings.run tree order).result = .error failure →
      failure = .noSources settings.testbenches settings.hdlDir settings.simDir := by
  have named := named_of_listed hdlListed simListed
  have ran := run_result (graph_of_listed hdlListed simListed lenient readable)
  refine ⟨⟨?_, ?_⟩, ?_, ?_⟩
  · intro given
    obtain ⟨analysis, found⟩ := given
    rw [ran] at found
    -- A run succeeds with some file, and each of its files defines a needed module.
    obtain ⟨any, _⟩ := analyze_result_eq_ok_iff.mp found
    obtain ⟨path, member⟩ := List.exists_mem_of_ne_nil _ any
    obtain ⟨name, needed, file⟩ := (mem_filesFor_iff_needs named).mp member
    exact ⟨name, path, needed, file⟩
  · intro given
    obtain ⟨name, path, needed, file⟩ := given
    exact run_succeeds hdlListed simListed lenient readable needed file
  · intro analysis found
    rw [ran] at found
    obtain ⟨_, rfl⟩ := analyze_result_eq_ok_iff.mp found
    exact found_lists named
  · intro failure failed
    rw [ran, analyze_result] at failed
    split at failed
    · exact (Except.error.inj failed).symm
    · cases failed

/-- A design whose two files have one module name. -/
def FileTree.twins : FileTree where
  entries := Std.TreeMap.ofList [
    (["hdl"], Entry.directory),
    (["hdl", "Core.v"], .file "buffer b(c);".toUTF8),
    (["hdl", "core.v"], .file "".toUTF8)]

/-- Of the two files the one that is listed last counts, although its path comes first in byte
order. -/
theorem Settings.run_twins_closure :
    let settings : Settings :=
      { language := .verilog, testbenches := ["core"], hdlDir := "hdl", simDir := "sim" }
    let order : Listing.Order := fun location => (FileTree.twins.children location).reverse
    let files : List SourceFile := [⟨"hdl/core.v", "core"⟩, ⟨"hdl/Core.v", "core"⟩]
    ∃ analysis, (settings.run .twins order).result = .ok analysis ∧
      analysis.Lists (settings.Needs .twins files) (definer? files) ∧
      "hdl/Core.v" ∈ analysis.files := by
  intro settings order files
  have hdlListed : (Listing.sources .twins "v" "hdl" order).result = .ok files := by
    decide +kernel
  have simListed : (Listing.sources .twins "v" "sim" order).result = .ok [] := by decide +kernel
  have readable : ∀ file ∈ files ++ [], FileTree.twins.Readable file.path := by
    have first : FileTree.twins.Readable "hdl/Core.v" :=
      ⟨_, FileTree.readText_of_file ["hdl", "Core.v"] "buffer b(c);" (by decide +kernel)
        (by decide +kernel)⟩
    have second : FileTree.twins.Readable "hdl/core.v" :=
      ⟨_, FileTree.readText_of_file ["hdl", "core.v"] "" (by decide +kernel) (by decide +kernel)⟩
    simpa [files] using ⟨second, first⟩
  obtain ⟨succeeds, lists, _⟩ :=
    run_closure settings .twins order (by decide) hdlListed simListed readable
  have needed : settings.Needs .twins (files ++ []) "core" := ⟨"core", by decide, .refl⟩
  have last : definer? (files ++ []) "core" = some "hdl/Core.v" := by decide +kernel
  obtain ⟨analysis, ran⟩ := succeeds.mpr ⟨"core", "hdl/Core.v", needed, last⟩
  have found := lists analysis ran
  exact ⟨analysis, ran, found, (found.files _).mpr ⟨"core", needed, last⟩⟩

theorem Listing.sources_clocks :
    (sources .clocks "v" "hdl").result =
      .ok [⟨"hdl/clock.v", "clock"⟩, ⟨"hdl/top.v", "top"⟩] ∧
    (sources .clocks "v" "sim").result =
      .ok [⟨"sim/bench.v", "bench"⟩, ⟨"sim/clock.v", "clock"⟩] := by
  decide +kernel

/-- The bench among the testbenches is enough, whatever the others are. -/
theorem Settings.run_clocks_succeeds {testbenches : List String} (among : "bench" ∈ testbenches) :
    let settings : Settings :=
      { language := .verilog, testbenches := testbenches, hdlDir := "hdl", simDir := "sim" }
    ∃ analysis, (settings.run .clocks).result = .ok analysis := by
  intro settings
  let files : List SourceFile := [⟨"hdl/clock.v", "clock"⟩, ⟨"hdl/top.v", "top"⟩,
    ⟨"sim/bench.v", "bench"⟩, ⟨"sim/clock.v", "clock"⟩]
  have readable : ∀ file ∈ files, FileTree.clocks.Readable file.path := fun file member =>
    FileTree.readable_clocks (List.mem_map_of_mem (f := SourceFile.path) member)
  have lenient : settings.duplicates ≠ .error := nofun
  have needed : settings.Needs .clocks files "bench" := ⟨"bench", among, .refl⟩
  have file : definer? files "bench" = some "sim/bench.v" := by decide +kernel
  obtain ⟨hdlListed, simListed⟩ := Listing.sources_clocks
  exact run_succeeds hdlListed simListed lenient readable needed file

end HdlClosure
