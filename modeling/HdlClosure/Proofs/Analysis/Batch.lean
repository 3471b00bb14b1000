import HdlClosure.Proofs.Analysis.Closure

/-! One run for several testbenches against one run for each: they share a single graph, and what
the searches of a batch share hides nothing from any of them. -/
namespace HdlClosure

namespace Settings

variable {settings : Settings} {tree : FileTree} {order : Listing.Order} {graph : ModuleGraph}

def alone (settings : Settings) (testbench : String) : Settings :=
  { settings with testbenches := [testbench] }

/-- A run that succeeds has made a graph, from files named for their modules. -/
theorem run_result_eq_ok {analysis : Analysis}
    (ran : (settings.run tree order).result = .ok analysis) :
    ∃ files, (∀ file ∈ files, file.Named) ∧
      (settings.graph tree order).result = .ok (ModuleGraph.assembled settings.dialect tree files) ∧
      analysis = settings.found (ModuleGraph.assembled settings.dialect tree files) := by
  obtain ⟨graph, made, analyzed⟩ := Traced.result_bind_eq_ok_iff.mp ran
  obtain ⟨files, listed, _, rfl⟩ := graph_result.mp made
  obtain ⟨hdl, sim, hdlListed, simListed, rfl⟩ := Listing.allSources_pair.mp listed
  exact ⟨hdl ++ sim, named_of_listed hdlListed simListed, made,
    (analyze_result_eq_ok_iff.mp analyzed).2⟩

theorem run_alone_result (made : (settings.graph tree order).result = .ok graph)
    (testbench : String) :
    ((settings.alone testbench).run tree order).result =
      ((settings.alone testbench).analyze graph).result := by
  have same : ((settings.alone testbench).graph tree order).result = .ok graph := made
  exact run_result same

theorem getElem?_perTestbench (settings : Settings) (graph : ModuleGraph) (testbench : String) :
    (settings.found graph).perTestbench[testbench]? =
      if testbench ∈ settings.testbenches then
        some ((settings.alone testbench).found graph).files
      else none := by
  rw [found, Std.TreeMap.getElem?_map, ModuleGraph.getElem?_reachPerRoot]
  split
  · rfl
  · rfl

theorem mem_perTestbench (settings : Settings) (graph : ModuleGraph) (testbench : String) :
    testbench ∈ (settings.found graph).perTestbench ↔ testbench ∈ settings.testbenches := by
  rw [Std.TreeMap.mem_iff_isSome_getElem?, getElem?_perTestbench]
  split <;> simp [*]

theorem analyze_nothing_iff (settings : Settings) (graph : ModuleGraph) :
    (settings.found graph).files = [] ↔ (settings.analyze graph).result =
      .error (.noSources settings.testbenches settings.hdlDir settings.simDir) := by
  rw [analyze_result]
  split
  · rename_i empty
    exact ⟨fun _ => rfl, fun _ => empty⟩
  · rename_i any
    exact ⟨fun empty => absurd empty any, fun failed => nomatch failed⟩

theorem analyze_something_iff (settings : Settings) (graph : ModuleGraph) :
    (settings.found graph).files ≠ [] ↔ ∃ analysis,
      (settings.analyze graph).result = .ok analysis ∧
        analysis.files = (settings.found graph).files := by
  constructor
  · exact fun any => ⟨_, analyze_result_eq_ok_iff.mpr ⟨any, rfl⟩, rfl⟩
  · intro given
    obtain ⟨analysis, analyzed, _⟩ := given
    exact (analyze_result_eq_ok_iff.mp analyzed).1

/-- Together the testbenches need the files that each of them needs. -/
theorem mem_files_iff_alone (complete : graph.Complete) {path : String} :
    path ∈ (settings.found graph).files ↔
      ∃ testbench ∈ settings.testbenches,
        path ∈ ((settings.alone testbench).found graph).files := by
  simp only [found, alone, ModuleGraph.mem_filesFor_reach complete, List.mem_singleton,
    exists_eq_left]

/-- Where a run succeeds, its testbenches are found in it as in runs of their own: a testbench
without files is one whose own run fails for want of sources. The files of the run are those of its
testbenches, in ascending order and without repetition. -/
theorem run_batch {analysis : Analysis} (ran : (settings.run tree order).result = .ok analysis) :
    (∀ name, name ∈ analysis.perTestbench ↔ name ∈ settings.testbenches) ∧
    (∀ testbench ∈ settings.testbenches, ∃ files,
      analysis.perTestbench[testbench]? = some files ∧
      (files = [] ↔ ((settings.alone testbench).run tree order).result =
        .error (.noSources [testbench] settings.hdlDir settings.simDir)) ∧
      (files ≠ [] ↔ ∃ single, ((settings.alone testbench).run tree order).result = .ok single ∧
        single.files = files)) ∧
    analysis.files.Pairwise Text.Before ∧
    ∀ path, path ∈ analysis.files ↔ ∃ (testbench : String) (files : List String),
      analysis.perTestbench[testbench]? = some files ∧ path ∈ files := by
  obtain ⟨files, named, made, rfl⟩ := run_result_eq_ok ran
  have complete := ModuleGraph.complete_assembled settings.dialect tree files
  refine ⟨mem_perTestbench settings _, ?_, (found_lists named).files_ascend, ?_⟩
  · intro testbench member
    refine ⟨_, (getElem?_perTestbench settings _ testbench).trans (if_pos member), ?_⟩
    rw [run_alone_result made]
    exact ⟨analyze_nothing_iff _ _, analyze_something_iff _ _⟩
  -- What the searches share is only what they have seen: no need of a testbench is lost by it.
  · intro path
    rw [mem_files_iff_alone complete]
    constructor
    · intro given
      obtain ⟨testbench, member, listed⟩ := given
      exact ⟨testbench, _, (getElem?_perTestbench settings _ testbench).trans (if_pos member),
        listed⟩
    · intro given
      obtain ⟨testbench, others, found, listed⟩ := given
      rw [getElem?_perTestbench] at found
      split at found
      · rename_i member
        cases found
        exact ⟨testbench, member, listed⟩
      · cases found

/-- A batch with an unknown testbench, named twice. -/
theorem run_batch_clocks :
    let settings : Settings :=
      { language := .verilog, testbenches := ["ghost", "bench", "ghost"], hdlDir := "hdl",
        simDir := "sim" }
    ∃ analysis, (settings.run .clocks).result = .ok analysis ∧
      (∀ name, name ∈ analysis.perTestbench ↔ name ∈ settings.testbenches) ∧
      ∀ path, path ∈ analysis.files ↔ ∃ (testbench : String) (files : List String),
        analysis.perTestbench[testbench]? = some files ∧ path ∈ files := by
  intro settings
  obtain ⟨analysis, ran⟩ : ∃ analysis, (settings.run .clocks).result = .ok analysis :=
    run_clocks_succeeds (by decide)
  obtain ⟨keys, _, _, union⟩ := run_batch ran
  exact ⟨analysis, ran, keys, union⟩

end Settings

end HdlClosure
