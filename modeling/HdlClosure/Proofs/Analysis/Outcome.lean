import HdlClosure.Analysis
import HdlClosure.Proofs.ModuleGraph.Agreement
import HdlClosure.Proofs.ModuleGraph.Gathering

namespace HdlClosure

namespace ModuleGraph

variable {graph : ModuleGraph}

theorem mem_filesFor {names : Std.TreeSet String} {path : String} :
    path ∈ graph.filesFor names ↔ ∃ name ∈ names, graph.fileFor? name = some path := by
  rw [filesFor, List.mem_mergeSort, List.mem_filterMap]
  simp only [Std.TreeSet.mem_toList]

theorem mem_filesFor_reach (complete : Complete graph) {roots : List String} {path : String} :
    path ∈ graph.filesFor (graph.reach roots) ↔
      ∃ root ∈ roots, ∃ name, graph.Reaches root name ∧ graph.fileFor? name = some path := by
  rw [mem_filesFor]
  constructor
  · intro given
    obtain ⟨name, member, file⟩ := given
    obtain ⟨root, listed, chain⟩ := (mem_reach_iff complete).mp member
    exact ⟨root, listed, name, chain, file⟩
  · intro given
    obtain ⟨root, listed, name, chain, file⟩ := given
    exact ⟨name, (mem_reach_iff complete).mpr ⟨root, listed, chain⟩, file⟩

/-- Where no two modules share a file, no file is listed twice. -/
theorem pairwise_before_filesFor (names : Std.TreeSet String)
    (apart : ∀ first second path, graph.fileFor? first = some path →
      graph.fileFor? second = some path → first = second) :
    (graph.filesFor names).Pairwise Text.Before := by
  apply Text.pairwise_before_mergeSort
  rw [List.Nodup, List.pairwise_filterMap]
  refine (Text.pairwise_before_toList names).imp ?_
  rintro first second before path file _ other rfl
  rw [apart first second path file other] at before
  exact List.lt_irrefl _ before

end ModuleGraph

namespace Settings

/-- What an analysis finds when it finds a file. -/
def found (settings : Settings) (graph : ModuleGraph) : Analysis where
  files := graph.filesFor (graph.reach settings.testbenches)
  reachable := graph.reach settings.testbenches
  unresolved := (graph.reach settings.testbenches).toList.filter fun name =>
    (graph.fileFor? name).isNone
  perTestbench := (graph.reachPerRoot settings.testbenches).map fun _ names => graph.filesFor names
  duplicates := graph.duplicates
  stats := graph.stats

theorem analyze_result (settings : Settings) (graph : ModuleGraph) :
    (settings.analyze graph).result =
      if graph.filesFor (graph.reach settings.testbenches) = [] then
        .error (.noSources settings.testbenches settings.hdlDir settings.simDir)
      else .ok (settings.found graph) := by
  unfold analyze
  dsimp only
  split
  · rfl
  · rfl

theorem analyze_result_eq_ok_iff {settings : Settings} {graph : ModuleGraph} {analysis : Analysis} :
    (settings.analyze graph).result = .ok analysis ↔
      graph.filesFor (graph.reach settings.testbenches) ≠ [] ∧ analysis = settings.found graph := by
  rw [analyze_result]
  split
  · rename_i empty
    exact ⟨fun failed => (nomatch failed), fun ⟨any, _⟩ => absurd empty any⟩
  · rename_i any
    exact ⟨fun same => ⟨any, (Except.ok.inj same).symm⟩, fun ⟨_, same⟩ => congrArg _ same.symm⟩

theorem mem_unresolved {settings : Settings} {graph : ModuleGraph} {name : String} :
    name ∈ (settings.found graph).unresolved ↔
      name ∈ graph.reach settings.testbenches ∧ graph.fileFor? name = none := by
  simp only [found, List.mem_filter, Std.TreeSet.mem_toList, Option.isNone_iff_eq_none]

theorem graph_result {settings : Settings} {tree : FileTree} {order : Listing.Order}
    {graph : ModuleGraph} :
    (settings.graph tree order).result = .ok graph ↔
      ∃ files, (Listing.allSources tree settings.language.extension
          [settings.hdlDir, settings.simDir] order).result = .ok files ∧
        Gathering.Accepted settings.duplicates tree [] files ∧
        graph = ModuleGraph.assembled settings.dialect tree files := by
  unfold Settings.graph
  simp only [Traced.result_bind_eq_ok_iff, Traced.result_tell, ModuleGraph.ofFiles_result]
  constructor
  · intro given
    obtain ⟨files, listed, _, _, accepted⟩ := given
    exact ⟨files, listed, accepted⟩
  · intro given
    obtain ⟨files, listed, accepted⟩ := given
    exact ⟨files, listed, (), trivial, accepted⟩

theorem run_result {settings : Settings} {tree : FileTree} {order : Listing.Order}
    {graph : ModuleGraph} (made : (settings.graph tree order).result = .ok graph) :
    (settings.run tree order).result = (settings.analyze graph).result := by
  rw [run, Traced.result_bind, made]
  rfl

/-- A run lists both directories before it makes the graph. -/
theorem run_result_eq (settings : Settings) (tree : FileTree) (order : Listing.Order) :
    (settings.run tree order).result =
      (Listing.sources tree settings.language.extension settings.hdlDir order).result.bind
        fun hdl =>
      (Listing.sources tree settings.language.extension settings.simDir order).result.bind
        fun sim =>
      (ModuleGraph.ofFiles settings.duplicates settings.dialect tree (hdl ++ sim)).result.bind
        fun graph => (settings.analyze graph).result := by
  unfold run graph
  simp only [Listing.allSources, Traced.result_bind, Traced.result_pure, Traced.result_tell]
  cases (Listing.sources tree settings.language.extension settings.hdlDir order).result with
  | error failure => rfl
  | ok hdl =>
    cases (Listing.sources tree settings.language.extension settings.simDir order).result with
    | error failure => rfl
    | ok sim => simp [Except.bind]

end Settings

end HdlClosure
