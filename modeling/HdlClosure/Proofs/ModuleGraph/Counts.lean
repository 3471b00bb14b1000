import HdlClosure.Proofs.ModuleGraph.LastWins
import HdlClosure.Proofs.ModuleGraph.Queries

/-! The numbers of a graph against its answers. Modules, nodes and edges are counted apart; that the
counts fit together is due to the tables going together, and to nodes without a file having no
instances. -/
namespace HdlClosure.ModuleGraph

variable {graph : ModuleGraph}

/-- The numbers of a graph are what can be counted in its answers. The subtraction among them is
exact. -/
structure Counted (graph : ModuleGraph) : Prop where
  fits : graph.moduleCount ≤ graph.nodes.size
  exact : graph.stats.unresolved + graph.moduleCount = graph.nodes.size
  unresolved : graph.stats.unresolved = graph.unresolved.length
  -- the names with a file, each once
  filed : ∃ names : List String, names.Nodup ∧
    (∀ name, name ∈ names ↔ (graph.fileFor? name).isSome) ∧
    graph.stats.modules = names.length ∧
    graph.stats.instantiations = (names.map fun name => (graph.submodules name).length).sum

section Filed

variable (consistent : Consistent graph)

include consistent

theorem mem_namesOf_filed_iff {name : String} :
    name ∈ graph.namesOf (·.path?.isSome) ↔ (graph.fileFor? name).isSome := by
  rw [mem_namesOf_iff consistent, consistent.filed]
  cases graph.node? name <;> simp

theorem moduleCount_eq : graph.moduleCount = (graph.namesOf (·.path?.isSome)).length := by
  have perm : graph.files.keys.Perm (graph.namesOf (·.path?.isSome)) := by
    rw [List.perm_ext_iff_of_nodup Std.TreeMap.nodup_keys (nodup_namesOf consistent _)]
    intro name
    rw [mem_namesOf_filed_iff consistent, Std.TreeMap.mem_keys,
      Std.TreeMap.mem_iff_isSome_getElem?]
    rfl
  rw [moduleCount, ← Std.TreeMap.length_keys, perm.length_eq]

/-- Every node either has a file or is unresolved. -/
theorem length_unresolved_add :
    graph.unresolved.length + graph.moduleCount = graph.nodes.size := by
  have parted := List.length_eq_length_filter_add (l := graph.nodes.toList) (·.path?.isSome)
  have missing : (fun node : ModuleNode => !node.path?.isSome) = fun node => node.path?.isNone := by
    funext node
    cases node.path? <;> rfl
  rw [missing, Array.length_toList] at parted
  rw [moduleCount_eq consistent, unresolved_eq, List.length_mergeSort, namesOf, namesOf,
    List.length_map, List.length_map, parted, Nat.add_comm]

theorem map_submodules_namesOf (kind : ModuleNode → Bool) :
    ((graph.namesOf kind).map fun name => (graph.submodules name).length) =
      (graph.nodes.toList.filter kind).map (·.instances.length) := by
  rw [namesOf, List.map_map]
  apply List.map_congr_left
  intro node member
  have known : graph.node? node.name = some node :=
    consistent.numbered.slot?_eq_some_iff.mpr
      ⟨Array.mem_toList_iff.mp (List.mem_of_mem_filter member), rfl⟩
  simp [submodules_eq, known]

end Filed

theorem sum_filter {α : Type} {kind : α → Bool} {weight : α → Nat} {items : List α}
    (weightless : ∀ item ∈ items, kind item = false → weight item = 0) :
    ((items.filter kind).map weight).sum = (items.map weight).sum := by
  induction items with
  | nil => rfl
  | cons item rest ih =>
    have later := ih fun other member => weightless other (List.mem_cons_of_mem item member)
    cases kept : kind item with
    | true => simp [kept, later]
    | false => simp [kept, later, weightless item List.mem_cons_self kept]

/-- Where nodes without a file have no instances, all numbers are right. -/
theorem counted_of_complete (complete : Complete graph)
    (bare : ∀ node ∈ graph.nodes, node.path? = none → node.instances = []) : graph.Counted := by
  have consistent := complete.toConsistent
  have total := length_unresolved_add consistent
  have fits : graph.moduleCount ≤ graph.nodes.size := total ▸ Nat.le_add_left _ _
  have rest : graph.stats.unresolved + graph.moduleCount = graph.nodes.size :=
    Nat.sub_add_cancel fits
  refine ⟨fits, rest, Nat.add_right_cancel (rest.trans total.symm), graph.namesOf (·.path?.isSome),
    nodup_namesOf consistent _, fun name => mem_namesOf_filed_iff consistent,
    moduleCount_eq consistent, ?_⟩
  rw [map_submodules_namesOf consistent, stats, size_edges complete]
  refine (sum_filter fun node member missing => ?_).symm
  rw [bare node (Array.mem_toList_iff.mp member) (by simpa using missing)]
  rfl

theorem bare_of_fileless {declarations : List Declaration} {node : ModuleNode}
    (member : node ∈ (ofDeclarations declarations).nodes) (missing : node.path? = none) :
    node.instances = [] := by
  obtain ⟨number, present⟩ := Array.mem_iff_getElem?.mp member
  exact (isolated_of_fileless present missing).1

/-- The numbers are right in the graph of any declarations, and in every graph that files make. -/
theorem counted_graphs :
    (∀ declarations, (ofDeclarations declarations).Counted) ∧
    ∀ policy dialect tree files graph,
      (ofFiles policy dialect tree files).result = .ok graph → graph.Counted := by
  constructor
  · exact fun declarations =>
      counted_of_complete (complete_ofDeclarations declarations) fun _ => bare_of_fileless
  · intro policy dialect tree files graph made
    obtain ⟨_, rfl⟩ := (ofFiles_result policy dialect tree files graph).mp made
    refine counted_of_complete (complete_assembled dialect tree files) fun node member => ?_
    rw [(sameTables_assembled dialect tree files).nodes] at member
    exact bare_of_fileless member

/-- Two of the files have one name, and nothing defines the buffer. -/
theorem counted_clocks :
    let files : List SourceFile := [⟨"hdl/clock.v", "clock"⟩, ⟨"hdl/top.v", "top"⟩,
      ⟨"sim/bench.v", "bench"⟩, ⟨"sim/clock.v", "top"⟩]
    ∃ graph, (ofFiles .ignore { language := .verilog } .clocks files).result = .ok graph ∧
      graph.Counted := by
  intro files
  have accepted : Gathering.Accepted .ignore .clocks [] files := by
    refine ⟨fun file member => ?_, nofun⟩
    exact FileTree.readable_clocks (List.mem_map_of_mem (f := SourceFile.path) member)
  have made := (ofFiles_result .ignore { language := .verilog } .clocks files _).mpr
    ⟨accepted, rfl⟩
  exact ⟨_, made, counted_graphs.2 _ _ _ _ _ made⟩

end HdlClosure.ModuleGraph
