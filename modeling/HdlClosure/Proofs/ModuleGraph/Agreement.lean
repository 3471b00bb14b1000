import HdlClosure.Proofs.ModuleGraph.Closure
import HdlClosure.Proofs.Text.ByteOrder
import Mathlib.Algebra.BigOperators.Group.List.Basic
import Mathlib.Algebra.GroupWithZero.Nat

/-! Graphs that know the same of every name answer every question alike, whatever numbers their
nodes have and in whatever order their edges stand. -/
namespace HdlClosure.ModuleGraph

section PerRoot

variable {graph : ModuleGraph}

theorem reachPerRoot_concat (graph : ModuleGraph) (roots : List String) (root : String) :
    graph.reachPerRoot (roots ++ [root]) =
      (graph.reachPerRoot roots).insert root (graph.reach [root]) := by
  simp [reachPerRoot]

theorem getElem?_reachPerRoot (graph : ModuleGraph) (roots : List String) (key : String) :
    (graph.reachPerRoot roots)[key]? = if key ∈ roots then some (graph.reach [key]) else none := by
  induction roots using List.reverseRecOn with
  | nil => simp [reachPerRoot]
  | append_singleton roots root ih =>
    rw [reachPerRoot_concat, Std.TreeMap.getElem?_insert, ih]
    by_cases same : root = key
    · simp [same]
    · simp [same, Ne.symm same]

/-- What is made of the needs of each root is the same when it is so for every root alone. -/
theorem toList_map_reachPerRoot {α : Type} {left right : ModuleGraph}
    {first second : Std.TreeSet String → α} {roots : List String}
    (same : ∀ root ∈ roots, first (left.reach [root]) = second (right.reach [root])) :
    ((left.reachPerRoot roots).map fun _ names => first names).toList =
      ((right.reachPerRoot roots).map fun _ names => second names).toList := by
  rw [← Std.TreeMap.equiv_iff_toList_eq]
  apply Std.TreeMap.Equiv.of_forall_constGet?_eq
  intro root
  rw [Std.TreeMap.getElem?_map, Std.TreeMap.getElem?_map, getElem?_reachPerRoot,
    getElem?_reachPerRoot]
  split
  · rename_i member
    exact congrArg some (same root member)
  · rfl

end PerRoot

section Size

variable {graph : ModuleGraph}

theorem length_children (complete : Complete graph) (number : Nat) :
    (graph.children number).length = (graph.instancesAt number).length := by
  simpa using congrArg List.length (map_some_children complete number)

/-- There are as many edges as instances in all nodes. -/
theorem size_edges (complete : Complete graph) :
    graph.edges.size = (graph.nodes.toList.map (·.instances.length)).sum := by
  have lengths : (List.range graph.nodes.size).map (fun number => (graph.children number).length) =
      graph.nodes.toList.map (·.instances.length) := by
    have instances := congrArg (List.map List.length) (map_instancesAt graph)
    simpa [Function.comp_def, length_children complete] using instances
  rw [← Array.length_toList, complete.edged, List.length_flatMap, ← lengths]
  simp

end Size

/-- The files of some names depend on what the graph says of these names alone. -/
theorem filesFor_congr {left right : ModuleGraph} {names others : Std.TreeSet String}
    (listed : names.toList = others.toList)
    (same : ∀ name ∈ names, left.fileFor? name = right.fileFor? name) :
    left.filesFor names = right.filesFor others := by
  rw [filesFor, filesFor, ← listed]
  congr 1
  apply List.filterMap_congr
  intro name member
  exact same name (Std.TreeSet.mem_toList.mp member)

/-- Two graphs that answer alike. Sets and tables are compared by what they list. -/
structure Agree (left right : ModuleGraph) : Prop where
  submodules : ∀ name, left.submodules name = right.submodules name
  fileFor? : ∀ name, left.fileFor? name = right.fileFor? name
  contains : ∀ name, left.contains name = right.contains name
  moduleCount : left.moduleCount = right.moduleCount
  unresolved : left.unresolved = right.unresolved
  stats : left.stats = right.stats
  reach : ∀ roots, (left.reach roots).toList = (right.reach roots).toList
  reachPerRoot : ∀ roots, ((left.reachPerRoot roots).map fun _ names => names.toList).toList =
    ((right.reachPerRoot roots).map fun _ names => names.toList).toList
  filesFor : ∀ names, left.filesFor names = right.filesFor names
  duplicates : left.duplicates.Perm right.duplicates

section Same

variable {left right : ModuleGraph} (same : ∀ name, left.node? name = right.node? name)

include same

theorem submodules_same (name : String) : left.submodules name = right.submodules name := by
  rw [submodules_eq, submodules_eq, same]

theorem reaches_same : left.Reaches = right.Reaches := by
  have edges : left.Instantiates = right.Instantiates := by
    funext parent child
    rw [Instantiates, Instantiates, submodules_same same]
  rw [Reaches, Reaches, edges]

theorem reach_same (complete : Complete left) (other : Complete right) (roots : List String) :
    (left.reach roots).toList = (right.reach roots).toList := by
  apply Text.toList_eq_of_mem_iff
  intro name
  rw [mem_reach_iff complete, mem_reach_iff other, reaches_same same]

theorem fileFor?_same (consistent : Consistent left) (other : Consistent right) (name : String) :
    left.fileFor? name = right.fileFor? name := by
  rw [consistent.filed, other.filed, same]

theorem moduleCount_same (consistent : Consistent left) (other : Consistent right) :
    left.moduleCount = right.moduleCount := by
  apply Std.TreeMap.Equiv.size_eq
  apply Std.TreeMap.Equiv.of_forall_constGet?_eq
  exact fileFor?_same same consistent other

theorem nodes_perm (consistent : Consistent left) (other : Consistent right) :
    left.nodes.toList.Perm right.nodes.toList :=
  consistent.numbered.perm other.numbered same

theorem unresolved_same (consistent : Consistent left) (other : Consistent right) :
    left.unresolved = right.unresolved := by
  apply Text.mergeSort_eq_of_perm
  exact ((nodes_perm same consistent other).filter _).map _

theorem stats_same (complete : Complete left) (other : Complete right)
    (duplicates : left.duplicates.Perm right.duplicates) : left.stats = right.stats := by
  have nodes := nodes_perm same complete.toConsistent other.toConsistent
  have modules := moduleCount_same same complete.toConsistent other.toConsistent
  have edges : left.edges.size = right.edges.size := by
    rw [size_edges complete, size_edges other]
    exact (nodes.map _).sum_eq
  have count : left.nodes.size = right.nodes.size := by
    simpa using nodes.length_eq
  rw [stats, stats, modules, edges, count, duplicates.length_eq]

/-- What is known of each name, and the duplicates, decide every answer. -/
theorem agree_of_node? (complete : Complete left) (other : Complete right)
    (duplicates : left.duplicates.Perm right.duplicates) : Agree left right where
  submodules := submodules_same same
  fileFor? := fileFor?_same same complete.toConsistent other.toConsistent
  contains name := by rw [contains_eq complete.toConsistent, contains_eq other.toConsistent, same]
  moduleCount := moduleCount_same same complete.toConsistent other.toConsistent
  unresolved := unresolved_same same complete.toConsistent other.toConsistent
  stats := stats_same same complete other duplicates
  reach := reach_same same complete other
  reachPerRoot _ := toList_map_reachPerRoot fun root _ => reach_same same complete other [root]
  filesFor _ := filesFor_congr rfl fun name _ =>
    fileFor?_same same complete.toConsistent other.toConsistent name
  duplicates := duplicates

end Same

end HdlClosure.ModuleGraph
