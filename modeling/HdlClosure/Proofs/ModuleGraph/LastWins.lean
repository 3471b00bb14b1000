import HdlClosure.Proofs.ModuleGraph.Agreement
import HdlClosure.Proofs.ModuleGraph.Gathering
import HdlClosure.Proofs.ModuleGraph.Representation

/-! Of several files with one module name the last wins. It makes no difference whether the others
are dropped while the files are read or only when the graph is made. -/
namespace HdlClosure

namespace Gathering

variable {gathering : Gathering} {declarations : List Declaration}

theorem arrived_absorb (holds : Holds gathering declarations)
    (arrived : Arrived Declaration.name gathering.declarations (declarations.map (·.name)))
    (dialect : Dialect) (tree : FileTree) (file : SourceFile) :
    Arrived Declaration.name (gathering.absorb dialect tree file).declarations
      ((declarations ++ [file.declaration dialect tree]).map (·.name)) := by
  rw [List.map_append]
  unfold absorb add
  split
  · rename_i position known
    exact arrived_replace holds.numbered arrived _ known
  · rename_i fresh
    exact arrived_push holds.numbered arrived _ fresh

theorem arrived_files (holds : Holds gathering declarations)
    (arrived : Arrived Declaration.name gathering.declarations (declarations.map (·.name)))
    (dialect : Dialect) (tree : FileTree) (files : List SourceFile) :
    Arrived Declaration.name (files.foldl (absorb dialect tree) gathering).declarations
      ((declarations ++ declarationsOf dialect tree files).map (·.name)) := by
  induction files generalizing gathering declarations with
  | nil => simpa [declarationsOf] using arrived
  | cons file rest ih =>
    have next := ih (holds_absorb holds dialect tree file)
      (arrived_absorb holds arrived dialect tree file)
    simpa [declarationsOf] using next

end Gathering

namespace ModuleGraph

/-- Two graphs that hold the same nodes under the same numbers, the same edges in the same order,
and tables in which the same is found. Only the duplicates may differ. -/
structure SameTables (left right : ModuleGraph) : Prop where
  nodes : left.nodes = right.nodes
  edges : left.edges = right.edges
  index : left.index.Equiv right.index
  files : left.files.Equiv right.files

/-- The names in order, and what is known of each, decide the tables. -/
theorem sameTables_of_names {left right : ModuleGraph} (complete : Complete left)
    (other : Complete right)
    (ordered : left.nodes.toList.map (·.name) = right.nodes.toList.map (·.name))
    (same : ∀ name, left.node? name = right.node? name) : SameTables left right := by
  have nodes := complete.numbered.eq_of_names other.numbered ordered same
  have index := complete.numbered.equiv_of_names other.numbered ordered
  have children (number : Nat) : left.children number = right.children number := by
    have numbers : left.nodeNumber? = right.nodeNumber? := funext fun _ => index.getElem?_eq
    rw [children, children, nodes, numbers]
  refine ⟨nodes, ?_, index, ?_⟩
  · rw [← Array.toList_inj, complete.edged, other.edged, nodes]
    simp only [children]
  · apply Std.TreeMap.Equiv.of_forall_constGet?_eq
    exact fileFor?_same same complete.toConsistent other.toConsistent

section Declarations

variable {first second : List Declaration}
  (ordered : (first.map (·.name)).eraseDups = (second.map (·.name)).eraseDups)
  (same : ∀ name, lastNamed? first name = lastNamed? second name)

include ordered same

theorem nodes_declared_congr : (declared first).nodes = (declared second).nodes := by
  apply (consistent_declared first).numbered.eq_of_names (consistent_declared second).numbered
  · exact (arrived_declared first).trans (ordered.trans (arrived_declared second).symm)
  · intro name
    rw [← node?, ← node?, node?_declared, node?_declared, same]

/-- Equal nodes use the same names in the same order, so that no more than the order of the
declared names is needed. -/
theorem names_ofDeclarations_congr : (ofDeclarations first).nodes.toList.map (·.name) =
    (ofDeclarations second).nodes.toList.map (·.name) := by
  have nodes := nodes_declared_congr ordered same
  have used : (declared first).uses = (declared second).uses := by
    simp only [uses, instancesAt, nodes]
  have begun : Arrived ModuleNode.name (declared first).nodes (second.map (·.name)) :=
    nodes ▸ arrived_declared second
  have left := arrived_uses (consistent_declared first) begun (declared first).uses
  have right := arrived_uses (consistent_declared second) (arrived_declared second)
    (declared second).uses
  rw [← ofDeclarations_eq] at left right
  rw [used] at left
  exact left.trans right.symm

theorem sameTables_ofDeclarations : SameTables (ofDeclarations first) (ofDeclarations second) :=
  sameTables_of_names (complete_ofDeclarations first) (complete_ofDeclarations second)
    (names_ofDeclarations_congr ordered same) (node?_congr same)

end Declarations

theorem duplicates_uses (pending : List (Nat × String)) (graph : ModuleGraph) :
    (pending.foldl referUse graph).duplicates = graph.duplicates := by
  induction pending generalizing graph with
  | nil => rfl
  | cons use rest ih =>
    have kept : (graph.referUse use).duplicates = graph.duplicates := by
      unfold referUse refer
      split <;> rfl
    rw [List.foldl_cons, ih, kept]

theorem duplicates_ofDeclarations (declarations : List Declaration) :
    (ofDeclarations declarations).duplicates = [] := by
  rw [ofDeclarations_eq, duplicates_uses, (untouched_declared declarations).2]

/-- Reading files drops all but the last of each name, and leaves the same tables as declaring what
all of them hold. -/
theorem sameTables_assembled (dialect : Dialect) (tree : FileTree) (files : List SourceFile) :
    SameTables (assembled dialect tree files)
      (ofDeclarations (Gathering.declarationsOf dialect tree files)) := by
  have arrived := Gathering.arrived_files Gathering.holds_empty rfl dialect tree files
  have ordered : ((files.foldl (Gathering.absorb dialect tree) {}).declarations.toList.map
      (·.name)).eraseDups =
        ((Gathering.declarationsOf dialect tree files).map (·.name)).eraseDups :=
    (congrArg List.eraseDups arrived).trans (eraseDups_eraseDups _)
  have tables := sameTables_ofDeclarations ordered
    (Gathering.lastNamed?_declarations
      (Gathering.holds_files Gathering.holds_empty dialect tree files))
  exact ⟨tables.nodes, tables.edges, tables.index, tables.files⟩

/-- When all files can be read and duplicates are tolerated, the files make a graph, and its tables
are those that their declarations make, shadowed ones included. -/
theorem ofFiles_last_wins {policy : DuplicatePolicy} (dialect : Dialect) {tree : FileTree}
    {files : List SourceFile} (lenient : policy = .warn ∨ policy = .ignore)
    (readable : ∀ file ∈ files, tree.Readable file.path) :
    let direct := ofDeclarations (Gathering.declarationsOf dialect tree files)
    ∃ graph, (ofFiles policy dialect tree files).result = .ok graph ∧
      SameTables graph direct ∧ direct.duplicates = [] := by
  have accepted : Gathering.Accepted policy tree [] files := by
    refine ⟨readable, fun strict => ?_⟩
    rcases lenient with rfl | rfl <;> cases strict
  exact ⟨_, (ofFiles_result policy dialect tree files _).mpr ⟨accepted, rfl⟩,
    sameTables_assembled dialect tree files, duplicates_ofDeclarations _⟩

/-- Both names repeat, the files of one around those of the other, and the shadowed clock needs a
buffer that the later one does not. -/
theorem ofFiles_clocks_repeated :
    let files : List SourceFile := [⟨"hdl/clock.v", "clock"⟩, ⟨"hdl/top.v", "top"⟩,
      ⟨"sim/bench.v", "top"⟩, ⟨"sim/clock.v", "clock"⟩]
    let dialect : Dialect := { language := .verilog }
    let direct := ofDeclarations (Gathering.declarationsOf dialect .clocks files)
    ∃ graph, (ofFiles .warn dialect .clocks files).result = .ok graph ∧
      SameTables graph direct ∧ direct.duplicates = [] := by
  intro files dialect
  refine ofFiles_last_wins dialect (.inl rfl) fun file member => ?_
  exact FileTree.readable_clocks (List.mem_map_of_mem (f := SourceFile.path) member)

end ModuleGraph

end HdlClosure
