import HdlClosure.Proofs.ModuleGraph.Links

namespace HdlClosure.ModuleGraph

variable {graph : ModuleGraph} {past : List String}

section Order

theorem arrived_declare (consistent : Consistent graph)
    (arrived : Arrived ModuleNode.name graph.nodes past) (declaration : Declaration) :
    Arrived ModuleNode.name (graph.declare declaration).nodes (past ++ [declaration.name]) := by
  unfold declare
  dsimp only
  split
  · rename_i number known
    exact arrived_replace consistent.numbered arrived declaration.node known
  · rename_i fresh
    exact arrived_push consistent.numbered arrived declaration.node fresh

theorem arrived_declared (declarations : List Declaration) :
    Arrived ModuleNode.name (declared declarations).nodes (declarations.map (·.name)) := by
  induction declarations using List.reverseRecOn with
  | nil => rfl
  | append_singleton declarations last ih =>
    rw [declared_concat, List.map_append]
    exact arrived_declare (consistent_declared declarations) ih last

theorem arrived_refer (consistent : Consistent graph)
    (arrived : Arrived ModuleNode.name graph.nodes past) (parent : Nat) (name : String) :
    Arrived ModuleNode.name (refer parent graph name).nodes (past ++ [name]) := by
  unfold refer
  split
  · rename_i child known
    exact arrived_known consistent.numbered arrived known
  · rename_i fresh
    exact arrived_push consistent.numbered arrived (.bare name) fresh

theorem arrived_uses (consistent : Consistent graph)
    (arrived : Arrived ModuleNode.name graph.nodes past) (pending : List (Nat × String)) :
    Arrived ModuleNode.name (pending.foldl referUse graph).nodes (past ++ pending.map (·.2)) := by
  induction pending generalizing graph past with
  | nil => simpa using arrived
  | cons use rest ih =>
    have next := ih (consistent_refer consistent use.1 use.2)
      (arrived_refer consistent arrived use.1 use.2)
    simpa [referUse] using next

theorem map_snd_uses (graph : ModuleGraph) :
    graph.uses.map (·.2) = graph.nodes.toList.flatMap (·.instances) := by
  rw [List.flatMap_def, ← map_instancesAt, uses, List.map_flatMap, List.flatMap_def]
  simp [Function.comp_def]

/-- Names are numbered as they first come up: first the declared ones, then the used ones. -/
theorem arrived_ofDeclarations (declarations : List Declaration) :
    Arrived ModuleNode.name (ofDeclarations declarations).nodes
      (declarations.map (·.name) ++ (ofDeclarations declarations).uses.map (·.2)) := by
  have grows := grows_uses (declared declarations).uses (declared declarations)
  have arrived := arrived_uses (consistent_declared declarations) (arrived_declared declarations)
    (declared declarations).uses
  rw [← ofDeclarations_eq] at grows arrived
  rw [uses_eq_of_grows grows]
  exact arrived

end Order

/-- The tables of a graph go together, and they say of the declarations what each name stands for in
the end, in which order the names first came up, and how often each is instantiated. -/
structure Represents (graph : ModuleGraph) (declarations : List Declaration) : Prop where
  -- names and numbers are inverse to each other
  numbered : ∀ number node, graph.nodes[number]? = some node →
    graph.nodeNumber? node.name = some number
  held : ∀ name number, graph.nodeNumber? name = some number →
    ∃ node, graph.nodes[number]? = some node ∧ node.name = name
  distinct : (graph.nodes.toList.map (·.name)).Nodup
  -- files and nodes say the same, which is what the last declaration says
  filed : ∀ name path, graph.fileFor? name = some path ↔
    ∃ number node, graph.nodeNumber? name = some number ∧ graph.nodes[number]? = some node ∧
      node.path? = some path
  kept : ∀ name last, lastNamed? declarations name = some last →
    ∃ number, graph.nodeNumber? name = some number ∧ graph.nodes[number]? = some last.node
  -- declared names come first and have files, the others follow as they are used
  ordered : graph.nodes.toList.map (·.name) =
    (declarations.map (·.name)).eraseDups ++
      ((graph.nodes.toList.flatMap (·.instances)).filter
        (· ∉ declarations.map (·.name))).eraseDups
  parted : ∀ number node, graph.nodes[number]? = some node →
    (node.path?.isSome ↔ number < (declarations.map (·.name)).eraseDups.length)
  bare : ∀ number node, graph.nodes[number]? = some node → node.path? = none →
    node.instances = [] ∧ (∀ edge ∈ graph.edges, edge.1 ≠ number) ∧
      ∃ edge ∈ graph.edges, edge.2 = number
  -- there is one edge for every use, to a node that is there
  edged : (graph.edges.toList.map fun edge => (edge.1, some edge.2)) =
    graph.uses.map fun use => (use.1, graph.nodeNumber? use.2)

section Kinds

theorem node?_eq_some_iff {name : String} {node : ModuleNode} :
    graph.node? name = some node ↔
      ∃ number, graph.nodeNumber? name = some number ∧ graph.nodes[number]? = some node :=
  Option.bind_eq_some_iff

theorem node?_of_getElem? (consistent : Consistent graph) {number : Nat} {node : ModuleNode}
    (present : graph.nodes[number]? = some node) : graph.node? node.name = some node :=
  consistent.numbered.slot?_eq_some_iff.mpr ⟨Array.mem_of_getElem? present, rfl⟩

/-- A node with a file bears a declared name, and any other is bare. -/
theorem kind_of_node {declarations : List Declaration} {number : Nat} {node : ModuleNode}
    (present : (ofDeclarations declarations).nodes[number]? = some node) :
    (node.path?.isSome ∧ node.name ∈ declarations.map (·.name)) ∨
      (node = .bare node.name ∧ node.name ∉ declarations.map (·.name)) := by
  have known := node?_of_getElem? (complete_ofDeclarations declarations).toConsistent present
  rw [node?_ofDeclarations] at known
  cases found : lastNamed? declarations node.name with
  | some last =>
    rw [found] at known
    obtain rfl : last.node = node := Option.some.inj known
    have declared : last ∈ declarations := mem_of_lastNamed? found
    exact .inl ⟨rfl, List.mem_map.mpr ⟨last, declared, rfl⟩⟩
  | none =>
    rw [found] at known
    simp only [Option.map_none, Option.none_or, Option.ite_none_right_eq_some] at known
    exact .inr ⟨(Option.some.inj known.2).symm, lastNamed?_eq_none_iff.mp found⟩

end Kinds

section Edges

/-- Every use has its edge, which ends at the node that the used name has in the end. -/
theorem edges_eq_uses (complete : Complete graph) :
    (graph.edges.toList.map fun edge => (edge.1, some edge.2)) =
      graph.uses.map fun use => (use.1, graph.nodeNumber? use.2) := by
  rw [complete.edged, uses, List.map_flatMap, List.map_flatMap]
  congr 1
  funext parent
  have ends := congrArg (List.map (parent, ·)) (map_some_children complete parent)
  simpa [Function.comp_def] using ends

/-- Edges leave nodes with instances only. -/
theorem instances_of_edge (complete : Complete graph) {edge : Nat × Nat}
    (member : edge ∈ graph.edges) : graph.instancesAt edge.1 ≠ [] := by
  rw [← Array.mem_toList_iff, complete.edged] at member
  obtain ⟨parent, _, listed⟩ := List.mem_flatMap.mp member
  obtain ⟨child, linked, rfl⟩ := List.mem_map.mp listed
  rw [children_eq] at linked
  obtain ⟨name, instantiated, _⟩ := List.mem_filterMap.mp linked
  exact List.ne_nil_of_mem instantiated

/-- A used name has an edge that ends at its node. -/
theorem edge_of_use (complete : Complete graph) {name : String} {number : Nat}
    (used : name ∈ graph.uses.map (·.2)) (known : graph.nodeNumber? name = some number) :
    ∃ edge ∈ graph.edges, edge.2 = number := by
  obtain ⟨use, listed, rfl⟩ := List.mem_map.mp used
  have linked : (use.1, graph.nodeNumber? use.2) ∈
      graph.edges.toList.map fun edge => (edge.1, some edge.2) := by
    rw [edges_eq_uses complete]
    exact List.mem_map.mpr ⟨use, listed, rfl⟩
  obtain ⟨edge, member, same⟩ := List.mem_map.mp linked
  rw [known, Prod.mk.injEq] at same
  exact ⟨edge, Array.mem_toList_iff.mp member, Option.some.inj same.2⟩

end Edges

/-- The names in the order of their numbers: the declared ones as they first appear, then the
others as they are first used. -/
theorem names_ofDeclarations (declarations : List Declaration) :
    (ofDeclarations declarations).nodes.toList.map (·.name) =
      (declarations.map (·.name)).eraseDups ++
        (((ofDeclarations declarations).nodes.toList.flatMap (·.instances)).filter
          (· ∉ declarations.map (·.name))).eraseDups := by
  have arrived : _ = _ := arrived_ofDeclarations declarations
  rw [map_snd_uses, List.eraseDups_append] at arrived
  rw [arrived, List.removeAll]
  simp only [List.elem_eq_mem, decide_not]

/-- The nodes with a file come first: as many as there are declared names. -/
theorem hasFile_iff_number_lt {declarations : List Declaration} {number : Nat} {node : ModuleNode}
    (present : (ofDeclarations declarations).nodes[number]? = some node) :
    node.path?.isSome ↔ number < (declarations.map (·.name)).eraseDups.length := by
  have bears : ((ofDeclarations declarations).nodes.toList.map (·.name))[number]? =
      some node.name := by
    simp [present]
  rw [names_ofDeclarations, List.getElem?_append] at bears
  split at bears
  · rename_i inside
    have declared := List.mem_eraseDups.mp (List.mem_of_getElem? bears)
    rcases kind_of_node present with ⟨located, _⟩ | ⟨_, absent⟩
    · exact iff_of_true located inside
    · exact absurd declared absent
  · rename_i outside
    have used := List.mem_eraseDups.mp (List.mem_of_getElem? bears)
    have absent := of_decide_eq_true (List.mem_filter.mp used).2
    rcases kind_of_node present with ⟨_, declared⟩ | ⟨bare, _⟩
    · exact absurd declared absent
    · rw [bare]
      exact iff_of_false nofun outside

/-- A node without a file stands for a name that is used and not declared. -/
theorem isolated_of_fileless {declarations : List Declaration} {number : Nat} {node : ModuleNode}
    (present : (ofDeclarations declarations).nodes[number]? = some node)
    (missing : node.path? = none) :
    node.instances = [] ∧ (∀ edge ∈ (ofDeclarations declarations).edges, edge.1 ≠ number) ∧
      ∃ edge ∈ (ofDeclarations declarations).edges, edge.2 = number := by
  have complete := complete_ofDeclarations declarations
  have kind := kind_of_node present
  simp only [missing, Option.isSome_none, Bool.false_eq_true, false_and, false_or] at kind
  obtain ⟨bare, absent⟩ := kind
  have empty : node.instances = [] := congrArg ModuleNode.instances bare
  refine ⟨empty, ?_, ?_⟩
  · rintro edge member rfl
    apply instances_of_edge complete member
    simp [instancesAt, present, empty]
  · have listed : node.name ∈ (ofDeclarations declarations).nodes.toList.map (·.name) :=
      List.mem_map.mpr ⟨node, Array.mem_toList_iff.mpr (Array.mem_of_getElem? present), rfl⟩
    rw [names_ofDeclarations, List.mem_append, List.mem_eraseDups, List.mem_eraseDups] at listed
    have used := (List.mem_filter.mp (listed.resolve_left absent)).1
    rw [← map_snd_uses] at used
    exact edge_of_use complete used (complete.numbered.found number node present)

theorem fileFor?_eq_some_iff (consistent : Consistent graph) {name path : String} :
    graph.fileFor? name = some path ↔ ∃ number node, graph.nodeNumber? name = some number ∧
      graph.nodes[number]? = some node ∧ node.path? = some path := by
  rw [consistent.filed, Option.bind_eq_some_iff]
  constructor
  · intro given
    obtain ⟨node, found, located⟩ := given
    obtain ⟨number, known, present⟩ := node?_eq_some_iff.mp found
    exact ⟨number, node, known, present, located⟩
  · intro given
    obtain ⟨number, node, known, present, located⟩ := given
    exact ⟨node, node?_eq_some_iff.mpr ⟨number, known, present⟩, located⟩

theorem node_of_lastNamed? {declarations : List Declaration} {name : String} {last : Declaration}
    (found : lastNamed? declarations name = some last) :
    ∃ number, (ofDeclarations declarations).nodeNumber? name = some number ∧
      (ofDeclarations declarations).nodes[number]? = some last.node := by
  have known : (ofDeclarations declarations).node? name = some last.node := by
    rw [node?_ofDeclarations, found]
    rfl
  exact node?_eq_some_iff.mp known

/-- The graph made from declarations represents them, whatever names these repeat or use. -/
theorem represents_ofDeclarations (declarations : List Declaration) :
    (ofDeclarations declarations).Represents declarations := by
  have complete := complete_ofDeclarations declarations
  exact {
    numbered := complete.numbered.found
    held := complete.numbered.held
    distinct := complete.numbered.names_nodup
    filed := fun _ _ => fileFor?_eq_some_iff complete.toConsistent
    kept := fun _ _ => node_of_lastNamed?
    ordered := names_ofDeclarations declarations
    parted := fun _ _ => hasFile_iff_number_lt
    bare := fun _ _ => isolated_of_fileless
    edged := edges_eq_uses complete }

end HdlClosure.ModuleGraph
