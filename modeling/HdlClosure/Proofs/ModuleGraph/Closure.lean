import HdlClosure.Proofs.ModuleGraph.Links
import Mathlib.Data.Set.Basic
import Mathlib.Logic.Relation
import Mathlib.Order.Bounds.Defs

namespace HdlClosure.ModuleGraph

variable {graph : ModuleGraph}

def Instantiates (graph : ModuleGraph) (parent child : String) : Prop :=
  child ∈ graph.submodules parent

/-- A chain of instantiations, possibly empty, leads from one name to another. -/
def Reaches (graph : ModuleGraph) : String → String → Prop :=
  Relation.ReflTransGen graph.Instantiates

section Edges

private theorem flatMap_range_single (count number : Nat) (list : List Nat) :
    ((List.range count).flatMap fun parent => if parent = number then list else []) =
      if number < count then list else [] := by
  induction count with
  | zero => simp
  | succ count ih =>
    rw [List.range_succ, List.flatMap_append, ih]
    by_cases last : count = number
    · simp [last]
    · by_cases inside : number < count
      · simp [last, inside, Nat.lt_succ_of_lt inside]
      · have outside : ¬ number < count + 1 := by omega
        simp [last, inside, outside]

/-- The edges that leave a node are its instantiations, in order. -/
theorem successors_eq_children (complete : Complete graph) (number : Nat) :
    graph.successors number = graph.children number := by
  have ends (parent : Nat) : ((graph.children parent).map (parent, ·)).filterMap
      (fun edge => if edge.1 = number then some edge.2 else none) =
        if parent = number then graph.children number else [] := by
    by_cases same : parent = number
    · simp [same, List.filterMap_map]
    · simp [same, List.filterMap_map]
  rw [successors, complete.edged, List.filterMap_flatMap]
  simp only [ends, flatMap_range_single]
  split
  · rfl
  · rename_i outside
    rw [children_eq, instancesAt_eq_nil (Nat.le_of_not_lt outside)]
    rfl

end Edges

section Names

theorem nodeNumber?_eq_some_iff (consistent : Consistent graph) {number : Nat} {node : ModuleNode}
    (present : graph.nodes[number]? = some node) (name : String) :
    graph.nodeNumber? name = some number ↔ node.name = name := by
  constructor
  · intro known
    obtain ⟨other, placed, bears⟩ := consistent.numbered.held name number known
    have same := Option.some.inj (present.symm.trans placed)
    rw [same, bears]
  · rintro rfl
    exact consistent.numbered.found number node present

theorem submodules_of_number {name : String} {number : Nat}
    (known : graph.nodeNumber? name = some number) :
    graph.submodules name = graph.instancesAt number := by
  unfold submodules instancesAt
  rw [known, Option.bind_some]
  cases graph.nodes[number]? <;> rfl

theorem submodules_of_unknown {name : String} (unknown : graph.nodeNumber? name = none) :
    graph.submodules name = [] := by
  simp [submodules, unknown]

/-- An edge leads from a numbered module to each of its instances. -/
theorem successor_of_instantiates (complete : Complete graph) {parent child : String}
    {number : Nat} (known : graph.nodeNumber? parent = some number)
    (edge : graph.Instantiates parent child) :
    ∃ next ∈ graph.successors number, graph.nodeNumber? child = some next := by
  have listed : child ∈ graph.instancesAt number := submodules_of_number known ▸ edge
  obtain ⟨next, found⟩ := complete.linked number child listed
  rw [successors_eq_children complete, children_eq]
  exact ⟨next, List.mem_filterMap.mpr ⟨child, listed, found⟩, found⟩

/-- At the end of an edge stands the node of an instance. -/
theorem instantiates_of_successor (complete : Complete graph) {number next : Nat}
    {node : ModuleNode} (present : graph.nodes[number]? = some node)
    (member : next ∈ graph.successors number) :
    ∃ child, graph.nodes[next]? = some child ∧ graph.Instantiates node.name child.name := by
  rw [successors_eq_children complete, children_eq] at member
  obtain ⟨name, listed, found⟩ := List.mem_filterMap.mp member
  obtain ⟨child, placed, rfl⟩ := complete.numbered.held name next found
  have known := (nodeNumber?_eq_some_iff complete.toConsistent present node.name).mpr rfl
  refine ⟨child, placed, ?_⟩
  rw [Instantiates, submodules_of_number known]
  exact listed

end Names

/-- How far a search from some roots has come. What is seen or waiting is reached, the roots are
among it, what the edges of the seen lead to is too, and the names are those of what is seen, with the
roots that have no node. -/
structure Search.Valid (graph : ModuleGraph) (roots : List String) (search : Search) : Prop where
  reached : ∀ number, number ∈ search.seen ∨ number ∈ search.stack →
    ∃ node, graph.nodes[number]? = some node ∧ ∃ root ∈ roots, graph.Reaches root node.name
  begun : ∀ root ∈ roots, ∀ number, graph.nodeNumber? root = some number →
    number ∈ search.seen ∨ number ∈ search.stack
  closed : ∀ number ∈ search.seen, ∀ next ∈ graph.successors number,
    next ∈ search.seen ∨ next ∈ search.stack
  named : ∀ name, name ∈ search.names ↔
    (∃ number ∈ search.seen, graph.nodeNumber? name = some number) ∨
      (name ∈ roots ∧ graph.nodeNumber? name = none)

namespace Search

variable {roots : List String} {search : Search}

theorem valid_empty (graph : ModuleGraph) : Valid graph [] {} :=
  ⟨by simp, by simp, by simp, by simp⟩

theorem pop_seen {number : Nat} {rest : List Nat} (waiting : search.stack = number :: rest)
    (seen : number ∈ search.seen) : search.pop graph = { search with stack := rest } := by
  simp [pop, waiting, Std.TreeSet.contains_iff_mem.mpr seen]

/-- A node that was not seen before is collected, and what its edges lead to waits. -/
theorem pop_unseen {number : Nat} {rest : List Nat} {node : ModuleNode}
    (waiting : search.stack = number :: rest) (unseen : number ∉ search.seen)
    (present : graph.nodes[number]? = some node) :
    search.pop graph =
      { seen := search.seen.insert number
        stack := ((graph.successors number).filter fun next =>
          !(search.seen.insert number).contains next) ++ rest
        names := search.names.insert node.name } := by
  have absent : ¬ search.seen.contains number = true :=
    fun found => unseen (Std.TreeSet.contains_iff_mem.mp found)
  simp only [pop, waiting, present, if_neg absent]

theorem valid_drop {number : Nat} {rest : List Nat} (valid : Valid graph roots search)
    (waiting : search.stack = number :: rest) (seen : number ∈ search.seen) :
    Valid graph roots { search with stack := rest } := by
  have move (other : Nat) (known : other ∈ search.seen ∨ other ∈ search.stack) :
      other ∈ search.seen ∨ other ∈ rest := by
    rw [waiting, List.mem_cons] at known
    rcases known with old | same | later
    · exact .inl old
    · exact .inl (same ▸ seen)
    · exact .inr later
  refine ⟨?_, ?_, ?_, valid.named⟩
  · intro other known
    apply valid.reached other
    rw [waiting, List.mem_cons]
    exact known.imp_right .inr
  · exact fun root member start known => move start (valid.begun root member start known)
  · exact fun other old child edge => move child (valid.closed other old child edge)

theorem mem_seen_insert {seen : Std.TreeSet Nat} {number other : Nat} :
    other ∈ seen.insert number ↔ number = other ∨ other ∈ seen := by
  rw [Std.TreeSet.mem_insert, Std.LawfulEqCmp.compare_eq_iff_eq]

theorem valid_visit {number : Nat} {rest fresh : List Nat} {node : ModuleNode}
    (complete : Complete graph) (valid : Valid graph roots search)
    (waiting : search.stack = number :: rest) (present : graph.nodes[number]? = some node)
    (along : ∀ next ∈ fresh, next ∈ graph.successors number)
    (covered : ∀ next ∈ graph.successors number,
      next ∈ search.seen.insert number ∨ next ∈ fresh) :
    Valid graph roots
      { seen := search.seen.insert number
        stack := fresh ++ rest
        names := search.names.insert node.name } := by
  obtain ⟨same, placed, root, member, path⟩ := valid.reached number (.inr (by simp [waiting]))
  obtain rfl := Option.some.inj (present.symm.trans placed)
  -- The node only moves from the stack to what is seen; nothing else leaves either of them.
  have move (other : Nat) (known : other ∈ search.seen ∨ other ∈ search.stack) :
      other ∈ search.seen.insert number ∨ other ∈ fresh ++ rest := by
    rw [waiting, List.mem_cons] at known
    rcases known with old | same | later
    · exact .inl (mem_seen_insert.mpr (.inr old))
    · exact .inl (mem_seen_insert.mpr (.inl same.symm))
    · exact .inr (List.mem_append_right _ later)
  refine ⟨?_, ?_, ?_, ?_⟩
  · intro other given
    rcases given with found | waits
    · rcases mem_seen_insert.mp found with rfl | old
      · exact ⟨node, present, root, member, path⟩
      · exact valid.reached other (.inl old)
    -- What is new on the stack lies one edge behind the node, so its path is one step longer.
    · rcases List.mem_append.mp waits with new | later
      · obtain ⟨child, placed, edge⟩ := instantiates_of_successor complete present (along _ new)
        exact ⟨child, placed, root, member, path.tail edge⟩
      · exact valid.reached other (.inr (by simp [waiting, later]))
  · exact fun root member start known => move start (valid.begun root member start known)
  · intro other found next edge
    rcases mem_seen_insert.mp found with rfl | old
    · exact (covered next edge).imp_right (List.mem_append_left _)
    · exact move next (valid.closed other old next edge)
  · intro name
    have bears := nodeNumber?_eq_some_iff complete.toConsistent present name
    rw [Std.TreeSet.mem_insert, Std.LawfulEqCmp.compare_eq_iff_eq, valid.named, ← or_assoc]
    refine or_congr_left ?_
    constructor
    · intro given
      rcases given with same | ⟨other, old, known⟩
      · exact ⟨number, mem_seen_insert.mpr (.inl rfl), bears.mpr same⟩
      · exact ⟨other, mem_seen_insert.mpr (.inr old), known⟩
    · intro given
      obtain ⟨other, found, known⟩ := given
      rcases mem_seen_insert.mp found with rfl | old
      · exact .inl (bears.mp known)
      · exact .inr ⟨other, old, known⟩

theorem valid_pop (complete : Complete graph) (valid : Valid graph roots search) :
    Valid graph roots (search.pop graph) := by
  cases waiting : search.stack with
  | nil => simpa [pop, waiting] using valid
  | cons number rest =>
    by_cases seen : number ∈ search.seen
    · rw [pop_seen waiting seen]
      exact valid_drop valid waiting seen
    · obtain ⟨node, present, _⟩ := valid.reached number (.inr (by simp [waiting]))
      rw [pop_unseen waiting seen present]
      apply valid_visit complete valid waiting present
      · exact fun next member => (List.mem_filter.mp member).1
      · intro next edge
        by_cases known : next ∈ search.seen.insert number
        · exact .inl known
        · refine .inr (List.mem_filter.mpr ⟨edge, ?_⟩)
          rw [Bool.not_eq_true', Bool.eq_false_iff]
          exact fun found => known (Std.TreeSet.contains_iff_mem.mp found)

theorem valid_run (complete : Complete graph) (valid : Valid graph roots search) (steps : Nat) :
    Valid graph roots (run graph steps search) := by
  induction steps generalizing search with
  | zero => exact valid
  | succ steps ih =>
    unfold run
    split
    · exact valid
    · exact ih (valid_pop complete valid)

def unseenEdges (graph : ModuleGraph) (seen : Std.TreeSet Nat) : Nat :=
  graph.edges.toList.countP fun edge => !seen.contains edge.1

/-- The nodes that the search can still take from its stack. -/
def budget (graph : ModuleGraph) (search : Search) : Nat :=
  search.stack.length + unseenEdges graph search.seen

theorem unseenEdges_le (graph : ModuleGraph) (seen : Std.TreeSet Nat) :
    unseenEdges graph seen ≤ graph.edges.size := by
  simpa [unseenEdges] using List.countP_le_length (l := graph.edges.toList)

private theorem countP_insert (edges : List (Nat × Nat)) {seen : Std.TreeSet Nat} {number : Nat}
    (unseen : seen.contains number = false) :
    edges.countP (fun edge => !(seen.insert number).contains edge.1) +
        (edges.filterMap fun edge => if edge.1 = number then some edge.2 else none).length =
      edges.countP fun edge => !seen.contains edge.1 := by
  induction edges with
  | nil => rfl
  | cons edge rest ih =>
    rw [List.countP_cons, List.countP_cons, List.filterMap_cons, ← ih]
    by_cases same : edge.1 = number
    · simp [same, unseen]
      omega
    · simp [same, Ne.symm same, Std.TreeSet.contains_insert]
      omega

/-- Seeing a node uses up the edges that leave it. -/
theorem unseenEdges_insert (graph : ModuleGraph) {seen : Std.TreeSet Nat} {number : Nat}
    (unseen : seen.contains number = false) :
    unseenEdges graph (seen.insert number) + (graph.successors number).length =
      unseenEdges graph seen :=
  countP_insert graph.edges.toList unseen

/-- Every step takes a node for good: it may put others on the stack, but only along edges that are
used up by that. -/
theorem budget_pop_lt (graph : ModuleGraph) (waiting : search.stack ≠ []) :
    budget graph (search.pop graph) < budget graph search := by
  cases stack : search.stack with
  | nil => exact absurd stack waiting
  | cons number rest =>
    unfold budget pop
    simp only [stack, List.length_cons]
    split
    · simp
    · rename_i absent
      have unseen := Bool.eq_false_iff.mpr absent
      have used := unseenEdges_insert graph unseen
      have kept := List.length_filter_le
        (fun next => !(search.seen.insert number).contains next) (graph.successors number)
      simp only [List.length_append]
      omega

theorem run_drained {steps : Nat}
    (enough : budget graph search ≤ steps) : (run graph steps search).stack = [] := by
  induction steps generalizing search with
  | zero =>
    have empty : search.stack = [] :=
      List.length_eq_zero_iff.mp (by unfold budget at enough; omega)
    exact empty
  | succ steps ih =>
    unfold run
    split
    · assumption
    · rename_i waiting
      have less := budget_pop_lt graph waiting
      exact ih (by omega)

theorem valid_begin {root : String} {number : Nat} (consistent : Consistent graph)
    (valid : Valid graph roots search) (drained : search.stack = [])
    (known : graph.nodeNumber? root = some number) :
    Valid graph (roots ++ [root]) { search with stack := [number] } := by
  have seen (other : Nat) (found : other ∈ search.seen ∨ other ∈ search.stack) :
      other ∈ search.seen := by
    rw [drained] at found
    exact found.resolve_right List.not_mem_nil
  refine ⟨?_, ?_, ?_, ?_⟩
  · intro other given
    rcases given with old | start
    · obtain ⟨node, present, first, member, path⟩ := valid.reached other (.inl old)
      exact ⟨node, present, first, List.mem_append_left _ member, path⟩
    · obtain rfl := List.mem_singleton.mp start
      obtain ⟨node, present, rfl⟩ := consistent.numbered.held root other known
      exact ⟨node, present, node.name, by simp, .refl⟩
  · intro first member start found
    rcases List.mem_append.mp member with old | new
    · exact .inl (seen start (valid.begun first old start found))
    · obtain rfl := List.mem_singleton.mp new
      exact .inr (by simpa using Option.some.inj (found.symm.trans known))
  · exact fun other old child edge => .inl (seen child (valid.closed other old child edge))
  · intro name
    rw [valid.named]
    -- The new root has a node, so that it is none of the roots that are collected without one.
    refine or_congr_right (and_congr_left fun unknown => ?_)
    have other : name ≠ root := by
      rintro rfl
      rw [unknown] at known
      cases known
    simp [other]

theorem valid_collect {root : String} (valid : Valid graph roots search)
    (unknown : graph.nodeNumber? root = none) :
    Valid graph (roots ++ [root]) { search with names := search.names.insert root } := by
  refine ⟨?_, ?_, valid.closed, ?_⟩
  · intro other found
    obtain ⟨node, present, first, member, path⟩ := valid.reached other found
    exact ⟨node, present, first, List.mem_append_left _ member, path⟩
  · intro first member start found
    rcases List.mem_append.mp member with old | new
    · exact valid.begun first old start found
    · obtain rfl := List.mem_singleton.mp new
      rw [unknown] at found
      cases found
  · intro name
    rw [Std.TreeSet.mem_insert, Std.LawfulEqCmp.compare_eq_iff_eq, valid.named, List.mem_append,
      List.mem_singleton]
    constructor
    · intro given
      rcases given with rfl | seen | ⟨member, missing⟩
      · exact .inr ⟨.inr rfl, unknown⟩
      · exact .inl seen
      · exact .inr ⟨.inl member, missing⟩
    · intro given
      rcases given with seen | ⟨member | rfl, missing⟩
      · exact .inr (.inl seen)
      · exact .inr (.inr ⟨member, missing⟩)
      · exact .inl rfl

/-- A finished search can take one more root and finish again. -/
theorem valid_addRoot (complete : Complete graph) (valid : Valid graph roots search)
    (drained : search.stack = []) (root : String) :
    Valid graph (roots ++ [root]) (search.addRoot graph root) ∧
      (search.addRoot graph root).stack = [] := by
  unfold addRoot
  split
  · rename_i number known
    have enough : budget graph { search with stack := [number] } ≤ graph.edges.size + 1 := by
      have bound := unseenEdges_le graph search.seen
      simp only [budget, List.length_singleton]
      omega
    have begun := valid_begin complete.toConsistent valid drained known
    exact ⟨valid_run complete begun _, run_drained enough⟩
  · rename_i unknown
    exact ⟨valid_collect valid unknown, drained⟩

theorem valid_roots (complete : Complete graph) (roots : List String) :
    Valid graph roots (roots.foldl (addRoot graph) {}) ∧
      (roots.foldl (addRoot graph) {}).stack = [] := by
  induction roots using List.reverseRecOn with
  | nil => exact ⟨valid_empty graph, rfl⟩
  | append_singleton roots root ih =>
    rw [List.foldl_concat]
    exact valid_addRoot complete ih.1 ih.2 root

/-- A finished search has seen whatever its roots reach, as far as it has nodes. -/
theorem seen_of_reaches (complete : Complete graph) (valid : Valid graph roots search)
    (drained : search.stack = []) {root name : String} (member : root ∈ roots)
    (path : graph.Reaches root name) : name ∈ search.names := by
  rw [valid.named]
  induction path with
  | refl =>
    cases known : graph.nodeNumber? root with
    | none => exact .inr ⟨member, rfl⟩
    | some number =>
      have begun := valid.begun root member number known
      rw [drained] at begun
      exact .inl ⟨number, begun.resolve_right List.not_mem_nil, rfl⟩
  | @tail parent child _ edge ih =>
    -- A name without a node has no instances, so that no chain goes on from it.
    rcases ih with ⟨number, seen, known⟩ | ⟨_, unknown⟩
    · obtain ⟨next, listed, found⟩ := successor_of_instantiates complete known edge
      have closed := valid.closed number seen next listed
      rw [drained] at closed
      exact .inl ⟨next, closed.resolve_right List.not_mem_nil, found⟩
    · rw [Instantiates, submodules_of_unknown unknown] at edge
      cases edge

end Search

/-- A search finds what chains of instantiations lead to from one of its roots. -/
theorem mem_reach_iff (complete : Complete graph) {roots : List String} {name : String} :
    name ∈ graph.reach roots ↔ ∃ root ∈ roots, graph.Reaches root name := by
  obtain ⟨valid, drained⟩ := Search.valid_roots complete roots
  constructor
  · intro found
    rcases (valid.named name).mp found with ⟨number, seen, known⟩ | ⟨member, _⟩
    · obtain ⟨node, present, root, member, path⟩ := valid.reached number (.inl seen)
      rw [(nodeNumber?_eq_some_iff complete.toConsistent present name).mp known] at path
      exact ⟨root, member, path⟩
    · exact ⟨name, member, .refl⟩
  · intro given
    obtain ⟨root, member, path⟩ := given
    exact Search.seen_of_reaches complete valid drained member path

/-- What the roots need is the least set of names that holds the roots and, with a module, all that
the module instantiates: the names at the ends of chains of instantiations. The edges that the
search goes along lead from each node to the nodes of its instances, in order. -/
theorem isLeast_reach (declarations : List Declaration) (roots : List String) :
    let graph := ofDeclarations declarations
    (∀ name, name ∈ graph.reach roots ↔ ∃ root ∈ roots, graph.Reaches root name) ∧
      IsLeast { names : Set String | (∀ root ∈ roots, root ∈ names) ∧
          ∀ parent ∈ names, ∀ child ∈ graph.submodules parent, child ∈ names }
        { name | name ∈ graph.reach roots } ∧
      ∀ number, graph.children number = graph.successors number := by
  intro graph
  have complete := complete_ofDeclarations declarations
  have reached (name : String) : name ∈ graph.reach roots ↔
      ∃ root ∈ roots, graph.Reaches root name := mem_reach_iff complete
  refine ⟨reached, ⟨⟨?_, ?_⟩, ?_⟩, fun number => (successors_eq_children complete number).symm⟩
  · exact fun root member => (reached root).mpr ⟨root, member, .refl⟩
  · intro parent found child edge
    obtain ⟨root, member, path⟩ := (reached parent).mp found
    exact (reached child).mpr ⟨root, member, path.tail edge⟩
  · intro names bound name found
    obtain ⟨held, closed⟩ := bound
    obtain ⟨root, member, path⟩ := (reached name).mp found
    induction path with
    | refl => exact held root member
    | tail earlier edge ih =>
      exact closed _ (ih ((reached _).mpr ⟨root, member, earlier⟩)) _ edge

end HdlClosure.ModuleGraph
