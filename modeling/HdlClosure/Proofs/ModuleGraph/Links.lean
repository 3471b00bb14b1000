import HdlClosure.ModuleGraph.Reach
import HdlClosure.Proofs.ModuleGraph.Entries

namespace HdlClosure.ModuleGraph

variable {graph : ModuleGraph}

def instancesAt (graph : ModuleGraph) (number : Nat) : List String :=
  ((graph.nodes[number]?).map (·.instances)).getD []

def children (graph : ModuleGraph) (number : Nat) : List Nat :=
  match graph.nodes[number]? with
  | some node => node.instances.filterMap graph.nodeNumber?
  | none => []

theorem children_eq (graph : ModuleGraph) (number : Nat) :
    graph.children number = (graph.instancesAt number).filterMap graph.nodeNumber? := by
  unfold children instancesAt
  cases graph.nodes[number]? <;> rfl

theorem map_instancesAt (graph : ModuleGraph) :
    (List.range graph.nodes.size).map graph.instancesAt =
      graph.nodes.toList.map (·.instances) := by
  apply List.ext_getElem
  · simp
  · intro number first second
    have inside : number < graph.nodes.size := by simpa using first
    simp [instancesAt, inside]

/-- All uses, in the order in which the edges are made: a name with the number of the module that
instantiates it. -/
def uses (graph : ModuleGraph) : List (Nat × String) :=
  (List.range graph.nodes.size).flatMap fun parent => (graph.instancesAt parent).map (parent, ·)

def referUse (graph : ModuleGraph) (use : Nat × String) : ModuleGraph := refer use.1 graph use.2

section Refer

/-- The node that a use asks for: a new one only where the name has none. -/
theorem node?_refer (consistent : Consistent graph) (parent : Nat) (name key : String) :
    (refer parent graph name).node? key =
      (graph.node? key).or (if name = key then some (.bare name) else none) := by
  unfold refer
  split
  · rename_i child known
    change graph.node? key = _
    by_cases same : name = key
    · subst key
      have present : graph.node? name ≠ none := by
        rw [node?, Ne, consistent.numbered.slot?_eq_none_iff, known]
        simp
      cases held : graph.node? name with
      | none => exact absurd held present
      | some node => rfl
    · simp [same]
  · rename_i unknown
    have absent : graph.node? name = none :=
      (consistent.numbered.slot?_eq_none_iff name).mpr unknown
    have pushed := consistent.numbered.slot?_push (.bare name) key
    refine pushed.trans ?_
    change (if name = key then _ else graph.node? key) = _
    split
    · rename_i same
      rw [← same, absent]
      rfl
    · simp

theorem consistent_refer (consistent : Consistent graph) (parent : Nat) (name : String) :
    Consistent (refer parent graph name) := by
  constructor
  · unfold refer
    split
    · exact consistent.numbered
    · rename_i unknown
      exact consistent.numbered.push (.bare name) unknown
  · intro key
    have files : (refer parent graph name).fileFor? key = graph.fileFor? key := by
      unfold refer
      split <;> rfl
    rw [files, node?_refer consistent, consistent.filed]
    cases graph.node? key with
    | some node => rfl
    | none => split <;> rfl

theorem edges_refer (graph : ModuleGraph) (parent : Nat) (name : String) :
    ∃ child, (refer parent graph name).nodeNumber? name = some child ∧
      (refer parent graph name).edges = graph.edges.push (parent, child) := by
  unfold refer
  split
  · rename_i child known
    exact ⟨child, known, rfl⟩
  · exact ⟨graph.nodes.size, by simp [nodeNumber?], rfl⟩

/-- A graph may grow by nodes without instances: what is numbered keeps its number, and what a
module instantiates stays the same. -/
structure Grows (before after : ModuleGraph) : Prop where
  numbers : ∀ name number, before.nodeNumber? name = some number →
    after.nodeNumber? name = some number
  instances : ∀ number, after.instancesAt number = before.instancesAt number
  size : before.nodes.size ≤ after.nodes.size

theorem Grows.refl (graph : ModuleGraph) : Grows graph graph :=
  ⟨fun _ _ known => known, fun _ => rfl, Nat.le_refl _⟩

theorem Grows.trans {before middle after : ModuleGraph} (first : Grows before middle)
    (second : Grows middle after) : Grows before after :=
  ⟨fun name number known => second.numbers name number (first.numbers name number known),
    fun number => (second.instances number).trans (first.instances number),
    Nat.le_trans first.size second.size⟩

theorem grows_refer (graph : ModuleGraph) (parent : Nat) (name : String) :
    Grows graph (refer parent graph name) := by
  unfold refer
  split
  · exact ⟨fun _ _ known => known, fun _ => rfl, Nat.le_refl _⟩
  · rename_i unknown
    refine ⟨?_, ?_, by simp⟩
    · intro key number known
      have other : name ≠ key := by
        intro same
        subst key
        rw [nodeNumber?, unknown] at known
        cases known
      simpa [nodeNumber?, Std.TreeMap.getElem?_insert, other] using known
    · intro number
      unfold instancesAt
      by_cases last : number = graph.nodes.size
      · simp [last]
      · simp [Array.getElem?_push, last]

end Refer

section Uses

theorem grows_uses (pending : List (Nat × String)) (graph : ModuleGraph) :
    Grows graph (pending.foldl referUse graph) := by
  induction pending generalizing graph with
  | nil => exact .refl graph
  | cons use rest ih => exact (grows_refer graph use.1 use.2).trans (ih (graph.referUse use))

theorem consistent_uses (consistent : Consistent graph) (pending : List (Nat × String)) :
    Consistent (pending.foldl referUse graph) := by
  induction pending generalizing graph with
  | nil => exact consistent
  | cons use rest ih => exact ih (consistent_refer consistent use.1 use.2)

theorem node?_uses (consistent : Consistent graph) (pending : List (Nat × String)) (key : String) :
    (pending.foldl referUse graph).node? key =
      (graph.node? key).or (if key ∈ pending.map (·.2) then some (.bare key) else none) := by
  induction pending generalizing graph with
  | nil => simp
  | cons use rest ih =>
    rw [List.foldl_cons, referUse, ih (consistent_refer consistent use.1 use.2),
      node?_refer consistent, Option.or_assoc]
    congr 1
    simp only [List.map_cons, List.mem_cons]
    by_cases same : use.2 = key
    · simp [same]
    · simp only [same, Ne.symm same, ↓reduceIte, Option.none_or, false_or]

/-- Each use adds one edge, to the node that its name has in the end. -/
theorem edges_uses (pending : List (Nat × String)) (graph : ModuleGraph) :
    (pending.foldl referUse graph).edges.toList = graph.edges.toList ++
      pending.filterMap fun use =>
        ((pending.foldl referUse graph).nodeNumber? use.2).map (use.1, ·) := by
  induction pending generalizing graph with
  | nil => simp
  | cons use rest ih =>
    obtain ⟨child, known, edge⟩ := edges_refer graph use.1 use.2
    have kept := (grows_uses rest (graph.referUse use)).numbers use.2 child known
    rw [List.foldl_cons, ih, List.filterMap_cons, kept, referUse, edge]
    simp

theorem known_uses {pending : List (Nat × String)} {use : Nat × String} (member : use ∈ pending)
    (graph : ModuleGraph) :
    ∃ child, (pending.foldl referUse graph).nodeNumber? use.2 = some child := by
  induction pending generalizing graph with
  | nil => cases member
  | cons first rest ih =>
    rcases List.mem_cons.mp member with same | later
    · subst first
      obtain ⟨child, known, _⟩ := edges_refer graph use.1 use.2
      exact ⟨child, (grows_uses rest (graph.referUse use)).numbers use.2 child known⟩
    · exact ih later (graph.referUse first)

theorem link_eq (graph : ModuleGraph) (parent : Nat) :
    graph.link parent = ((graph.instancesAt parent).map (parent, ·)).foldl referUse graph := by
  rw [List.foldl_map]
  unfold link instancesAt
  cases graph.nodes[parent]? <;> rfl

/-- Linking changes no instances, so that all uses can be read off the graph at the start. -/
theorem foldl_link (parents : List Nat) (graph : ModuleGraph) :
    parents.foldl link graph =
      (parents.flatMap fun parent => (graph.instancesAt parent).map (parent, ·)).foldl
        referUse graph := by
  induction parents generalizing graph with
  | nil => rfl
  | cons parent rest ih =>
    have same : (graph.link parent).instancesAt = graph.instancesAt := by
      rw [link_eq]
      exact funext (grows_uses _ graph).instances
    rw [List.foldl_cons, ih, same, List.flatMap_cons, List.foldl_append, ← link_eq]

theorem ofDeclarations_eq (declarations : List Declaration) :
    ofDeclarations declarations =
      (declared declarations).uses.foldl referUse (declared declarations) :=
  foldl_link _ _

end Uses

/-- A graph whose tables go together, in which every instance has a node, and whose edges are its
instantiations in order. -/
structure Complete (graph : ModuleGraph) : Prop extends Consistent graph where
  linked : ∀ number, ∀ name ∈ graph.instancesAt number, ∃ child, graph.nodeNumber? name = some child
  edged : graph.edges.toList = (List.range graph.nodes.size).flatMap fun parent =>
    (graph.children parent).map (parent, ·)

theorem map_some_children (complete : Complete graph) (number : Nat) :
    (graph.children number).map some = (graph.instancesAt number).map graph.nodeNumber? := by
  rw [children_eq, List.map_filterMap_some_eq_filter_map_isSome, List.filter_eq_self]
  intro child? member
  obtain ⟨name, listed, rfl⟩ := List.mem_map.mp member
  obtain ⟨child, known⟩ := complete.linked number name listed
  simp [known]

/-- Beyond the last node there is nothing to list. -/
theorem flatMap_range_of_le {α : Type} {few many : Nat} (le : few ≤ many) (list : Nat → List α)
    (beyond : ∀ number, few ≤ number → list number = []) :
    (List.range many).flatMap list = (List.range few).flatMap list := by
  obtain ⟨more, rfl⟩ := Nat.exists_eq_add_of_le le
  rw [List.range_add, List.flatMap_append, List.append_right_eq_self, List.flatMap_eq_nil_iff]
  intro number member
  obtain ⟨step, _, rfl⟩ := List.mem_map.mp member
  exact beyond (few + step) (Nat.le_add_right few step)

theorem instancesAt_eq_nil {number : Nat} (beyond : graph.nodes.size ≤ number) :
    graph.instancesAt number = [] := by
  simp [instancesAt, beyond]

theorem uses_eq_of_grows {before after : ModuleGraph} (grows : Grows before after) :
    after.uses = before.uses := by
  unfold uses
  rw [funext grows.instances]
  apply flatMap_range_of_le grows.size
  intro number beyond
  simp [instancesAt_eq_nil beyond]

theorem mem_uses {use : Nat × String} : use ∈ graph.uses ↔ use.2 ∈ graph.instancesAt use.1 := by
  obtain ⟨parent, name⟩ := use
  constructor
  · intro member
    obtain ⟨number, _, listed⟩ := List.mem_flatMap.mp member
    obtain ⟨instantiated, present, same⟩ := List.mem_map.mp listed
    cases same
    exact present
  · intro present
    have inside : parent < graph.nodes.size := by
      by_contra beyond
      rw [instancesAt_eq_nil (Nat.le_of_not_lt beyond)] at present
      cases present
    exact List.mem_flatMap.mpr
      ⟨parent, List.mem_range.mpr inside, List.mem_map.mpr ⟨name, present, rfl⟩⟩

theorem complete_ofDeclarations (declarations : List Declaration) :
    Complete (ofDeclarations declarations) := by
  have grows := grows_uses (declared declarations).uses (declared declarations)
  rw [← ofDeclarations_eq] at grows
  refine ⟨?_, ?_, ?_⟩
  · rw [ofDeclarations_eq]
    exact consistent_uses (consistent_declared declarations) _
  · intro number name present
    rw [grows.instances] at present
    rw [ofDeclarations_eq]
    have use : (number, name) ∈ (declared declarations).uses := mem_uses.mpr present
    exact known_uses use _
  · have edges := edges_uses (declared declarations).uses (declared declarations)
    rw [← ofDeclarations_eq, (untouched_declared _).1, ← uses_eq_of_grows grows] at edges
    rw [edges, uses]
    simp [children_eq, List.filterMap_flatMap, List.filterMap_map, List.map_filterMap]

section Queries

/-- A name is known as its last declaration, or else as an instance of one that counts. -/
theorem node?_ofDeclarations (declarations : List Declaration) (name : String) :
    (ofDeclarations declarations).node? name =
      ((lastNamed? declarations name).map Declaration.node).or
        (if name ∈ (declared declarations).uses.map (·.2) then some (.bare name) else none) := by
  rw [ofDeclarations_eq, node?_uses (consistent_declared declarations), node?_declared]

theorem mem_uses_declared {declarations : List Declaration} {name : String} :
    name ∈ (declared declarations).uses.map (·.2) ↔
      ∃ parent last, lastNamed? declarations parent = some last ∧ name ∈ last.instances := by
  have numbered := (consistent_declared declarations).numbered
  constructor
  · intro member
    obtain ⟨⟨number, used⟩, present, rfl⟩ := List.mem_map.mp member
    have listed := mem_uses.mp present
    unfold instancesAt at listed
    cases placed : (declared declarations).nodes[number]? with
    | none => simp [placed] at listed
    | some node =>
      have known := numbered.slot?_eq_some_iff.mpr ⟨Array.mem_of_getElem? placed, rfl⟩
      rw [← node?, node?_declared, Option.map_eq_some_iff] at known
      obtain ⟨last, found, rfl⟩ := known
      exact ⟨_, last, found, by simpa [placed, Declaration.node] using listed⟩
  · intro given
    obtain ⟨parent, last, found, listed⟩ := given
    have known : (declared declarations).node? parent = some last.node := by
      rw [node?_declared, found]
      rfl
    obtain ⟨present, _⟩ := numbered.slot?_eq_some_iff.mp known
    obtain ⟨number, placed⟩ := Array.mem_iff_getElem?.mp present
    exact List.mem_map.mpr
      ⟨(number, name), mem_uses.mpr (by simpa [instancesAt, placed, Declaration.node]), rfl⟩

theorem submodules_ofDeclarations (declarations : List Declaration) (name : String) :
    (ofDeclarations declarations).submodules name =
      ((lastNamed? declarations name).map (·.instances)).getD [] := by
  rw [submodules_eq, node?_ofDeclarations]
  cases lastNamed? declarations name with
  | some last => rfl
  | none => split <;> rfl

theorem fileFor?_ofDeclarations (declarations : List Declaration) (name : String) :
    (ofDeclarations declarations).fileFor? name =
      (lastNamed? declarations name).map (·.path) := by
  rw [(complete_ofDeclarations declarations).filed, node?_ofDeclarations]
  cases lastNamed? declarations name with
  | some last => rfl
  | none => split <;> rfl

end Queries

end HdlClosure.ModuleGraph
