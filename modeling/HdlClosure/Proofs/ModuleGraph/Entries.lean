import HdlClosure.ModuleGraph.Basic
import HdlClosure.Proofs.Numbering
import Mathlib.Data.List.Induction

namespace HdlClosure

def lastNamed? (declarations : List Declaration) (name : String) : Option Declaration :=
  declarations.reverse.find? (·.name == name)

theorem lastNamed?_concat (declarations : List Declaration) (last : Declaration) (name : String) :
    lastNamed? (declarations ++ [last]) name =
      if last.name = name then some last else lastNamed? declarations name := by
  by_cases same : last.name = name <;> simp [lastNamed?, same]

theorem lastNamed?_append (first second : List Declaration) (name : String) :
    lastNamed? (first ++ second) name =
      (lastNamed? second name).or (lastNamed? first name) := by
  simp [lastNamed?]

theorem name_of_lastNamed? {declarations : List Declaration} {name : String} {last : Declaration}
    (found : lastNamed? declarations name = some last) : last.name = name := by
  simpa using List.find?_some found

theorem mem_of_lastNamed? {declarations : List Declaration} {name : String} {last : Declaration}
    (found : lastNamed? declarations name = some last) : last ∈ declarations := by
  simpa using List.mem_of_find?_eq_some found

theorem lastNamed?_eq_none_iff {declarations : List Declaration} {name : String} :
    lastNamed? declarations name = none ↔ name ∉ declarations.map (·.name) := by
  simp [lastNamed?]

/-- Where no name is declared twice, the last declaration is the only one. -/
theorem lastNamed?_eq_some_iff {declarations : List Declaration} {name : String}
    {declaration : Declaration} (distinct : (declarations.map (·.name)).Nodup) :
    lastNamed? declarations name = some declaration ↔
      declaration ∈ declarations ∧ declaration.name = name := by
  constructor
  · exact fun found => ⟨mem_of_lastNamed? found, name_of_lastNamed? found⟩
  · intro given
    obtain ⟨member, same⟩ := given
    cases found : lastNamed? declarations name with
    | none =>
      have absent := lastNamed?_eq_none_iff.mp found
      exact absurd (List.mem_map.mpr ⟨declaration, member, same⟩) absent
    | some last =>
      have bears := name_of_lastNamed? found
      have equal := List.inj_on_of_nodup_map distinct (mem_of_lastNamed? found) member
        (bears.trans same.symm)
      rw [equal]

def Declaration.node (declaration : Declaration) : ModuleNode :=
  { name := declaration.name, path? := some declaration.path, instances := declaration.instances }

/-- The node of a name that is only instantiated. -/
def ModuleNode.bare (name : String) : ModuleNode := { name := name, path? := none, instances := [] }

namespace ModuleGraph

def node? (graph : ModuleGraph) (name : String) : Option ModuleNode :=
  Numbered.slot? graph.nodes graph.index name

/-- The tables of a graph go together: numbers lead to the nodes of their names, and the files are
those of the nodes. -/
structure Consistent (graph : ModuleGraph) : Prop where
  numbered : Numbered ModuleNode.name graph.nodes graph.index
  filed : ∀ name, graph.fileFor? name = (graph.node? name).bind (·.path?)

variable {graph : ModuleGraph}

theorem submodules_eq (graph : ModuleGraph) (name : String) :
    graph.submodules name = ((graph.node? name).map (·.instances)).getD [] := by
  unfold submodules node? Numbered.slot? nodeNumber?
  cases graph.index[name]?.bind (graph.nodes[·]?) <;> rfl

theorem contains_eq (consistent : Consistent graph) (name : String) :
    graph.contains name = (graph.node? name).isSome := by
  have unknown := consistent.numbered.slot?_eq_none_iff name
  rw [contains, Std.TreeMap.contains_eq_isSome_getElem?, node?]
  cases found : graph.index[name]? <;> cases held : Numbered.slot? graph.nodes graph.index name <;>
    simp_all

theorem consistent_empty : Consistent {} :=
  ⟨Numbered.empty _, fun name => by simp [fileFor?, node?, Numbered.slot?]⟩

section Declare

/-- Declaring changes what is known under one name. -/
theorem node?_declare (consistent : Consistent graph) (declaration : Declaration) (name : String) :
    (graph.declare declaration).node? name =
      if declaration.name = name then some declaration.node else graph.node? name := by
  unfold declare node?
  dsimp only
  split
  · rename_i number known
    exact consistent.numbered.slot?_replace declaration.node known name
  · exact consistent.numbered.slot?_push declaration.node name

theorem consistent_declare (consistent : Consistent graph) (declaration : Declaration) :
    Consistent (graph.declare declaration) := by
  constructor
  · unfold declare
    dsimp only
    split
    · rename_i number known
      exact consistent.numbered.replace declaration.node known
    · rename_i fresh
      exact consistent.numbered.push declaration.node fresh
  · intro name
    have files : (graph.declare declaration).fileFor? name =
        if declaration.name = name then some declaration.path else graph.fileFor? name := by
      unfold declare fileFor?
      dsimp only
      split <;> simp [Std.TreeMap.getElem?_insert]
    rw [files, node?_declare consistent, consistent.filed]
    split <;> rfl

/-- Declaring makes no edges and records no duplicates. -/
theorem untouched_declare (declaration : Declaration) :
    (graph.declare declaration).edges = graph.edges ∧
      (graph.declare declaration).duplicates = graph.duplicates := by
  unfold declare
  dsimp only
  split <;> exact ⟨rfl, rfl⟩

end Declare

/-- The graph of the declared modules alone, without edges. -/
def declared (declarations : List Declaration) : ModuleGraph := declarations.foldl declare {}

theorem declared_concat (declarations : List Declaration) (last : Declaration) :
    declared (declarations ++ [last]) = (declared declarations).declare last := by
  simp [declared]

theorem consistent_declared (declarations : List Declaration) :
    Consistent (declared declarations) := by
  induction declarations using List.reverseRecOn with
  | nil => exact consistent_empty
  | append_singleton declarations last ih =>
    rw [declared_concat]
    exact consistent_declare ih last

theorem node?_declared (declarations : List Declaration) (name : String) :
    (declared declarations).node? name = (lastNamed? declarations name).map Declaration.node := by
  induction declarations using List.reverseRecOn with
  | nil => simp [declared, node?, Numbered.slot?, lastNamed?]
  | append_singleton declarations last ih =>
    rw [declared_concat, node?_declare (consistent_declared declarations), lastNamed?_concat, ih]
    split <;> rfl

theorem untouched_declared (declarations : List Declaration) :
    (declared declarations).edges = #[] ∧ (declared declarations).duplicates = [] := by
  induction declarations using List.reverseRecOn with
  | nil => exact ⟨rfl, rfl⟩
  | append_singleton declarations last ih =>
    rw [declared_concat, (untouched_declare last).1, (untouched_declare last).2]
    exact ih

end ModuleGraph

end HdlClosure
