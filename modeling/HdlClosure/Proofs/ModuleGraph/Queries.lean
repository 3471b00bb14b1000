import HdlClosure.Proofs.ModuleGraph.Representation
import HdlClosure.Proofs.Text.ByteOrder

namespace HdlClosure

/-- A declaration of a list stands when no later one has its name. -/
def Stands (declarations : List Declaration) (declaration : Declaration) : Prop :=
  ∃ before after, declarations = before ++ declaration :: after ∧
    declaration.name ∉ after.map (·.name)

theorem stands_iff {declarations : List Declaration} {declaration : Declaration} :
    Stands declarations declaration ↔
      lastNamed? declarations declaration.name = some declaration := by
  rw [lastNamed?, List.find?_eq_some_iff_append]
  constructor
  · rintro ⟨before, after, rfl, fresh⟩
    refine ⟨beq_self_eq_true _, after.reverse, before.reverse, by simp, fun other member => ?_⟩
    rw [Bool.not_eq_true', beq_eq_false_iff_ne]
    exact fun same => fresh (List.mem_map.mpr ⟨other, List.mem_reverse.mp member, same⟩)
  · rintro ⟨_, after, before, split, fresh⟩
    refine ⟨before.reverse, after.reverse, ?_, fun member => ?_⟩
    · rw [← List.reverse_reverse declarations, split]
      simp
    · obtain ⟨other, later, same⟩ := List.mem_map.mp member
      have apart := fresh other (List.mem_reverse.mp later)
      rw [Bool.not_eq_true', beq_eq_false_iff_ne] at apart
      exact apart same

theorem exists_stands {declarations : List Declaration} {name : String}
    (declared : name ∈ declarations.map (·.name)) :
    ∃ last, Stands declarations last ∧ last.name = name := by
  cases found : lastNamed? declarations name with
  | none => exact absurd declared (lastNamed?_eq_none_iff.mp found)
  | some last =>
    obtain rfl := name_of_lastNamed? found
    exact ⟨last, stands_iff.mpr found, rfl⟩

namespace ModuleGraph

/-- A graph answers by the declarations that stand. -/
structure AnswersFor (graph : ModuleGraph) (declarations : List Declaration) : Prop where
  declared : ∀ name ∈ declarations.map (·.name), ∃ last, Stands declarations last ∧
    last.name = name ∧ graph.submodules name = last.instances ∧
      graph.fileFor? name = some last.path
  undeclared : ∀ name, name ∉ declarations.map (·.name) →
    graph.submodules name = [] ∧ graph.fileFor? name = none
  contains : ∀ name, graph.contains name = true ↔ name ∈ declarations.map (·.name) ∨
    ∃ last, Stands declarations last ∧ name ∈ last.instances
  ascending : graph.unresolved.Pairwise Text.Before
  unresolved : ∀ name, name ∈ graph.unresolved ↔
    graph.contains name = true ∧ name ∉ declarations.map (·.name)

section Answers

variable {graph : ModuleGraph} {declarations : List Declaration} {name : String}

/-- The uses of a graph are those of the declarations that stand. -/
theorem mem_uses_declared_iff_stands : name ∈ (declared declarations).uses.map (·.2) ↔
    ∃ last, Stands declarations last ∧ name ∈ last.instances := by
  rw [mem_uses_declared]
  constructor
  · rintro ⟨parent, last, found, listed⟩
    obtain rfl := name_of_lastNamed? found
    exact ⟨last, stands_iff.mpr found, listed⟩
  · rintro ⟨last, stands, listed⟩
    exact ⟨last.name, last, stands_iff.mp stands, listed⟩

theorem contains_ofDeclarations_iff : (ofDeclarations declarations).contains name = true ↔
    name ∈ declarations.map (·.name) ∨
      ∃ last, Stands declarations last ∧ name ∈ last.instances := by
  rw [contains_eq (complete_ofDeclarations declarations).toConsistent, node?_ofDeclarations,
    ← mem_uses_declared_iff_stands]
  cases found : lastNamed? declarations name with
  | none => simp [lastNamed?_eq_none_iff.mp found]
  | some last =>
    have declared : name ∈ declarations.map (·.name) :=
      List.mem_map.mpr ⟨last, mem_of_lastNamed? found, name_of_lastNamed? found⟩
    simp [declared]

/-- The names of the nodes of a kind, in the order of the nodes. -/
def namesOf (graph : ModuleGraph) (kind : ModuleNode → Bool) : List String :=
  (graph.nodes.toList.filter kind).map (·.name)

theorem nodup_namesOf (consistent : Consistent graph) (kind : ModuleNode → Bool) :
    (graph.namesOf kind).Nodup :=
  consistent.numbered.names_nodup.sublist (List.filter_sublist.map _)

theorem mem_namesOf_iff (consistent : Consistent graph) (kind : ModuleNode → Bool) :
    name ∈ graph.namesOf kind ↔ ∃ node, graph.node? name = some node ∧ kind node = true := by
  simp only [namesOf, List.mem_map, List.mem_filter, Array.mem_toList_iff, node?,
    consistent.numbered.slot?_eq_some_iff]
  exact exists_congr fun node => and_right_comm

theorem unresolved_eq (graph : ModuleGraph) :
    graph.unresolved = (graph.namesOf fun node => node.path?.isNone).mergeSort :=
  rfl

/-- What is contained and has no file is unresolved. -/
theorem mem_unresolved_iff (consistent : Consistent graph) :
    name ∈ graph.unresolved ↔ graph.contains name = true ∧ graph.fileFor? name = none := by
  rw [unresolved_eq, (List.mergeSort_perm _ _).mem_iff, mem_namesOf_iff consistent,
    contains_eq consistent, consistent.filed]
  cases graph.node? name <;> simp

theorem fileFor?_ofDeclarations_eq_none_iff :
    (ofDeclarations declarations).fileFor? name = none ↔ name ∉ declarations.map (·.name) := by
  rw [fileFor?_ofDeclarations, Option.map_eq_none_iff, lastNamed?_eq_none_iff]

end Answers

/-- The graph made from declarations answers for those that stand, whatever names these repeat or
use, and lists the names without a file in ascending order, each once. -/
theorem answersFor_ofDeclarations (declarations : List Declaration) :
    (ofDeclarations declarations).AnswersFor declarations := by
  have consistent := (complete_ofDeclarations declarations).toConsistent
  refine ⟨fun name declared => ?_, fun name absent => ?_,
    fun name => contains_ofDeclarations_iff, ?_, fun name => ?_⟩
  · obtain ⟨last, stands, rfl⟩ := exists_stands declared
    rw [submodules_ofDeclarations, fileFor?_ofDeclarations, stands_iff.mp stands]
    exact ⟨last, stands, rfl, rfl, rfl⟩
  · rw [submodules_ofDeclarations, fileFor?_ofDeclarations, lastNamed?_eq_none_iff.mpr absent]
    exact ⟨rfl, rfl⟩
  · exact Text.pairwise_before_mergeSort (nodup_namesOf consistent _)
  · rw [mem_unresolved_iff consistent, fileFor?_ofDeclarations_eq_none_iff]

/-- Only the clock that was replaced used a buffer. -/
example :
    let graph := ofDeclarations [⟨"clock", "a.v", ["buffer"]⟩, ⟨"top", "t.v", ["clock", "gate"]⟩,
      ⟨"clock", "b.v", ["gate", "edge", "gate"]⟩]
    graph.submodules "clock" = ["gate", "edge", "gate"] ∧ graph.fileFor? "clock" = some "b.v" ∧
      graph.contains "gate" = true ∧ graph.contains "buffer" = false := by
  decide +kernel

end ModuleGraph

end HdlClosure
