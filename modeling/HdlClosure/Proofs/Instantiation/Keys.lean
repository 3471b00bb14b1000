import HdlClosure.Proofs.Analysis.Definers
import HdlClosure.Proofs.Settings.Testbenches

namespace HdlClosure

open Text

/-- A word in lowercase that is no gate. It holds nothing that parts words or the steps of a path,
and as a text of testbenches it names itself. -/
structure IsKey (name : String) : Prop where
  isWord : IsWord name.toList
  plain : ∀ c ∈ name.toList,
    isBlank c = false ∧ c ∉ ['.', '/', '(', ')', '[', ']', '{', '}', '<', '>']
  small : lowercase name = name
  defined : name ∉ ["and", "or", "not", "xor", "nand", "nor", "buf"]
  alone : splitTestbenches name = [name]

section Words

theorem isWord_lower {word : List Char} (isWord : IsWord word) : IsWord (lower word) :=
  ⟨mt lower_eq_nil_iff.mp isWord.1, isWordChar_of_mem_lower isWord.2⟩

theorem isKey_lower {word : List Char} (isWord : IsWord word)
    (defined : String.ofList (lower word) ∉ primitives) : IsKey (String.ofList (lower word)) := by
  have small : lowercase (String.ofList (lower word)) = String.ofList (lower word) := by
    rw [lowercase, String.toList_ofList, lower_lower]
  have isWordLower : IsWord (String.ofList (lower word)).toList := by
    rw [String.toList_ofList]
    exact isWord_lower isWord
  have visible := visible_of_isWord isWordLower
  have marks : ['.', '/', '(', ')', '[', ']', '{', '}', '<', '>'].all (fun c => !isWordChar c) =
      true := by
    decide +kernel
  refine ⟨isWordLower, fun c member => ⟨visible c member, fun listed => ?_⟩, small, defined, ?_⟩
  · have other := List.all_eq_true.mp marks c listed
    exact not_mem_of_isWord isWordLower (by simpa using other) member
  · rw [splitTestbenches_of_visible isWordLower.1 visible, small]

end Words

section Sources

variable {dialect : Dialect}

theorem isWord_of_matches {line word : List Char} (matched : dialect.Matches line word) :
    IsWord word := by
  unfold Dialect.Matches at matched
  split at matched
  · cases matched with
    | of _ _ typed => exact typed
  · obtain ⟨label, line⟩ := matched
    cases line with
    | of _ _ _ _ _ _ _ named => exact named
  · obtain ⟨entity, line⟩ := matched
    cases line with
    | of _ labelled => exact labelled

theorem isKey_of_lineInstantiates {line : List Char} {name : String}
    (reads : dialect.LineInstantiates line name) : IsKey name := by
  obtain ⟨_, _, defined, word, matched, rfl⟩ := reads
  exact isKey_lower (isWord_of_matches matched) defined

/-- A module without a file is there because a file instantiates it. -/
theorem mem_instancesIn_of_fileless {tree : FileTree} {files : List SourceFile} {node : ModuleNode}
    (member : node ∈ (ModuleGraph.assembled dialect tree files).nodes)
    (missing : node.path? = none) :
    ∃ file ∈ files, node.name ∈ dialect.instancesIn tree file.path := by
  have complete := ModuleGraph.complete_assembled dialect tree files
  have known : (ModuleGraph.assembled dialect tree files).node? node.name = some node :=
    complete.numbered.slot?_eq_some_iff.mpr ⟨member, rfl⟩
  rw [ModuleGraph.node?_assembled, ModuleGraph.node?_ofDeclarations] at known
  cases declared : lastNamed? (Gathering.declarationsOf dialect tree files) node.name with
  | some last =>
    rw [declared] at known
    obtain rfl : last.node = node := Option.some.inj known
    cases missing
  | none =>
    rw [declared, Option.map_none, Option.none_or, Option.ite_none_right_eq_some] at known
    obtain ⟨_, last, found, listed⟩ := ModuleGraph.mem_uses_declared.mp known.1
    obtain ⟨file, given, rfl⟩ := List.mem_map.mp (mem_of_lastNamed? found)
    exact ⟨file, given, listed⟩

end Sources

/-- Every name that a source instantiates is a key, and so is the name of every module without a
file in a graph that files make. -/
theorem instantiated_names_are_keys :
    (∀ (dialect : Dialect) (source : String), ∀ name ∈ dialect.instances source, IsKey name) ∧
    ∀ policy dialect tree files graph,
      (ModuleGraph.ofFiles policy dialect tree files).result = .ok graph →
        ∀ node ∈ graph.nodes, node.path? = none → IsKey node.name := by
  constructor
  · intro dialect source name member
    obtain ⟨_, _, reads⟩ := Dialect.mem_instances.mp member
    exact isKey_of_lineInstantiates reads
  · intro policy dialect tree files graph made node member missing
    obtain ⟨_, rfl⟩ := (ModuleGraph.ofFiles_result policy dialect tree files graph).mp made
    obtain ⟨file, _, listed⟩ := mem_instancesIn_of_fileless member missing
    obtain ⟨_, _, _, _, reads⟩ := Dialect.mem_instancesIn.mp listed
    exact isKey_of_lineInstantiates reads

/-- The label begins with a dotted capital and ends in a sigma; nothing defines the buffer. -/
theorem keys_of_clocks :
    let labels : Dialect := { language := .vhdl, capture := .label }
    let files : List SourceFile := [⟨"hdl/clock.v", "clock"⟩]
    "i\u0307_δος" ∈ labels.instances "İ_ΔΟΣ : entity work.x" ∧ IsKey "i\u0307_δος" ∧
      ∃ graph, (ModuleGraph.ofFiles .ignore { language := .verilog } .clocks files).result =
          .ok graph ∧
        ∃ node ∈ graph.nodes, node.path? = none ∧ node.name = "buffer" ∧ IsKey node.name := by
  intro labels files
  have listed : "i\u0307_δος" ∈ labels.instances "İ_ΔΟΣ : entity work.x" := by decide +kernel
  have accepted : Gathering.Accepted .ignore .clocks [] files := by
    refine ⟨fun file member => ?_, nofun⟩
    obtain rfl := List.mem_singleton.mp member
    exact FileTree.readable_clocks List.mem_cons_self
  have made := (ModuleGraph.ofFiles_result .ignore { language := .verilog } .clocks files _).mpr
    ⟨accepted, rfl⟩
  have fileless : ModuleNode.bare "buffer" ∈
      (ModuleGraph.assembled { language := .verilog } .clocks files).nodes := by
    decide +kernel
  exact ⟨listed, instantiated_names_are_keys.1 labels _ _ listed, _, made, .bare "buffer", fileless,
    rfl, rfl, instantiated_names_are_keys.2 _ _ _ _ _ made _ fileless rfl⟩

end HdlClosure
