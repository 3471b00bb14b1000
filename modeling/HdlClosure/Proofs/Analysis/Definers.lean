import HdlClosure.Proofs.Analysis.Outcome
import HdlClosure.Proofs.Instantiation.Grammar
import HdlClosure.Proofs.Listing
import Mathlib.Data.List.Find

namespace HdlClosure

/-- The path of the last file whose stem, in lowercase, is the name. -/
def definer? (files : List SourceFile) (name : String) : Option String :=
  (files.map (·.path)).reverse.find? fun path =>
    decide ((Path.stem? path).map Text.lowercase = some name)

/-- The text of the file that defines one module instantiates another module. -/
def Uses (dialect : Dialect) (tree : FileTree) (files : List SourceFile) (parent child : String) :
    Prop :=
  ∃ path text, definer? files parent = some path ∧ tree.readText path = .ok text ∧
    ∃ line ∈ Text.lines text.toList, dialect.LineInstantiates line child

section Definer

variable {files : List SourceFile}

theorem stem_of_definer? {name path : String} (found : definer? files name = some path) :
    (Path.stem? path).map Text.lowercase = some name := by
  unfold definer? at found
  simpa using List.find?_some found

/-- A path defines one name at most. -/
theorem definer?_injective {first second path : String}
    (found : definer? files first = some path) (other : definer? files second = some path) :
    first = second :=
  Option.some.inj ((stem_of_definer? found).symm.trans (stem_of_definer? other))

theorem definer?_eq (named : ∀ file ∈ files, file.Named) (dialect : Dialect) (tree : FileTree)
    (name : String) : definer? files name =
      (lastNamed? (Gathering.declarationsOf dialect tree files) name).map (·.path) := by
  have alike : ∀ file ∈ files.reverse,
      decide ((Path.stem? file.path).map Text.lowercase = some name) =
        (file.moduleName == name) := by
    intro file member
    have known : (Path.stem? file.path).map Text.lowercase = some file.moduleName :=
      named file (List.mem_reverse.mp member)
    rw [known, Bool.eq_iff_iff]
    simp
  rw [definer?, lastNamed?, Gathering.declarationsOf, ← List.map_reverse, ← List.map_reverse,
    List.find?_map, List.find?_map, Option.map_map]
  congr 1
  exact List.find?_congr alike

end Definer

theorem Dialect.mem_instancesIn {dialect : Dialect} {tree : FileTree} {path name : String} :
    name ∈ dialect.instancesIn tree path ↔
      ∃ text, tree.readText path = .ok text ∧
        ∃ line ∈ Text.lines text.toList, dialect.LineInstantiates line name := by
  unfold instancesIn
  cases tree.readText path with
  | error cause => simp [Except.toOption]
  | ok text => simp [Except.toOption, mem_instances]

section Assembled

variable {dialect : Dialect} {tree : FileTree} {files : List SourceFile}

theorem definer?_eq_fileFor? (named : ∀ file ∈ files, file.Named) (dialect : Dialect)
    (tree : FileTree) :
    definer? files = (ModuleGraph.assembled dialect tree files).fileFor? := by
  funext name
  rw [definer?_eq named dialect tree, ModuleGraph.fileFor?_assembled]

theorem instantiates_iff_uses (named : ∀ file ∈ files, file.Named) {parent child : String} :
    (ModuleGraph.assembled dialect tree files).Instantiates parent child ↔
      Uses dialect tree files parent child := by
  rw [ModuleGraph.Instantiates, ModuleGraph.submodules_assembled, Uses,
    definer?_eq named dialect tree]
  cases found : lastNamed? (Gathering.declarationsOf dialect tree files) parent with
  | none => simp
  | some last =>
    have member := mem_of_lastNamed? found
    obtain ⟨file, _, rfl⟩ := List.mem_map.mp member
    simp [SourceFile.declaration, Dialect.mem_instancesIn]

theorem reaches_eq_uses (named : ∀ file ∈ files, file.Named) :
    (ModuleGraph.assembled dialect tree files).Reaches =
      Relation.ReflTransGen (Uses dialect tree files) := by
  rw [ModuleGraph.Reaches]
  congr 1
  funext parent child
  exact propext (instantiates_iff_uses named)

end Assembled

end HdlClosure
