import HdlClosure.Duplicates
import HdlClosure.FileTree.Access
import HdlClosure.Instantiation
import HdlClosure.Traced
import HdlClosure.Source

namespace HdlClosure

/-- The modules read so far, with the position of each name, and the duplicates met. -/
structure Gathering where
  declarations : Array Declaration := #[]
  positions : Std.TreeMap String Nat := ∅
  duplicates : List Duplicate := []

namespace Gathering

/-- The duplicate that a file makes of a name read before. -/
def duplicate? (gathering : Gathering) (file : SourceFile) : Option Duplicate :=
  (gathering.positions[file.moduleName]?.bind (gathering.declarations[·]?)).map fun earlier =>
    { name := file.moduleName, kept := file.path, shadowed := earlier.path }

/-- Adds a module; a name read before keeps its position. -/
def add (gathering : Gathering) (declaration : Declaration) : Gathering :=
  match gathering.positions[declaration.name]? with
  | some position =>
    { gathering with
      declarations := gathering.declarations.setIfInBounds position declaration }
  | none =>
    { gathering with
      declarations := gathering.declarations.push declaration
      positions := gathering.positions.insert declaration.name gathering.declarations.size }

end Gathering

def DuplicatePolicy.settle (policy : DuplicatePolicy) (duplicate : Duplicate) : Traced Unit :=
  match policy with
  | .ignore => pure ()
  | .warn => Traced.tell (.nameShadowed duplicate)
  | .error =>
    Traced.fail (.duplicateModule duplicate.name duplicate.shadowed duplicate.kept)

/-- The modules that a source file instantiates. A file that cannot be read ends the run. -/
def Dialect.instancesOf (dialect : Dialect) (tree : FileTree) (path : String) :
    Traced (List String) :=
  match tree.readText path with
  | .error cause => Traced.fail (.unreadableSource path cause)
  | .ok source => do
    let instances := dialect.instances source
    Traced.tell (.instancesExtracted path instances.length)
    return instances

namespace Gathering

/-- Reads one more file. The policy is asked before the file is opened. -/
def read (policy : DuplicatePolicy) (dialect : Dialect) (tree : FileTree) (gathering : Gathering)
    (file : SourceFile) : Traced Gathering := do
  let repeated := gathering.duplicate? file
  match repeated with
  | some duplicate => policy.settle duplicate
  | none => pure ()
  let instances ← dialect.instancesOf tree file.path
  Traced.tell (.moduleParsed file.moduleName file.path instances.length)
  let gathering := { gathering with duplicates := gathering.duplicates ++ repeated.toList }
  return gathering.add { name := file.moduleName, path := file.path, instances := instances }

def readAll (policy : DuplicatePolicy) (dialect : Dialect) (tree : FileTree)
    (gathering : Gathering) : List SourceFile → Traced Gathering
  | [] => pure gathering
  | file :: rest => do
    let gathering ← gathering.read policy dialect tree file
    gathering.readAll policy dialect tree rest

def graph (gathering : Gathering) : ModuleGraph :=
  { ModuleGraph.ofDeclarations gathering.declarations.toList with
    duplicates := gathering.duplicates }

end Gathering

def ModuleGraph.ofFiles (policy : DuplicatePolicy) (dialect : Dialect) (tree : FileTree)
    (files : List SourceFile) : Traced ModuleGraph := do
  let gathering ← Gathering.readAll policy dialect tree {} files
  let graph := gathering.graph
  Traced.tell (.graphBuilt graph.stats)
  return graph

end HdlClosure
