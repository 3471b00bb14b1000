import Std.Data.TreeMap

namespace HdlClosure

/-- A module with the file that defines it and the modules that it instantiates. -/
structure Declaration where
  name : String
  path : String
  instances : List String
  deriving DecidableEq, Repr, Inhabited

/-- Two files with one module name: the later one is kept. -/
structure Duplicate where
  name : String
  kept : String
  shadowed : String
  deriving DecidableEq, Repr, Inhabited

/-- A module in the graph. It has no file when it is only instantiated. -/
structure ModuleNode where
  name : String
  path? : Option String
  instances : List String
  deriving DecidableEq, Repr, Inhabited

structure GraphStats where
  modules : Nat := 0
  instantiations : Nat := 0
  unresolved : Nat := 0
  duplicates : Nat := 0
  deriving DecidableEq, Repr, Inhabited

/-- Nodes are numbered in order of appearance; `index` finds them by name, `files` the file of a
module. Edges stand in order of insertion. -/
structure ModuleGraph where
  nodes : Array ModuleNode := #[]
  index : Std.TreeMap String Nat := ∅
  files : Std.TreeMap String String := ∅
  edges : Array (Nat × Nat) := #[]
  duplicates : List Duplicate := []

namespace ModuleGraph

/-- Adds a module with a file. A name that is taken keeps its node, with the new contents. -/
def declare (graph : ModuleGraph) (declaration : Declaration) : ModuleGraph :=
  let node : ModuleNode :=
    { name := declaration.name, path? := some declaration.path, instances := declaration.instances }
  let graph := { graph with files := graph.files.insert declaration.name declaration.path }
  match graph.index[declaration.name]? with
  | some number => { graph with nodes := graph.nodes.setIfInBounds number node }
  | none =>
    { graph with
      nodes := graph.nodes.push node
      index := graph.index.insert declaration.name graph.nodes.size }

/-- Adds an edge to the module of a name. A name without a node gets one, without a file. -/
def refer (parent : Nat) (graph : ModuleGraph) (name : String) : ModuleGraph :=
  match graph.index[name]? with
  | some child => { graph with edges := graph.edges.push (parent, child) }
  | none =>
    { graph with
      nodes := graph.nodes.push { name := name, path? := none, instances := [] }
      index := graph.index.insert name graph.nodes.size
      edges := graph.edges.push (parent, graph.nodes.size) }

def link (graph : ModuleGraph) (parent : Nat) : ModuleGraph :=
  match graph.nodes[parent]? with
  | some node => node.instances.foldl (refer parent) graph
  | none => graph

/-- The graph of a list of modules. Of several with one name the last counts; names that are only
instantiated come after all others. -/
def ofDeclarations (declarations : List Declaration) : ModuleGraph :=
  let declared := declarations.foldl declare {}
  (List.range declared.nodes.size).foldl link declared

def nodeNumber? (graph : ModuleGraph) (name : String) : Option Nat := graph.index[name]?

def contains (graph : ModuleGraph) (name : String) : Bool := graph.index.contains name

/-- The modules that a module instantiates, as often as it does. -/
def submodules (graph : ModuleGraph) (name : String) : List String :=
  match (graph.nodeNumber? name).bind (graph.nodes[·]?) with
  | some node => node.instances
  | none => []

def fileFor? (graph : ModuleGraph) (name : String) : Option String := graph.files[name]?

def moduleCount (graph : ModuleGraph) : Nat := graph.files.size

/-- The modules without a file, in ascending order. -/
def unresolved (graph : ModuleGraph) : List String :=
  ((graph.nodes.toList.filter fun node => node.path?.isNone).map (·.name)).mergeSort

def stats (graph : ModuleGraph) : GraphStats where
  modules := graph.moduleCount
  instantiations := graph.edges.size
  unresolved := graph.nodes.size - graph.moduleCount
  duplicates := graph.duplicates.length

end ModuleGraph

end HdlClosure
