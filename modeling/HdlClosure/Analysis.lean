import HdlClosure.Listing
import HdlClosure.ModuleGraph.Gather
import HdlClosure.ModuleGraph.Reach
import HdlClosure.Settings

namespace HdlClosure

/-- What is known about the testbenches after a run. -/
structure Analysis where
  files : List String := []
  reachable : Std.TreeSet String := ∅
  unresolved : List String := []
  perTestbench : Std.TreeMap String (List String) := ∅
  duplicates : List Duplicate := []
  stats : GraphStats := {}

namespace Settings

def dialect (settings : Settings) : Dialect :=
  { language := settings.language, capture := settings.capture }

def graph (settings : Settings) (tree : FileTree) (order : Listing.Order := tree.children) :
    Traced ModuleGraph := do
  let files ← Listing.allSources tree settings.language.extension
    [settings.hdlDir, settings.simDir] order
  Traced.tell (.sourcesListed files.length settings.language)
  ModuleGraph.ofFiles settings.duplicates settings.dialect tree files

end Settings

namespace ModuleGraph

/-- The events of a search from some roots. -/
def reachEvents (graph : ModuleGraph) (roots : List String) : List Event :=
  (roots.filter fun root => !graph.contains root).map .rootWithoutFile

def filesEvents (graph : ModuleGraph) (names : Std.TreeSet String) : List Event :=
  (names.toList.filter fun name => (graph.fileFor? name).isNone).map .moduleWithoutFile

end ModuleGraph

namespace Settings

/-- The events of a search and a file look-up for each testbench on its own: first all searches,
then the look-ups in the order of the names. -/
def perTestbenchEvents (settings : Settings) (graph : ModuleGraph) : List Event :=
  settings.testbenches.flatMap (fun root => graph.reachEvents [root]) ++
    (graph.reachPerRoot settings.testbenches).toList.flatMap fun (_, names) =>
      graph.filesEvents names

/-- Follows the graph from the testbenches. At least one module on the way has to have a file. -/
def analyze (settings : Settings) (graph : ModuleGraph) : Traced Analysis := do
  let roots := settings.testbenches
  let reachable := graph.reach roots
  let files := graph.filesFor reachable
  Traced.tellAll (graph.reachEvents roots ++ graph.filesEvents reachable)
  if files = [] then
    Traced.fail (.noSources roots settings.hdlDir settings.simDir)
  else
    let unresolved := reachable.toList.filter fun name => (graph.fileFor? name).isNone
    Traced.tellAll (unresolved.map .moduleUnresolved)
    Traced.tellAll (settings.perTestbenchEvents graph)
    Traced.tell (.dependenciesResolved reachable.size files.length unresolved.length)
    return {
      files := files
      reachable := reachable
      unresolved := unresolved
      perTestbench := (graph.reachPerRoot roots).map fun _ names => graph.filesFor names
      duplicates := graph.duplicates
      stats := graph.stats
    }

def run (settings : Settings) (tree : FileTree) (order : Listing.Order := tree.children) :
    Traced Analysis := do
  settings.analyze (← settings.graph tree order)

end Settings

end HdlClosure
