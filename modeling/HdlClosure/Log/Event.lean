import HdlClosure.Language
import HdlClosure.ModuleGraph.Basic
import HdlClosure.Text.Quoted

namespace HdlClosure

inductive LogLevel where
  | error
  | warn
  | info
  | debug
  | trace
  deriving DecidableEq, Repr, Inhabited

/-- The number of a level; graver levels have smaller ones, and zero is left for silence. -/
def LogLevel.rank : LogLevel → Nat
  | .error => 1
  | .warn => 2
  | .info => 3
  | .debug => 4
  | .trace => 5

inductive Event where
  | directoryMissing (directory : String)
  | sourceDiscovered (name path : String)
  | sourcesListed (files : Nat) (language : Language)
  | instancesExtracted (path : String) (count : Nat)
  | moduleParsed (name path : String) (instances : Nat)
  | nameShadowed (duplicate : Duplicate)
  | graphBuilt (stats : GraphStats)
  | rootWithoutFile (name : String)
  | moduleWithoutFile (name : String)
  | moduleUnresolved (name : String)
  | dependenciesResolved (modules files unresolved : Nat)
  | settingsLoaded (path : String)
  | templateWritten (path : String)
  deriving DecidableEq, Repr, Inhabited

namespace Event

def level : Event → LogLevel
  | .directoryMissing .. | .nameShadowed .. => .warn
  | .sourcesListed .. | .graphBuilt .. | .dependenciesResolved .. | .templateWritten .. => .info
  | .instancesExtracted .. => .trace
  | .sourceDiscovered .. | .moduleParsed .. | .rootWithoutFile .. | .moduleWithoutFile ..
  | .moduleUnresolved .. | .settingsLoaded .. => .debug

/-- The part of the program that an event comes from; log filters select by it. -/
def target : Event → String
  | .directoryMissing .. | .sourceDiscovered .. => "hdl_deps::file_discovery"
  | .instancesExtracted .. => "hdl_deps::extractor"
  | .moduleParsed .. | .nameShadowed .. | .graphBuilt .. => "hdl_deps::dependency_graph"
  | .rootWithoutFile .. | .moduleWithoutFile .. => "hdl_deps::resolver"
  | .sourcesListed .. | .moduleUnresolved .. | .dependenciesResolved .. => "hdl_deps::analyzer"
  | .settingsLoaded .. => "hdl_deps::config"
  | .templateWritten .. => "hdl_deps"

def message : Event → String
  | .directoryMissing .. => "source directory not found, skipping"
  | .sourceDiscovered .. => "discovered source"
  | .sourcesListed .. => "discovered source files"
  | .instancesExtracted .. => "extracted instantiations"
  | .moduleParsed .. => "parsed module"
  | .nameShadowed .. => "duplicate module name, later file wins"
  | .graphBuilt .. => "dependency graph built"
  | .rootWithoutFile .. => "root has no source file"
  | .moduleWithoutFile .. => "no source file for reachable module"
  | .moduleUnresolved .. => "reachable module has no source file"
  | .dependenciesResolved .. => "resolved testbench dependencies"
  | .settingsLoaded .. => "loading configuration"
  | .templateWritten .. => "configuration file created"

/-- The values that go with the message, by name. -/
def fields : Event → List (String × String)
  | .directoryMissing directory => [("dir", directory)]
  | .sourceDiscovered name path => [("module", name), ("file", path)]
  | .sourcesListed files language =>
    [("files", toString files), ("language", Choice.name language)]
  | .instancesExtracted path count => [("file", path), ("count", toString count)]
  | .moduleParsed name path instances =>
    [("module", name), ("file", path), ("instances", toString instances)]
  | .nameShadowed duplicate =>
    [("module", duplicate.name), ("kept", duplicate.kept), ("shadowed", duplicate.shadowed)]
  | .graphBuilt stats =>
    [("modules", toString stats.modules), ("instantiations", toString stats.instantiations),
     ("unresolved", toString stats.unresolved), ("duplicates", toString stats.duplicates)]
  | .rootWithoutFile name => [("module", Text.quoted name)]
  | .moduleWithoutFile name | .moduleUnresolved name => [("module", name)]
  | .dependenciesResolved modules files unresolved =>
    [("modules", toString modules), ("files", toString files),
     ("unresolved", toString unresolved)]
  | .settingsLoaded path | .templateWritten path => [("path", path)]

/-- The names of all values of an event; the message is one of them. -/
def fieldNames (event : Event) : List String := "message" :: event.fields.map (·.1)

end Event

end HdlClosure
