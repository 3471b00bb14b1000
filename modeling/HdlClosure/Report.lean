import HdlClosure.Analysis
import HdlClosure.Json.Printer

namespace HdlClosure

namespace Report

def texts (items : List String) : Json := .list (items.map .text)

def ofDuplicate (duplicate : Duplicate) : Json :=
  .fields [("module", .text duplicate.name), ("kept", .text duplicate.kept),
    ("shadowed", .text duplicate.shadowed)]

def ofStats (stats : GraphStats) : Json :=
  .fields [("modules", .number stats.modules), ("instantiations", .number stats.instantiations),
    ("unresolved", .number stats.unresolved), ("duplicates", .number stats.duplicates)]

def document (analysis : Analysis) : Json :=
  .fields [
    ("files", texts analysis.files),
    ("modules", texts analysis.reachable.toList),
    ("unresolved", texts analysis.unresolved),
    ("testbenches",
      .fields (analysis.perTestbench.toList.map fun (name, files) => (name, texts files))),
    ("duplicates", .list (analysis.duplicates.map ofDuplicate)),
    ("stats", ofStats analysis.stats)]

end Report

/-- The printed form of an analysis, without a line end. -/
def Analysis.render (analysis : Analysis) : OutputFormat → String
  | .plain => " ".intercalate analysis.files
  | .json => (Report.document analysis).render

end HdlClosure
