import HdlClosure.ModuleGraph.Basic
import Std.Data.TreeSet

/-! What a set of roots needs: a depth-first search with a stack of its own, so that a deep
hierarchy costs no call depth, and the files of the modules that it reaches. -/
namespace HdlClosure.ModuleGraph

/-- The ends of the edges that leave a node, the edge made first in front. -/
def successors (graph : ModuleGraph) (number : Nat) : List Nat :=
  graph.edges.toList.filterMap fun edge => if edge.1 = number then some edge.2 else none

/-- A search under way: the nodes already seen, those still to look at, the names collected. -/
structure Search where
  seen : Std.TreeSet Nat := ∅
  stack : List Nat := []
  names : Std.TreeSet String := ∅

/-- Takes one node from the stack. A node seen for the first time is collected, and those at the ends
of its edges that are not yet seen go on the stack. -/
def Search.pop (graph : ModuleGraph) (search : Search) : Search :=
  match search.stack with
  | [] => search
  | number :: rest =>
    if search.seen.contains number then { search with stack := rest }
    else
      let seen := search.seen.insert number
      { seen := seen
        stack := ((graph.successors number).filter fun next => !seen.contains next) ++ rest
        names :=
          match graph.nodes[number]? with
          | some node => search.names.insert node.name
          | none => search.names }

/-- Empties the stack. Every edge puts a node on the stack at most once, and so does the root:
more steps than that are never needed. -/
def Search.run (graph : ModuleGraph) : Nat → Search → Search
  | 0, search => search
  | steps + 1, search => if search.stack = [] then search else run graph steps (search.pop graph)

/-- Adds what a root reaches. A root without a node is collected and leads no further. -/
def Search.addRoot (graph : ModuleGraph) (search : Search) (root : String) : Search :=
  match graph.nodeNumber? root with
  | some number =>
    Search.run graph (graph.edges.size + 1) { search with stack := [number] }
  | none => { search with names := search.names.insert root }

/-- The names of all modules that the roots need, the roots included. -/
def reach (graph : ModuleGraph) (roots : List String) : Std.TreeSet String :=
  (roots.foldl (Search.addRoot graph) {}).names

def reachPerRoot (graph : ModuleGraph) (roots : List String) :
    Std.TreeMap String (Std.TreeSet String) :=
  roots.foldl (fun found root => found.insert root (graph.reach [root])) ∅

/-- The files of a set of modules, in ascending order. Names without a file are left out. -/
def filesFor (graph : ModuleGraph) (names : Std.TreeSet String) : List String :=
  (names.toList.filterMap graph.fileFor?).mergeSort

end HdlClosure.ModuleGraph
