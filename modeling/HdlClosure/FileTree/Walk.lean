import HdlClosure.FileTree.Basic
import HdlClosure.Path

/-! From paths to locations: each step of a path is looked up in turn, and links are followed. -/
namespace HdlClosure.FileTree

/-- Where a path leads: to an entry, or to a free name in a directory. -/
inductive Spot where
  | found (location : Location)
  | vacant (parent : Location) (name : String)
  deriving DecidableEq, Repr

/-- The steps of a path. A slash at the end is an empty step: what comes before has to be a
directory. -/
def steps (path : String) : List String :=
  (Path.pieces path).filter (· != "") ++
    if path.toList.getLast? = some '/' then [""] else []

/-- The location where the steps of a path start. -/
def startOf (directory : Location) (path : String) : Location :=
  if Path.isAbsolute path then [] else directory

/-- The longest name of an entry, in bytes. -/
def nameLimit : Nat := 255

/-- The length from which a path is refused, in bytes. -/
def pathLimit : Nat := 4096

/-- The number of links that one look-up may follow. -/
def linkLimit : Nat := 40

/-- Takes the steps from a location. At a link, `follow` goes on with the link's steps and the
rest. With `making`, the last step is a file to be made, and no slash may follow its name. -/
def walkWith (tree : FileTree) (making : Bool)
    (follow : Location → List String → Except AccessError Spot) :
    Location → List String → Except AccessError Spot
  | place, [] => .ok (.found place)
  | place, step :: rest =>
    if tree.isDirectoryAt place then
      if step = "" ∨ step = "." then walkWith tree making follow place rest
      else if step = ".." then walkWith tree making follow place.dropLast rest
      else if making ∧ rest = [""] then .error .isDirectory
      else if nameLimit < step.utf8ByteSize then .error .nameTooLong
      else
        match tree.entry? (place ++ [step]) with
        | some (.link target) => follow (startOf place target) (steps target ++ rest)
        | some _ => walkWith tree making follow (place ++ [step]) rest
        | none => if rest = [] ∨ rest = [""] then .ok (.vacant place step) else .error .notFound
    else .error .notDirectory

/-- Takes the steps from a location through at most the given number of links. -/
def walk (tree : FileTree) (making : Bool) : Nat → Location → List String → Except AccessError Spot
  | 0 => walkWith tree making fun _ _ => .error .tooManyLinks
  | links + 1 => walkWith tree making (walk tree making links)

/-- Where the given steps lead from the start of a path. -/
def spotOf (tree : FileTree) (making : Bool) (path : String) (steps : List String) :
    Except AccessError Spot :=
  if path.toList.contains '\x00' then .error .zeroInName
  else if path = "" then .error .notFound
  else if pathLimit ≤ path.utf8ByteSize then .error .nameTooLong
  else walk tree making linkLimit (startOf tree.here path) steps

def locate (tree : FileTree) (path : String) : Except AccessError Spot :=
  spotOf tree false path (steps path)

/-- Where a path leads that a file is to be made at. -/
def locateNew (tree : FileTree) (path : String) : Except AccessError Spot :=
  spotOf tree true path (steps path)

/-- The location of an existing entry; links are followed. -/
def resolve (tree : FileTree) (path : String) : Except AccessError Location :=
  match tree.locate path with
  | .ok (.found location) => .ok location
  | .ok (.vacant ..) => .error .notFound
  | .error error => .error error

def isDirectory (tree : FileTree) (path : String) : Bool :=
  match tree.resolve path with
  | .ok location => tree.isDirectoryAt location
  | .error _ => false

end HdlClosure.FileTree
