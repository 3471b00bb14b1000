import HdlClosure.FileTree.Walk

namespace HdlClosure.FileTree

def readBytes (tree : FileTree) (path : String) : Except AccessError ByteArray := do
  match tree.entry? (← tree.resolve path) with
  | some (.file content) => .ok content
  | some .directory => .error .isDirectory
  | _ => .error .notFound

/-- The text of a file, which has to be UTF-8. -/
def readText (tree : FileTree) (path : String) : Except AccessError String := do
  match String.fromUTF8? (← tree.readBytes path) with
  | some text => .ok text
  | none => .error .notText

/-- The directory that holds the last step of a path, and that step. -/
def parentOf (tree : FileTree) (path : String) : Except AccessError (Location × String) := do
  let named := (steps path).filter (· != "")
  match ← spotOf tree false path (named.dropLast ++ [""]) with
  | .found parent => .ok (parent, named.getLast?.getD "")
  | .vacant .. => .error .notFound

/-- Makes the path a file with the given bytes, new or in place of what it held. A path that ends
in a slash, or leads through a link that does, can only mean a directory. -/
def writeBytes (tree : FileTree) (path : String) (content : ByteArray) :
    Except AccessError FileTree := do
  match ← tree.locateNew path with
  | .found location =>
    if tree.isDirectoryAt location then .error .isDirectory
    else .ok (tree.put location (.file content))
  | .vacant parent name => .ok (tree.put (parent ++ [name]) (.file content))

def writeText (tree : FileTree) (path : String) (text : String) : Except AccessError FileTree :=
  tree.writeBytes path text.toUTF8

def create (tree : FileTree) (path : String) (entry : Entry) : Except AccessError FileTree := do
  let (parent, name) ← tree.parentOf path
  if name = "" ∨ name = "." ∨ name = ".." then .error .alreadyExists
  else if nameLimit < name.utf8ByteSize then .error .nameTooLong
  else if (tree.entry? (parent ++ [name])).isSome then .error .alreadyExists
  else .ok (tree.put (parent ++ [name]) entry)

/-- Makes the first of some directories, each of which lies in the next; those that are missing are
made before it. -/
def createFirst (tree : FileTree) : List String → Except AccessError FileTree
  | [] => .ok tree
  | path :: above => do
    let orPresent (tree : FileTree) (made : Except AccessError FileTree) :=
      match made with
      | .error error => if tree.isDirectory path then .ok tree else .error error
      | made => made
    match tree.create path .directory with
    | .error .notFound =>
      let tree ← tree.createFirst above
      orPresent tree (tree.create path .directory)
    | made => orPresent tree made

def createDirectories (tree : FileTree) (path : String) : Except AccessError FileTree :=
  if path = "" then .ok tree else tree.createFirst (path :: Path.above path)

end HdlClosure.FileTree
