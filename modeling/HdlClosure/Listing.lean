import HdlClosure.FileTree.Walk
import HdlClosure.Traced
import HdlClosure.Source

namespace HdlClosure

namespace Listing

/-- Whether an entry of the directory at `location`, spelled `directory`, is a file once links are
followed. A link that leads nowhere, or back to the directory itself, stops the listing. -/
def isFile (tree : FileTree) (directory : String) (location : Location) (name : String) :
    Entry → Except ListingError Bool
  | .file _ => .ok true
  | .directory => .ok false
  | .link _ =>
    let path := Path.join directory name
    match tree.resolve path with
    | .error cause => .error (.unreachable path cause)
    | .ok place =>
      if tree.isDirectoryAt place then
        if place = location then .error (.loop path directory) else .ok false
      else .ok true

def hasExtension (extension name : String) : Bool :=
  ('.' :: extension.toList).isSuffixOf name.toList

/-- The source file that an entry is, if its name has the extension. -/
def source? (extension base : String) (name : String) (isFile : Bool) : Option SourceFile :=
  if isFile && hasExtension extension name then SourceFile.ofPath? (Path.join base name) else none

/-- Lists the sources among the given entries of a directory. Their paths begin with its plain
spelling. -/
def sourcesAmong (tree : FileTree) (extension directory : String) (location : Location) :
    List (String × Entry) → Traced (List SourceFile)
  | [] => pure []
  | (name, entry) :: rest =>
    match isFile tree (Path.walked directory) location name entry with
    | .error cause => Traced.fail (.listing cause)
    | .ok plainFile =>
      match source? extension (Path.plain directory) name plainFile with
      | none => sourcesAmong tree extension directory location rest
      | some file => do
        Traced.tell (.sourceDiscovered file.moduleName file.path)
        return file :: (← sourcesAmong tree extension directory location rest)

/-- The entries of every directory, in the order in which it lists them. -/
abbrev Order := Location → List (String × Entry)

/-- The sources in a directory, in the order of its entries. What is not a directory holds none. The
spelling that is asked for need not be the one that is walked; a lone dash is not walked at all, as
it stands for the standard input. -/
def sources (tree : FileTree) (extension directory : String)
    (order : Order := tree.children) : Traced (List SourceFile) :=
  if tree.isDirectory directory then
    if Path.walked directory = "-" then pure []
    else
      match tree.resolve (Path.walked directory) with
      | .error cause => Traced.fail (.listing (.unreachable (Path.walked directory) cause))
      | .ok location => sourcesAmong tree extension directory location (order location)
  else do
    Traced.tell (.directoryMissing directory)
    return []

def allSources (tree : FileTree) (extension : String) (directories : List String)
    (order : Order := tree.children) : Traced (List SourceFile) :=
  match directories with
  | [] => pure []
  | directory :: rest => do
    let first ← sources tree extension directory order
    return first ++ (← allSources tree extension rest order)

end Listing

end HdlClosure
