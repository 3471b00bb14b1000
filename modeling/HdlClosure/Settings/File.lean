import HdlClosure.FileTree.Access
import HdlClosure.Traced
import HdlClosure.Settings.Document

namespace HdlClosure

def Settings.accessed {α : Type} : Except AccessError α → Except Failure α
  | .ok value => .ok value
  | .error cause => .error (.settingsAccess cause)

namespace Settings

def Draft.load (tree : FileTree) (path : String) : Traced Draft := do
  Traced.tell (.settingsLoaded path)
  let text ← Traced.ofExcept (accessed (tree.readText path))
  match Draft.parse? text with
  | some draft => return draft
  | none => Traced.fail .malformedSettings

/-- The directory that a file goes into, unless the path is a name alone. -/
def parentPath (path : String) : String := (Path.above path).headD ""

/-- Writes complete settings to a file, whose directory is made where it is missing. -/
def save (settings : Settings) (tree : FileTree) (path : String) : Except Failure FileTree :=
  accessed do
    let tree ← tree.createDirectories (parentPath path)
    tree.writeText path settings.toText

end Settings

end HdlClosure
