import HdlClosure.Path
import HdlClosure.Text.Lowercase

namespace HdlClosure

structure SourceFile where
  path : String
  moduleName : String
  deriving DecidableEq, Repr, Inhabited

/-- The source file at a path: its module is the stem of the file name, in lowercase. -/
def SourceFile.ofPath? (path : String) : Option SourceFile :=
  (Path.stem? path).map fun stem => { path := path, moduleName := Text.lowercase stem }

end HdlClosure
