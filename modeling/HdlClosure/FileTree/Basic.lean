import Std.Data.TreeMap

namespace HdlClosure

inductive AccessError where
  | notFound
  | alreadyExists
  | notDirectory
  | isDirectory
  | nameTooLong
  | tooManyLinks
  | notText
  | zeroInName
  deriving DecidableEq, Repr, Inhabited

def AccessError.message : AccessError → String
  | .notFound => "No such file or directory (os error 2)"
  | .alreadyExists => "File exists (os error 17)"
  | .notDirectory => "Not a directory (os error 20)"
  | .isDirectory => "Is a directory (os error 21)"
  | .nameTooLong => "File name too long (os error 36)"
  | .tooManyLinks => "Too many levels of symbolic links (os error 40)"
  | .notText => "stream did not contain valid UTF-8"
  | .zeroInName => "file name contained an unexpected NUL byte"

/-- What stands at a location. -/
inductive Entry where
  | file (content : ByteArray)
  | link (target : String)
  | directory
  deriving Inhabited

/-- Two files are the same when they hold the same bytes. -/
instance Entry.decEq : DecidableEq Entry
  | .file first, .file second =>
    decidable_of_iff (first.data = second.data) (by rw [file.injEq, ByteArray.ext_iff])
  | .link first, .link second => decidable_of_iff (first = second) (by rw [link.injEq])
  | .directory, .directory => isTrue rfl
  | .file _, .link _ => isFalse nofun
  | .file _, .directory => isFalse nofun
  | .link _, .file _ => isFalse nofun
  | .link _, .directory => isFalse nofun
  | .directory, .file _ => isFalse nofun
  | .directory, .link _ => isFalse nofun

/-- The names that lead from the root to an entry. -/
abbrev Location := List String

/-- Every entry below the root by its location, and where relative paths start. -/
structure FileTree where
  entries : Std.TreeMap Location Entry := ∅
  here : Location := []

namespace FileTree

/-- What stands at a location. The root is always a directory. -/
def entry? (tree : FileTree) (location : Location) : Option Entry :=
  if location = [] then some .directory else tree.entries[location]?

def isDirectoryAt (tree : FileTree) (location : Location) : Bool :=
  tree.entry? location == some .directory

def put (tree : FileTree) (location : Location) (entry : Entry) : FileTree :=
  { tree with entries := tree.entries.insert location entry }

/-- The names in a directory with what they stand for, in ascending order. -/
def children (tree : FileTree) (location : Location) : List (String × Entry) :=
  tree.entries.toList.filterMap fun (place, entry) =>
    if place.dropLast = location then place.getLast?.map (·, entry) else none

end FileTree

end HdlClosure
