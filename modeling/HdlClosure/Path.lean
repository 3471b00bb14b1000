namespace HdlClosure.Path

/-- A step of a path. `current` occurs only in front of a relative path. -/
inductive Component where
  | root
  | current
  | parent
  | name (text : String)
  deriving DecidableEq, Repr, Inhabited

def pieces (path : String) : List String :=
  (path.toList.splitOnP (· == '/')).map String.ofList

def isAbsolute (path : String) : Bool := path.toList.head? == some '/'

/-- The component that a piece stands for; empty pieces and dots stand for none. -/
def componentOf? (piece : String) : Option Component :=
  if piece = "" ∨ piece = "." then none
  else if piece = ".." then some .parent
  else some (.name piece)

/-- The components of a path. Repeated and trailing slashes and inner dots leave no trace. -/
def components (path : String) : List Component :=
  (if isAbsolute path then [.root]
    else if (pieces path).head? = some "." then [.current] else []) ++
  (pieces path).filterMap componentOf?

def Component.text : Component → String
  | .root => ""
  | .current => "."
  | .parent => ".."
  | .name text => text

/-- The path with the given components, with single slashes between them. -/
def ofComponents : List Component → String
  | [] => ""
  | .root :: rest => "/" ++ "/".intercalate (rest.map Component.text)
  | first :: rest => "/".intercalate ((first :: rest).map Component.text)

/-- What the text of a path begins with before its first name: the root, or a dot. -/
def opening (path : String) : List Char :=
  if isAbsolute path then ['/'] else if (pieces path).head? = some "." then ['.'] else []

/-- Drops slashes and lone dots in front of a text that is read backwards. -/
def dropIdle : List Char → List Char
  | '/' :: rest => dropIdle rest
  | '.' :: '/' :: rest => dropIdle rest
  | ['.'] => []
  | text => text

theorem length_dropIdle_le (text : List Char) : (dropIdle text).length ≤ text.length := by
  fun_induction dropIdle text with
  | case1 rest ih => exact Nat.le_succ_of_le ih
  | case2 rest ih => exact Nat.le_succ_of_le (Nat.le_succ_of_le ih)
  | case3 => simp
  | case4 => exact Nat.le_refl _

/-- A text that is read backwards and begins with a name, then what is left of it without that name,
and so on. -/
def shortenings : List Char → List (List Char)
  | [] => []
  | c :: rest => (c :: rest) :: shortenings (dropIdle (rest.dropWhile (· ≠ '/')))
termination_by text => text.length
decreasing_by
  have kept := length_dropIdle_le (rest.dropWhile (· ≠ '/'))
  have dropped := (List.dropWhile_sublist (· ≠ '/') (l := rest)).length_le
  simp only [List.length_cons]
  omega

/-- The directories that a path leads through, the nearest first. Each is spelled as the path spells
it, up to the end of its own name. -/
def above (path : String) : List String :=
  let opening := opening path
  let body := (path.toList.drop opening.length).reverse
  match shortenings (dropIdle body) with
  | [] => []
  | _ :: shorter =>
    (shorter.map fun text => String.ofList (opening ++ text.reverse)) ++
      if opening = [] then [] else [String.ofList opening]

/-- The name that a path ends in, unless it ends in the root or in dots. -/
def fileName? (path : String) : Option String :=
  match (components path).getLast? with
  | some (.name text) => some text
  | _ => none

/-- A file name without its last extension. A name whose only dot comes first has none. -/
def stemOf (fileName : List Char) : List Char :=
  match (fileName.reverse.dropWhile (· != '.')) with
  | [] => fileName
  | [_] => fileName
  | _ :: before => before.reverse

def stem? (path : String) : Option String :=
  (fileName? path).map fun name => String.ofList (stemOf name.toList)

/-- The spelling of a directory without dots and needless slashes. That of the current directory is
empty. -/
def plain (path : String) : String :=
  ofComponents ((components path).filter (· != .current))

/-- The spelling under which a directory is walked: the plain one, or a dot for the current
directory. -/
def walked (directory : String) : String :=
  if plain directory = "" then "." else plain directory

/-- A name inside a directory; the empty directory adds nothing in front. -/
def join (directory name : String) : String :=
  if directory = "" then name
  else if directory.toList.getLast? = some '/' then directory ++ name
  else directory ++ "/" ++ name

end HdlClosure.Path
