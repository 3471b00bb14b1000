import HdlClosure.Pattern.Escape

namespace HdlClosure.Pattern

/-- A set read so far: the depth of what stands left of an operation, and those of the members. -/
structure OpenSet where
  left : Option Nat := none
  members : List Nat := []
  deriving DecidableEq, Repr, Inhabited

namespace OpenSet

def add (set : OpenSet) (depth : Nat) : OpenSet := { set with members := depth :: set.members }

/-- The depth between the brackets. -/
def depth (set : OpenSet) : Nat :=
  match set.left with
  | none => depthOf set.members
  | some left => max left (depthOf set.members) + 1

def operate (set : OpenSet) : OpenSet := { left := some set.depth, members := [] }

end OpenSet

def namedClasses : List String :=
  ["alnum", "alpha", "ascii", "blank", "cntrl", "digit", "graph", "lower", "print", "punct",
   "space", "upper", "word", "xdigit"]

/-- Reads a named class after its bracket; a caret before the name takes the complement. -/
def readNamed? : List Char → Option (Bool × List Char)
  | ':' :: text =>
    let complement := text.head? = some '^'
    let text := if complement then text.drop 1 else text
    let name := text.takeWhile (· ≠ ':')
    match text.drop name.length with
    | ':' :: ']' :: rest =>
      if namedClasses.contains (String.ofList name) then some (complement, rest) else none
    | _ => none
  | _ => none

def readDashes (mode : Mode) : Nat → List Nat → List Char → List Nat × List Char
  | fuel + 1, members, '-' :: rest => readDashes mode fuel (0 :: members) (mode.skip rest)
  | _, members, text => (members, text)

/-- Opens a set after its bracket. A closing bracket in front of all members is one of them; a
complement is no set of ASCII characters. -/
def openSet (mode : Mode) (text : List Char) : Option (OpenSet × List Char) :=
  let text := mode.skip text
  let complement := text.head? = some '^'
  let text := if complement then mode.skip (text.drop 1) else text
  if complement && !mode.unicode then none
  else
    match readDashes mode text.length [] text with
    | ([], ']' :: rest) => some ({ members := [0] }, mode.skip rest)
    | (members, rest) => some ({ members := members }, rest)

/-- Reads one end of a range, or what stands alone. -/
def readEnd (mode : Mode) : List Char → Option (Atom × List Char)
  | [] => none
  | '\\' :: rest => readEscape mode rest
  | c :: rest => some (.char c, rest)

def isMember (mode : Mode) : Atom → Bool
  | .char c => mode.admits c
  | .oneOf => true
  | .position => false

def isRange (mode : Mode) : Atom → Atom → Bool
  | .char first, .char last => first ≤ last && mode.admits first && mode.admits last
  | _, _ => false

/-- Reads a range or what stands alone. A dash before the closing bracket or before another dash
makes no range. -/
def readRange (mode : Mode) (text : List Char) : Option (List Char) := do
  let (first, rest) ← readEnd mode text
  let alone := if isMember mode first then some (mode.skip rest) else none
  match mode.skip rest with
  | '-' :: after =>
    if mode.peek? after = some ']' ∨ mode.peek? after = some '-' then alone
    else
      let (last, rest) ← readEnd mode (mode.skip after)
      if isRange mode first last then some rest else none
  | _ => alone

/-- Reads a set up to its closing bracket; `above` holds the sets around it. The result is its depth
and what follows. -/
def readSet (mode : Mode) : Nat → List OpenSet → OpenSet → List Char → Option (Nat × List Char)
  | 0, _, _, _ => none
  | fuel + 1, above, set, text =>
    match mode.skip text with
    | [] => none
    | ']' :: rest =>
      match above with
      | [] => some (set.depth + 1, rest)
      | outer :: above => readSet mode fuel above (outer.add (set.depth + 1)) rest
    | '[' :: rest =>
      match readNamed? rest with
      | some (complement, rest) =>
        if complement && !mode.unicode then none else readSet mode fuel above (set.add 0) rest
      | none => do
        let (inner, rest) ← openSet mode rest
        readSet mode fuel (set :: above) inner rest
    | c :: rest =>
      if (c = '&' ∨ c = '-' ∨ c = '~') ∧ rest.head? = some c then
        readSet mode fuel above set.operate (rest.drop 1)
      else do readSet mode fuel above (set.add 0) (← readRange mode (c :: rest))

end HdlClosure.Pattern
