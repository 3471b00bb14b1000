import HdlClosure.Pattern.CharSet
import HdlClosure.Text.Alphanumeric

namespace HdlClosure.Pattern

/-- What stands around an open group: the mode, the branches before the one that the group is in,
and the parts before the group. -/
structure Around where
  mode : Mode
  branches : List Nat
  parts : List (Option Nat)
  deriving DecidableEq, Repr, Inhabited

/-- A pattern read so far, within the innermost open group: the depths of its branches, and of the
parts of the branch under way, the last ones first. A change of the mode is a part without a depth;
it cannot be repeated. -/
structure Progress where
  mode : Mode := {}
  names : List (List Char) := []
  around : List Around := []
  branches : List Nat := []
  parts : List (Option Nat) := []
  deriving DecidableEq, Repr, Inhabited

/-- Reads the letters that change the mode, up to a colon or a closing parenthesis; those before are
given, the last ones first. A dash stands once, before the letters that it turns off. -/
def readFlags (before : List Char) : List Char → Option (List Char × Char × List Char)
  | [] => none
  | c :: rest =>
    if c = ':' ∨ c = ')' then
      if before.head? = some '-' then none else some (before.reverse, c, rest)
    else if ['i', 'm', 's', 'U', 'u', 'R', 'x', '-'].contains c && !before.contains c then
      readFlags (c :: before) rest
    else none

def setting? (flags : List Char) (letter : Char) : Option Bool :=
  if flags.contains letter then some ((flags.takeWhile (· ≠ '-')).contains letter) else none

/-- The mode that letters make of another. -/
def Mode.change (mode : Mode) (flags : List Char) : Mode :=
  { verbose := (setting? flags 'x').getD mode.verbose
    unicode := (setting? flags 'u').getD mode.unicode }

def isGroupName : List Char → Bool
  | [] => false
  | first :: rest =>
    (first = '_' || Text.isAlphabetic first) &&
      rest.all fun c => ['_', '.', '[', ']'].contains c || Text.isAlphanumeric c

namespace Progress

def add (progress : Progress) (part : Option Nat) : Progress :=
  { progress with parts := part :: progress.parts }

def branch (progress : Progress) : Nat := depthOf (progress.parts.map (·.getD 0))

def depth (progress : Progress) : Nat := depthOf (progress.branch :: progress.branches)

def nextBranch (progress : Progress) : Progress :=
  { progress with branches := progress.branch :: progress.branches, parts := [] }

def repeatLast (progress : Progress) : Option Progress :=
  match progress.parts with
  | some depth :: rest => some { progress with parts := some (depth + 1) :: rest }
  | _ => none

def enter (progress : Progress) (inner : Mode) : Progress :=
  { mode := inner
    names := progress.names
    around := ⟨progress.mode, progress.branches, progress.parts⟩ :: progress.around }

def leave (progress : Progress) : Option Progress :=
  match progress.around with
  | [] => none
  | outer :: around =>
    some { mode := outer.mode, names := progress.names, around := around,
           branches := outer.branches, parts := some (progress.depth + 1) :: outer.parts }

/-- Starts a group with a name. No two groups have one name. -/
def enterNamed (progress : Progress) (text : List Char) : Option (Progress × List Char) :=
  let name := text.takeWhile (· ≠ '>')
  match text.drop name.length with
  | _ :: rest =>
    if isGroupName name && !progress.names.contains name then
      some ({ progress.enter progress.mode with names := name :: progress.names }, rest)
    else none
  | [] => none

/-- Reads on after letters that change the mode, for a group of their own or for what is left of the
group around them. -/
def enterFlags (progress : Progress) (text : List Char) : Option (Progress × List Char) := do
  let (flags, closing, rest) ← readFlags [] text
  let inner := progress.mode.change flags
  if closing = ':' then return (progress.enter inner, rest)
  else if flags.isEmpty then none
  else return ({ progress with mode := inner }.add none, rest)

/-- Reads on after an opening parenthesis. -/
def openGroup (progress : Progress) (text : List Char) : Option (Progress × List Char) :=
  match progress.mode.skip text with
  | '?' :: 'P' :: '<' :: rest => progress.enterNamed rest
  | '?' :: '<' :: rest => progress.enterNamed rest
  | '?' :: rest => progress.enterFlags rest
  | rest => some (progress.enter progress.mode, rest)

end Progress

def dropLazy : List Char → List Char
  | '?' :: rest => rest
  | text => text

/-- Reads a pattern to its end; the result is its depth. A brace would open a count, which cannot be
closed where a closing brace ends the pattern. -/
def readDepth? : Nat → Progress → List Char → Option Nat
  | 0, _, _ => none
  | fuel + 1, progress, text =>
    match progress.mode.skip text with
    | [] => if progress.around.isEmpty then some progress.depth else none
    | '(' :: rest => do
      let (progress, rest) ← progress.openGroup rest
      readDepth? fuel progress rest
    | ')' :: rest => do readDepth? fuel (← progress.leave) rest
    | '|' :: rest => readDepth? fuel progress.nextBranch rest
    | '[' :: rest => do
      let (set, rest) ← openSet progress.mode rest
      let (depth, rest) ← readSet progress.mode (rest.length + 1) [] set rest
      readDepth? fuel (progress.add (some depth)) rest
    | '\\' :: rest => do
      let (_, rest) ← readEscape progress.mode rest
      readDepth? fuel (progress.add (some 0)) rest
    | c :: rest =>
      if c = '?' ∨ c = '*' ∨ c = '+' then do
        readDepth? fuel (← progress.repeatLast) (dropLazy rest)
      else if c = '\x7b' ∨ (c = '.' ∧ progress.mode.unicode = false) then none
      else readDepth? fuel (progress.add (some 0)) rest

/-- Whether a text without closing braces is a pattern. -/
def isPattern (text : List Char) : Bool :=
  match readDepth? (text.length + 1) {} text with
  | some depth => depth ≤ depthLimit
  | none => false

end HdlClosure.Pattern
