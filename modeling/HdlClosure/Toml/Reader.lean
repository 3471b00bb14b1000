import HdlClosure.Toml.Basic
import HdlClosure.Toml.Quoted

/-! Reads a TOML document. Numbers, truth values, dates and arrays of tables are refused: no setting
holds one. -/
namespace HdlClosure.Toml

/-- A carriage return before a line feed belongs to the line's end; elsewhere it is no text. -/
def joinLineEnds : List Char → List Char
  | '\r' :: '\n' :: rest => '\n' :: joinLineEnds rest
  | c :: rest => c :: joinLineEnds rest
  | [] => []

/-- The text without a byte order mark in front. -/
def dropMark : List Char → List Char
  | '\uFEFF' :: rest => rest
  | text => text

/-- Spaces and tabs do not count. -/
def skipBlanks (text : List Char) : List Char := text.dropWhile fun c => c = ' ' || c = '\t'

def skipGap (comment : Bool) : List Char → Option (List Char)
  | [] => some []
  | c :: rest =>
    if c = '\n' then skipGap false rest
    else if comment then if isTextChar c then skipGap true rest else none
    else if c = ' ' ∨ c = '\t' then skipGap false rest
    else if c = '#' then skipGap true rest
    else some (c :: rest)

/-- Skips to the next line; only blanks and a comment may stand before it. -/
def endLine (comment : Bool) : List Char → Option (List Char)
  | [] => some []
  | c :: rest =>
    if c = '\n' then some rest
    else if comment then if isTextChar c then endLine true rest else none
    else if c = ' ' ∨ c = '\t' then endLine false rest
    else if c = '#' then endLine true rest
    else none

/-- A character of a key without quotes. -/
def isBareChar (c : Char) : Bool := c.isAlphanum || c = '_' || c = '-'

def readKeyPart (text : List Char) : Option (String × List Char) :=
  match text with
  | '"' :: rest => (readBasic rest).map fun (key, rest) => (String.ofList key, rest)
  | '\'' :: rest => (readLiteral rest).map fun (key, rest) => (String.ofList key, rest)
  | _ =>
    match text.takeWhile isBareChar with
    | [] => none
    | key => some (String.ofList key, text.dropWhile isBareChar)

/-- Reads a key with its dots and the blanks around it. -/
def readKey : Nat → List Char → Option (List String × List Char)
  | 0, _ => none
  | fuel + 1, text => do
    let (part, rest) ← readKeyPart (skipBlanks text)
    match skipBlanks rest with
    | '.' :: rest =>
      let (parts, rest) ← readKey fuel rest
      return (part :: parts, rest)
    | rest => return ([part], rest)

def expect (c : Char) : List Char → Option (List Char)
  | [] => none
  | next :: rest => if next = c then some rest else none

mutual

def readValue : Nat → List Char → Option (Value × List Char)
  | 0, _ => none
  | _ + 1, [] => none
  | fuel + 1, c :: rest =>
    if c = '[' then readItems fuel [] rest
    else if c = '\x7b' then
      match skipBlanks rest with
      | '\x7d' :: rest => some (.table .inlined [], rest)
      | rest => readMembers fuel [] rest
    else (readString (c :: rest)).map fun (text, rest) => (.text (String.ofList text), rest)

/-- Reads the items of an array up to its end; those before are given. A comma may follow the
last. -/
def readItems : Nat → List Value → List Char → Option (Value × List Char)
  | 0, _, _ => none
  | fuel + 1, before, text => do
    match ← skipGap false text with
    | ']' :: rest => return (.array before, rest)
    | text =>
      let (item, rest) ← readValue fuel text
      match ← skipGap false rest with
      | ',' :: rest => readItems fuel (before ++ [item]) rest
      | ']' :: rest => return (.array (before ++ [item]), rest)
      | _ => none

/-- Reads the members of a table in braces up to its end; those before are given. -/
def readMembers : Nat → Members → List Char → Option (Value × List Char)
  | 0, _, _ => none
  | fuel + 1, before, text => do
    let (key, rest) ← readKey (fuel + 1) text
    let (value, rest) ← readValue fuel (skipBlanks (← expect '=' rest))
    let members ← before.define value key
    match skipBlanks rest with
    | ',' :: rest => readMembers fuel members rest
    | '\x7d' :: rest => return (.table .inlined members, rest)
    | _ => none

end

/-- A document read so far: its members, and the path of the table that a line adds to. -/
structure Progress where
  members : Members := []
  path : List String := []

def readLines : Nat → Progress → List Char → Option Members
  | 0, _, _ => none
  | fuel + 1, progress, text => do
    match ← skipGap false text with
    | [] => return progress.members
    | '[' :: rest =>
      let (path, rest) ← readKey (fuel + 1) rest
      let rest ← endLine false (← expect ']' rest)
      let members ← progress.members.openTable path
      readLines fuel { members := members, path := path } rest
    | text =>
      let (key, rest) ← readKey (fuel + 1) text
      let (value, rest) ← readValue (fuel + 1) (skipBlanks (← expect '=' rest))
      let members ← progress.members.within (Members.define value key) progress.path
      readLines fuel { progress with members := members } (← endLine false rest)

def read (text : String) : Option Members :=
  readLines (text.length + 1) {} (joinLineEnds (dropMark text.toList))

end HdlClosure.Toml
