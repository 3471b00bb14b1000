import HdlClosure.Pattern.Basic
import HdlClosure.Text.Number

namespace HdlClosure.Pattern

def hexLength? : Char → Option Nat
  | 'x' => some 2
  | 'u' => some 4
  | 'U' => some 8
  | _ => none

/-- Reads a number of hexadecimal digits; `code` is what those before them spell. -/
def readHex (mode : Mode) : Nat → Nat → List Char → Option (Nat × List Char)
  | 0, code, text => some (code, text)
  | _ + 1, _, [] => none
  | count + 1, code, c :: rest =>
    (Text.hexValue? c).bind fun value => readHex mode count (code * 16 + value) (mode.skip rest)

/-- Reads a character by its code point. Two digits spell a byte where classes are sets of bytes. -/
def readCode (mode : Mode) (letter : Char) (count : Nat) (text : List Char) :
    Option (Atom × List Char) := do
  let (code, rest) ← readHex mode count 0 (mode.skip text)
  if !code.isValidChar || (letter = 'x' && !mode.unicode && 0x80 ≤ code) then none
  else return (.char (Char.ofNat code), rest)

def categories : List Char := ['c', 'l', 'm', 'n', 'p', 's', 'z']

def readCategory (mode : Mode) (text : List Char) : Option (Atom × List Char) :=
  match mode.skip text with
  | c :: rest =>
    if mode.unicode && categories.contains c.toLower then some (.oneOf, mode.skip rest) else none
  | [] => none

/-- A character that a letter after a backslash stands for. -/
def control? : Char → Option Char
  | 'a' => some '\x07'
  | 'f' => some '\x0c'
  | 't' => some '\t'
  | 'n' => some '\n'
  | 'r' => some '\r'
  | 'v' => some '\x0b'
  | _ => none

/-- A character that a backslash may precede without a change: one of ASCII that is neither a letter
nor a digit nor an angle. -/
def isEscapable (c : Char) : Bool :=
  c.toNat < 0x80 && !c.isAlphanum && c ≠ '<' && c ≠ '>'

/-- Reads what a backslash stands for. A complement of a class is no set of ASCII characters, and
where words end cannot be decided over all of Unicode. -/
def readEscape (mode : Mode) : List Char → Option (Atom × List Char)
  | [] => none
  | c :: rest =>
    match hexLength? c, control? c with
    | some count, _ => readCode mode c count rest
    | none, some value => some (.char value, rest)
    | none, none =>
      match c with
      | 'p' | 'P' => readCategory mode rest
      | 'd' | 's' | 'w' => some (.oneOf, rest)
      | 'D' | 'S' | 'W' => if mode.unicode then some (.oneOf, rest) else none
      | 'A' | 'z' => some (.position, rest)
      | 'b' | 'B' | '<' | '>' => if mode.unicode then none else some (.position, rest)
      | _ => if isEscapable c then some (.char c, rest) else none

end HdlClosure.Pattern
