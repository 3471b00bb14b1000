import HdlClosure.Text.Blank

/-! Patterns: regular expressions over Unicode text that an automaton can decide. What a pattern
matches is not asked for here, only which texts are patterns; what is read of one is how deep its
parts lie within each other. -/
namespace HdlClosure.Pattern

/-- How a pattern is read on: with `verbose`, blanks and comments do not count; without `unicode`,
classes are sets of bytes, of which only those of ASCII characters keep the text whole. -/
structure Mode where
  verbose : Bool := false
  unicode : Bool := true
  deriving DecidableEq, Repr, Inhabited

/-- What a piece of a pattern stands for: a character, one of several characters, or a position. -/
inductive Atom where
  | char (value : Char)
  | oneOf
  | position
  deriving DecidableEq, Repr, Inhabited

/-- How deep parts can lie within each other. -/
def depthLimit : Nat := 250

/-- The depth of parts one after another. A part alone is no deeper than itself. -/
def depthOf : List Nat → Nat
  | [] => 0
  | [depth] => depth
  | depths => depths.foldl max 0 + 1

/-- Drops blanks, and comments from a number sign to the end of its line. -/
def dropGap (comment : Bool) : List Char → List Char
  | [] => []
  | c :: rest =>
    if comment then dropGap (c ≠ '\n') rest
    else if Text.isBlank c then dropGap false rest
    else if c = '#' then dropGap true rest
    else c :: rest

namespace Mode

def skip (mode : Mode) (text : List Char) : List Char :=
  if mode.verbose then dropGap false text else text

/-- The next character that counts. A comment does not hide its own text. -/
def peek? (mode : Mode) (text : List Char) : Option Char :=
  if mode.verbose then
    match text.dropWhile Text.isBlank with
    | '#' :: rest => (rest.dropWhile Text.isBlank).head?
    | rest => rest.head?
  else text.head?

def admits (mode : Mode) (c : Char) : Bool := mode.unicode || c.toNat < 0x80

end Mode

end HdlClosure.Pattern
