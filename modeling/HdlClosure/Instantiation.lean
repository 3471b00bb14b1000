import HdlClosure.Language
import HdlClosure.Text.Blank
import HdlClosure.Text.Lines
import HdlClosure.Text.Lowercase
import HdlClosure.Text.WordChar

/-! The modules that a source instantiates, read line by line. A line counts when it begins like an
instantiation; nothing is remembered from one line to the next. -/
namespace HdlClosure

open Text

/-- How sources are read: their language and, for VHDL, the name to take. -/
structure Dialect where
  language : Language
  capture : Capture := .entity
  deriving DecidableEq, Repr, Inhabited

/-- The gates built into the languages. No source file defines them. -/
def primitives : List String := ["and", "or", "not", "xor", "nand", "nor", "buf"]

def isPrimitive (name : String) : Bool := primitives.contains name

/-- The longest word at the front of a text and what follows it. -/
def takeWord? (text : List Char) : Option (List Char × List Char) :=
  match text.takeWhile isWordChar with
  | [] => none
  | word => some (word, text.dropWhile isWordChar)

def takeChar? (expected : Char) : List Char → Option (List Char)
  | [] => none
  | c :: rest => if c = expected then some rest else none

/-- What follows a lowercase keyword; with `anyCase`, its ASCII letters match in either case. -/
def takeKeyword? (anyCase : Bool) : List Char → List Char → Option (List Char)
  | [], text => some text
  | _ :: _, [] => none
  | k :: keyword, c :: text =>
    if c = k ∨ (anyCase = true ∧ c.toLower = k) then takeKeyword? anyCase keyword text else none

/-- The type of a line that begins `type name (`. At least one blank stands between the words. -/
def calledType? (line : List Char) : Option (List Char) := do
  let (type, rest) ← takeWord? (trimStart line)
  let (_, rest) ← if (trimStart rest).length < rest.length then takeWord? (trimStart rest) else none
  let _ ← takeChar? '(' (trimStart rest)
  return type

/-- The label and the entity of a line that begins `label : entity library.name`. -/
def entityUse? (anyCase : Bool) (line : List Char) : Option (List Char × List Char) := do
  let (label, rest) ← takeWord? (trimStart line)
  let rest ← takeChar? ':' (trimStart rest)
  let rest ← takeKeyword? anyCase "entity".toList (trimStart rest)
  let (_, rest) ← takeWord? (trimStart rest)
  let rest ← takeChar? '.' rest
  let (entity, _) ← takeWord? rest
  return (label, entity)

namespace Dialect

/-- The name that a line instantiates, as it is written. When labels are taken, the keyword of the
line has to be lowercase. -/
def captured? (dialect : Dialect) (line : List Char) : Option (List Char) :=
  match dialect.language.family, dialect.capture with
  | .call, _ => calledType? line
  | .entity, .entity => (entityUse? true line).map (·.2)
  | .entity, .label => (entityUse? false line).map (·.1)

/-- Whether a trimmed line can hold an instantiation: it is neither empty nor a comment. -/
def isCode (dialect : Dialect) (line : List Char) : Bool :=
  !line.isEmpty && !dialect.language.commentMarker.toList.isPrefixOf line

/-- The module that a line instantiates, in lowercase. Primitives do not count. -/
def instanceOf? (dialect : Dialect) (line : List Char) : Option String :=
  if dialect.isCode (trim line) then
    (dialect.captured? (trim line)).bind fun word =>
      let name := String.ofList (lower word)
      if isPrimitive name then none else some name
  else none

/-- The modules that a source instantiates, in order and as often as it does. -/
def instances (dialect : Dialect) (source : String) : List String :=
  (lines source.toList).filterMap dialect.instanceOf?

end Dialect

end HdlClosure
