import HdlClosure.Json.Basic
import HdlClosure.Json.Quoted

namespace HdlClosure.Json

/-- A line break and the indentation of a level. -/
def newLine (level : Nat) : List Char := '\n' :: List.replicate (2 * level) ' '

/-- Items between two brackets, each on a line one level further in. -/
def bracketed (opening closing : Char) (level : Nat) (items : List (List Char)) : List Char :=
  if items.isEmpty then [opening, closing]
  else
    [opening] ++ newLine (level + 1) ++ (',' :: newLine (level + 1)).intercalate items ++
      newLine level ++ [closing]

mutual

def print (level : Nat) : Json → List Char
  | .text value => quoted value
  | .number value => Nat.toDigits 10 value
  | .list items => bracketed '[' ']' level (printItems (level + 1) items)
  | .fields members => bracketed '\x7b' '\x7d' level (printMembers (level + 1) members)

def printItems (level : Nat) : List Json → List (List Char)
  | [] => []
  | item :: rest => print level item :: printItems level rest

def printMembers (level : Nat) : List (String × Json) → List (List Char)
  | [] => []
  | (name, value) :: rest =>
    (quoted name ++ [':', ' '] ++ print level value) :: printMembers level rest

end

def render (document : Json) : String := String.ofList (print 0 document)

end HdlClosure.Json
