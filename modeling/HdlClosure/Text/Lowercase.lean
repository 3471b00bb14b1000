import HdlClosure.Text.Case

/-! Full lowercasing of a text, with the one rule that looks at the neighbours: a capital sigma at
the end of a word becomes the final sigma. -/
namespace HdlClosure.Text

/-- Whether the first character that is not passed over has a case. -/
def meetsCased (text : List Char) : Bool :=
  ((text.dropWhile isCaseIgnorable).head?.map isCased).getD false

/-- A capital sigma is final when a cased character comes before it and none comes after it. -/
def lowerSigma (before after : List Char) : Char :=
  if meetsCased before && !meetsCased after then 'ς' else 'σ'

/-- Lowercases `text`; `before` holds what precedes it, nearest character first. -/
def lowerFrom (before : List Char) : List Char → List Char
  | [] => []
  | c :: after =>
    (if c = 'Σ' then [lowerSigma before after] else lowerChar c) ++ lowerFrom (c :: before) after

def lower (text : List Char) : List Char := lowerFrom [] text

def lowercase (text : String) : String := String.ofList (lower text.toList)

end HdlClosure.Text
