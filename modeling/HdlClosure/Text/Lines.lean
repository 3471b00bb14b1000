namespace HdlClosure.Text

def dropReturn (line : List Char) : List Char :=
  if line.getLast? = some '\r' then line.dropLast else line

/-- The lines of a text. What follows the last line feed is a line unless it is empty; a carriage
return counts as an end only before a line feed. -/
def lines (text : List Char) : List (List Char) :=
  let pieces := text.splitOnP (· == '\n')
  let last := (pieces.getLast?).getD []
  pieces.dropLast.map dropReturn ++ if last.isEmpty then [] else [last]

end HdlClosure.Text
