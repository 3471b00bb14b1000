import HdlClosure.Text.Number

namespace HdlClosure.Toml

/-- Quotes of two kinds, on one line or over several. Backslash escapes count between double quotes
only. -/
inductive Form where
  | basic
  | literal
  | basicBlock
  | literalBlock
  deriving DecidableEq, Repr, Inhabited

/-- A character that may stand in a string or a comment as it is, line feeds apart. -/
def isTextChar (c : Char) : Bool := c = '\t' || (0x20 ≤ c.toNat && c.toNat ≠ 0x7F)

/-- A character that only an escape can write. -/
def needsEscape (c : Char) : Bool := !isTextChar c && c ≠ '\n'

def longestRun (quote : Char) (text : List Char) : Nat :=
  (text.foldl (fun (longest, run) c =>
    if c = quote then (max longest (run + 1), run + 1) else (longest, 0)) (0, 0)).1

/-- The form of a text: the plainest that needs no escapes, and double quotes with escapes where
there is none. -/
def formOf (text : List Char) : Form :=
  let escapes := text.any needsEscape
  let backslash := text.contains '\\'
  let newline := text.contains '\n'
  let singles := longestRun '\'' text
  let doubles := longestRun '"' text
  if !escapes && !backslash && doubles = 0 && !newline then .basic
  else if !escapes && singles = 0 && !newline then .literal
  else if !escapes && !backslash && doubles ≤ 2 then .basicBlock
  else if !escapes && singles ≤ 2 then .literalBlock
  else if newline then .basicBlock
  else .basic

def hexDigit (digit : Nat) : Char := (Nat.digitChar digit).toUpper

/-- How a character other than a double quote stands between double quotes. -/
def escapeChar (block : Bool) (c : Char) : List Char :=
  match c with
  | '\x08' => ['\\', 'b']
  | '\t' => ['\\', 't']
  | '\n' => if block then ['\n'] else ['\\', 'n']
  | '\x0c' => ['\\', 'f']
  | '\r' => ['\\', 'r']
  | '\\' => ['\\', '\\']
  | _ =>
    if needsEscape c then
      ['\\', 'u', '0', '0', hexDigit (c.toNat / 16), hexDigit (c.toNat % 16)]
    else [c]

/-- A text between double quotes. A block leaves up to two double quotes in a row as they are; `run`
counts those just written. -/
def escape (block : Bool) (run : Nat) : List Char → List Char
  | [] => []
  | c :: rest =>
    if c = '"' then
      if block && run < 2 then '"' :: escape block (run + 1) rest
      else '\\' :: '"' :: escape block 0 rest
    else escapeChar block c ++ escape block 0 rest

/-- The line break after the opening quotes of a block, which is not part of the text. Only a text
over several lines gets one. -/
def leadingBreak (text : List Char) : List Char := if text.contains '\n' then ['\n'] else []

def writeAs (text : List Char) : Form → List Char
  | .basic => '"' :: escape false 0 text ++ ['"']
  | .literal => '\'' :: text ++ ['\'']
  | .basicBlock =>
    ['"', '"', '"'] ++ leadingBreak text ++ escape true 0 text ++ ['"', '"', '"']
  | .literalBlock =>
    ['\'', '\'', '\''] ++ leadingBreak text ++ text ++ ['\'', '\'', '\'']

def quoted (text : String) : List Char := writeAs text.toList (formOf text.toList)

/-- The character with the code point that the digits spell. -/
def charOfHex? (digits : List Char) : Option Char := do
  let values ← digits.mapM Text.hexValue?
  let code := values.foldl (fun code value => code * 16 + value) 0
  if code.isValidChar then some (Char.ofNat code) else none

/-- The character that a backslash and a letter stand for. -/
def escaped? : Char → Option Char
  | 'b' => some '\x08'
  | 't' => some '\t'
  | 'n' => some '\n'
  | 'f' => some '\x0c'
  | 'r' => some '\r'
  | '"' => some '"'
  | '\\' => some '\\'
  | _ => none

abbrev Reading := Option (List Char × List Char)

def Reading.after (front : List Char) (reading : Reading) : Reading :=
  reading.map fun (text, rest) => (front ++ text, rest)

/-- Whether a text opens with the quotes that close a block. Up to two more of them belong to the
block; what follows comes after. -/
def closing? (quote : Char) (text : List Char) : Reading :=
  let run := (text.takeWhile (· = quote)).length
  if 3 ≤ run then some (List.replicate (min run 5 - 3) quote, text.drop (min run 5)) else none

def readLiteral : List Char → Reading
  | [] => none
  | c :: rest =>
    if c = '\'' then some ([], rest)
    else if isTextChar c then (readLiteral rest).after [c]
    else none

def readLiteralBlock : List Char → Reading
  | [] => none
  | c :: rest =>
    match closing? '\'' (c :: rest) with
    | some closed => some closed
    | none =>
      if isTextChar c || c = '\n' then (readLiteralBlock rest).after [c] else none

def readBasic : List Char → Reading
  | [] => none
  | '\\' :: 'u' :: a :: b :: c :: d :: rest =>
    (charOfHex? [a, b, c, d]).bind fun found => (readBasic rest).after [found]
  | '\\' :: 'U' :: a :: b :: c :: d :: e :: f :: g :: h :: rest =>
    (charOfHex? [a, b, c, d, e, f, g, h]).bind fun found => (readBasic rest).after [found]
  | '\\' :: c :: rest => (escaped? c).bind fun found => (readBasic rest).after [found]
  | c :: rest =>
    if c = '"' then some ([], rest)
    else if isTextChar c && c ≠ '\\' then (readBasic rest).after [c]
    else none

/-- What a block between double quotes goes through: its text, and after a backslash at the end of a
line the blanks up to the line's end and then those up to the next visible character. -/
inductive Stretch where
  | text
  | lineEnd
  | gap
  deriving DecidableEq, Repr, Inhabited

def readBasicBlock (stretch : Stretch) : List Char → Reading
  | [] => none
  | c :: rest =>
    if stretch = .lineEnd then
      if c = '\n' then readBasicBlock .gap rest
      else if c = ' ' ∨ c = '\t' then readBasicBlock .lineEnd rest
      else none
    else if stretch = .gap ∧ (c = ' ' ∨ c = '\t' ∨ c = '\n') then readBasicBlock .gap rest
    else
      match closing? '"' (c :: rest) with
      | some closed => some closed
      | none =>
        if c = '\\' then
          match rest with
          | 'u' :: a :: b :: c :: d :: rest =>
            (charOfHex? [a, b, c, d]).bind fun found => (readBasicBlock .text rest).after [found]
          | 'U' :: a :: b :: c :: d :: e :: f :: g :: h :: rest =>
            (charOfHex? [a, b, c, d, e, f, g, h]).bind fun found =>
              (readBasicBlock .text rest).after [found]
          | next :: rest =>
            if next = '\n' then readBasicBlock .gap rest
            else if next = ' ' ∨ next = '\t' then readBasicBlock .lineEnd rest
            else (escaped? next).bind fun found => (readBasicBlock .text rest).after [found]
          | [] => none
        else if isTextChar c || c = '\n' then (readBasicBlock .text rest).after [c]
        else none

/-- Drops the line break right after the quotes that open a block. -/
def dropBreak : List Char → List Char
  | '\n' :: rest => rest
  | text => text

def readString : List Char → Reading
  | '"' :: '"' :: '"' :: rest => readBasicBlock .text (dropBreak rest)
  | '"' :: rest => readBasic rest
  | '\'' :: '\'' :: '\'' :: rest => readLiteralBlock (dropBreak rest)
  | '\'' :: rest => readLiteral rest
  | _ => none

end HdlClosure.Toml
