import HdlClosure.Text.Number

/-! The grammar of JSON: which texts are documents, and what a document stands for. Every kind of
value, escape and white space is covered, and not only those that a report is written with. -/
namespace HdlClosure.Json

/-- What a document stands for. A number is kept as it is written. -/
inductive Value where
  | null
  | truth (value : Bool)
  | number (literal : List Char)
  | text (value : String)
  | list (items : List Value)
  | fields (members : List (String × Value))

section Tokens

def isGapChar (c : Char) : Bool := c = ' ' || c = '\t' || c = '\n' || c = '\r'

def Gap (text : List Char) : Prop := ∀ c ∈ text, isGapChar c = true

def Digits (text : List Char) : Prop := text ≠ [] ∧ ∀ c ∈ text, c.isDigit = true

/-- A number: no needless zero in front, and digits on both sides of a point. -/
inductive NumberText : List Char → Prop where
  | of {sign whole fraction exponent : List Char} (signed : sign = [] ∨ sign = ['-'])
    (counted : Digits whole) (plain : whole.head? = some '0' → whole = ['0'])
    (parted : fraction = [] ∨ ∃ digits, Digits digits ∧ fraction = '.' :: digits)
    (scaled : exponent = [] ∨ ∃ mark direction digits, mark ∈ ['e', 'E'] ∧
      direction ∈ [[], ['+'], ['-']] ∧ Digits digits ∧ exponent = mark :: (direction ++ digits)) :
    NumberText (sign ++ (whole ++ (fraction ++ exponent)))

def escaped? : Char → Option Char
  | '"' => some '"'
  | '\\' => some '\\'
  | '/' => some '/'
  | 'b' => some '\x08'
  | 'f' => some '\x0c'
  | 'n' => some '\n'
  | 'r' => some '\r'
  | 't' => some '\t'
  | _ => none

def unit? (digits : List Char) : Option Nat :=
  (digits.mapM Text.hexValue?).map fun values =>
    values.foldl (fun unit value => unit * 16 + value) 0

/-- The code point of two halves, a high one and a low one. -/
def joined (high low : Nat) : Nat := 0x10000 + (high - 0xD800) * 0x400 + (low - 0xDC00)

/-- How one character may stand between the quotes: as it is, by a letter, or by its code in one half
or two. -/
inductive CharText : Char → List Char → Prop where
  | plain {c : Char} (visible : 0x20 ≤ c.toNat) (noQuote : c ≠ '"') (noEscape : c ≠ '\\') :
    CharText c [c]
  | named {letter c : Char} (known : escaped? letter = some c) : CharText c ['\\', letter]
  | coded {a b c d e : Char} (spelled : unit? [a, b, c, d] = some e.toNat) :
    CharText e ['\\', 'u', a, b, c, d]
  | paired {a b c d e f g h i : Char} {high low : Nat} (first : unit? [a, b, c, d] = some high)
    (isHigh : 0xD800 ≤ high ∧ high < 0xDC00) (second : unit? [e, f, g, h] = some low)
    (isLow : 0xDC00 ≤ low ∧ low < 0xE000) (same : i.toNat = joined high low) :
    CharText i ['\\', 'u', a, b, c, d, '\\', 'u', e, f, g, h]

inductive Chars : List Char → List Char → Prop where
  | nil : Chars [] []
  | cons {c : Char} {value text rest : List Char} (first : CharText c text)
    (following : Chars value rest) : Chars (c :: value) (text ++ rest)

inductive Quoted : String → List Char → Prop where
  | of {value : String} {body : List Char} (chars : Chars value.toList body) :
    Quoted value ('"' :: (body ++ ['"']))

end Tokens

section Values

variable {α : Type}

/-- One or more items with commas between them, each with white space around it. -/
inductive Listed (one : α → List Char → Prop) : List α → List Char → Prop where
  | last {item : α} {before text after : List Char} (above : Gap before) (written : one item text)
    (below : Gap after) : Listed one [item] (before ++ (text ++ after))
  | more {item : α} {items : List α} {before text after rest : List Char} (above : Gap before)
    (written : one item text) (below : Gap after) (following : Listed one items rest) :
    Listed one (item :: items) (before ++ (text ++ (after ++ ',' :: rest)))

inductive Named (one : α → List Char → Prop) : String × α → List Char → Prop where
  | of {name : String} {value : α} {key between inner text : List Char} (quoted : Quoted name key)
    (above : Gap between) (below : Gap inner) (written : one value text) :
    Named one (name, value) (key ++ (between ++ ':' :: (inner ++ text)))

inductive Written : Value → List Char → Prop where
  | null : Written .null ['n', 'u', 'l', 'l']
  | yes : Written (.truth true) ['t', 'r', 'u', 'e']
  | no : Written (.truth false) ['f', 'a', 'l', 's', 'e']
  | number {literal : List Char} (spelled : NumberText literal) :
    Written (.number literal) literal
  | text {value : String} {text : List Char} (quoted : Quoted value text) :
    Written (.text value) text
  | emptyList {gap : List Char} (blank : Gap gap) : Written (.list []) ('[' :: (gap ++ [']']))
  | list {items : List Value} {body : List Char} (listed : Listed Written items body) :
    Written (.list items) ('[' :: (body ++ [']']))
  | noFields {gap : List Char} (blank : Gap gap) :
    Written (.fields []) ('\x7b' :: (gap ++ ['\x7d']))
  | fields {members : List (String × Value)} {body : List Char}
    (listed : Listed (Named Written) members body) :
    Written (.fields members) ('\x7b' :: (body ++ ['\x7d']))

/-- A document: a value with white space around it. -/
inductive Document : Value → List Char → Prop where
  | of {value : Value} {before text after : List Char} (above : Gap before)
    (written : Written value text) (below : Gap after) :
    Document value (before ++ (text ++ after))

end Values

end HdlClosure.Json
