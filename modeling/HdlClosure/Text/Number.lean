namespace HdlClosure.Text

def hexValue? (c : Char) : Option Nat :=
  if '0' ≤ c ∧ c ≤ '9' then some (c.toNat - '0'.toNat)
  else if 'a' ≤ c ∧ c ≤ 'f' then some (c.toNat - 'a'.toNat + 10)
  else if 'A' ≤ c ∧ c ≤ 'F' then some (c.toNat - 'A'.toNat + 10)
  else none

def dropSign : List Char → List Char
  | '+' :: rest => rest
  | '-' :: rest => rest
  | text => text

/-- Whether a text is an exponent: its letter, a sign where there is one, and digits. -/
def isExponent : List Char → Bool
  | [] => false
  | c :: rest => c.toLower = 'e' && !(dropSign rest).isEmpty && (dropSign rest).all Char.isDigit

/-- What follows the digits at the front of a text and those behind a point, if there are any. -/
def dropDecimal? (text : List Char) : Option (List Char) :=
  let whole := text.takeWhile Char.isDigit
  match text.drop whole.length with
  | '.' :: rest =>
    if whole.isEmpty && (rest.takeWhile Char.isDigit).isEmpty then none
    else some (rest.dropWhile Char.isDigit)
  | rest => if whole.isEmpty then none else some rest

/-- What stands for a value that no digits spell. -/
def numberNames : List String := ["inf", "infinity", "nan"]

/-- Whether a text spells a number: digits with a point, an exponent and a sign where there is one,
or the name of infinity or of no number in any case. -/
def isNumber (text : List Char) : Bool :=
  let unsigned := dropSign text
  numberNames.contains (String.ofList (unsigned.map Char.toLower)) ||
    match dropDecimal? unsigned with
    | some rest => rest.isEmpty || isExponent rest
    | none => false

end HdlClosure.Text
