namespace HdlClosure

/-- A type whose values are listed and named. -/
class Choice (α : Type) where
  all : List α
  name : α → String

namespace Choice

/-- Equality up to the case of ASCII letters. -/
def sameUpToCase (left right : String) : Bool :=
  left.toList.map Char.toLower == right.toList.map Char.toLower

/-- The value written `text`; with `anyCase`, ASCII letters match in either case. -/
def parse? (α : Type) [Choice α] (anyCase : Bool) (text : String) : Option α :=
  (all : List α).find? fun value =>
    if anyCase then sameUpToCase (name value) text else name value == text

/-- What is said of a text that names no value. -/
def refusal (text : String) : String := "invalid variant: " ++ text

end Choice

end HdlClosure
