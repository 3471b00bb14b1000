namespace HdlClosure.Toml

/-- How a table came about, which decides what may still be added to it: written out in braces, by
the header of a table below it, by a dotted key, or by a header of its own. -/
inductive Origin where
  | inlined
  | implied
  | dotted
  | declared
  deriving DecidableEq, Repr, Inhabited

inductive Value where
  | text (value : String)
  | array (items : List Value)
  | table (origin : Origin) (members : List (String × Value))
  deriving Inhabited

abbrev Members := List (String × Value)

namespace Members

def replace (members : Members) (key : String) (value : Value) : Members :=
  members.map fun member => if member.1 = key then (key, value) else member

/-- Gives a value to a key, through the tables that its dots name. A key has one value only, and
dots lead into no table but those that dots made. -/
def define (value : Value) : List String → Members → Option Members
  | [], _ => none
  | [key], members =>
    if (members.lookup key).isSome then none else some (members ++ [(key, value)])
  | key :: path, members =>
    match members.lookup key with
    | none =>
      (define value path []).map fun inner => members ++ [(key, .table .dotted inner)]
    | some (.table .dotted inner) =>
      (define value path inner).map fun inner => members.replace key (.table .dotted inner)
    | some _ => none

/-- Opens the table of a header. A table has one header only. -/
def openTable : List String → Members → Option Members
  | [], _ => none
  | [key], members =>
    match members.lookup key with
    | none => some (members ++ [(key, .table .declared [])])
    | some (.table .implied inner) => some (members.replace key (.table .declared inner))
    | some _ => none
  | key :: path, members =>
    match members.lookup key with
    | none =>
      (openTable path []).map fun inner => members ++ [(key, .table .implied inner)]
    | some (.table .inlined _) => none
    | some (.table origin inner) =>
      (openTable path inner).map fun inner => members.replace key (.table origin inner)
    | some _ => none

/-- Changes the table that a path of keys leads to. -/
def within (change : Members → Option Members) : List String → Members → Option Members
  | [], members => change members
  | key :: path, members =>
    match members.lookup key with
    | some (.table origin inner) =>
      (within change path inner).map fun inner => members.replace key (.table origin inner)
    | _ => none

end Members

end HdlClosure.Toml
