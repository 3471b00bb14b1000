import HdlClosure.Log.Event
import HdlClosure.Pattern.Reader
import HdlClosure.Text.Alphanumeric
import HdlClosure.Text.Blank
import HdlClosure.Text.Bytes
import HdlClosure.Text.Number

/-! Which events are told. A filter is a list of directives such as `hdl_deps=info`, separated by
commas; of those that concern an event the most specific decides. -/
namespace HdlClosure

/-- Events of a target and the targets below it, with certain fields, up to a level. -/
structure Directive where
  target : Option (List Char) := none
  fields : List String := []
  level : Nat
  deriving DecidableEq, Repr, Inhabited

abbrev LogFilter := List Directive

namespace Directive

/-- Whether a directive speaks of an event. -/
def concerns (directive : Directive) (event : Event) : Bool :=
  (directive.target.getD []).isPrefixOf event.target.toList &&
    directive.fields.all fun name => event.fieldNames.contains name

/-- A longer target is more specific than a shorter one, and any than none; then more fields
count. -/
def rank (directive : Directive) : Nat × Nat :=
  (match directive.target with
    | some target => target.length + 1
    | none => 0, directive.fields.length)

/-- Whether a directive gives way to another that concerns the same event. -/
def yieldsTo (directive other : Directive) : Bool :=
  if directive.rank.1 ≠ other.rank.1 then directive.rank.1 < other.rank.1
  else if directive.rank.2 ≠ other.rank.2 then directive.rank.2 < other.rank.2
  else !decide (other.fields < directive.fields)

end Directive

namespace LogFilter

/-- Up to the given level within one target. -/
def upTo (target : String) (level : LogLevel) : LogFilter :=
  [{ target := some target.toList, level := level.rank }]

/-- The directive that decides about an event. -/
def deciding? (filter : LogFilter) (event : Event) : Option Directive :=
  filter.foldl (fun best directive =>
    if directive.concerns event then
      match best with
      | some current => if current.yieldsTo directive then some directive else best
      | none => some directive
    else best) none

def admits (filter : LogFilter) (event : Event) : Bool :=
  match filter.deciding? event with
  | some directive => event.level.rank ≤ directive.level
  | none => false

/-- The number that ASCII digits spell, with an optional plus sign. -/
def number? (text : List Char) : Option Nat :=
  let digits := if text.head? = some '+' then text.drop 1 else text
  if digits.isEmpty || !digits.all Char.isDigit then none
  else some (digits.foldl (fun value digit => value * 10 + (digit.toNat - '0'.toNat)) 0)

def levelNames : List String := ["off", "error", "warn", "info", "debug", "trace"]

/-- A level by its number or by its name in any case. -/
def level? (text : List Char) : Option Nat :=
  match number? text with
  | some number => if number < levelNames.length then some number else none
  | none => levelNames.findIdx? fun name => text.map Char.toLower = name.toList

/-- The level after the equals sign; without one everything is told. -/
def levelAfter? (text : List Char) : Option Nat :=
  if text.isEmpty then some LogLevel.trace.rank else level? text

/-- Reads a field: its name, and whether no value is asked for. A value is a number or a pattern; it
ends at a second equals sign. -/
def field? (text : List Char) : Option (String × Bool) :=
  let name := text.takeWhile (· ≠ '=')
  match text.drop name.length with
  | [] => some (String.ofList name, true)
  | _ :: rest =>
    let value := rest.takeWhile (· ≠ '=')
    if Text.isNumber value || Pattern.isPattern value then some (String.ofList name, false)
    else none

/-- What brackets ask for, and where they end. -/
structure Brackets where
  fields : Option (List String)
  stop : Nat
  rest : List Char

/-- Reads the inside of brackets, which names a span, a field in braces, or both; without `fields`,
no event can match. The field is cut from the whole text; `inside` starts at position `start`. -/
def brackets? (text : List Char) (start : Nat) (inside : List Char) : Option Brackets :=
  let span := inside.takeWhile fun c => c ≠ ']' && c ≠ '\x7b'
  let opening := start + Text.byteLength span + 1
  match inside.drop span.length with
  | ']' :: rest => some ⟨none, opening, rest⟩
  | '\x7b' :: rest =>
    let field := rest.takeWhile (· ≠ '\x7d')
    let closing := opening + Text.byteLength field
    match field.isEmpty, rest.drop field.length with
    | false, '\x7d' :: ']' :: rest =>
      (field? (Text.between text opening closing)).map fun (name, plain) =>
        ⟨if span.isEmpty && plain then some [name] else none, closing + 2, rest⟩
    | _, _ => none
  | _ => none

def opensDirective (c : Char) : Bool :=
  c = '[' || c = '-' || c = ':' || c = '_' || Text.isAlphanumeric c

/-- Reads one directive; the inner `none` is one that no event can match. The separators are sought
in the trimmed text, and the parts are cut from the whole text at their positions. -/
def directive? (text : List Char) : Option (Option Directive) :=
  let trimmed := Text.trim text
  let name := trimmed.takeWhile fun c => c ≠ '=' && c ≠ '['
  let stop := Text.byteLength name
  let target := Text.between text 0 stop
  if !(trimmed.head?.map opensDirective).getD false then none
  else
    match trimmed.drop name.length with
    | [] =>
      match level? text with
      | some level => some (some { level := level })
      | none => some (some { target := some text, level := LogLevel.trace.rank })
    | '=' :: _ =>
      (levelAfter? (Text.dropBytes (stop + 1) text)).map fun level =>
        some { target := some target, level := level }
    | _ :: inside => do
      let brackets ← brackets? text (stop + 1) inside
      let level ←
        match brackets.rest with
        | [] => some LogLevel.trace.rank
        | '=' :: _ => levelAfter? (Text.dropBytes (brackets.stop + 1) text)
        | _ => none
      return brackets.fields.map fun fields =>
        { target := if name.isEmpty then none else some target, fields := fields, level := level }

def parse? (text : String) : Option LogFilter :=
  let parts := (text.toList.splitOnP (· == ',')).filter fun part => !part.isEmpty
  (parts.mapM directive?).map fun directives => directives.filterMap id

end LogFilter

end HdlClosure
