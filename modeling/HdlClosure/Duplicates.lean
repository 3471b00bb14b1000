import HdlClosure.Choice

namespace HdlClosure

/-- The later file always replaces the earlier one, with a warning or without, unless the run has
to stop. -/
inductive DuplicatePolicy where
  | warn
  | ignore
  | error
  deriving DecidableEq, Repr, Inhabited

instance : Choice DuplicatePolicy where
  all := [.warn, .ignore, .error]
  name
    | .warn => "warn"
    | .ignore => "ignore"
    | .error => "error"

end HdlClosure
