import HdlClosure.Choice

namespace HdlClosure

inductive Language where
  | verilog
  | systemVerilog
  | vhdl
  deriving DecidableEq, Repr, Inhabited

/-- The two shapes of an instantiation: `type name (` and `label : entity library.name`. -/
inductive Family where
  | call
  | entity
  deriving DecidableEq, Repr, Inhabited

/-- Which name of `label : entity library.name` is the instantiated module. -/
inductive Capture where
  | entity
  | label
  deriving DecidableEq, Repr, Inhabited

namespace Language

/-- The file extension of the language's sources, without the dot. -/
def extension : Language → String
  | .verilog => "v"
  | .systemVerilog => "sv"
  | .vhdl => "vhdl"

/-- What opens a comment that runs to the end of the line. -/
def commentMarker : Language → String
  | .verilog | .systemVerilog => "//"
  | .vhdl => "--"

def family : Language → Family
  | .verilog | .systemVerilog => .call
  | .vhdl => .entity

end Language

instance : Choice Language where
  all := [.verilog, .systemVerilog, .vhdl]
  name
    | .verilog => "verilog"
    | .systemVerilog => "sv"
    | .vhdl => "vhdl"

instance : Choice Capture where
  all := [.entity, .label]
  name
    | .entity => "entity"
    | .label => "label"

end HdlClosure
