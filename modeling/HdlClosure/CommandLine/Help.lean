import HdlClosure.CommandLine.Options

namespace HdlClosure.CommandLine

/-- What a switch is for. The help points to its other length. -/
def Switch.about (long : Bool) : Switch → String
  | .lang => "HDL dialect"
  | .tbs => "Space-separated testbench names, e.g. \"top_tb other_tb\""
  | .hdlDir => "Directory with design sources"
  | .simDir => "Directory with simulation sources"
  | .config => "TOML file with default values for the options above"
  | .onDuplicate => "What to do when two files define the same module name"
  | .vhdlCapture => "VHDL only: take the entity name or the instance label"
  | .format => "Output format"
  | .initConfig => "Write a documented configuration file and exit"
  | .verbose => "Debug logging on stderr"
  | .quiet => "Only log errors"
  | .noColor => "Disable colored log output"
  | .help =>
    if long then "Print help (see a summary with '-h')" else "Print help (see more with '--help')"
  | .version => "Print version"

/-- The values that a switch takes, each with what it means where that is said. -/
def Switch.values : Switch → List (String × Option String)
  | .lang => (Choice.all : List Language).map fun language => (Choice.name language, none)
  | .onDuplicate =>
    (Choice.all : List DuplicatePolicy).map fun policy => (Choice.name policy, some (match policy with
      | .warn => "Keep the later file and log a warning"
      | .ignore => "Keep the later file silently"
      | .error => "Abort the run"))
  | .vhdlCapture =>
    (Choice.all : List Capture).map fun capture => (Choice.name capture, some (match capture with
      | .entity => "The entity name after `library.`"
      | .label => "The instance label before the colon"))
  | .format =>
    (Choice.all : List OutputFormat).map fun format => (Choice.name format, match format with
      | .plain => some "Sorted paths on a single line, separated by spaces"
      | .json => none)
  | _ => []

def Switch.usage (switch : Switch) : String :=
  (match switch.short? with
    | some letter => "  -" ++ String.ofList [letter] ++ ", "
    | none => "      ") ++
  "--" ++ switch.long ++
  (match switch.placeholder? with
    | some placeholder => " <" ++ placeholder ++ ">"
    | none => "")

/-- A text filled up with spaces on the right. -/
def padTo (width : Nat) (text : String) : String :=
  text ++ String.ofList (List.replicate (width - text.length) ' ')

def widest (texts : List String) : Nat := texts.foldl (fun width text => max width text.length) 0

def Switch.valueList (switch : Switch) : String :=
  "[possible values: " ++ ", ".intercalate (switch.values.map (·.1)) ++ "]"

def Switch.summary (switch : Switch) : String :=
  padTo (widest (Switch.all.map Switch.usage) + 2) switch.usage ++ switch.about false ++
    (if switch.values.isEmpty then "" else " " ++ switch.valueList) ++ "\n"

def indentation : String := "          "

/-- A value with its meaning, aligned with the other values. -/
def Switch.valueLine (switch : Switch) (value : String × Option String) : String :=
  indentation ++ "- " ++
    (match value.2 with
      | some meaning =>
        padTo (widest (switch.values.map (·.1)) + 2) (value.1 ++ ":") ++ meaning
      | none => value.1) ++ "\n"

/-- The values of a switch below its description. -/
def Switch.valueBlock (switch : Switch) : String :=
  if switch.values.isEmpty then ""
  else if switch.values.all fun value => value.2.isNone then
    indentation ++ "\n" ++ indentation ++ switch.valueList ++ "\n"
  else
    "\n" ++ indentation ++ "Possible values:\n" ++
      String.join (switch.values.map switch.valueLine)

def Switch.description (switch : Switch) : String :=
  switch.usage ++ "\n" ++ indentation ++ switch.about true ++ "\n" ++ switch.valueBlock

def versionText : String := "hdl-deps 0.1.0\n"

def usageText : String := "Usage: hdl-deps [OPTIONS]\n"

def helpText (long : Bool) : String :=
  "Find the HDL sources needed to simulate a set of testbenches\n\n" ++ usageText ++
    "\nOptions:\n" ++
    (if long then "\n".intercalate (Switch.all.map Switch.description)
      else String.join (Switch.all.map Switch.summary))

def misuseText : String :=
  "error: the arguments are not understood\n\n" ++ usageText ++
    "\nFor more information, try '--help'."

end HdlClosure.CommandLine
