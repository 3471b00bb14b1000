import HdlClosure.Settings
import HdlClosure.Toml.Reader

namespace HdlClosure.Settings

open Toml (Value Members)

def isEmptyValue : Value → Bool
  | .table _ members => members.isEmpty
  | .array items => items.isEmpty
  | .text _ => false

/-- A value of a list of choices: its name, or a table whose only key is the name and which holds
nothing else. -/
def choice? (α : Type) [Choice α] : Value → Option α
  | .text name => Choice.parse? α false name
  | .table _ [(name, inner)] => if isEmptyValue inner then Choice.parse? α false name else none
  | _ => none

def text? : Value → Option String
  | .text text => some text
  | _ => none

def texts? : Value → Option (List String)
  | .array items => items.mapM text?
  | _ => none

namespace Draft

/-- Takes in one member. There are no members but the settings. -/
def set (draft : Draft) (key : String) (value : Value) : Option Draft :=
  match key with
  | "language" => (choice? Language value).map fun found => { draft with language := some found }
  | "testbenches" => (texts? value).map fun found => { draft with testbenches := some found }
  | "hdl_dir" => (text? value).map fun found => { draft with hdlDir := some found }
  | "sim_dir" => (text? value).map fun found => { draft with simDir := some found }
  | "duplicates" =>
    (choice? DuplicatePolicy value).map fun found => { draft with duplicates := some found }
  | "vhdl_capture" => (choice? Capture value).map fun found => { draft with capture := some found }
  | "format" => (choice? OutputFormat value).map fun found => { draft with format := some found }
  | _ => none

/-- The settings among the members of a document. -/
def ofMembers? (members : Members) : Option Draft :=
  members.foldlM (fun draft member => draft.set member.1 member.2) {}

def parse? (text : String) : Option Draft := (Toml.read text).bind ofMembers?

end Draft

def writeLine (key : String) (value : List Char) : List Char :=
  key.toList ++ " = ".toList ++ value ++ ['\n']

/-- An array of texts. One of several items has each on a line of its own. -/
def writeTexts : List String → List Char
  | [] => "[]".toList
  | [item] => '[' :: Toml.quoted item ++ [']']
  | items =>
    "[\n".toList ++ items.flatMap (fun item => "    ".toList ++ Toml.quoted item ++ ",\n".toList) ++
      "]".toList

def writeChoice {α : Type} [Choice α] (value : α) : List Char := Toml.quoted (Choice.name value)

def write (settings : Settings) : List Char :=
  writeLine "language" (writeChoice settings.language) ++
    writeLine "testbenches" (writeTexts settings.testbenches) ++
    writeLine "hdl_dir" (Toml.quoted settings.hdlDir) ++
    writeLine "sim_dir" (Toml.quoted settings.simDir) ++
    writeLine "duplicates" (writeChoice settings.duplicates) ++
    writeLine "vhdl_capture" (writeChoice settings.capture) ++
    writeLine "format" (writeChoice settings.format)

def toText (settings : Settings) : String := String.ofList settings.write

/-- The lines of a document to start from, with every setting explained. -/
def templateLines : List String := [
  "# hdl-deps configuration file",
  "# Any value given on the command line overrides the value here.",
  "",
  "# HDL dialect: \"verilog\" (.v), \"sv\" (.sv) or \"vhdl\" (.vhdl)",
  "language = \"verilog\"",
  "",
  "# Testbench (root) module names",
  "testbenches = [\"top_tb\"]",
  "",
  "# Directory with design sources (not searched recursively)",
  "hdl_dir = \"src/hdl\"",
  "",
  "# Directory with simulation sources (not searched recursively)",
  "sim_dir = \"src/sim\"",
  "",
  "# Two files with the same module name: \"warn\", \"ignore\" or \"error\"",
  "duplicates = \"warn\"",
  "",
  "# VHDL only: take the \"entity\" name or the instance \"label\"",
  "vhdl_capture = \"entity\"",
  "",
  "# Output: \"plain\" (one line of paths) or \"json\"",
  "format = \"plain\""]

def template : String := String.join (templateLines.map (· ++ "\n"))

end HdlClosure.Settings
