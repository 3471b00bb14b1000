import HdlClosure.Settings

namespace HdlClosure.CommandLine

inductive Switch where
  | lang
  | tbs
  | hdlDir
  | simDir
  | config
  | onDuplicate
  | vhdlCapture
  | format
  | initConfig
  | verbose
  | quiet
  | noColor
  | help
  | version
  deriving DecidableEq, Repr, Inhabited

namespace Switch

def all : List Switch :=
  [.lang, .tbs, .hdlDir, .simDir, .config, .onDuplicate, .vhdlCapture, .format, .initConfig,
   .verbose, .quiet, .noColor, .help, .version]

/-- The name after two dashes. -/
def long : Switch → String
  | .lang => "lang"
  | .tbs => "tbs"
  | .hdlDir => "hdl-dir"
  | .simDir => "sim-dir"
  | .config => "config"
  | .onDuplicate => "on-duplicate"
  | .vhdlCapture => "vhdl-capture"
  | .format => "format"
  | .initConfig => "init-config"
  | .verbose => "verbose"
  | .quiet => "quiet"
  | .noColor => "no-color"
  | .help => "help"
  | .version => "version"

/-- A second name after two dashes, which the help does not show. -/
def alias? : Switch → Option String
  | .hdlDir => some "hdl_dir"
  | .simDir => some "sim_dir"
  | _ => none

/-- The letter after one dash. -/
def short? : Switch → Option Char
  | .config => some 'c'
  | .verbose => some 'v'
  | .quiet => some 'q'
  | .help => some 'h'
  | .version => some 'V'
  | _ => none

/-- What the value of a switch is called; switches without one take none. -/
def placeholder? : Switch → Option String
  | .lang => some "LANG"
  | .tbs => some "TBS"
  | .hdlDir => some "HDL_DIR"
  | .simDir => some "SIM_DIR"
  | .config => some "CONFIG"
  | .onDuplicate => some "ON_DUPLICATE"
  | .vhdlCapture => some "VHDL_CAPTURE"
  | .format => some "FORMAT"
  | .initConfig => some "FILE"
  | .verbose | .quiet | .noColor | .help | .version => none

def takesValue (switch : Switch) : Bool := switch.placeholder?.isSome

def ofLong? (name : String) : Option Switch :=
  all.find? fun switch => switch.long = name || switch.alias? = some name

def ofShort? (letter : Char) : Option Switch :=
  all.find? fun switch => switch.short? = some letter

end Switch

structure Options where
  lang : Option Language := none
  tbs : Option String := none
  hdlDir : Option String := none
  simDir : Option String := none
  config : Option String := none
  onDuplicate : Option DuplicatePolicy := none
  vhdlCapture : Option Capture := none
  format : Option OutputFormat := none
  initConfig : Option String := none
  verbose : Bool := false
  quiet : Bool := false
  noColor : Bool := false
  deriving DecidableEq, Repr, Inhabited

namespace Options

/-- A path is not empty. -/
def path? (text : String) : Option String := if text = "" then none else some text

/-- The options with a value for a switch. The value has to be one that the switch takes, and a
switch is given once. -/
def give (options : Options) (switch : Switch) (value : String) : Option Options :=
  match switch with
  | .lang =>
    if options.lang.isSome then none
    else (Choice.parse? Language false value).map fun found => { options with lang := some found }
  | .tbs => if options.tbs.isSome then none else some { options with tbs := some value }
  | .hdlDir =>
    if options.hdlDir.isSome then none
    else (path? value).map fun found => { options with hdlDir := some found }
  | .simDir =>
    if options.simDir.isSome then none
    else (path? value).map fun found => { options with simDir := some found }
  | .config =>
    if options.config.isSome then none
    else (path? value).map fun found => { options with config := some found }
  | .onDuplicate =>
    if options.onDuplicate.isSome then none
    else
      (Choice.parse? DuplicatePolicy false value).map fun found =>
        { options with onDuplicate := some found }
  | .vhdlCapture =>
    if options.vhdlCapture.isSome then none
    else
      (Choice.parse? Capture false value).map fun found =>
        { options with vhdlCapture := some found }
  | .format =>
    if options.format.isSome then none
    else
      (Choice.parse? OutputFormat false value).map fun found =>
        { options with format := some found }
  | .initConfig =>
    if options.initConfig.isSome then none
    else (path? value).map fun found => { options with initConfig := some found }
  | .verbose | .quiet | .noColor | .help | .version => none

/-- The options with a switch that takes no value. It is given once. -/
def raise (options : Options) : Switch → Option Options
  | .verbose => if options.verbose then none else some { options with verbose := true }
  | .quiet => if options.quiet then none else some { options with quiet := true }
  | .noColor => if options.noColor then none else some { options with noColor := true }
  | _ => none

def overrides (options : Options) : Settings.Overrides :=
  { language := options.lang
    testbenches := options.tbs
    hdlDir := options.hdlDir
    simDir := options.simDir
    duplicates := options.onDuplicate
    capture := options.vhdlCapture
    format := options.format }

end Options

end HdlClosure.CommandLine
