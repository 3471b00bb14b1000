import HdlClosure.CommandLine.Options

/-! From the arguments to what they ask for. They are read from left to right, and the first that
asks for help or the version, or is not understood, decides. -/
namespace HdlClosure.CommandLine

inductive Request where
  | help (long : Bool)
  | version
  | misuse
  | go (options : Options)
  deriving DecidableEq, Repr, Inhabited

/-- What one argument leads to: the end, more arguments, or the value of a switch. -/
inductive Progress where
  | done (request : Request)
  | more (options : Options)
  | value (switch : Switch) (options : Options)
  deriving DecidableEq, Repr, Inhabited

/-- Goes on if the options could be changed. -/
def Progress.ofChange : Option Options → Progress
  | some options => .more options
  | none => .done .misuse

def readFlag (options : Options) (long : Bool) : Switch → Progress
  | .help => .done (.help long)
  | .version => .done .version
  | switch => .ofChange (options.raise switch)

/-- Reads an argument after its two dashes. A value may follow an equals sign. -/
def readLong (options : Options) (text : List Char) : Progress :=
  let name := text.takeWhile (· ≠ '=')
  match Switch.ofLong? (String.ofList name), text.drop name.length with
  | none, _ => .done .misuse
  | some switch, [] =>
    if switch.takesValue then .value switch options else readFlag options true switch
  | some switch, _ :: attached =>
    if switch.takesValue then .ofChange (options.give switch (String.ofList attached))
    else .done .misuse

def dropEquals : List Char → List Char
  | '=' :: rest => rest
  | text => text

/-- Reads letters after one dash. What follows the letter of a switch with a value is the value. -/
def readShort (options : Options) : List Char → Progress
  | [] => .more options
  | letter :: rest =>
    match Switch.ofShort? letter with
    | none => .done .misuse
    | some switch =>
      if switch.takesValue then
        if rest.isEmpty then .value switch options
        else .ofChange (options.give switch (String.ofList (dropEquals rest)))
      else
        match readFlag options false switch with
        | .more options => readShort options rest
        | other => other

/-- Whether an argument cannot be a value: it starts with a dash and is longer than that. -/
def isSwitch (argument : String) : Bool :=
  argument.toList.head? = some '-' && argument ≠ "-"

/-- Reads one argument where no value is due. There are no arguments but switches. -/
def readArgument (options : Options) (argument : String) : Progress :=
  match argument.toList with
  | '-' :: '-' :: text => readLong options text
  | '-' :: c :: text => readShort options (c :: text)
  | _ => .done .misuse

/-- The request of complete options. A settings file is not read and written in one go. -/
def finish (options : Options) : Request :=
  if options.initConfig.isSome && options.config.isSome then .misuse else .go options

/-- Reads arguments; a switch may wait for its value. Two dashes alone end the switches. -/
def readArguments (options : Options) (waiting : Option Switch) : List String → Request
  | [] => if waiting.isSome then .misuse else finish options
  | argument :: rest =>
    match waiting with
    | some switch =>
      if isSwitch argument then .misuse
      else
        match options.give switch argument with
        | some options => readArguments options none rest
        | none => .misuse
    | none =>
      if argument = "--" then if rest.isEmpty then finish options else .misuse
      else
        match readArgument options argument with
        | .done request => request
        | .more options => readArguments options none rest
        | .value switch options => readArguments options (some switch) rest

def request (arguments : List String) : Request := readArguments {} none arguments

end HdlClosure.CommandLine
