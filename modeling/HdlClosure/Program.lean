import HdlClosure.CommandLine.Arguments
import HdlClosure.CommandLine.Help
import HdlClosure.Log.Filter
import HdlClosure.Log.Line
import HdlClosure.Report
import HdlClosure.Settings.File

namespace HdlClosure

/-- What a run leaves behind: the exit code, the standard output, the events that are told and
whether their lines are coloured, the error, and the files. -/
structure Outcome where
  exitCode : Nat
  output : String
  events : List Event
  coloured : Bool
  error : Option String
  tree : FileTree

namespace Program

open CommandLine

/-- The filter of a run: the options go before the environment, whose text counts only if it is
understood; warnings are told otherwise. -/
def filterOf (options : Options) (environment : Option String) : LogFilter :=
  if options.verbose then .upTo "hdl_deps" .debug
  else if options.quiet then .upTo "hdl_deps" .error
  else (environment.bind LogFilter.parse?).getD (.upTo "hdl_deps" .warn)

def writeTemplate (tree : FileTree) (path : String) : Traced Unit := do
  Traced.write (← Traced.ofExcept (Settings.accessed (tree.writeText path Settings.template)))
  Traced.tell (.templateWritten path)

/-- The settings that the options and the file they name make together. -/
def settingsOf (options : Options) (tree : FileTree) : Traced Settings := do
  let draft ←
    match options.config with
    | some path => Settings.Draft.load tree path
    | none => pure {}
  Traced.ofExcept (options.overrides.apply draft)

/-- Analyzes the sources; the result is the text to print. -/
def analyze (options : Options) (tree : FileTree) (order : Listing.Order := tree.children) :
    Traced String := do
  let settings ← settingsOf options tree
  let analysis ← settings.run tree order
  return analysis.render settings.format ++ "\n"

def perform (options : Options) (tree : FileTree) (order : Listing.Order := tree.children) :
    Traced Unit := do
  match options.initConfig with
  | some path => writeTemplate tree path
  | none => Traced.print (← analyze options tree order)

/-- What is left behind by a run that has something to do, whether it succeeds or not. -/
def outcomeOf (tree : FileTree) (environment : Option String) (options : Options)
    (performed : Traced Unit) : Outcome :=
  { exitCode := if performed.result.isOk then 0 else 1
    output := performed.printed
    events := performed.events.filter (filterOf options environment).admits
    coloured := !options.noColor
    error :=
      match performed.result with
      | .ok () => none
      | .error failure => some failure.report
    tree := performed.written.getD tree }

def prints (tree : FileTree) (output : String) : Outcome :=
  { exitCode := 0, output := output, events := [], coloured := true, error := none, tree := tree }

/-- Runs with the given arguments, where directories list their entries in the given order. -/
def run (tree : FileTree) (environment : Option String) (arguments : List String)
    (order : Listing.Order := tree.children) : Outcome :=
  match request arguments with
  | .help long => prints tree (helpText long)
  | .version => prints tree versionText
  | .misuse =>
    { exitCode := 2, output := "", events := [], coloured := true, error := some misuseText,
      tree := tree }
  | .go options => outcomeOf tree environment options (perform options tree order)

end Program

end HdlClosure
