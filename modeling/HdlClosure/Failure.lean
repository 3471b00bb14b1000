import HdlClosure.FileTree.Basic
import HdlClosure.Text.Quoted

namespace HdlClosure

/-- Why a directory could not be listed: an entry that cannot be reached, or a link back to the
directory itself. -/
inductive ListingError where
  | unreachable (path : String) (cause : AccessError)
  | loop (link ancestor : String)
  deriving DecidableEq, Repr, Inhabited

def ListingError.message : ListingError → String
  | .unreachable path cause =>
    path ++ ": IO error for operation on " ++ path ++ ": " ++ cause.message
  | .loop link ancestor =>
    "File system loop found: " ++ link ++ " points to an ancestor " ++ ancestor

/-- The settings without which nothing runs. -/
inductive RequiredSetting where
  | language
  | testbenches
  | hdlDir
  | simDir
  deriving DecidableEq, Repr, Inhabited

def RequiredSetting.option : RequiredSetting → String
  | .language => "--lang"
  | .testbenches => "--tbs"
  | .hdlDir => "--hdl-dir"
  | .simDir => "--sim-dir"

inductive Failure where
  | unreadableSource (path : String) (cause : AccessError)
  | noSources (testbenches : List String) (hdlDir simDir : String)
  | duplicateModule (name first second : String)
  | missingSetting (setting : RequiredSetting)
  | settingsAccess (cause : AccessError)
  | malformedSettings
  | listing (cause : ListingError)
  deriving DecidableEq, Repr, Inhabited

namespace Failure

def message : Failure → String
  | .unreadableSource path cause => "failed to read source file " ++ path ++ ": " ++ cause.message
  | .noSources testbenches hdlDir simDir =>
    "couldn't find source files for testbenches: " ++ Text.quotedList testbenches ++
      " within hdl dir: " ++ hdlDir ++ " and sim dir: " ++ simDir
  | .duplicateModule name first second =>
    "module '" ++ name ++ "' is defined by both " ++ first ++ " and " ++ second
  | .missingSetting setting => "missing required option: " ++ setting.option
  | .settingsAccess cause => cause.message
  | .malformedSettings => "TOML parse error"
  | .listing cause => cause.message

/-- The message with the cause below it, where the failure has a cause of its own. -/
def report (failure : Failure) : String :=
  match failure with
  | .unreadableSource _ cause =>
    "Error: " ++ failure.message ++ "\n\nCaused by:\n    " ++ cause.message
  | _ => "Error: " ++ failure.message

end Failure

end HdlClosure
