import HdlClosure.Duplicates
import HdlClosure.Failure
import HdlClosure.Language
import HdlClosure.Text.Blank
import HdlClosure.Text.Lowercase

namespace HdlClosure

/-- How an analysis is printed: the paths on one line, or a document with everything. -/
inductive OutputFormat where
  | plain
  | json
  deriving DecidableEq, Repr, Inhabited

instance : Choice OutputFormat where
  all := [.plain, .json]
  name
    | .plain => "plain"
    | .json => "json"

/-- The module names in a text, separated by white space, in lowercase. -/
def splitTestbenches (text : String) : List String :=
  (Text.words text.toList).map fun word => String.ofList (Text.lower word)

structure Settings where
  language : Language
  testbenches : List String
  hdlDir : String
  simDir : String
  duplicates : DuplicatePolicy := .warn
  capture : Capture := .entity
  format : OutputFormat := .plain
  deriving DecidableEq, Repr, Inhabited

namespace Settings

/-- Settings from a file: each may be absent. -/
structure Draft where
  language : Option Language := none
  testbenches : Option (List String) := none
  hdlDir : Option String := none
  simDir : Option String := none
  duplicates : Option DuplicatePolicy := none
  capture : Option Capture := none
  format : Option OutputFormat := none
  deriving DecidableEq, Repr, Inhabited

/-- Settings from the command line: each may be absent, and the testbenches are one text. -/
structure Overrides where
  language : Option Language := none
  testbenches : Option String := none
  hdlDir : Option String := none
  simDir : Option String := none
  duplicates : Option DuplicatePolicy := none
  capture : Option Capture := none
  format : Option OutputFormat := none
  deriving DecidableEq, Repr, Inhabited

def require {α : Type} (setting : RequiredSetting) : Option α → Except Failure α
  | some value => .ok value
  | none => .error (.missingSetting setting)

/-- The testbenches that are given, in the overrides before the draft. -/
def Overrides.testbenchesOver (overrides : Overrides) (draft : Draft) : List String :=
  match overrides.testbenches with
  | some text => splitTestbenches text
  | none => (draft.testbenches.getD []).flatMap splitTestbenches

/-- The complete settings: an override wins over the draft, and what neither gives takes its
default. The first required setting that is missing is named. -/
def Overrides.apply (overrides : Overrides) (draft : Draft) : Except Failure Settings := do
  let language ← require .language (overrides.language <|> draft.language)
  let testbenches := overrides.testbenchesOver draft
  if testbenches = [] then
    .error (.missingSetting .testbenches)
  else
    let hdlDir ← require .hdlDir (overrides.hdlDir <|> draft.hdlDir)
    let simDir ← require .simDir (overrides.simDir <|> draft.simDir)
    return {
      language := language
      testbenches := testbenches
      hdlDir := hdlDir
      simDir := simDir
      duplicates := (overrides.duplicates <|> draft.duplicates).getD .warn
      capture := (overrides.capture <|> draft.capture).getD .entity
      format := (overrides.format <|> draft.format).getD .plain
    }

/-- The settings for a text of testbench names and two directories, with the defaults elsewhere. -/
def ofText (language : Language) (testbenches hdlDir simDir : String) : Settings :=
  { language := language, testbenches := splitTestbenches testbenches,
    hdlDir := hdlDir, simDir := simDir }

end Settings

end HdlClosure
