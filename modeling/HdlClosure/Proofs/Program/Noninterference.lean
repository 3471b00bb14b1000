import HdlClosure.Proofs.ModuleGraph.Gathering
import HdlClosure.Proofs.Program.Silence

/-! What a run is to tell, and whether it warns of duplicates, changes nothing but the lines that it
logs. Every stage computes its result from the same values, whatever it tells on the way. -/
namespace HdlClosure

/-- Either both policies stop at a duplicate or neither does. -/
def DuplicatePolicy.Alike (first second : DuplicatePolicy) : Prop :=
  first = .error ↔ second = .error

section Policy

variable {first second : DuplicatePolicy} (alike : first.Alike second)

include alike

theorem DuplicatePolicy.settle_alike (duplicate : Duplicate) :
    (first.settle duplicate).result = (second.settle duplicate).result := by
  unfold Alike at alike
  cases first <;> cases second <;> simp_all [settle]

namespace Gathering

variable (dialect : Dialect) (tree : FileTree)

theorem read_alike (gathering : Gathering) (file : SourceFile) :
    (gathering.read first dialect tree file).result =
      (gathering.read second dialect tree file).result := by
  cases repeated : gathering.duplicate? file with
  | none => simp only [read, repeated]
  | some duplicate =>
    simp only [read, repeated, Traced.result_bind, DuplicatePolicy.settle_alike alike duplicate]

theorem readAll_alike (gathering : Gathering) (files : List SourceFile) :
    (gathering.readAll first dialect tree files).result =
      (gathering.readAll second dialect tree files).result := by
  induction files generalizing gathering with
  | nil => rfl
  | cons file rest ih =>
    rw [readAll, readAll, Traced.result_bind, Traced.result_bind, read_alike alike]
    cases (gathering.read second dialect tree file).result with
    | error failure => rfl
    | ok middle => exact ih middle

end Gathering

theorem ModuleGraph.ofFiles_alike (dialect : Dialect) (tree : FileTree) (files : List SourceFile) :
    (ofFiles first dialect tree files).result = (ofFiles second dialect tree files).result := by
  simp only [ofFiles, Traced.result_bind, Gathering.readAll_alike alike]

end Policy

/-- Settings that differ in policies of one kind have the same analysis, or fail in the same way. -/
theorem Settings.run_alike {settings : Settings} {policy : DuplicatePolicy}
    (alike : settings.duplicates.Alike policy) (tree : FileTree) (order : Listing.Order) :
    (settings.run tree order).result =
      ({ settings with duplicates := policy }.run tree order).result := by
  have graphs : (settings.graph tree order).result =
      ({ settings with duplicates := policy }.graph tree order).result := by
    simp only [graph, Traced.result_bind, ModuleGraph.ofFiles_alike alike]
    rfl
  rw [run, run, Traced.result_bind, Traced.result_bind, graphs]
  rfl

namespace Settings

/-- Another policy changes nothing else of the settings, nor whether they are complete. -/
theorem Overrides.apply_policy (overrides : Overrides) (draft : Draft)
    (policy : Option DuplicatePolicy) :
    { overrides with duplicates := policy }.apply draft =
      (overrides.apply draft).map fun settings =>
        { settings with duplicates := (policy <|> draft.duplicates).getD .warn } := by
  unfold apply
  cases require .language (overrides.language <|> draft.language) with
  | error failure => rfl
  | ok language =>
    have testbenches : { overrides with duplicates := policy }.testbenchesOver draft =
        overrides.testbenchesOver draft := rfl
    by_cases absent : overrides.testbenchesOver draft = []
    · simp only [testbenches, absent, if_true]
      rfl
    · simp only [testbenches, absent, if_false]
      cases require .hdlDir (overrides.hdlDir <|> draft.hdlDir) with
      | error failure => rfl
      | ok hdlDir =>
        cases require .simDir (overrides.simDir <|> draft.simDir) with
        | error failure => rfl
        | ok simDir => rfl

end Settings

/-- Options that differ in nothing but how much is told, in which colours, and the policy for
duplicates. -/
def CommandLine.Options.SameTask (first second : Options) : Prop :=
  ∃ verbose quiet noColor onDuplicate, second = { first with
    verbose := verbose, quiet := quiet, noColor := noColor, onDuplicate := onDuplicate }

/-- Two computations that differ in nothing but what they tell. -/
structure Traced.SameEffects {α : Type} (first second : Traced α) : Prop where
  printed : first.printed = second.printed
  written : first.written = second.written
  result : first.result = second.result

/-- Two runs that leave the same behind, but for the lines that they log. -/
structure Outcome.SameAnswer (first second : Outcome) : Prop where
  exitCode : first.exitCode = second.exitCode
  output : first.output = second.output
  error : first.error = second.error
  tree : first.tree = second.tree

namespace Program

open CommandLine

def draftOf (options : Options) (tree : FileTree) : Traced Settings.Draft :=
  match options.config with
  | some path => Settings.Draft.load tree path
  | none => pure {}

theorem settingsOf_result (options : Options) (tree : FileTree) :
    (settingsOf options tree).result =
      (draftOf options tree).result.bind options.overrides.apply := by
  unfold settingsOf draftOf
  cases options.config with
  | some path => exact Traced.result_bind _ _
  | none => exact Traced.result_bind _ _

section SameTask

variable {options others : Options} (task : options.SameTask others) (tree : FileTree)

include task

/-- The settings of both options are incomplete for one reason, or differ in the policy alone. -/
theorem settingsOf_sameTask :
    (∃ failure, (settingsOf options tree).result = .error failure ∧
      (settingsOf others tree).result = .error failure) ∨
    ∃ settings policy, (settingsOf options tree).result = .ok settings ∧
      (settingsOf others tree).result = .ok { settings with duplicates := policy } := by
  obtain ⟨verbose, quiet, noColor, onDuplicate, rfl⟩ := task
  rw [settingsOf_result, settingsOf_result]
  show (∃ failure, _ ∧ (draftOf options tree).result.bind
      { options.overrides with duplicates := onDuplicate }.apply = _) ∨
    ∃ settings policy, _ ∧ (draftOf options tree).result.bind
      { options.overrides with duplicates := onDuplicate }.apply = _
  cases (draftOf options tree).result with
  | error failure => exact .inl ⟨failure, rfl, rfl⟩
  | ok draft =>
    simp only [Except.bind, Settings.Overrides.apply_policy]
    cases options.overrides.apply draft with
    | error failure => exact .inl ⟨failure, rfl, rfl⟩
    | ok settings => exact .inr ⟨settings, _, rfl, rfl⟩

variable (alike : ∀ settings other, (settingsOf options tree).result = .ok settings →
  (settingsOf others tree).result = .ok other → settings.duplicates.Alike other.duplicates)
  (order : Listing.Order)

include alike

theorem analyze_sameTask :
    (analyze options tree order).result = (analyze others tree order).result := by
  rw [analyze, analyze, Traced.result_bind, Traced.result_bind]
  rcases settingsOf_sameTask task tree with ⟨failure, stopped, other⟩ |
    ⟨settings, policy, made, other⟩
  · rw [stopped, other]
  · rw [made, other]
    simp only [Except.bind, Traced.result_bind]
    rw [Settings.run_alike (alike settings _ made other) tree order]

theorem perform_sameTask : (perform options tree order).SameEffects (perform others tree order) := by
  have request : options.initConfig = others.initConfig := by
    obtain ⟨_, _, _, _, rfl⟩ := task
    rfl
  cases given : options.initConfig with
  | some path =>
    unfold perform
    rw [← request, given]
    exact ⟨rfl, rfl, rfl⟩
  | none =>
    -- What is printed is a matter of the result alone.
    obtain ⟨result, printed, written⟩ := perform_analyzing given tree order
    obtain ⟨result', printed', written'⟩ := perform_analyzing (request ▸ given) tree order
    rw [analyze_sameTask task tree alike order] at result printed
    exact ⟨printed.trans printed'.symm, written.trans written'.symm, result.trans result'.symm⟩

end SameTask

/-- What is told leaves a trace in the logged lines only. -/
theorem outcomeOf_sameAnswer {first second : Traced Unit} (same : first.SameEffects second)
    (tree : FileTree) (environment environment' : Option String) (options others : Options) :
    (outcomeOf tree environment options first).SameAnswer
      (outcomeOf tree environment' others second) := by
  obtain ⟨printed, written, result⟩ := same
  unfold outcomeOf
  rw [printed, written, result]
  exact ⟨rfl, rfl, rfl, rfl⟩

/-- However much a run is to tell, in which colours, and whatever the environment says of it, and
whether it warns of duplicates or ignores them: it ends with the same code, output, error and files.
The analysis is the same too, with the duplicates that it records. -/
theorem run_sameAnswer (tree : FileTree) (order : Listing.Order)
    (environment environment' : Option String) {arguments arguments' : List String}
    {options options' : Options} (asked : request arguments = .go options)
    (asked' : request arguments' = .go options') (task : options.SameTask options')
    (alike : ∀ settings settings', (settingsOf options tree).result = .ok settings →
      (settingsOf options' tree).result = .ok settings' →
      settings.duplicates.Alike settings'.duplicates) :
    (run tree environment arguments order).SameAnswer
        (run tree environment' arguments' order) ∧
      ∀ settings settings', (settingsOf options tree).result = .ok settings →
        (settingsOf options' tree).result = .ok settings' →
        (settings.run tree order).result = (settings'.run tree order).result := by
  constructor
  · unfold run
    rw [asked, asked']
    exact outcomeOf_sameAnswer (perform_sameTask task tree alike order) tree environment
      environment' options options'
  · intro settings settings' made made'
    rcases settingsOf_sameTask task tree with ⟨failure, stopped, _⟩ | ⟨_, policy, found, found'⟩
    · cases stopped.symm.trans made
    · cases found.symm.trans made
      cases found'.symm.trans made'
      exact Settings.run_alike (alike _ _ made made') tree order

/-- A duplicate that one run warns of, among all it can tell, and that the other run ignores, in
directories that are listed backwards. -/
theorem run_clocks_sameAnswer :
    let asking : List String := ["--lang=verilog", "--tbs=bench", "--hdl-dir=hdl", "--sim-dir=sim",
      "--format=json"]
    let order : Listing.Order := fun location => (FileTree.clocks.children location).reverse
    (run .clocks (some "trace") asking order).SameAnswer
      (run .clocks none (asking ++ ["--on-duplicate=ignore", "--quiet", "--no-color"]) order) := by
  intro asking order
  let options : Options :=
    { lang := some .verilog, tbs := some "bench", hdlDir := some "hdl", simDir := some "sim",
      format := some .json }
  let others : Options :=
    { options with onDuplicate := some .ignore, quiet := true, noColor := true }
  have asked : request asking = .go options := by decide +kernel
  have asked' : request (asking ++ ["--on-duplicate=ignore", "--quiet", "--no-color"]) =
      .go others := by decide +kernel
  refine (run_sameAnswer .clocks order (some "trace") none asked asked' ⟨_, _, _, _, rfl⟩ ?_).1
  intro settings settings' made made'
  have warning : (settingsOf options .clocks).result = .ok
      { language := .verilog, testbenches := ["bench"], hdlDir := "hdl", simDir := "sim",
        format := .json } := by decide +kernel
  have ignoring : (settingsOf others .clocks).result = .ok
      { language := .verilog, testbenches := ["bench"], hdlDir := "hdl", simDir := "sim",
        duplicates := .ignore, format := .json } := by decide +kernel
  cases warning.symm.trans made
  cases ignoring.symm.trans made'
  exact ⟨nofun, nofun⟩

end Program

end HdlClosure
