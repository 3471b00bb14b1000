import HdlClosure.Proofs.CommandLine.Arguments
import HdlClosure.Proofs.FileTree.Writing
import HdlClosure.Proofs.Program.Noninterference

namespace HdlClosure

/-- Two runs that end and speak alike, whatever files they leave behind. -/
structure Outcome.SameReply (first second : Outcome) : Prop where
  exitCode : first.exitCode = second.exitCode
  output : first.output = second.output
  events : first.events = second.events
  coloured : first.coloured = second.coloured
  error : first.error = second.error

/-- Options that tell as much, in the same colours. -/
structure CommandLine.Options.TellAlike (first second : Options) : Prop where
  verbose : first.verbose = second.verbose
  quiet : first.quiet = second.quiet
  noColor : first.noColor = second.noColor

namespace Program

open CommandLine FileTree

variable {tree other : FileTree} {environment : Option String} {arguments : List String}
  {order : Listing.Order} {options others : Options} {path : String}

theorem initConfig_eq_none (asked : request arguments = .go options)
    (unnamed : ∀ path, ¬GivesFile path arguments) : options.initConfig = none :=
  Option.eq_none_iff_forall_ne_some.mpr fun path given =>
    unnamed path ((initConfig_iff_givesFile asked).mp given)

section Failing

theorem outcomeOf_of_silent {performed : Traced Unit} (silent : performed.Silent) :
    (outcomeOf tree environment options performed).output = "" ∧
      (outcomeOf tree environment options performed).tree = tree := by
  unfold outcomeOf
  rw [silent.printed, silent.written]
  exact ⟨rfl, rfl⟩

theorem exitCode_outcomeOf_of_ok {performed : Traced Unit} (done : performed.result = .ok ()) :
    (outcomeOf tree environment options performed).exitCode = 0 := by
  unfold outcomeOf
  rw [done]
  rfl

theorem silent_of_failing (failed : (run tree environment arguments order).exitCode ≠ 0) :
    (run tree environment arguments order).output = "" ∧
      (run tree environment arguments order).tree = tree := by
  unfold run at failed ⊢
  split at failed
  case h_1 => exact absurd rfl failed
  case h_2 => exact absurd rfl failed
  case h_3 => exact ⟨rfl, rfl⟩
  case h_4 options asked =>
    cases performed : (perform options tree order).result with
    | error failure => exact outcomeOf_of_silent (silent_perform_of_failed options tree performed)
    | ok _ => exact absurd (exitCode_outcomeOf_of_ok performed) failed

end Failing

section Analyzing

theorem tree_of_not_given (unnamed : ∀ path, ¬GivesFile path arguments) :
    (run tree environment arguments order).tree = tree := by
  unfold run
  split
  case h_1 => rfl
  case h_2 => rfl
  case h_3 => rfl
  case h_4 options asked =>
    have absent := initConfig_eq_none asked unnamed
    unfold outcomeOf
    rw [(perform_analyzing absent tree order).2.2]
    rfl

/-- What a run prints without a file for the template is the whole of an analysis. -/
theorem output_of_not_given (asked : request arguments = .go options)
    (absent : options.initConfig = none)
    (done : (run tree environment arguments order).exitCode = 0) :
    ∃ settings analysis, (settingsOf options tree).result = .ok settings ∧
      (settings.run tree order).result = .ok analysis ∧
      (run tree environment arguments order).output =
        analysis.render settings.format ++ "\n" := by
  obtain ⟨result, printed, _⟩ := perform_analyzing absent tree order
  have run_eq : run tree environment arguments order =
      outcomeOf tree environment options (perform options tree order) := by rw [run, asked]
  rw [run_eq] at done ⊢
  unfold outcomeOf at done ⊢
  rw [result] at done
  rw [printed]
  cases analyzed : (analyze options tree order).result with
  | error failure =>
    rw [analyzed] at done
    cases done
  | ok text =>
    obtain ⟨settings, made, rest⟩ := Traced.result_bind_eq_ok_iff.mp analyzed
    obtain ⟨analysis, ran, rendered⟩ := Traced.result_bind_eq_ok_iff.mp rest
    exact ⟨settings, analysis, made, ran, (Except.ok.inj rendered).symm⟩

end Analyzing

section Template

/-- With a file for the template, nothing else of the options says what is done, and the sources are
not looked at. -/
theorem run_of_given (asked : request arguments = .go options) (gives : GivesFile path arguments) :
    run tree environment arguments order =
      outcomeOf tree environment options (writeTemplate tree path) := by
  rw [run, asked]
  dsimp only
  rw [perform, (initConfig_iff_givesFile asked).mpr gives]

theorem writeTemplate_of_error {cause : AccessError}
    (stopped : tree.writeBytes path Settings.template.toUTF8 = .error cause) :
    writeTemplate tree path = { result := .error (.settingsAccess cause) } := by
  rw [writeTemplate, writeText, stopped]
  rfl

theorem writeTemplate_of_ok {after : FileTree}
    (wrote : tree.writeBytes path Settings.template.toUTF8 = .ok after) :
    writeTemplate tree path =
      { events := [.templateWritten path], written := some after, result := .ok () } := by
  rw [writeTemplate, writeText, wrote]
  rfl

/-- Trees in which the file is found alike get the template at one location, or the runs fail
alike. -/
theorem outcomeOf_alike (environment : Option String) (options : Options)
    (alike : FindsAlike tree other path) :
    let outcome := outcomeOf tree environment options (writeTemplate tree path)
    let outcome' := outcomeOf other environment options (writeTemplate other path)
    outcome.SameReply outcome' ∧
      (outcome.exitCode = 0 → outcome.output = "" ∧ ∃ location,
        OnlyWrote tree outcome.tree path Settings.template.toUTF8 location ∧
        OnlyWrote other outcome'.tree path Settings.template.toUTF8 location) := by
  unfold outcomeOf
  rcases writeBytes_alike alike Settings.template.toUTF8 with ⟨cause, stopped, stopped'⟩ |
    ⟨location, after, after', wrote, wrote', only, only'⟩
  · rw [writeTemplate_of_error stopped, writeTemplate_of_error stopped']
    exact ⟨⟨rfl, rfl, rfl, rfl, rfl⟩, nofun⟩
  · rw [writeTemplate_of_ok wrote, writeTemplate_of_ok wrote']
    exact ⟨⟨rfl, rfl, rfl, rfl, rfl⟩, fun _ => ⟨rfl, location, only, only'⟩⟩

theorem outcomeOf_tellAlike (tell : options.TellAlike others) (tree : FileTree)
    (environment : Option String) (performed : Traced Unit) :
    outcomeOf tree environment options performed = outcomeOf tree environment others performed := by
  unfold outcomeOf filterOf
  rw [tell.verbose, tell.quiet, tell.noColor]

end Template

/-- A run that fails, at whatever stage, prints nothing and leaves the files as they were, and so does
every run that is not told to write a template; when that succeeds, it has printed the whole of an
analysis. One that is told to writes this file and no other, and prints nothing. How it ends depends
on no other argument but those for the log, and on no other file. -/
theorem run_confined (tree : FileTree) (environment : Option String) (arguments : List String)
    (order : Listing.Order) :
    let outcome := run tree environment arguments order
    (outcome.exitCode ≠ 0 → outcome.output = "" ∧ outcome.tree = tree) ∧
    ((∀ path, ¬GivesFile path arguments) → outcome.tree = tree ∧
      ∀ options, request arguments = .go options → outcome.exitCode = 0 →
        ∃ settings analysis, (settingsOf options tree).result = .ok settings ∧
          (settings.run tree order).result = .ok analysis ∧
          outcome.output = analysis.render settings.format ++ "\n") ∧
    ∀ options path, request arguments = .go options → GivesFile path arguments →
      (outcome.exitCode = 0 → outcome.output = "" ∧
        ∃ location, OnlyWrote tree outcome.tree path Settings.template.toUTF8 location) ∧
      (∀ environment' arguments' order' options', request arguments' = .go options' →
        GivesFile path arguments' →
          outcome.SameAnswer (run tree environment' arguments' order') ∧
          (environment = environment' → options.TellAlike options' →
            outcome = run tree environment' arguments' order')) ∧
      ∀ other order', FindsAlike tree other path →
        outcome.SameReply (run other environment arguments order') ∧
        (outcome.exitCode = 0 → ∃ location,
          OnlyWrote tree outcome.tree path Settings.template.toUTF8 location ∧
          OnlyWrote other (run other environment arguments order').tree path
            Settings.template.toUTF8 location) := by
  intro outcome
  refine ⟨silent_of_failing, fun unnamed => ⟨tree_of_not_given unnamed, ?_⟩, ?_⟩
  · intro options asked done
    exact output_of_not_given asked (initConfig_eq_none asked unnamed) done
  intro options path asked gives
  rw [show outcome = _ from run_of_given asked gives]
  refine ⟨fun done => ?_, fun environment' arguments' order' options' asked' gives' => ?_,
    fun other order' alike => ?_⟩
  · obtain ⟨silent, location, only, _⟩ :=
      (outcomeOf_alike environment options (.refl tree path)).2 done
    exact ⟨silent, location, only⟩
  · rw [run_of_given asked' gives']
    refine ⟨outcomeOf_sameAnswer ⟨rfl, rfl, rfl⟩ tree environment environment' options options', ?_⟩
    rintro rfl tell
    exact outcomeOf_tellAlike tell tree environment _
  · rw [run_of_given asked gives]
    obtain ⟨reply, writes⟩ := outcomeOf_alike environment options alike
    exact ⟨reply, fun done => (writes done).2⟩

/-- The file for the template goes beside the sources, and the other option is of no account. -/
theorem run_confined_clocks :
    let asking : List String := ["--lang=vhdl", "--init-config", "hdl/deps.toml"]
    (run .clocks none asking).exitCode = 0 ∧ (run .clocks none asking).output = "" ∧
      ∃ location, OnlyWrote .clocks (run .clocks none asking).tree "hdl/deps.toml"
        Settings.template.toUTF8 location := by
  intro asking
  have asked : request asking =
      .go { lang := some .vhdl, initConfig := some "hdl/deps.toml" } := by decide +kernel
  have gives : GivesFile "hdl/deps.toml" asking := .later _ (.separate [])
  have done : (run .clocks none asking).exitCode = 0 := by decide +kernel
  exact ⟨done, ((run_confined .clocks none asking _).2.2 _ _ asked gives).1 done⟩

end Program

end HdlClosure
