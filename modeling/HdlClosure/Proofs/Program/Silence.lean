import HdlClosure.Program

/-! No stage of an analysis prints or writes, however far it gets. What an analysis has to say is
printed after all that can fail, so that a failure leaves no part of an answer. -/
namespace HdlClosure

namespace Traced

variable {α β : Type} {step : Traced α} {next : α → Traced β}

/-- Where a silent first step is all that can fail, a failure comes before anything is printed or
written. -/
theorem silent_of_failed (first : step.Silent)
    (succeeds : ∀ value, ∃ final, (next value).result = .ok final) {failure : Failure}
    (failed : (step >>= next).result = .error failure) : (step >>= next).Silent := by
  cases result : step.result with
  | error cause =>
    rw [bind_of_error result]
    exact ⟨first.printed, first.written⟩
  | ok value =>
    obtain ⟨final, done⟩ := succeeds value
    rw [bind_of_ok result, done] at failed
    cases failed

end Traced

namespace Listing

variable (tree : FileTree) (extension : String)

theorem silent_sourcesAmong (directory : String) (location : Location)
    (entries : List (String × Entry)) :
    (sourcesAmong tree extension directory location entries).Silent := by
  induction entries with
  | nil => exact .pure []
  | cons child rest ih =>
    unfold sourcesAmong
    split
    case h_1 => exact .fail _
    case h_2 =>
      split
      case h_1 => exact ih
      case h_2 file _ => exact (Traced.Silent.tell _).bind fun _ => ih.bind fun _ => .pure _

theorem silent_sources (directory : String) (order : Order) :
    (sources tree extension directory order).Silent := by
  unfold sources
  split
  case isTrue =>
    split
    case isTrue => exact .pure []
    case isFalse =>
      split
      case h_1 => exact .fail _
      case h_2 location _ => exact silent_sourcesAmong tree extension directory location _
  case isFalse => exact (Traced.Silent.tell _).bind fun _ => .pure []

theorem silent_allSources (directories : List String) (order : Order) :
    (allSources tree extension directories order).Silent := by
  induction directories with
  | nil => exact .pure []
  | cons directory rest ih =>
    exact (silent_sources tree extension directory order).bind fun _ => ih.bind fun _ => .pure _

end Listing

section Gathering

variable (policy : DuplicatePolicy) (dialect : Dialect) (tree : FileTree)

theorem DuplicatePolicy.silent_settle (duplicate : Duplicate) :
    (policy.settle duplicate).Silent := by
  cases policy with
  | ignore => exact .pure ()
  | warn => exact .tell _
  | error => exact .fail _

theorem Dialect.silent_instancesOf (path : String) : (dialect.instancesOf tree path).Silent := by
  unfold instancesOf
  split
  case h_1 => exact .fail _
  case h_2 => exact (Traced.Silent.tell _).bind fun _ => .pure _

theorem Gathering.silent_read (gathering : Gathering) (file : SourceFile) :
    (gathering.read policy dialect tree file).Silent := by
  have reading {next : List String → Gathering} : (do
      let instances ← dialect.instancesOf tree file.path
      Traced.tell (.moduleParsed file.moduleName file.path instances.length)
      return next instances).Silent :=
    (dialect.silent_instancesOf tree file.path).bind fun _ =>
      (Traced.Silent.tell _).bind fun _ => .pure _
  unfold Gathering.read
  dsimp only
  split
  case h_1 duplicate _ => exact (policy.silent_settle duplicate).bind fun _ => reading
  case h_2 => exact reading

theorem Gathering.silent_readAll (gathering : Gathering) (files : List SourceFile) :
    (gathering.readAll policy dialect tree files).Silent := by
  induction files generalizing gathering with
  | nil => exact .pure gathering
  | cons file rest ih => exact (silent_read policy dialect tree gathering file).bind ih

theorem ModuleGraph.silent_ofFiles (files : List SourceFile) :
    (ofFiles policy dialect tree files).Silent :=
  (Gathering.silent_readAll policy dialect tree {} files).bind fun _ =>
    (Traced.Silent.tell _).bind fun _ => .pure _

end Gathering

namespace Settings

theorem silent_graph (settings : Settings) (tree : FileTree) (order : Listing.Order) :
    (settings.graph tree order).Silent :=
  (Listing.silent_allSources tree _ _ order).bind fun files =>
    (Traced.Silent.tell _).bind fun _ => ModuleGraph.silent_ofFiles _ _ tree files

theorem silent_analyze (settings : Settings) (graph : ModuleGraph) :
    (settings.analyze graph).Silent := by
  refine (Traced.Silent.tellAll _).bind fun _ => ?_
  split
  case isTrue => exact .fail _
  case isFalse =>
    exact (Traced.Silent.tellAll _).bind fun _ => (Traced.Silent.tellAll _).bind fun _ =>
      (Traced.Silent.tell _).bind fun _ => .pure _

theorem silent_run (settings : Settings) (tree : FileTree) (order : Listing.Order) :
    (settings.run tree order).Silent :=
  (settings.silent_graph tree order).bind settings.silent_analyze

theorem Draft.silent_load (tree : FileTree) (path : String) : (Draft.load tree path).Silent := by
  refine (Traced.Silent.tell _).bind fun _ => (Traced.Silent.ofExcept _).bind fun text => ?_
  split
  case h_1 draft _ => exact .pure draft
  case h_2 => exact .fail _

end Settings

namespace Program

open CommandLine

variable (options : Options) (tree : FileTree)

theorem silent_settingsOf : (settingsOf options tree).Silent := by
  unfold settingsOf
  split
  case h_1 path _ => exact (Settings.Draft.silent_load tree path).bind fun _ => .ofExcept _
  case h_2 => exact (Traced.Silent.pure _).bind fun _ => .ofExcept _

/-- An analysis is silent to the last: its text is its result. -/
theorem silent_analyze (order : Listing.Order) : (analyze options tree order).Silent :=
  (silent_settingsOf options tree).bind fun settings =>
    (settings.silent_run tree order).bind fun _ => .pure _

/-- The writing is the last thing in the making of a template that can fail, and the printing comes
after all of an analysis. -/
theorem silent_perform_of_failed {order : Listing.Order} {failure : Failure}
    (failed : (perform options tree order).result = .error failure) :
    (perform options tree order).Silent := by
  unfold perform at failed ⊢
  split at failed
  case h_1 => exact Traced.silent_of_failed (.ofExcept _) (fun _ => ⟨(), rfl⟩) failed
  case h_2 =>
    exact Traced.silent_of_failed (silent_analyze options tree order) (fun _ => ⟨(), rfl⟩) failed

/-- Without a file for the template a run prints the text of its analysis, if there is one, and
writes nothing. -/
theorem perform_analyzing {options : Options} (absent : options.initConfig = none) (tree : FileTree)
    (order : Listing.Order) :
    (perform options tree order).result = (analyze options tree order).result.map (fun _ => ()) ∧
      (perform options tree order).printed =
        (analyze options tree order).result.toOption.getD "" ∧
      (perform options tree order).written = none := by
  have silent := silent_analyze options tree order
  unfold perform
  rw [absent]
  dsimp only
  cases result : (analyze options tree order).result with
  | error failure =>
    rw [Traced.bind_of_error result]
    exact ⟨rfl, silent.printed, silent.written⟩
  | ok text =>
    rw [Traced.bind_of_ok result, silent.printed, silent.written]
    exact ⟨rfl, String.empty_append, rfl⟩

end Program

end HdlClosure
