import HdlClosure.Proofs.Analysis.Outcome
import HdlClosure.Proofs.Listing

/-! The spelling of a directory leaves no trace in what is listed in it, nor in what a run finds. A
listing reads two things off a directory: where it leads, and its plain spelling. -/
namespace HdlClosure

/-- A directory and another spelling of it, both short enough to be looked up. -/
structure Respelled (directory other : String) : Prop where
  given : directory ≠ ""
  respellings : Relation.ReflTransGen Path.Respelling directory other
  fits : directory.utf8ByteSize < FileTree.pathLimit
  otherFits : other.utf8ByteSize < FileTree.pathLimit

namespace Respelled

variable {directory other : String} (respelled : Respelled directory other)

include respelled

theorem alike : Path.Alike directory other :=
  Path.alike_of_respellings respelled.respellings respelled.given

theorem directory?_eq (tree : FileTree) : tree.directory? directory = tree.directory? other := by
  have walked : Path.walked directory = Path.walked other := by
    rw [Path.walked, Path.walked, respelled.alike.plain]
  rw [← FileTree.directory?_walked respelled.given respelled.fits, walked,
    FileTree.directory?_walked respelled.alike.otherGiven respelled.otherFits]

end Respelled

theorem Listing.sources_respelled {directory other : String}
    (respelled : Respelled directory other) (tree : FileTree) (extension : String)
    (order : Order) :
    (sources tree extension directory order).result =
      (sources tree extension other order).result := by
  have spelled := respelled.alike.plain
  simp only [sources_result, respelled.directory?_eq, spelled,
    sourcesAmong_eq_of_plain spelled]

namespace Settings

/-- Two runs under settings that spell their directories differently: they find the same, or they
fail with the same failure. Only where no file was found does each name the directories as it spells
them. -/
inductive SameRun (settings : Settings) (hdlDir simDir : String) :
    Except Failure Analysis → Except Failure Analysis → Prop where
  | same (outcome : Except Failure Analysis) : SameRun settings hdlDir simDir outcome outcome
  | nothing :
    SameRun settings hdlDir simDir
      (.error (.noSources settings.testbenches settings.hdlDir settings.simDir))
      (.error (.noSources settings.testbenches hdlDir simDir))

theorem analyze_sameRun (settings : Settings) (hdlDir simDir : String) (graph : ModuleGraph) :
    settings.SameRun hdlDir simDir (settings.analyze graph).result
      ({ settings with hdlDir := hdlDir, simDir := simDir }.analyze graph).result := by
  rw [analyze_result, analyze_result]
  dsimp only
  split
  · exact .nothing
  · exact .same _

/-- Whatever the order in which directories list their entries, a directory lists the same sources
under each of its spellings, or fails in the same way; and a run finds the same. -/
theorem run_respelled (tree : FileTree) (order : Listing.Order) :
    (∀ directory other, Respelled directory other → ∀ extension,
      (Listing.sources tree extension directory order).result =
        (Listing.sources tree extension other order).result) ∧
    ∀ (settings : Settings) (hdlDir simDir : String),
      Respelled settings.hdlDir hdlDir → Respelled settings.simDir simDir →
      settings.SameRun hdlDir simDir (settings.run tree order).result
        ({ settings with hdlDir := hdlDir, simDir := simDir }.run tree order).result := by
  refine ⟨fun _ _ respelled extension =>
    Listing.sources_respelled respelled tree extension order, ?_⟩
  intro settings hdlDir simDir hdl sim
  have dialect : dialect { settings with hdlDir := hdlDir, simDir := simDir } =
      settings.dialect := rfl
  rw [run_result_eq, run_result_eq, dialect, ← Listing.sources_respelled hdl,
    ← Listing.sources_respelled sim]
  cases (Listing.sources tree settings.language.extension settings.hdlDir order).result with
  | error failure => exact .same _
  | ok first =>
    cases (Listing.sources tree settings.language.extension settings.simDir order).result with
    | error failure => exact .same _
    | ok second =>
      simp only [Except.bind]
      cases (ModuleGraph.ofFiles settings.duplicates settings.dialect tree
        (first ++ second)).result with
      | error failure => exact .same _
      | ok graph => exact analyze_sameRun settings hdlDir simDir graph

/-- Both directories of the design with dots and slashes to spare, listed backwards. -/
theorem run_clocks_respelled :
    let settings : Settings :=
      { language := .verilog, testbenches := ["bench"], hdlDir := "hdl", simDir := "sim" }
    let order : Listing.Order := fun location => (FileTree.clocks.children location).reverse
    Respelled "hdl" "./hdl//" ∧ Respelled "sim" "sim/./" ∧
      settings.SameRun "./hdl//" "sim/./" (settings.run .clocks order).result
        ({ settings with hdlDir := "./hdl//", simDir := "sim/./" }.run .clocks order).result := by
  intro settings order
  have hdl : Respelled "hdl" "./hdl//" :=
    ⟨by decide, .tail (.tail (.single (.dotted "hdl" (by decide))) (.slashed "./hdl"))
      (.slashed "./hdl/"), by decide, by decide⟩
  have sim : Respelled "sim" "sim/./" :=
    ⟨by decide, .tail (.single (.slashed "sim")) (.dotBetween "sim" ""), by decide, by decide⟩
  exact ⟨hdl, sim, (run_respelled .clocks order).2 settings _ _ hdl sim⟩

end Settings

end HdlClosure
