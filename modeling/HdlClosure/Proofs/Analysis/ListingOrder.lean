import HdlClosure.Proofs.Analysis.Outcome
import Mathlib.Data.List.Perm.Basic

/-! The order in which a directory lists its files leaves no trace, as long as no two files of one
directory define one module. A module that both directories define is the second one's either
way. -/
namespace HdlClosure

theorem lastNamed?_perm {first second : List Declaration} (perm : first.Perm second)
    (distinct : (first.map (·.name)).Nodup) (name : String) :
    lastNamed? first name = lastNamed? second name := by
  apply Option.ext
  intro declaration
  rw [lastNamed?_eq_some_iff distinct, lastNamed?_eq_some_iff ((perm.map _).nodup distinct),
    perm.mem_iff]

/-- Both lists may change their order, but not with each other. -/
theorem lastNamed?_append_perm {first first' second second' : List Declaration}
    (perm : first.Perm first') (other : second.Perm second')
    (distinct : (first.map (·.name)).Nodup) (otherDistinct : (second.map (·.name)).Nodup)
    (name : String) : lastNamed? (first ++ second) name = lastNamed? (first' ++ second') name := by
  rw [lastNamed?_append, lastNamed?_append, lastNamed?_perm perm distinct,
    lastNamed?_perm other otherDistinct]

/-- Only the second list can repeat a name, and each of its declarations does so on its own. -/
theorem shadowings_of_two {first second : List Declaration}
    (distinct : (first.map (·.name)).Nodup) (otherDistinct : (second.map (·.name)).Nodup) :
    shadowings [] (first ++ second) = second.filterMap (shadowing? first) := by
  have untouched : first.filterMap (shadowing? []) = [] := by
    rw [List.filterMap_eq_nil_iff]
    exact fun _ _ => rfl
  rw [shadowings_append, shadowings_of_nodup [] distinct, untouched, List.nil_append,
    List.nil_append, shadowings_of_nodup first otherDistinct]

theorem shadowings_perm {first first' second second' : List Declaration}
    (perm : first.Perm first') (other : second.Perm second')
    (distinct : (first.map (·.name)).Nodup) (otherDistinct : (second.map (·.name)).Nodup) :
    (shadowings [] (first ++ second)).Perm (shadowings [] (first' ++ second')) := by
  have same : shadowing? first = shadowing? first' := by
    funext declaration
    rw [shadowing?, shadowing?, lastNamed?_perm perm distinct]
  rw [shadowings_of_two distinct otherDistinct,
    shadowings_of_two ((perm.map _).nodup distinct) ((other.map _).nodup otherDistinct), same]
  exact other.filterMap _

namespace Gathering

theorem accepted_perm {policy : DuplicatePolicy} {tree : FileTree} {files files' : List SourceFile}
    (perm : files.Perm files') (accepted : Accepted policy tree [] files) :
    Accepted policy tree [] files' := by
  obtain ⟨readable, distinct⟩ := accepted
  refine ⟨fun file member => readable file (perm.mem_iff.mpr member), fun strict => ?_⟩
  exact ⟨(perm.map _).nodup (distinct strict).1, fun _ _ => List.not_mem_nil⟩

end Gathering

section Permuted

variable {hdl hdl' sim sim' : List SourceFile} (perm : hdl.Perm hdl') (other : sim.Perm sim')
  (distinct : (hdl.map (·.moduleName)).Nodup) (otherDistinct : (sim.map (·.moduleName)).Nodup)

include perm other distinct otherDistinct

theorem ModuleGraph.agree_assembled (dialect : Dialect) (tree : FileTree) :
    Agree (assembled dialect tree (hdl ++ sim)) (assembled dialect tree (hdl' ++ sim')) := by
  have declared (files : List SourceFile) := Gathering.names_declarationsOf dialect tree files
  have first := perm.map (·.declaration dialect tree)
  have second := other.map (·.declaration dialect tree)
  rw [← declared] at distinct otherDistinct
  apply agree_of_node?
  · intro name
    rw [node?_assembled, node?_assembled]
    apply node?_congr
    simp only [Gathering.declarationsOf_append]
    exact lastNamed?_append_perm first second distinct otherDistinct
  · exact complete_assembled dialect tree _
  · exact complete_assembled dialect tree _
  · rw [duplicates_assembled, duplicates_assembled, Gathering.declarationsOf_append,
      Gathering.declarationsOf_append]
    exact shadowings_perm first second distinct otherDistinct

end Permuted

/-- Two analyses that say the same. Only the duplicates may stand in another order. -/
structure Analysis.Same (left right : Analysis) : Prop where
  files : left.files = right.files
  reachable : left.reachable.toList = right.reachable.toList
  unresolved : left.unresolved = right.unresolved
  perTestbench : left.perTestbench.toList = right.perTestbench.toList
  stats : left.stats = right.stats
  duplicates : left.duplicates.Perm right.duplicates

/-- Two analyses under the same settings find the same, or both find no file. -/
inductive Settings.SameOutcome (settings : Settings) :
    Except Failure Analysis → Except Failure Analysis → Prop where
  | found {left right : Analysis} (same : left.Same right) :
    SameOutcome settings (.ok left) (.ok right)
  | nothing :
    SameOutcome settings
      (.error (.noSources settings.testbenches settings.hdlDir settings.simDir))
      (.error (.noSources settings.testbenches settings.hdlDir settings.simDir))

section Agreeing

open ModuleGraph

variable {left right : ModuleGraph} (agree : Agree left right)

include agree

theorem ModuleGraph.filesFor_agree {names others : Std.TreeSet String}
    (same : names.toList = others.toList) : left.filesFor names = right.filesFor others :=
  filesFor_congr same fun name _ => agree.fileFor? name

theorem Settings.found_agree (settings : Settings) :
    (settings.found left).Same (settings.found right) where
  files := filesFor_agree agree (agree.reach settings.testbenches)
  reachable := agree.reach settings.testbenches
  unresolved := by
    simp only [found, agree.reach, agree.fileFor?]
  perTestbench := toList_map_reachPerRoot fun root _ =>
    filesFor_agree agree (agree.reach [root])
  stats := agree.stats
  duplicates := agree.duplicates

theorem Settings.analyze_agree (settings : Settings) :
    settings.SameOutcome (settings.analyze left).result (settings.analyze right).result := by
  rw [analyze_result, analyze_result,
    filesFor_agree agree (agree.reach settings.testbenches)]
  split
  · exact .nothing
  · exact .found (found_agree agree settings)

end Agreeing

/-- Two directories may list their files in any order: the graph is refused in both cases or in
neither, the graphs answer alike, and so does every analysis of them. -/
theorem ModuleGraph.ofFiles_listing_order (policy : DuplicatePolicy) (dialect : Dialect)
    (tree : FileTree) {hdl hdl' sim sim' : List SourceFile}
    (distinct : (hdl.map (·.moduleName)).Nodup) (otherDistinct : (sim.map (·.moduleName)).Nodup)
    (perm : hdl.Perm hdl') (other : sim.Perm sim') :
    ((∃ failure, (ofFiles policy dialect tree (hdl ++ sim)).result = .error failure) ↔
      ∃ failure, (ofFiles policy dialect tree (hdl' ++ sim')).result = .error failure) ∧
    ∀ left right, (ofFiles policy dialect tree (hdl ++ sim)).result = .ok left →
      (ofFiles policy dialect tree (hdl' ++ sim')).result = .ok right →
      Agree left right ∧ ∀ settings : Settings,
        settings.SameOutcome (settings.analyze left).result (settings.analyze right).result := by
  have refused (files : List SourceFile) :
      (∃ failure, (ofFiles policy dialect tree files).result = .error failure) ↔
        ¬ Gathering.Accepted policy tree [] files := by
    have made := ofFiles_result policy dialect tree files
    cases result : (ofFiles policy dialect tree files).result with
    | error failure =>
      refine ⟨fun _ accepted => ?_, fun _ => ⟨failure, rfl⟩⟩
      have succeeded := (made _).mpr ⟨accepted, rfl⟩
      rw [result] at succeeded
      cases succeeded
    | ok graph =>
      refine ⟨fun ⟨failure, failed⟩ => (nomatch failed), fun refused => ?_⟩
      exact absurd ((made graph).mp result).1 refused
  have listed : (hdl ++ sim).Perm (hdl' ++ sim') := perm.append other
  refine ⟨?_, ?_⟩
  · rw [refused, refused, not_iff_not]
    exact ⟨Gathering.accepted_perm listed, Gathering.accepted_perm listed.symm⟩
  · intro left right first second
    obtain ⟨_, rfl⟩ := (ofFiles_result policy dialect tree _ left).mp first
    obtain ⟨_, rfl⟩ := (ofFiles_result policy dialect tree _ right).mp second
    -- The names are distinct in each directory, and the second one goes last in either order.
    have agree := agree_assembled perm other distinct otherDistinct dialect tree
    exact ⟨agree, Settings.analyze_agree agree⟩

/-- Both directories of the design may be listed backwards. -/
theorem ModuleGraph.ofFiles_clocks_backwards :
    let hdl : List SourceFile := [⟨"hdl/clock.v", "clock"⟩, ⟨"hdl/top.v", "top"⟩]
    let sim : List SourceFile := [⟨"sim/bench.v", "bench"⟩, ⟨"sim/clock.v", "clock"⟩]
    let dialect : Dialect := { language := .verilog }
    ∃ left right, (ofFiles .warn dialect .clocks (hdl ++ sim)).result = .ok left ∧
      (ofFiles .warn dialect .clocks (hdl.reverse ++ sim.reverse)).result = .ok right ∧
      Agree left right ∧ ∀ settings : Settings,
        settings.SameOutcome (settings.analyze left).result (settings.analyze right).result := by
  intro hdl sim dialect
  have hdlPerm : hdl.Perm hdl.reverse := hdl.reverse_perm.symm
  have simPerm : sim.Perm sim.reverse := sim.reverse_perm.symm
  have accepted : Gathering.Accepted .warn .clocks [] (hdl ++ sim) := by
    refine ⟨fun file member => ?_, fun strict => nomatch strict⟩
    exact FileTree.readable_clocks (List.mem_map_of_mem (f := SourceFile.path) member)
  have first := (ofFiles_result .warn dialect .clocks _ _).mpr ⟨accepted, rfl⟩
  have second := (ofFiles_result .warn dialect .clocks _ _).mpr
    ⟨Gathering.accepted_perm (hdlPerm.append simPerm) accepted, rfl⟩
  have order := ofFiles_listing_order .warn dialect .clocks (by decide) (by decide) hdlPerm simPerm
  exact ⟨_, _, first, second, order.2 _ _ first second⟩

end HdlClosure
