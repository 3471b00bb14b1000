import HdlClosure.Proofs.ModuleGraph.Agreement

namespace HdlClosure.ModuleGraph

section Reached

variable {left right : ModuleGraph} {roots : List String} (complete : Complete left)
  (same : ∀ name ∈ left.reach roots, left.submodules name = right.submodules name)

include complete same

/-- From the roots, the same names are reached. Whatever the second graph holds elsewhere, its
chains never leave what the first one reaches. -/
theorem reaches_iff_of_reached {root name : String} (member : root ∈ roots) :
    left.Reaches root name ↔ right.Reaches root name := by
  constructor
  · intro path
    induction path with
    | refl => exact .refl
    | tail earlier edge ih =>
      have needed := (mem_reach_iff complete).mpr ⟨root, member, earlier⟩
      rw [Instantiates, same _ needed] at edge
      exact ih.tail edge
  · intro path
    induction path with
    | refl => exact .refl
    | tail earlier edge ih =>
      have needed := (mem_reach_iff complete).mpr ⟨root, member, ih⟩
      rw [Instantiates, ← same _ needed] at edge
      exact ih.tail edge

theorem toList_reach_of_reached (other : Complete right) {few : List String}
    (among : ∀ root ∈ few, root ∈ roots) :
    (left.reach few).toList = (right.reach few).toList := by
  apply Text.toList_eq_of_mem_iff
  intro name
  rw [mem_reach_iff complete, mem_reach_iff other]
  refine exists_congr fun root => and_congr_right fun member => ?_
  exact reaches_iff_of_reached complete same (among root member)

end Reached

/-- Neither list declares a name, or the last declarations of it give one path and the same
instances. -/
def AgreeOn (first second : List Declaration) (name : String) : Prop :=
  (name ∉ first.map (·.name) ∧ name ∉ second.map (·.name)) ∨
    ∃ last other, lastNamed? first name = some last ∧ lastNamed? second name = some other ∧
      last.path = other.path ∧ last.instances = other.instances

theorem lastNamed?_of_agreeOn {first second : List Declaration} {name : String}
    (agree : AgreeOn first second name) : lastNamed? first name = lastNamed? second name := by
  rcases agree with ⟨absent, missing⟩ | ⟨last, other, found, known, path, instances⟩
  · rw [lastNamed?_eq_none_iff.mpr absent, lastNamed?_eq_none_iff.mpr missing]
  · have bears : last.name = other.name :=
      (name_of_lastNamed? found).trans (name_of_lastNamed? known).symm
    rw [found, known, Option.some.injEq]
    cases last
    cases other
    simp_all

/-- Declarations may change in every way, as long as both lists agree on the names that the roots
need. The roots then need the same names, in the same files, together and each on its own. -/
theorem reach_independent {first second : List Declaration} {roots : List String}
    (agree : ∀ name ∈ (ofDeclarations first).reach roots, AgreeOn first second name) :
    let left := ofDeclarations first
    let right := ofDeclarations second
    (right.reach roots).toList = (left.reach roots).toList ∧
      right.filesFor (right.reach roots) = left.filesFor (left.reach roots) ∧
      ((right.reachPerRoot roots).map fun _ names => names.toList).toList =
        ((left.reachPerRoot roots).map fun _ names => names.toList).toList := by
  intro left right
  have complete := complete_ofDeclarations first
  have other := complete_ofDeclarations second
  have submodules : ∀ name ∈ left.reach roots, left.submodules name = right.submodules name := by
    intro name needed
    rw [submodules_ofDeclarations, submodules_ofDeclarations,
      lastNamed?_of_agreeOn (agree name needed)]
  have files : ∀ name ∈ left.reach roots, left.fileFor? name = right.fileFor? name := by
    intro name needed
    rw [fileFor?_ofDeclarations, fileFor?_ofDeclarations,
      lastNamed?_of_agreeOn (agree name needed)]
  have listed {few : List String} (among : ∀ root ∈ few, root ∈ roots) :=
    toList_reach_of_reached complete submodules other among
  refine ⟨(listed fun _ => id).symm, (filesFor_congr (listed fun _ => id) files).symm, ?_⟩
  refine (toList_map_reachPerRoot fun root member => listed ?_).symm
  intro only found
  rwa [List.mem_singleton.mp found]

/-- A bench keeps its needs while shadowed declarations, modules it does not lead to, and the order
of all of them change. No list declares the pads. -/
theorem reach_bench_independent :
    let first : List Declaration := [⟨"top", "old/top.v", ["ghost"]⟩,
      ⟨"bench", "sim/bench.v", ["top", "pads", "top"]⟩, ⟨"top", "hdl/top.v", ["alu"]⟩,
      ⟨"alu", "hdl/alu.v", []⟩, ⟨"spare", "hdl/spare.v", ["alu"]⟩]
    let second : List Declaration := [⟨"alu", "hdl/alu.v", []⟩, ⟨"top", "hdl/top.v", ["alu"]⟩,
      ⟨"bench", "tmp/bench.v", ["timer"]⟩, ⟨"bench", "sim/bench.v", ["top", "pads", "top"]⟩,
      ⟨"timer", "hdl/timer.v", ["bench"]⟩]
    let left := ofDeclarations first
    let right := ofDeclarations second
    (∀ name ∈ left.reach ["bench"], AgreeOn first second name) ∧
      (right.reach ["bench"]).toList = (left.reach ["bench"]).toList ∧
      right.filesFor (right.reach ["bench"]) = left.filesFor (left.reach ["bench"]) ∧
      ((right.reachPerRoot ["bench"]).map fun _ names => names.toList).toList =
        ((left.reachPerRoot ["bench"]).map fun _ names => names.toList).toList := by
  intro first second left right
  have needed : (left.reach ["bench"]).toList = ["alu", "bench", "pads", "top"] := by
    decide +kernel
  have agree : ∀ name ∈ left.reach ["bench"], AgreeOn first second name := by
    intro name found
    rw [← Std.TreeSet.mem_toList, needed] at found
    simp only [List.mem_cons, List.not_mem_nil, or_false] at found
    rcases found with rfl | rfl | rfl | rfl
    · exact .inr ⟨_, _, rfl, rfl, rfl, rfl⟩
    · exact .inr ⟨_, _, rfl, rfl, rfl, rfl⟩
    · exact .inl (by decide)
    · exact .inr ⟨_, _, rfl, rfl, rfl, rfl⟩
  exact ⟨agree, reach_independent agree⟩

end HdlClosure.ModuleGraph
