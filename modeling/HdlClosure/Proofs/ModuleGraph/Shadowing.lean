import HdlClosure.Proofs.ModuleGraph.Agreement
import HdlClosure.Proofs.ModuleGraph.Gathering

namespace HdlClosure

/-- What files of one name leave behind when each replaces the one before it. -/
def replacements (name : String) (paths : List String) : List Duplicate :=
  List.zipWith (fun kept shadowed => { name := name, kept := kept, shadowed := shadowed })
    paths.tail paths

theorem replacements_concat (name : String) (paths : List String) (path : String) :
    replacements name (paths ++ [path]) = replacements name paths ++
      (paths.getLast?.map fun last =>
        { name := name, kept := path, shadowed := last : Duplicate }).toList := by
  induction paths with
  | nil => rfl
  | cons first rest ih =>
    cases rest with
    | nil => rfl
    | cons second rest => exact congrArg (_ :: ·) ih

theorem length_replacements (name : String) (paths : List String) :
    (replacements name paths).length = paths.length - 1 := by
  simp [replacements]

/-- Whether the name of the file at a position came up before. -/
def repeats (files : List SourceFile) (position : Nat) : Bool :=
  files[position]?.any fun file => (files.take position).any (·.moduleName == file.moduleName)

theorem repeats_iff {files : List SourceFile} {position : Nat} :
    repeats files position = true ↔ ∃ file, files[position]? = some file ∧
      file.moduleName ∈ (files.take position).map (·.moduleName) := by
  simp [repeats, Option.any_eq_true, -List.map_take]

theorem repeats_append {files : List SourceFile} {position : Nat} (inside : position < files.length)
    (more : List SourceFile) : repeats (files ++ more) position = repeats files position := by
  rw [repeats, repeats, List.getElem?_append_left inside,
    List.take_append_of_le_length (Nat.le_of_lt inside)]

theorem repeats_last (files : List SourceFile) (file : SourceFile) :
    repeats (files ++ [file]) files.length = files.any (·.moduleName == file.moduleName) := by
  simp [repeats]

/-- The positions of the files whose name came up before, in ascending order. -/
def repeatPositions (files : List SourceFile) : List Nat :=
  (List.range files.length).filter (repeats files)

theorem repeatPositions_concat (files : List SourceFile) (file : SourceFile) :
    repeatPositions (files ++ [file]) = repeatPositions files ++
      if file.moduleName ∈ files.map (·.moduleName) then [files.length] else [] := by
  have earlier : (List.range files.length).filter (repeats (files ++ [file])) =
      repeatPositions files :=
    List.filter_congr fun position member => repeats_append (List.mem_range.mp member) [file]
  rw [repeatPositions, List.length_append, List.length_singleton, List.range_succ,
    List.filter_append, earlier]
  simp [List.filter_singleton, repeats_last]

section Declarations

variable {declarations : List Declaration} {declaration : Declaration}

theorem lastNamed?_eq_getLast? (declarations : List Declaration) (name : String) :
    lastNamed? declarations name = (declarations.filter (·.name == name)).getLast? := by
  rw [lastNamed?, List.getLast?_filter]

theorem shadowings_concat (declarations : List Declaration) (declaration : Declaration) :
    shadowings [] (declarations ++ [declaration]) =
      shadowings [] declarations ++ (shadowing? declarations declaration).toList := by
  rw [shadowings_append]
  simp [shadowings]

/-- The duplicates of a name are the replacements among its declarations. -/
theorem filter_shadowings (declarations : List Declaration) (name : String) :
    (shadowings [] declarations).filter (·.name == name) =
      replacements name ((declarations.filter (·.name == name)).map (·.path)) := by
  induction declarations using List.reverseRecOn with
  | nil => rfl
  | append_singleton declarations declaration ih =>
    rw [shadowings_concat, List.filter_append, List.filter_append, ih, List.map_append]
    by_cases same : declaration.name = name
    · subst name
      rw [List.filter_singleton, beq_self_eq_true, cond_true, List.map_singleton,
        replacements_concat, List.getLast?_map, ← lastNamed?_eq_getLast?, shadowing?]
      cases lastNamed? declarations declaration.name <;> simp
    · have other : [declaration].filter (·.name == name) = [] := by simp [same]
      rw [other, shadowing?]
      cases lastNamed? declarations declaration.name <;> simp [same]

end Declarations

namespace ModuleGraph

section Count

theorem files_declare (graph : ModuleGraph) (declaration : Declaration) :
    (graph.declare declaration).files =
      graph.files.insert declaration.name declaration.path := by
  unfold declare
  dsimp only
  split <;> rfl

theorem files_uses (pending : List (Nat × String)) (graph : ModuleGraph) :
    (pending.foldl referUse graph).files = graph.files := by
  induction pending generalizing graph with
  | nil => rfl
  | cons use rest ih =>
    have kept : (graph.referUse use).files = graph.files := by
      unfold referUse refer
      split <;> rfl
    rw [List.foldl_cons, ih, kept]

theorem moduleCount_declare (graph : ModuleGraph) (declaration : Declaration) :
    (graph.declare declaration).moduleCount =
      if (graph.fileFor? declaration.name).isSome then graph.moduleCount
      else graph.moduleCount + 1 := by
  rw [moduleCount, files_declare, Std.TreeMap.size_insert,
    Std.TreeMap.contains_eq_isSome_getElem?]
  rfl

/-- Each declaration either adds a module or shadows one. -/
theorem length_shadowings_add (declarations : List Declaration) :
    (shadowings [] declarations).length + (declared declarations).moduleCount =
      declarations.length := by
  induction declarations using List.reverseRecOn with
  | nil => rfl
  | append_singleton declarations last ih =>
    have known : (declared declarations).fileFor? last.name =
        (lastNamed? declarations last.name).map (·.path) := by
      rw [(consistent_declared declarations).filed, node?_declared]
      cases lastNamed? declarations last.name <;> rfl
    rw [declared_concat, moduleCount_declare, known, shadowings_concat, shadowing?,
      List.length_append, List.length_append]
    cases lastNamed? declarations last.name with
    | none =>
      simp only [Option.map_none, Option.isSome_none, Option.toList_none, List.length_nil,
        List.length_singleton]
      exact congrArg (· + 1) ih
    | some earlier =>
      simp only [Option.map_some, Option.isSome_some, Option.toList_some, List.length_singleton,
        ↓reduceIte]
      omega

theorem moduleCount_assembled (dialect : Dialect) (tree : FileTree) (files : List SourceFile) :
    (assembled dialect tree files).moduleCount =
      (declared (Gathering.declarationsOf dialect tree files)).moduleCount := by
  rw [moduleCount_same (node?_assembled dialect tree files)
    (complete_assembled dialect tree files).toConsistent
    (complete_ofDeclarations _).toConsistent, ofDeclarations_eq, moduleCount, files_uses]
  rfl

end Count

section Positions

/-- The duplicates stand in the order of the positions of the files that were kept. -/
theorem forall₂_shadowings (dialect : Dialect) (tree : FileTree) (files : List SourceFile) :
    List.Forall₂
      (fun position duplicate => files[position]? = some ⟨duplicate.kept, duplicate.name⟩)
      (repeatPositions files) (shadowings [] (Gathering.declarationsOf dialect tree files)) := by
  induction files using List.reverseRecOn with
  | nil => exact .nil
  | append_singleton files file ih =>
    rw [repeatPositions_concat, Gathering.declarationsOf_append,
      Gathering.declarationsOf_singleton, shadowings_concat]
    apply List.rel_append
    · refine ih.imp fun position duplicate present => ?_
      obtain ⟨inside, _⟩ := List.getElem?_eq_some_iff.mp present
      rwa [List.getElem?_append_left inside]
    · rw [← Gathering.names_declarationsOf dialect tree files, shadowing?,
        SourceFile.name_declaration]
      cases found : lastNamed? (Gathering.declarationsOf dialect tree files) file.moduleName with
      | none =>
        rw [if_neg (lastNamed?_eq_none_iff.mp found)]
        exact .nil
      | some last =>
        have known := List.mem_map_of_mem (f := Declaration.name) (mem_of_lastNamed? found)
        rw [name_of_lastNamed? found] at known
        rw [if_pos known]
        exact .cons List.getElem?_concat_length .nil

end Positions

/-- Where files make a graph, its duplicates account for each file that another replaced. Those of
one name go from file to file up to the one that the graph keeps; all together they stand in the
order of the kept files; and each file is either counted as a module or as a duplicate. -/
theorem duplicates_account {policy : DuplicatePolicy} {dialect : Dialect} {tree : FileTree}
    {files : List SourceFile} {graph : ModuleGraph}
    (made : (ofFiles policy dialect tree files).result = .ok graph) :
    (∀ name,
      let paths := (files.filter (·.moduleName == name)).map (·.path)
      graph.duplicates.filter (·.name == name) = replacements name paths ∧
        (graph.duplicates.filter (·.name == name)).length = paths.length - 1 ∧
        graph.fileFor? name = paths.getLast?) ∧
    (∃ positions : List Nat, positions.Pairwise (· < ·) ∧
      (∀ position, position ∈ positions ↔ ∃ file, files[position]? = some file ∧
        file.moduleName ∈ (files.take position).map (·.moduleName)) ∧
      List.Forall₂
        (fun position duplicate => files[position]? = some ⟨duplicate.kept, duplicate.name⟩)
        positions graph.duplicates) ∧
    graph.stats.duplicates + graph.moduleCount = files.length := by
  obtain ⟨_, rfl⟩ := (ofFiles_result policy dialect tree files graph).mp made
  rw [stats, duplicates_assembled]
  refine ⟨fun name => ?_, ⟨repeatPositions files, ?_, fun position => ?_, ?_⟩, ?_⟩
  · have paths : ((Gathering.declarationsOf dialect tree files).filter (·.name == name)).map
        (·.path) = (files.filter (·.moduleName == name)).map (·.path) := by
      rw [Gathering.declarationsOf, List.filter_map, List.map_map]
      rfl
    refine ⟨?_, ?_, ?_⟩
    · rw [filter_shadowings, paths]
    · rw [filter_shadowings, paths, length_replacements]
    · rw [fileFor?_assembled, lastNamed?_eq_getLast?, ← List.getLast?_map, paths]
  · exact List.pairwise_lt_range.filter _
  · rw [repeatPositions, List.mem_filter, repeats_iff, List.mem_range, and_iff_right_iff_imp]
    rintro ⟨file, present, _⟩
    exact (List.getElem?_eq_some_iff.mp present).1
  · exact forall₂_shadowings dialect tree files
  · rw [moduleCount_assembled, length_shadowings_add, Gathering.declarationsOf, List.length_map]

/-- Three files of one name and two of another, in turns. -/
theorem duplicates_clocks_account :
    let files : List SourceFile := [⟨"hdl/clock.v", "clock"⟩, ⟨"hdl/top.v", "top"⟩,
      ⟨"sim/bench.v", "clock"⟩, ⟨"sim/clock.v", "top"⟩, ⟨"hdl/top.v", "clock"⟩]
    ∃ graph, (ofFiles .warn { language := .verilog } .clocks files).result = .ok graph ∧
      graph.duplicates.filter (·.name == "clock") =
        [⟨"clock", "sim/bench.v", "hdl/clock.v"⟩, ⟨"clock", "hdl/top.v", "sim/bench.v"⟩] ∧
      graph.fileFor? "clock" = some "hdl/top.v" ∧
      graph.stats.duplicates + graph.moduleCount = 5 := by
  intro files
  have accepted : Gathering.Accepted .warn .clocks [] files := by
    refine ⟨fun file member => FileTree.readable_clocks ?_, nofun⟩
    have listed := List.mem_map_of_mem (f := SourceFile.path) member
    simp only [files, List.map_cons, List.map_nil, List.mem_cons, List.not_mem_nil,
      or_false] at listed ⊢
    tauto
  have made := (ofFiles_result .warn { language := .verilog } .clocks files _).mpr ⟨accepted, rfl⟩
  obtain ⟨named, _, total⟩ := duplicates_account made
  obtain ⟨story, _, kept⟩ := named "clock"
  exact ⟨_, made, story, kept, total⟩

end ModuleGraph

end HdlClosure
