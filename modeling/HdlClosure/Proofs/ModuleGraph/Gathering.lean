import HdlClosure.ModuleGraph.Gather
import HdlClosure.Proofs.FileTree.Access
import HdlClosure.Proofs.ModuleGraph.Links

namespace HdlClosure

def FileTree.Readable (tree : FileTree) (path : String) : Prop :=
  ∃ text, tree.readText path = .ok text

/-- A small design: both directories define a clock, and nothing defines the buffer. -/
def FileTree.clocks : FileTree where
  entries := Std.TreeMap.ofList [
    (["hdl"], Entry.directory),
    (["hdl", "clock.v"], .file "buffer b(c);".toUTF8),
    (["hdl", "top.v"], .file "clock c(x);".toUTF8),
    (["sim"], .directory),
    (["sim", "bench.v"], .file "top t(x);\nclock c(x);".toUTF8),
    (["sim", "clock.v"], .file "".toUTF8)]

theorem FileTree.readable_clocks {path : String}
    (listed : path ∈ ["hdl/clock.v", "hdl/top.v", "sim/bench.v", "sim/clock.v"]) :
    clocks.Readable path := by
  simp only [List.mem_cons, List.not_mem_nil, or_false] at listed
  rcases listed with rfl | rfl | rfl | rfl
  · exact ⟨_, readText_of_file ["hdl", "clock.v"] "buffer b(c);" (by decide +kernel)
      (by decide +kernel)⟩
  · exact ⟨_, readText_of_file ["hdl", "top.v"] "clock c(x);" (by decide +kernel)
      (by decide +kernel)⟩
  · exact ⟨_, readText_of_file ["sim", "bench.v"] "top t(x);\nclock c(x);" (by decide +kernel)
      (by decide +kernel)⟩
  · exact ⟨_, readText_of_file ["sim", "clock.v"] "" (by decide +kernel) (by decide +kernel)⟩

/-- What a file instantiates; nothing when it cannot be read. -/
def Dialect.instancesIn (dialect : Dialect) (tree : FileTree) (path : String) : List String :=
  ((tree.readText path).toOption.map dialect.instances).getD []

def SourceFile.declaration (dialect : Dialect) (tree : FileTree) (file : SourceFile) :
    Declaration :=
  { name := file.moduleName, path := file.path, instances := dialect.instancesIn tree file.path }

theorem SourceFile.name_declaration (dialect : Dialect) (tree : FileTree) (file : SourceFile) :
    (file.declaration dialect tree).name = file.moduleName :=
  rfl

/-- The duplicate that a declaration makes of the last one before it with its name. -/
def shadowing? (earlier : List Declaration) (declaration : Declaration) : Option Duplicate :=
  (lastNamed? earlier declaration.name).map fun last =>
    { name := declaration.name, kept := declaration.path, shadowed := last.path }

/-- The duplicates that declarations make when others came before them, in order. -/
def shadowings (earlier : List Declaration) : List Declaration → List Duplicate
  | [] => []
  | declaration :: rest =>
    (shadowing? earlier declaration).toList ++ shadowings (earlier ++ [declaration]) rest

theorem shadowings_append (earlier first second : List Declaration) :
    shadowings earlier (first ++ second) =
      shadowings earlier first ++ shadowings (earlier ++ first) second := by
  induction first generalizing earlier with
  | nil => simp [shadowings]
  | cons declaration rest ih => simp [shadowings, ih, List.append_assoc]

/-- Where no name is declared twice, all shadowed declarations came before. -/
theorem shadowings_of_nodup {declarations : List Declaration} (earlier : List Declaration)
    (distinct : (declarations.map (·.name)).Nodup) :
    shadowings earlier declarations = declarations.filterMap (shadowing? earlier) := by
  induction declarations generalizing earlier with
  | nil => rfl
  | cons declaration rest ih =>
    obtain ⟨apart, distinctRest⟩ := List.nodup_cons.mp distinct
    have same : rest.filterMap (shadowing? (earlier ++ [declaration])) =
        rest.filterMap (shadowing? earlier) := by
      apply List.filterMap_congr
      intro later member
      have other : declaration.name ≠ later.name :=
        fun same => apart (List.mem_map.mpr ⟨later, member, same.symm⟩)
      simp [shadowing?, lastNamed?_concat, other]
    rw [shadowings, ih _ distinctRest, same, List.filterMap_cons]
    cases shadowing? earlier declaration <;> rfl

namespace Gathering

variable {policy : DuplicatePolicy} {dialect : Dialect} {tree : FileTree} {gathering : Gathering}

/-- The gathering after one more file that raises no objection. -/
def absorb (dialect : Dialect) (tree : FileTree) (gathering : Gathering) (file : SourceFile) :
    Gathering :=
  { gathering with duplicates := gathering.duplicates ++ (gathering.duplicate? file).toList }.add
    (file.declaration dialect tree)

theorem settle_result (policy : DuplicatePolicy) (duplicate : Duplicate) (value : Unit) :
    (policy.settle duplicate).result = .ok value ↔ policy ≠ .error := by
  cases policy <;> simp [DuplicatePolicy.settle]

theorem instancesOf_result (dialect : Dialect) (tree : FileTree) (path : String)
    (instances : List String) :
    (dialect.instancesOf tree path).result = .ok instances ↔
      tree.Readable path ∧ instances = dialect.instancesIn tree path := by
  unfold Dialect.instancesOf Dialect.instancesIn FileTree.Readable
  cases tree.readText path with
  | error cause => simp
  | ok text => simp [Except.bind, Except.toOption, eq_comm]

/-- A file is read exactly when it is readable and, under the strict policy, no duplicate. -/
theorem read_result (gathering : Gathering) (file : SourceFile) (after : Gathering) :
    (gathering.read policy dialect tree file).result = .ok after ↔
      (tree.Readable file.path ∧ (policy = .error → gathering.duplicate? file = none)) ∧
        after = gathering.absorb dialect tree file := by
  cases repeated : gathering.duplicate? file with
  | none =>
    simp only [read, absorb, repeated, Traced.result_bind_eq_ok_iff, instancesOf_result,
      Traced.result_tell, Traced.result_pure]
    constructor
    · intro given
      obtain ⟨instances, ⟨readable, rfl⟩, _, _, same⟩ := given
      exact ⟨⟨readable, fun _ => trivial⟩, (Except.ok.inj same).symm⟩
    · intro given
      obtain ⟨⟨readable, _⟩, rfl⟩ := given
      exact ⟨_, ⟨readable, rfl⟩, (), trivial, rfl⟩
  | some duplicate =>
    simp only [read, absorb, repeated, Traced.result_bind_eq_ok_iff, instancesOf_result,
      Traced.result_tell, Traced.result_pure, settle_result]
    constructor
    · intro given
      obtain ⟨_, lenient, instances, ⟨readable, rfl⟩, _, _, same⟩ := given
      exact ⟨⟨readable, fun strict => absurd strict lenient⟩, (Except.ok.inj same).symm⟩
    · intro given
      obtain ⟨⟨readable, allowed⟩, rfl⟩ := given
      exact ⟨(), fun strict => (nomatch allowed strict), _, ⟨readable, rfl⟩, (), trivial, rfl⟩

/-- What a gathering remembers of the declarations read so far: the last of each name, and the
duplicates. -/
structure Holds (gathering : Gathering) (declarations : List Declaration) : Prop where
  numbered : Numbered Declaration.name gathering.declarations gathering.positions
  last : ∀ name, Numbered.slot? gathering.declarations gathering.positions name =
    lastNamed? declarations name
  repeated : gathering.duplicates = shadowings [] declarations

theorem holds_empty : Holds {} [] :=
  ⟨Numbered.empty _, fun name => by simp [Numbered.slot?, lastNamed?], rfl⟩

theorem duplicate?_eq {declarations : List Declaration} (holds : Holds gathering declarations)
    (dialect : Dialect) (tree : FileTree) (file : SourceFile) :
    gathering.duplicate? file = shadowing? declarations (file.declaration dialect tree) := by
  rw [duplicate?, shadowing?, ← holds.last]
  rfl

theorem holds_absorb {declarations : List Declaration} (holds : Holds gathering declarations)
    (dialect : Dialect) (tree : FileTree) (file : SourceFile) :
    Holds (gathering.absorb dialect tree file)
      (declarations ++ [file.declaration dialect tree]) := by
  have logged : gathering.duplicates ++ (gathering.duplicate? file).toList =
      shadowings [] (declarations ++ [file.declaration dialect tree]) := by
    rw [shadowings_append, ← holds.repeated, duplicate?_eq holds dialect tree]
    simp [shadowings]
  unfold absorb add
  split
  · rename_i position known
    refine ⟨holds.numbered.replace _ known, fun name => ?_, logged⟩
    exact (holds.numbered.slot?_replace _ known name).trans (by rw [lastNamed?_concat, holds.last])
  · rename_i unknown
    refine ⟨holds.numbered.push _ unknown, fun name => ?_, logged⟩
    exact (holds.numbered.slot?_push _ name).trans (by rw [lastNamed?_concat, holds.last])

def declarationsOf (dialect : Dialect) (tree : FileTree) (files : List SourceFile) :
    List Declaration :=
  files.map (·.declaration dialect tree)

theorem declarationsOf_singleton (dialect : Dialect) (tree : FileTree) (file : SourceFile) :
    declarationsOf dialect tree [file] = [file.declaration dialect tree] :=
  rfl

theorem names_declarationsOf (dialect : Dialect) (tree : FileTree) (files : List SourceFile) :
    (declarationsOf dialect tree files).map (·.name) = files.map (·.moduleName) := by
  rw [declarationsOf, List.map_map]
  rfl

theorem declarationsOf_append (dialect : Dialect) (tree : FileTree)
    (first second : List SourceFile) : declarationsOf dialect tree (first ++ second) =
      declarationsOf dialect tree first ++ declarationsOf dialect tree second :=
  List.map_append

/-- Files are accepted when all are readable and, under the strict policy, no two have one module
name, nor has one a name from before. -/
def Accepted (policy : DuplicatePolicy) (tree : FileTree) (known : List String)
    (files : List SourceFile) : Prop :=
  (∀ file ∈ files, tree.Readable file.path) ∧
    (policy = .error → (files.map (·.moduleName)).Nodup ∧ ∀ file ∈ files, file.moduleName ∉ known)

theorem accepted_cons {known : List String} {file : SourceFile} {rest : List SourceFile} :
    Accepted policy tree known (file :: rest) ↔
      (tree.Readable file.path ∧ (policy = .error → file.moduleName ∉ known)) ∧
        Accepted policy tree (known ++ [file.moduleName]) rest := by
  constructor
  · intro given
    obtain ⟨readable, distinct⟩ := given
    refine ⟨⟨readable file (by simp), fun strict => (distinct strict).2 file (by simp)⟩,
      fun other member => readable other (by simp [member]), fun strict => ?_⟩
    obtain ⟨names, fresh⟩ := distinct strict
    obtain ⟨apart, distinctRest⟩ := List.nodup_cons.mp names
    refine ⟨distinctRest, fun other member held => ?_⟩
    rcases List.mem_append.mp held with old | same
    · exact fresh other (by simp [member]) old
    · exact apart (List.mem_map.mpr ⟨other, member, List.mem_singleton.mp same⟩)
  · intro given
    obtain ⟨⟨readable, fresh⟩, readableRest, distinct⟩ := given
    refine ⟨List.forall_mem_cons.mpr ⟨readable, readableRest⟩, fun strict => ?_⟩
    obtain ⟨distinctRest, freshRest⟩ := distinct strict
    refine ⟨List.nodup_cons.mpr ⟨?_, distinctRest⟩, List.forall_mem_cons.mpr ⟨fresh strict, ?_⟩⟩
    · intro held
      obtain ⟨other, member, same⟩ := List.mem_map.mp held
      exact freshRest other member (by simp [same])
    · exact fun other member old => freshRest other member (List.mem_append_left _ old)

theorem readAll_result {declarations : List Declaration} (holds : Holds gathering declarations)
    (files : List SourceFile) (after : Gathering) :
    (gathering.readAll policy dialect tree files).result = .ok after ↔
      Accepted policy tree (declarations.map (·.name)) files ∧
        after = files.foldl (absorb dialect tree) gathering := by
  induction files generalizing gathering declarations with
  | nil => simp [readAll, Accepted, eq_comm]
  | cons file rest ih =>
    have fresh : gathering.duplicate? file = none ↔
        file.moduleName ∉ declarations.map (·.name) := by
      rw [duplicate?_eq holds dialect tree, shadowing?, Option.map_eq_none_iff,
        lastNamed?_eq_none_iff]
      rfl
    have next := ih (holds_absorb holds dialect tree file)
    rw [List.map_append] at next
    rw [readAll, Traced.result_bind_eq_ok_iff, accepted_cons, List.foldl_cons]
    simp only [read_result, fresh]
    constructor
    · intro given
      obtain ⟨_, ⟨allowed, rfl⟩, read⟩ := given
      obtain ⟨accepted, same⟩ := next.mp read
      exact ⟨⟨allowed, accepted⟩, same⟩
    · intro given
      obtain ⟨⟨allowed, accepted⟩, same⟩ := given
      exact ⟨_, ⟨allowed, rfl⟩, next.mpr ⟨accepted, same⟩⟩

theorem holds_files {declarations : List Declaration} (holds : Holds gathering declarations)
    (dialect : Dialect) (tree : FileTree) (files : List SourceFile) :
    Holds (files.foldl (absorb dialect tree) gathering)
      (declarations ++ declarationsOf dialect tree files) := by
  induction files generalizing gathering declarations with
  | nil => simpa [declarationsOf] using holds
  | cons file rest ih =>
    have next := ih (holds_absorb holds dialect tree file)
    simpa [declarationsOf] using next

theorem lastNamed?_declarations {declarations : List Declaration}
    (holds : Holds gathering declarations) (name : String) :
    lastNamed? gathering.declarations.toList name = lastNamed? declarations name := by
  rw [← holds.last]
  apply Option.ext
  intro declaration
  rw [lastNamed?_eq_some_iff holds.numbered.names_nodup, holds.numbered.slot?_eq_some_iff,
    Array.mem_toList_iff]

end Gathering

namespace ModuleGraph

/-- What is known of a name depends on the last declarations alone. -/
theorem node?_congr {first second : List Declaration}
    (same : ∀ name, lastNamed? first name = lastNamed? second name) (name : String) :
    (ofDeclarations first).node? name = (ofDeclarations second).node? name := by
  have used : name ∈ (declared first).uses.map (·.2) ↔ name ∈ (declared second).uses.map (·.2) := by
    simp only [mem_uses_declared, same]
  rw [node?_ofDeclarations, node?_ofDeclarations, same]
  simp only [used]

/-- The graph that files make when they are accepted. -/
def assembled (dialect : Dialect) (tree : FileTree) (files : List SourceFile) : ModuleGraph :=
  (files.foldl (Gathering.absorb dialect tree) {}).graph

theorem ofFiles_result (policy : DuplicatePolicy) (dialect : Dialect) (tree : FileTree)
    (files : List SourceFile) (graph : ModuleGraph) :
    (ofFiles policy dialect tree files).result = .ok graph ↔
      Gathering.Accepted policy tree [] files ∧ graph = assembled dialect tree files := by
  have read (after : Gathering) :
      (Gathering.readAll policy dialect tree {} files).result = .ok after ↔ _ :=
    Gathering.readAll_result Gathering.holds_empty files after
  simp only [ofFiles, Traced.result_bind_eq_ok_iff, Traced.result_tell, Traced.result_pure, read]
  constructor
  · intro given
    obtain ⟨_, ⟨accepted, rfl⟩, _, _, same⟩ := given
    exact ⟨accepted, (Except.ok.inj same).symm⟩
  · intro given
    obtain ⟨accepted, rfl⟩ := given
    exact ⟨_, ⟨accepted, rfl⟩, (), trivial, rfl⟩

variable (dialect : Dialect) (tree : FileTree) (files : List SourceFile)

theorem complete_assembled : Complete (assembled dialect tree files) := by
  have complete := complete_ofDeclarations
    (files.foldl (Gathering.absorb dialect tree) {}).declarations.toList
  exact ⟨⟨complete.numbered, complete.filed⟩, complete.linked, complete.edged⟩

theorem node?_assembled (name : String) :
    (assembled dialect tree files).node? name =
      (ofDeclarations (Gathering.declarationsOf dialect tree files)).node? name := by
  have holds := Gathering.holds_files Gathering.holds_empty dialect tree files
  exact node?_congr (Gathering.lastNamed?_declarations holds) name

theorem fileFor?_assembled (name : String) : (assembled dialect tree files).fileFor? name =
    (lastNamed? (Gathering.declarationsOf dialect tree files) name).map (·.path) := by
  rw [(complete_assembled dialect tree files).filed, node?_assembled,
    ← (complete_ofDeclarations _).filed, fileFor?_ofDeclarations]

theorem submodules_assembled (name : String) :
    (assembled dialect tree files).submodules name =
      ((lastNamed? (Gathering.declarationsOf dialect tree files) name).map
        (·.instances)).getD [] := by
  rw [submodules_eq, node?_assembled, ← submodules_eq, submodules_ofDeclarations]

theorem duplicates_assembled :
    (assembled dialect tree files).duplicates =
      shadowings [] (Gathering.declarationsOf dialect tree files) :=
  (Gathering.holds_files Gathering.holds_empty dialect tree files).repeated

end ModuleGraph

end HdlClosure
