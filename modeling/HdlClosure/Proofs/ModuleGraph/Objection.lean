import HdlClosure.Proofs.ModuleGraph.Gathering
import Mathlib.Data.List.Count
import Mathlib.Data.Nat.Find

/-! When files make no graph, the first of them that cannot be taken says why. Under the strict
policy a repeated name counts before the file is opened, so that it hides whether the file could be
read. -/
namespace HdlClosure

variable {policy : DuplicatePolicy} {dialect : Dialect} {tree : FileTree}

theorem FileTree.exists_cause {path : String} (unreadable : ¬tree.Readable path) :
    ∃ cause, tree.readText path = .error cause := by
  cases read : tree.readText path with
  | error cause => exact ⟨cause, rfl⟩
  | ok text => exact absurd ⟨text, read⟩ unreadable

theorem exists_single {files : List SourceFile} {name : String}
    (distinct : (files.map (·.moduleName)).Nodup) (member : name ∈ files.map (·.moduleName)) :
    ∃ earlier, files.filter (·.moduleName == name) = [earlier] := by
  apply List.length_eq_one_iff.mp
  rw [← List.countP_eq_length_filter, ← List.count_eq_one_of_mem distinct member, List.count,
    List.countP_map]
  rfl

/-- The file at a position cannot be taken: it cannot be read, or it repeats a name and the policy
forbids that. -/
def Objection (policy : DuplicatePolicy) (tree : FileTree) (files : List SourceFile)
    (position : Nat) : Prop :=
  ∃ file, files[position]? = some file ∧ (¬tree.Readable file.path ∨
    policy = .error ∧ file.moduleName ∈ (files.take position).map (·.moduleName))

/-- An objection depends on no later file. -/
theorem objection_take {files : List SourceFile} {position bound : Nat}
    (inside : position < bound) :
    Objection policy tree (files.take bound) position ↔ Objection policy tree files position := by
  simp only [Objection, List.getElem?_take_of_lt inside, List.take_take,
    Nat.min_eq_left (Nat.le_of_lt inside)]

namespace Gathering

variable {gathering : Gathering} {file : SourceFile} {files : List SourceFile} {position : Nat}

section Read

/-- Under the strict policy a repeated name stops the reading before the file is opened. -/
theorem read_repeated {duplicate : Duplicate}
    (repeated : gathering.duplicate? file = some duplicate) :
    (gathering.read .error dialect tree file).result =
      .error (.duplicateModule duplicate.name duplicate.shadowed duplicate.kept) := by
  rw [read, repeated]
  rfl

/-- A file that the policy lets through and that cannot be read stops the reading. -/
theorem read_unreadable {cause : AccessError}
    (allowed : policy = .error → gathering.duplicate? file = none)
    (unreadable : tree.readText file.path = .error cause) :
    (gathering.read policy dialect tree file).result =
      .error (.unreadableSource file.path cause) := by
  have stopped : (dialect.instancesOf tree file.path).result =
      .error (.unreadableSource file.path cause) := by
    rw [Dialect.instancesOf, unreadable]
    rfl
  cases repeated : gathering.duplicate? file with
  | none =>
    simp only [read, repeated, Traced.result_bind, Traced.result_pure, stopped]
    rfl
  | some duplicate =>
    have lenient : policy ≠ .error := by
      intro strict
      rw [allowed strict] at repeated
      cases repeated
    simp only [read, repeated, Traced.result_bind, stopped,
      (settle_result policy duplicate ()).mpr lenient]
    rfl

theorem readAll_append (gathering : Gathering) (first second : List SourceFile) :
    (gathering.readAll policy dialect tree (first ++ second)).result =
      (gathering.readAll policy dialect tree first).result.bind fun middle =>
        (middle.readAll policy dialect tree second).result := by
  induction first generalizing gathering with
  | nil => rfl
  | cons file rest ih =>
    rw [List.cons_append, readAll, readAll, Traced.result_bind, Traced.result_bind]
    cases (gathering.read policy dialect tree file).result with
    | error failure => rfl
    | ok middle => exact ih middle

end Read

section Accepted

theorem accepted_concat (accepted : Accepted policy tree [] files)
    (readable : tree.Readable file.path)
    (fresh : policy = .error → file.moduleName ∉ files.map (·.moduleName)) :
    Accepted policy tree [] (files ++ [file]) := by
  refine ⟨?_, fun strict => ⟨?_, fun _ _ => List.not_mem_nil⟩⟩
  · exact List.forall_mem_append.mpr ⟨accepted.1, by simpa using readable⟩
  · rw [List.map_append, List.map_singleton, List.nodup_append_comm]
    exact List.nodup_cons.mpr ⟨fresh strict, (accepted.2 strict).1⟩

theorem accepted_take (clear : ∀ before < position, ¬Objection policy tree files before) :
    Accepted policy tree [] (files.take position) := by
  induction position with
  | zero => exact ⟨nofun, fun _ => ⟨List.nodup_nil, nofun⟩⟩
  | succ position ih =>
    have accepted := ih fun before lower => clear before (Nat.lt_succ_of_lt lower)
    rw [List.take_add_one]
    cases present : files[position]? with
    | none => simpa using accepted
    | some file =>
      have unobjected := clear position (Nat.lt_succ_self position)
      apply accepted_concat accepted
      · by_contra unreadable
        exact unobjected ⟨file, present, .inl unreadable⟩
      · exact fun strict repeated => unobjected ⟨file, present, .inr ⟨strict, repeated⟩⟩

/-- Files are accepted when none of them raises an objection. -/
theorem accepted_iff : Accepted policy tree [] files ↔
    ∀ position, ¬Objection policy tree files position := by
  constructor
  · intro given position objection
    obtain ⟨readable, distinct⟩ := given
    obtain ⟨file, present, reason⟩ := objection
    obtain ⟨inside, rfl⟩ := List.getElem?_eq_some_iff.mp present
    rcases reason with unreadable | ⟨strict, known⟩
    · exact unreadable (readable _ (List.getElem_mem inside))
    · have apart := (distinct strict).1
      rw [← List.take_append_drop position files, List.drop_eq_getElem_cons inside,
        List.map_append, List.map_cons] at apart
      exact (List.nodup_append.mp apart).2.2 _ known _ List.mem_cons_self rfl
  · intro clear
    have accepted : Accepted policy tree [] (files.take files.length) :=
      accepted_take fun before _ => clear before
    rwa [List.take_length] at accepted

end Accepted

end Gathering

open Gathering

variable {files : List SourceFile} {file : SourceFile} {position : Nat}

/-- Where the reading of a file fails after all before it were accepted, no graph is made. -/
theorem ModuleGraph.ofFiles_stopped {failure : Failure} (present : files[position]? = some file)
    (accepted : Accepted policy tree [] (files.take position))
    (stopped : (((files.take position).foldl (absorb dialect tree) {}).read policy dialect tree
      file).result = .error failure) :
    (ofFiles policy dialect tree files).result = .error failure := by
  obtain ⟨inside, rfl⟩ := List.getElem?_eq_some_iff.mp present
  have begun : (readAll policy dialect tree {} (files.take position)).result = .ok _ :=
    (readAll_result holds_empty _ _).mpr ⟨accepted, rfl⟩
  have whole : (readAll policy dialect tree {} files).result = .error failure := by
    rw [← List.take_append_drop position files, List.drop_eq_getElem_cons inside, readAll_append,
      begun, Except.bind, readAll, Traced.result_bind, stopped]
    rfl
  rw [ofFiles, Traced.result_bind, whole]
  rfl

theorem duplicate?_of_fresh (dialect : Dialect) (tree : FileTree)
    (fresh : file.moduleName ∉ files.map (·.moduleName)) :
    (files.foldl (absorb dialect tree) {}).duplicate? file = none := by
  have holds := holds_files holds_empty dialect tree files
  rw [duplicate?_eq holds dialect tree, shadowing?, Option.map_eq_none_iff, lastNamed?_eq_none_iff,
    List.nil_append, names_declarationsOf]
  exact fresh

/-- What a file repeats, after accepted files under the strict policy, is the one file with its
name. -/
theorem duplicate?_of_single {earlier : SourceFile} (dialect : Dialect) (tree : FileTree)
    (distinct : (files.map (·.moduleName)).Nodup)
    (single : files.filter (·.moduleName == file.moduleName) = [earlier]) :
    (files.foldl (absorb dialect tree) {}).duplicate? file =
      some { name := file.moduleName, kept := file.path, shadowed := earlier.path } := by
  have holds := holds_files holds_empty dialect tree files
  have listed : earlier ∈ files ∧ earlier.moduleName = file.moduleName := by
    have member : earlier ∈ files.filter (·.moduleName == file.moduleName) := by simp [single]
    simpa using member
  have last : lastNamed? (declarationsOf dialect tree files) file.moduleName =
      some (earlier.declaration dialect tree) := by
    rw [← names_declarationsOf dialect tree] at distinct
    exact (lastNamed?_eq_some_iff distinct).mpr ⟨List.mem_map_of_mem listed.1, listed.2⟩
  rw [duplicate?_eq holds dialect tree, shadowing?]
  show (lastNamed? (declarationsOf dialect tree files) file.moduleName).map _ = _
  rw [last]
  rfl

/-- What is said of the file at a position that cannot be taken. That it repeats a name is said
whether or not it could be read. -/
inductive Refused (policy : DuplicatePolicy) (tree : FileTree) (files : List SourceFile)
    (position : Nat) : Failure → Prop where
  | repeated {file earlier : SourceFile} (present : files[position]? = some file)
    (strict : policy = .error)
    (single : (files.take position).filter (·.moduleName == file.moduleName) = [earlier]) :
    Refused policy tree files position
      (.duplicateModule file.moduleName earlier.path file.path)
  | unreadable {file : SourceFile} {cause : AccessError} (present : files[position]? = some file)
    (allowed : policy = .error → file.moduleName ∉ (files.take position).map (·.moduleName))
    (unread : tree.readText file.path = .error cause) :
    Refused policy tree files position (.unreadableSource file.path cause)

namespace ModuleGraph

theorem ofFiles_refused (dialect : Dialect) (objection : Objection policy tree files position)
    (first : ∀ before < position, ¬Objection policy tree files before) :
    ∃ failure, Refused policy tree files position failure ∧
      (ofFiles policy dialect tree files).result = .error failure := by
  obtain ⟨file, present, reason⟩ := objection
  have accepted := accepted_take first
  by_cases repeated : policy = .error ∧
      file.moduleName ∈ (files.take position).map (·.moduleName)
  · obtain ⟨rfl, known⟩ := repeated
    have distinct := (accepted.2 rfl).1
    obtain ⟨earlier, single⟩ := exists_single distinct known
    refine ⟨_, .repeated present rfl single, ofFiles_stopped present accepted ?_⟩
    exact read_repeated (duplicate?_of_single dialect tree distinct single)
  · have unreadable := reason.resolve_right repeated
    obtain ⟨cause, unread⟩ := FileTree.exists_cause unreadable
    have fresh (strict : policy = .error) :
        file.moduleName ∉ (files.take position).map (·.moduleName) :=
      fun known => repeated ⟨strict, known⟩
    refine ⟨_, .unreadable present fresh unread, ofFiles_stopped present accepted ?_⟩
    exact read_unreadable (fun strict => duplicate?_of_fresh dialect tree (fresh strict)) unread

/-- Files that raise no objection make a graph, under the strict policy the one that they make
under the others, and without duplicates. -/
theorem ofFiles_unobjected (dialect : Dialect)
    (clear : ∀ position, ¬Objection policy tree files position) :
    ∃ graph, (ofFiles policy dialect tree files).result = .ok graph ∧
      (policy = .error → (ofFiles .warn dialect tree files).result = .ok graph ∧
        graph.duplicates = []) := by
  have accepted := accepted_iff.mpr clear
  refine ⟨_, (ofFiles_result policy dialect tree files _).mpr ⟨accepted, rfl⟩, fun strict => ?_⟩
  constructor
  · exact (ofFiles_result .warn dialect tree files _).mpr ⟨⟨accepted.1, nofun⟩, rfl⟩
  · have distinct := (accepted.2 strict).1
    rw [← names_declarationsOf dialect tree] at distinct
    rw [duplicates_assembled, shadowings_of_nodup [] distinct, List.filterMap_eq_nil_iff]
    exact fun _ _ => rfl

/-- Files make a graph unless one raises an objection, and then the first that does is the one that
is refused. Without the strict policy a file that cannot be read always stops the building, also
where its name is, or would be, another file's. -/
theorem ofFiles_first_objection (policy : DuplicatePolicy) (dialect : Dialect) (tree : FileTree)
    (files : List SourceFile) :
    ((∀ position, ¬Objection policy tree files position) →
      ∃ graph, (ofFiles policy dialect tree files).result = .ok graph ∧
        (policy = .error → (ofFiles .warn dialect tree files).result = .ok graph ∧
          graph.duplicates = [])) ∧
    (∀ position, Objection policy tree files position →
      (∀ before < position, ¬Objection policy tree files before) →
      ∃ failure, Refused policy tree files position failure ∧
        (ofFiles policy dialect tree files).result = .error failure) ∧
    (policy ≠ .error → ∀ file ∈ files, ¬tree.Readable file.path →
      ∃ first ∈ files, ∃ cause, tree.readText first.path = .error cause ∧
        (ofFiles policy dialect tree files).result =
          .error (.unreadableSource first.path cause)) := by
  refine ⟨ofFiles_unobjected dialect, fun _ => ofFiles_refused dialect, ?_⟩
  intro lenient file member unreadable
  obtain ⟨place, present⟩ := List.mem_iff_getElem?.mp member
  have objected : ∃ position, Objection policy tree files position :=
    ⟨place, file, present, .inl unreadable⟩
  classical
  obtain ⟨failure, refused, stopped⟩ :=
    ofFiles_refused dialect (Nat.find_spec objected) fun _ => Nat.find_min objected
  cases refused with
  | repeated _ strict _ => exact absurd strict lenient
  | unreadable found _ unread =>
    exact ⟨_, List.mem_of_getElem? found, _, unread, stopped⟩

/-- A third file that is missing repeats the name of the first. The strict policy complains of the
name, any other of the missing file; and the first two raise no objection. -/
theorem ofFiles_clocks_objections :
    let dialect : Dialect := { language := .verilog }
    let apart : List SourceFile := [⟨"hdl/clock.v", "clock"⟩, ⟨"hdl/top.v", "top"⟩]
    let files : List SourceFile := apart ++ [⟨"gone.v", "clock"⟩]
    (∃ graph, (ofFiles .error dialect .clocks apart).result = .ok graph ∧
      (ofFiles .warn dialect .clocks apart).result = .ok graph ∧ graph.duplicates = []) ∧
    (ofFiles .error dialect .clocks files).result =
      .error (.duplicateModule "clock" "hdl/clock.v" "gone.v") ∧
    ∃ first ∈ files, ∃ cause, FileTree.clocks.readText first.path = .error cause ∧
      (ofFiles .warn dialect .clocks files).result =
        .error (.unreadableSource first.path cause) := by
  intro dialect apart files
  have accepted : Accepted .error .clocks [] apart := by
    refine ⟨fun file member => ?_, fun _ => ⟨by decide, nofun⟩⟩
    have listed := List.mem_map_of_mem (f := SourceFile.path) member
    exact FileTree.readable_clocks (List.mem_of_mem_take (i := 2) listed)
  have clear := accepted_iff.mp accepted
  have missing : FileTree.clocks.readText "gone.v" = .error .notFound := by decide +kernel
  have unreadable : ¬FileTree.clocks.Readable "gone.v" := by
    rintro ⟨text, read⟩
    cases missing.symm.trans read
  have objection : Objection .error .clocks files 2 := ⟨_, rfl, .inl unreadable⟩
  have first (before : Nat) (lower : before < 2) : ¬Objection .error .clocks files before :=
    fun raised => clear before ((objection_take lower).mpr raised)
  obtain ⟨graph, made, strict⟩ := (ofFiles_first_objection .error dialect .clocks apart).1 clear
  obtain ⟨failure, refused, stopped⟩ :=
    (ofFiles_first_objection .error dialect .clocks files).2.1 2 objection first
  refine ⟨⟨graph, made, strict rfl⟩, stopped.trans (congrArg _ ?_),
    (ofFiles_first_objection .warn dialect .clocks files).2.2 nofun ⟨"gone.v", "clock"⟩
      (by decide) unreadable⟩
  cases refused with
  | repeated present _ single =>
    cases present
    obtain rfl : (⟨"hdl/clock.v", "clock"⟩ : SourceFile) = _ := (List.cons.inj single).1
    rfl
  | unreadable present allowed _ =>
    cases present
    exact absurd (by decide) (allowed rfl)

end ModuleGraph

end HdlClosure
