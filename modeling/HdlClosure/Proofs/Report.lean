import HdlClosure.Proofs.Json.Printer
import HdlClosure.Proofs.Json.Reader
import HdlClosure.Proofs.Text.ByteOrder
import HdlClosure.Report

namespace HdlClosure

structure Report where
  files : List String
  modules : List String
  unresolved : List String
  testbenches : Std.TreeMap String (List String)
  duplicates : List Duplicate
  stats : GraphStats

namespace Report

open Json (Value)

section Decoding

def text? : Value → Option String
  | .text content => some content
  | _ => none

def listOf? {α : Type} (one? : Value → Option α) : Value → Option (List α)
  | .list items => items.mapM one?
  | _ => none

def natural? : Value → Option Nat
  | .number literal =>
    if literal.all Char.isDigit then some (Nat.ofDigitChars 10 literal 0) else none
  | _ => none

/-- The value of the one field with a name. Fields with other names do not matter. -/
def field? (name : String) : Value → Option Value
  | .fields members =>
    match members.filter fun member => member.1 == name with
    | [(_, value)] => some value
    | _ => none
  | _ => none

/-- Values by name. The last of several with one name counts. -/
def tableOf? {α : Type} (one? : Value → Option α) : Value → Option (Std.TreeMap String α)
  | .fields members =>
    (members.mapM fun member => (one? member.2).map fun item => (member.1, item)).map
      fun entries => Std.TreeMap.ofList entries
  | _ => none

def duplicate? (value : Value) : Option Duplicate := do
  return {
    name := ← (field? "module" value).bind text?
    kept := ← (field? "kept" value).bind text?
    shadowed := ← (field? "shadowed" value).bind text?
  }

def stats? (value : Value) : Option GraphStats := do
  return {
    modules := ← (field? "modules" value).bind natural?
    instantiations := ← (field? "instantiations" value).bind natural?
    unresolved := ← (field? "unresolved" value).bind natural?
    duplicates := ← (field? "duplicates" value).bind natural?
  }

def ofValue? (value : Value) : Option Report := do
  return {
    files := ← (field? "files" value).bind (listOf? text?)
    modules := ← (field? "modules" value).bind (listOf? text?)
    unresolved := ← (field? "unresolved" value).bind (listOf? text?)
    testbenches := ← (field? "testbenches" value).bind (tableOf? (listOf? text?))
    duplicates := ← (field? "duplicates" value).bind (listOf? duplicate?)
    stats := ← (field? "stats" value).bind stats?
  }

end Decoding

section Encoding

theorem mapM_map_some {α β : Type} {write : α → β} {read? : β → Option α}
    (reads : ∀ item, read? (write item) = some item) (items : List α) :
    (items.map write).mapM read? = some items := by
  have each : read? ∘ write = fun item => pure (id item) := funext reads
  rw [List.mapM_map, each, List.mapM_pure, List.map_id]
  rfl

theorem texts_read (items : List String) :
    listOf? text? (Json.value (texts items)) = some items := by
  have reads (item : String) : text? (Json.value (.text item)) = some item := rfl
  rw [texts, Json.value, Json.values_eq_map, List.map_map, listOf?]
  exact mapM_map_some reads items

theorem natural_read (amount : Nat) : natural? (Json.value (.number amount)) = some amount := by
  have digits : (Nat.toDigits 10 amount).all Char.isDigit = true :=
    List.all_eq_true.mpr fun _ member =>
      Nat.isDigit_of_mem_toDigits (by decide) (by decide) member
  simp [Json.value, natural?, digits, Nat.ofDigitChars_ten_toDigits]

theorem duplicate_read (duplicate : Duplicate) :
    duplicate? (Json.value (ofDuplicate duplicate)) = some duplicate := by
  simp [ofDuplicate, Json.value, Json.namedValues, duplicate?, field?, text?]

theorem duplicates_read (duplicates : List Duplicate) :
    listOf? duplicate? (Json.value (.list (duplicates.map ofDuplicate))) = some duplicates := by
  rw [Json.value, Json.values_eq_map, List.map_map, listOf?]
  exact mapM_map_some duplicate_read duplicates

theorem stats_read (stats : GraphStats) : stats? (Json.value (ofStats stats)) = some stats := by
  have reads := natural_read
  simp only [Json.value] at reads
  simp [ofStats, Json.value, Json.namedValues, stats?, field?, reads]

theorem toList_ofList_toList {α : Type} (table : Std.TreeMap String α) :
    (Std.TreeMap.ofList table.toList).toList = table.toList := by
  rw [← Std.TreeMap.equiv_iff_toList_eq]
  apply Std.TreeMap.Equiv.of_forall_constGet?_eq
  intro name
  cases found : table[name]? with
  | none =>
    apply Std.TreeMap.getElem?_ofList_of_contains_eq_false
    rw [Std.TreeMap.map_fst_toList_eq_keys, Std.TreeMap.contains_keys,
      Std.TreeMap.contains_eq_isSome_getElem?, found, Option.isSome_none]
  | some item =>
    have member := Std.TreeMap.mem_toList_iff_getElem?_eq_some.mpr found
    exact Std.TreeMap.getElem?_ofList_of_mem Std.ReflCmp.compare_self
      Std.TreeMap.distinct_keys_toList member

theorem table_read (table : Std.TreeMap String (List String)) :
    ∃ found, tableOf? (listOf? text?) (Json.value
        (.fields (table.toList.map fun (name, files) => (name, texts files)))) = some found ∧
      found.toList = table.toList := by
  have reads (entry : String × List String) :
      ((listOf? text? (Json.value (texts entry.2))).map fun item => (entry.1, item)) =
        some entry := by
    rw [texts_read, Option.map_some]
  refine ⟨Std.TreeMap.ofList table.toList, ?_, toList_ofList_toList table⟩
  rw [Json.value, Json.namedValues_eq_map, List.map_map, tableOf?]
  rw [mapM_map_some reads, Option.map_some]

end Encoding

/-- A report has the parts of an analysis. The reachable modules are in the order of their bytes. -/
structure Tells (report : Report) (analysis : Analysis) : Prop where
  files : report.files = analysis.files
  modules : report.modules = analysis.reachable.toList
  ascending : report.modules.Pairwise Text.Before
  unresolved : report.unresolved = analysis.unresolved
  testbenches : report.testbenches.toList = analysis.perTestbench.toList
  duplicates : report.duplicates = analysis.duplicates
  stats : report.stats = analysis.stats

/-- The document of an analysis is read back as a report on it. -/
theorem document_read (analysis : Analysis) :
    ∃ report, ofValue? (Json.value (document analysis)) = some report ∧ report.Tells analysis := by
  obtain ⟨table, read, entries⟩ := table_read analysis.perTestbench
  let report : Report := {
    files := analysis.files
    modules := analysis.reachable.toList
    unresolved := analysis.unresolved
    testbenches := table
    duplicates := analysis.duplicates
    stats := analysis.stats
  }
  refine ⟨report, ?_, rfl, rfl, Text.pairwise_before_toList _, rfl, entries, rfl, rfl⟩
  have duplicates := duplicates_read analysis.duplicates
  have stats := stats_read analysis.stats
  rw [document, Json.value]
  simp [ofValue?, field?, Json.namedValues, texts_read, read, duplicates, stats, report]

end Report

/-- The printed form of an analysis is one document. It is read back as a report with all parts of
the analysis, so analyses with one printed form have the same parts. -/
theorem Analysis.render_read_back (analysis : Analysis) :
    ∃ value report,
      (∀ other, Json.Document other (analysis.render .json).toList ↔ other = value) ∧
      Report.ofValue? value = some report ∧ report.Tells analysis ∧
      ∀ second : Analysis, second.render .json = analysis.render .json →
        second.files = analysis.files ∧
        second.reachable.toList = analysis.reachable.toList ∧
        second.unresolved = analysis.unresolved ∧
        second.perTestbench.toList = analysis.perTestbench.toList ∧
        second.duplicates = analysis.duplicates ∧
        second.stats = analysis.stats := by
  obtain ⟨report, read, tells⟩ := Report.document_read analysis
  have written (any : Analysis) :
      Json.Document (Json.value (Report.document any)) (any.render .json).toList :=
    Json.document_render (Report.document any)
  refine ⟨Json.value (Report.document analysis), report, fun other => ⟨fun document => ?_, ?_⟩,
    read, tells, fun second same => ?_⟩
  · exact Json.document_unique document (written analysis)
  · rintro rfl
    exact written analysis
  · obtain ⟨other, otherRead, otherTells⟩ := Report.document_read second
    -- One text stands for one value, so that both reports are read from the same one.
    have one : Json.value (Report.document second) = Json.value (Report.document analysis) :=
      Json.document_unique (same ▸ written second) (written analysis)
    have equal : other = report := Option.some.inj (by rw [← otherRead, one, read])
    subst equal
    exact ⟨otherTells.files.symm.trans tells.files, otherTells.modules.symm.trans tells.modules,
      otherTells.unresolved.symm.trans tells.unresolved,
      otherTells.testbenches.symm.trans tells.testbenches,
      otherTells.duplicates.symm.trans tells.duplicates,
      otherTells.stats.symm.trans tells.stats⟩

end HdlClosure
