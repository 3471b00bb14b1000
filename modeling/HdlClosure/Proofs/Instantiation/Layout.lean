import HdlClosure.Proofs.Instantiation.Calls
import Mathlib.Data.List.Basic
import Mathlib.Data.List.Induction
import Mathlib.Logic.Relation

/-! The layout of a source. Lines are read one by one and without the white space around them, so
that blanks at their ends, blank lines and comments leave no trace in what is read. -/
namespace HdlClosure

open Text

section Trim

variable {blanks text : List Char}

theorem blanks_return : Blanks ['\r'] := blanks_singleton (by decide)

theorem trimStart_blanks_append (areBlank : Blanks blanks) (text : List Char) :
    trimStart (blanks ++ text) = trimStart text :=
  List.dropWhile_append_of_pos areBlank

theorem trimStart_eq_nil (areBlank : Blanks blanks) : trimStart blanks = [] :=
  List.dropWhile_eq_nil_iff.mpr areBlank

theorem blanks_reverse (areBlank : Blanks blanks) : Blanks blanks.reverse :=
  fun c member => areBlank c (List.mem_reverse.mp member)

theorem trim_append_blanks (areBlank : Blanks blanks) (text : List Char) :
    trim (text ++ blanks) = trim text := by
  have kept : trimStart (text ++ blanks) =
      if (trimStart text).isEmpty then trimStart blanks else trimStart text ++ blanks :=
    List.dropWhile_append
  rw [trim, trim, kept]
  split
  · rename_i empty
    rw [List.isEmpty_iff.mp empty, trimStart_eq_nil areBlank]
  · rw [List.reverse_append, trimStart_blanks_append (blanks_reverse areBlank)]

theorem trim_between {left right : List Char} (before : Blanks left) (after : Blanks right)
    (text : List Char) : trim (left ++ text ++ right) = trim text := by
  rw [trim_append_blanks after, trim, trimStart_blanks_append before]
  rfl

theorem trim_eq_nil (areBlank : Blanks blanks) : trim blanks = [] := by
  rw [trim, trimStart_eq_nil areBlank]
  rfl

/-- What trimming leaves, with the blanks that it cut off at the end. -/
theorem exists_trim (text : List Char) : ∃ blanks, Blanks blanks ∧
    trimStart text = trim text ++ blanks := by
  obtain ⟨blanks, areBlank, split⟩ := exists_trimStart (trimStart text).reverse
  refine ⟨blanks.reverse, blanks_reverse areBlank, ?_⟩
  rw [← List.reverse_reverse (trimStart text), split, List.reverse_append]
  rfl

/-- A visible text in front is not cut. -/
theorem prefix_trim {mark : List Char} (visible : ∀ c ∈ mark, isBlank c = false)
    (rest : List Char) : mark <+: trim (mark ++ rest) := by
  cases mark with
  | nil => exact List.nil_prefix
  | cons c mark =>
    obtain ⟨blanks, areBlank, kept⟩ := exists_trim (c :: mark ++ rest)
    have start : trimStart (c :: mark ++ rest) = c :: mark ++ rest :=
      List.dropWhile_cons_of_neg (by simp [visible c List.mem_cons_self])
    rw [start] at kept
    -- Were the mark longer than what is left, it would run on into the blanks.
    rcases List.append_eq_append_iff.mp kept with ⟨more, same, _⟩ | ⟨cut, same, split⟩
    · exact ⟨more, same.symm⟩
    · cases cut with
      | nil => exact ⟨[], (List.append_nil _).trans (same.trans (List.append_nil _))⟩
      | cons d cut =>
        have hidden := areBlank d (by rw [split]; exact List.mem_cons_self)
        have shown := visible d (by rw [same]; simp)
        rw [shown] at hidden
        cases hidden

end Trim

section Lines

/-- A place where a line begins: the start of a text, or behind a line feed. -/
def BeginsLine (before : List Char) : Prop := before = [] ∨ ∃ earlier, before = earlier ++ ['\n']

/-- A place where a line ends: the end of a text, or in front of a line feed. -/
def EndsLine (after : List Char) : Prop := after = [] ∨ ∃ later, after = '\n' :: later

theorem exists_last_line (text : List Char) :
    ∃ before line, text = before ++ line ∧ BeginsLine before ∧ '\n' ∉ line := by
  induction text using List.reverseRecOn with
  | nil => exact ⟨[], [], rfl, .inl rfl, List.not_mem_nil⟩
  | append_singleton text c ih =>
    by_cases feed : c = '\n'
    · subst feed
      exact ⟨text ++ ['\n'], [], by simp, .inr ⟨text, rfl⟩, List.not_mem_nil⟩
    · obtain ⟨before, line, rfl, begins, plain⟩ := ih
      refine ⟨before, line ++ [c], by simp, begins, ?_⟩
      rw [List.mem_append, List.mem_singleton]
      rintro (inside | last)
      · exact plain inside
      · exact feed last.symm

theorem trim_dropReturn (line : List Char) : trim (dropReturn line) = trim line := by
  unfold dropReturn
  split
  · rename_i last
    obtain ⟨front, rfl⟩ := List.getLast?_eq_some_iff.mp last
    rw [List.dropLast_concat, trim_append_blanks blanks_return]
  · rfl

end Lines

namespace Dialect

variable {dialect : Dialect}

/-- What is read off the pieces of a text between line feeds. -/
def readPieces (dialect : Dialect) (text : List Char) : List String :=
  (text.splitOnP (· == '\n')).filterMap dialect.instanceOf?

theorem instanceOf?_of_trim_eq {line other : List Char} (same : trim line = trim other) :
    dialect.instanceOf? line = dialect.instanceOf? other := by
  rw [instanceOf?, instanceOf?, same]

theorem instanceOf?_blanks {blanks : List Char} (areBlank : Blanks blanks) :
    dialect.instanceOf? blanks = none := by
  rw [instanceOf?, trim_eq_nil areBlank]
  rfl

/-- Neither a carriage return before a line feed nor an empty piece after the last one makes a
difference. -/
theorem instances_eq_readPieces (dialect : Dialect) (source : String) :
    dialect.instances source = dialect.readPieces source.toList := by
  obtain ⟨pieces, last, split⟩ : ∃ pieces last,
      source.toList.splitOnP (· == '\n') = pieces ++ [last] :=
    (List.eq_nil_or_concat' _).resolve_left (List.splitOnP_ne_nil (· == '\n') source.toList)
  have returns : (pieces.map dropReturn).filterMap dialect.instanceOf? =
      pieces.filterMap dialect.instanceOf? := by
    rw [List.filterMap_map]
    exact List.filterMap_congr fun line _ => instanceOf?_of_trim_eq (trim_dropReturn line)
  have empty : dialect.instanceOf? [] = none := instanceOf?_blanks blanks_nil
  rw [instances, lines, readPieces, split]
  cases last <;> simp [returns, empty]

section Pieces

theorem readPieces_feed (dialect : Dialect) (first rest : List Char) :
    dialect.readPieces (first ++ '\n' :: rest) =
      dialect.readPieces first ++ dialect.readPieces rest := by
  rw [readPieces, List.splitOnP_append_cons first rest (by decide), List.filterMap_append]
  rfl

theorem readPieces_nil (dialect : Dialect) : dialect.readPieces [] = [] := by
  rw [readPieces, List.splitOnP_nil, List.filterMap_cons_none (instanceOf?_blanks blanks_nil)]
  rfl

theorem readPieces_plain {line : List Char} (plain : '\n' ∉ line) :
    dialect.readPieces line = (dialect.instanceOf? line).toList := by
  rw [readPieces, List.splitOnP_eq_singleton (beq_of_not_mem plain)]
  cases found : dialect.instanceOf? line <;> simp [found]

/-- A text may be cut where a line begins. -/
theorem readPieces_append {before : List Char} (begins : BeginsLine before) (after : List Char) :
    dialect.readPieces (before ++ after) =
      dialect.readPieces before ++ dialect.readPieces after := by
  rcases begins with rfl | ⟨earlier, rfl⟩
  · rw [readPieces_nil, List.nil_append, List.nil_append]
  · rw [List.append_assoc, List.singleton_append, readPieces_feed, readPieces_feed,
      readPieces_nil, List.append_nil]

theorem readPieces_line {before line after : List Char} (begins : BeginsLine before)
    (ends : EndsLine after) (plain : '\n' ∉ line) :
    dialect.readPieces (before ++ line ++ after) = dialect.readPieces before ++
      ((dialect.instanceOf? line).toList ++ dialect.readPieces after) := by
  rw [List.append_assoc, readPieces_append begins, ← readPieces_plain plain]
  rcases ends with rfl | ⟨later, rfl⟩
  · rw [readPieces_nil, List.append_nil, List.append_nil]
  · have fed := readPieces_feed dialect [] later
    rw [readPieces_nil, List.nil_append, List.nil_append] at fed
    rw [readPieces_feed, fed]

end Pieces

/-- A line that is not read: it is blank, or a comment behind blanks. -/
inductive Idle (dialect : Dialect) : List Char → Prop where
  | blank {line : List Char} (areBlank : Blanks line) : Idle dialect line
  | comment {before rest : List Char} (indented : Blanks before) :
    Idle dialect (before ++ (dialect.language.commentMarker.toList ++ rest))

theorem visible_commentMarker (language : Language) :
    ∀ c ∈ language.commentMarker.toList, isBlank c = false := by
  cases language <;> simp [Language.commentMarker] <;> decide

theorem instanceOf?_idle {line : List Char} (idle : dialect.Idle line) :
    dialect.instanceOf? line = none := by
  cases idle with
  | blank areBlank => exact instanceOf?_blanks areBlank
  | @comment before rest indented =>
    have trimmed := trim_between indented blanks_nil
      (dialect.language.commentMarker.toList ++ rest)
    rw [List.append_nil] at trimmed
    have marked := prefix_trim (visible_commentMarker dialect.language) rest
    rw [instanceOf?, trimmed, isCode, List.isPrefixOf_iff_prefix.mpr marked]
    simp

/-- One change in the layout of a text: white space other than a line feed around what stands in a
line, or a whole line more that is not read. -/
inductive Relaid (dialect : Dialect) : List Char → List Char → Prop where
  | spaced {before line after left right : List Char} (begins : BeginsLine before)
    (ends : EndsLine after) (plain : '\n' ∉ left ++ line ++ right) (leading : Blanks left)
    (trailing : Blanks right) :
    Relaid dialect (before ++ line ++ after) (before ++ (left ++ line ++ right) ++ after)
  | inserted {before line : List Char} (after : List Char) (begins : BeginsLine before)
    (plain : '\n' ∉ line) (idle : dialect.Idle line) :
    Relaid dialect (before ++ after) (before ++ (line ++ '\n' :: after))
  | appended {line : List Char} (text : List Char) (plain : '\n' ∉ line)
    (idle : dialect.Idle line) : Relaid dialect text (text ++ '\n' :: line)

section Layout

variable {text other : List Char}

theorem readPieces_relaid (relaid : dialect.Relaid text other) :
    dialect.readPieces text = dialect.readPieces other := by
  cases relaid with
  | @spaced before line after left right begins ends plain leading trailing =>
    have inner : '\n' ∉ line := fun inside => plain (by simp [inside])
    rw [readPieces_line begins ends plain, readPieces_line begins ends inner,
      instanceOf?_of_trim_eq (trim_between leading trailing line)]
  | inserted after begins plain idle =>
    rw [readPieces_append begins, readPieces_append begins, readPieces_feed,
      readPieces_plain plain, instanceOf?_idle idle, Option.toList_none, List.nil_append]
  | appended _ plain idle =>
    rw [readPieces_feed, readPieces_plain plain, instanceOf?_idle idle, Option.toList_none,
      List.append_nil]

/-- Any number of changes, back and forth. -/
theorem readPieces_eqvGen (changes : Relation.EqvGen dialect.Relaid text other) :
    dialect.readPieces text = dialect.readPieces other := by
  induction changes with
  | rel _ _ relaid => exact readPieces_relaid relaid
  | refl => rfl
  | symm _ _ _ ih => exact ih.symm
  | trans _ _ _ _ _ first second => exact first.trans second

/-- A text with a carriage return put before every line feed. -/
def withReturns (text : List Char) : List Char :=
  text.flatMap fun c => if c = '\n' then ['\r', '\n'] else [c]

/-- Carriage returns are white space at the ends of lines. -/
theorem eqvGen_withReturns (dialect : Dialect) (before text : List Char) :
    Relation.EqvGen dialect.Relaid (before ++ text) (before ++ withReturns text) := by
  induction text generalizing before with
  | nil => exact .refl _
  | cons c rest ih =>
    have next := ih (before ++ [c])
    rw [List.append_assoc, List.append_assoc] at next
    by_cases feed : c = '\n'
    · subst feed
      obtain ⟨earlier, line, rfl, begins, plain⟩ := exists_last_line before
      have padded : dialect.Relaid (earlier ++ line ++ '\n' :: withReturns rest)
          (earlier ++ ([] ++ line ++ ['\r']) ++ '\n' :: withReturns rest) :=
        .spaced begins (.inr ⟨_, rfl⟩) (by simp [plain]) blanks_nil blanks_return
      have step := next.trans _ _ _ (.rel _ _ padded)
      simpa [withReturns] using step
    · simpa [withReturns, feed] using next

end Layout

/-- Two sources one below the other are read one after the other. Changes in the layout, back and
forth, make no difference to what is read; nor do carriage returns before all line feeds. -/
theorem instances_layout (dialect : Dialect) :
    (∀ first second : String, dialect.instances (first ++ "\n" ++ second) =
      dialect.instances first ++ dialect.instances second) ∧
    (∀ source other : String, Relation.EqvGen dialect.Relaid source.toList other.toList →
      dialect.instances source = dialect.instances other) ∧
    ∀ source : String, dialect.instances (String.ofList (withReturns source.toList)) =
      dialect.instances source := by
  refine ⟨fun first second => ?_, fun source other changes => ?_, fun source => ?_⟩
  · have joined : (first ++ "\n" ++ second).toList = first.toList ++ '\n' :: second.toList := by
      simp
    rw [instances_eq_readPieces, joined, readPieces_feed, ← instances_eq_readPieces,
      ← instances_eq_readPieces]
  · rw [instances_eq_readPieces, instances_eq_readPieces, readPieces_eqvGen changes]
  · rw [instances_eq_readPieces, instances_eq_readPieces, String.toList_ofList]
    exact (readPieces_eqvGen (eqvGen_withReturns dialect [] source.toList)).symm

/-- A comment more, a space that does not break before an instance, and a return behind it at the
end of the text. -/
theorem instances_adder_relaid :
    let verilog : Dialect := { language := .verilog }
    Relation.EqvGen verilog.Relaid "adder a0 (x);".toList
      "\t// adder a1 (\n\u00a0adder a0 (x);\r".toList ∧
    verilog.instances "adder a0 (x);" =
      verilog.instances "\t// adder a1 (\n\u00a0adder a0 (x);\r" := by
  intro verilog
  have tab : Blanks ['\t'] := blanks_singleton (by decide)
  have space : Blanks ['\u00a0'] := blanks_singleton (by decide)
  have comment : "\t// adder a1 (".toList =
      ['\t'] ++ (verilog.language.commentMarker.toList ++ " adder a1 (".toList) := by
    decide
  have idle : verilog.Idle "\t// adder a1 (".toList := comment ▸ .comment tab
  have commented : verilog.Relaid "adder a0 (x);".toList "\t// adder a1 (\nadder a0 (x);".toList :=
    @Relaid.inserted verilog [] _ "adder a0 (x);".toList (.inl rfl) (by decide) idle
  have spaced : verilog.Relaid "\t// adder a1 (\nadder a0 (x);".toList
      "\t// adder a1 (\n\u00a0adder a0 (x);\r".toList :=
    @Relaid.spaced verilog "\t// adder a1 (\n".toList "adder a0 (x);".toList [] _ _
      (.inr ⟨"\t// adder a1 (".toList, rfl⟩) (.inl rfl) (by decide) space blanks_return
  have changes := (Relation.EqvGen.rel _ _ commented).trans _ _ _ (.rel _ _ spaced)
  exact ⟨changes, (instances_layout verilog).2.1 _ _ changes⟩

end Dialect

end HdlClosure
