import HdlClosure.Proofs.Instantiation.EntityUses
import HdlClosure.Proofs.Settings.Testbenches
import HdlClosure.Proofs.Source

namespace HdlClosure

open Text

section Words

/-- Trimming leaves a text alone that begins and ends with something else than white space. -/
theorem trim_of_stopsAt {text : List Char} (begins : StopsAt isBlank text)
    (ends : StopsAt isBlank text.reverse) : trim text = text := by
  have start : trimStart text = text := trimStart_append blanks_nil begins
  have back : trimStart text.reverse = text.reverse := trimStart_append blanks_nil ends
  rw [trim, start, back, List.reverse_reverse]

end Words

/-- The name of a source file of a module: a word, a dot and the extension. -/
theorem entryName_of_isWord {word : String} (isWord : IsWord word.toList) (language : Language) :
    Path.EntryName (word ++ "." ++ language.extension) := by
  have spelled : (word ++ "." ++ language.extension).toList =
      word.toList ++ '.' :: language.extension.toList := by
    simp
  -- A name that begins with a letter is neither empty nor made of dots.
  have first (text : String) (dots : ∀ c ∈ text.toList, c = '.') :
      word ++ "." ++ language.extension ≠ text := by
    intro same
    obtain ⟨c, rest, front⟩ := List.exists_cons_of_ne_nil isWord.1
    have inside : c ∈ word.toList := by rw [front]; exact List.mem_cons_self
    have dot := dots c (by rw [← same, spelled]; exact List.mem_append_left _ inside)
    rw [dot] at inside
    exact not_mem_of_isWord isWord (by decide +kernel) inside
  refine ⟨⟨?_, first ".." (by simp)⟩, ?_⟩
  · rw [Bool.eq_false_iff, Ne, Path.isIdle_iff]
    rintro (empty | dot)
    · exact first "" (by simp) empty
    · exact first "." (by simp) dot
  · rw [spelled, List.mem_append, List.mem_cons]
    rintro (inside | slash | inside)
    · exact not_mem_of_isWord isWord (by decide +kernel) inside
    · cases slash
    · exact slash_not_mem_extension language inside

/-- The source file of a module: its stem is the word before the extension, in lowercase. -/
theorem SourceFile.ofPath?_join_word {word : String} (directory : String)
    (isWord : IsWord word.toList) (language : Language) :
    SourceFile.ofPath? (Path.join directory (word ++ "." ++ language.extension)) =
      some { path := Path.join directory (word ++ "." ++ language.extension),
             moduleName := lowercase word } := by
  have given : word ≠ "" := by
    rintro rfl
    exact isWord.1 rfl
  exact ofPath?_join_stem given language (entryName_of_isWord isWord language) directory

/-- A line that instantiates a module of a given name, with nothing around it. -/
inductive InstanceLine (name : String) : Family → String → Prop where
  | call {label gap : String} (labelled : IsWord label.toList) (opened : gap = "" ∨ gap = " ") :
    InstanceLine name .call (name ++ " " ++ label ++ gap ++ "(")
  | entity {label library : String} (labelled : IsWord label.toList)
    (stored : IsWord library.toList) :
    InstanceLine name .entity (label ++ " : entity " ++ library ++ "." ++ name)

section Lines

variable {name line : String}

theorem blanks_space : Blanks [' '] := blanks_singleton rfl

theorem calls_of_instanceLine (isWord : IsWord name.toList) (read : InstanceLine name .call line)
    (defined : lowercase name ∉ primitives) : Calls line.toList (lowercase name) := by
  cases read with
  | @call label gap labelled opened =>
    have blank : Blanks gap.toList := by
      rcases opened with rfl | rfl
      · exact blanks_nil
      · exact blanks_space
    have call := Calls.of [] isWord (List.cons_ne_nil ' ' []) blanks_space labelled blank defined
    simpa [lowercase] using call

theorem entityName_of_instanceLine (isWord : IsWord name.toList)
    (read : InstanceLine name .entity line) (defined : lowercase name ∉ primitives) :
    EntityName .entity line.toList (lowercase name) := by
  cases read with
  | @entity label library labelled stored =>
    have keyword : Capture.entity.IsKeyword ['e', 'n', 't', 'i', 't', 'y'] := rfl
    have nothing : StopsAt isWordChar [] := fun _ head => nomatch head
    have use : EntityUse .entity _ label.toList name.toList :=
      .of labelled blanks_space blanks_space keyword blanks_space stored isWord nothing
    have named := EntityName.of use defined
    simpa [lowercase, Capture.pick] using named

/-- The line has neither white space at its ends nor a line feed. -/
theorem trimmed_of_instanceLine {family : Family} (isWord : IsWord name.toList)
    (read : InstanceLine name family line) :
    trim line.toList = line.toList ∧ '\n' ∉ line.toList := by
  have noFeed {word : String} (isWord : IsWord word.toList) : '\n' ∉ word.toList :=
    not_mem_of_isWord isWord (by decide +kernel)
  cases read with
  | @call label gap labelled opened =>
    constructor
    · refine trim_of_stopsAt ?_ ?_
      · simpa using stopsAt_blank_of_word isWord (' ' :: label.toList ++ gap.toList ++ ['('])
      · have bracket : isBlank '(' = false := by decide
        simpa using stopsAt_cons bracket _
    · have gapPlain : '\n' ∉ gap.toList := by rcases opened with rfl | rfl <;> decide
      simp [noFeed isWord, noFeed labelled, gapPlain]
  | @entity label library labelled stored =>
    constructor
    · refine trim_of_stopsAt ?_ ?_
      · simpa using stopsAt_blank_of_word labelled
          (" : entity ".toList ++ library.toList ++ '.' :: name.toList)
      · have back : IsWord name.toList.reverse := by
          simpa [IsWord] using isWord
        simpa using stopsAt_blank_of_word back _
    · simp [noFeed isWord, noFeed labelled, noFeed stored]

/-- What the reader takes from a text of one line. -/
theorem Dialect.instances_of_line {dialect : Dialect} (plain : '\n' ∉ line.toList)
    (found : dialect.instanceOf? line.toList = some name) : dialect.instances line = [name] := by
  rw [instances, lines_of_plain plain]
  cases text : line.toList with
  | nil =>
    rw [text] at found
    cases found
  | cons c rest =>
    rw [text] at found
    simp [found]

theorem instances_of_instanceLine {dialect : Dialect} (isWord : IsWord name.toList)
    (defined : lowercase name ∉ primitives)
    (taken : dialect.language = .vhdl → dialect.capture = .entity)
    (read : InstanceLine name dialect.language.family line) :
    dialect.instances line = [lowercase name] := by
  obtain ⟨trimmed, plain⟩ := trimmed_of_instanceLine isWord read
  apply Dialect.instances_of_line plain
  obtain ⟨language, capture⟩ := dialect
  cases language with
  | verilog =>
    rw [Dialect.instanceOf?_eq_some_iff_calls (.inl rfl), trimmed]
    exact calls_of_instanceLine isWord read defined
  | systemVerilog =>
    rw [Dialect.instanceOf?_eq_some_iff_calls (.inr rfl), trimmed]
    exact calls_of_instanceLine isWord read defined
  | vhdl =>
    obtain rfl : capture = .entity := taken rfl
    have named := entityName_of_instanceLine isWord read defined
    rw [← trimmed] at named
    exact (Dialect.instanceOf?_eq_some_iff_entityName _ _).mpr named

end Lines

/-- One name, three spellings that differ in the case of ASCII letters at most: as the stem of a
file in any directory, among the testbenches, and in an instantiation. They lead to the same
module. -/
theorem names_agree {file testbench type : String} (defines : IsWord file.toList)
    (tests : IsWord testbench.toList) (uses : IsWord type.toList)
    (sameFile : file.toList.map Char.toLower = type.toList.map Char.toLower)
    (sameTestbench : testbench.toList.map Char.toLower = type.toList.map Char.toLower)
    (defined : lowercase type ∉ ["and", "or", "not", "xor", "nand", "nor", "buf"])
    (directory : String) (language : Language) :
    ∃ name,
      SourceFile.ofPath? (Path.join directory (file ++ "." ++ language.extension)) =
        some { path := Path.join directory (file ++ "." ++ language.extension),
               moduleName := name } ∧
      splitTestbenches testbench = [name] ∧
      ∀ capture line, (language = .vhdl → capture = .entity) →
        InstanceLine type language.family line →
        Dialect.instances { language := language, capture := capture } line = [name] := by
  have fileName : lowercase file = lowercase type := congrArg String.ofList (lower_congr sameFile)
  have testbenchName : lowercase testbench = lowercase type :=
    congrArg String.ofList (lower_congr sameTestbench)
  refine ⟨lowercase type, ?_, ?_, fun capture line taken read => ?_⟩
  · rw [SourceFile.ofPath?_join_word directory defines language, fileName]
  · rw [splitTestbenches_of_visible tests.1 (visible_of_isWord tests), testbenchName]
  · exact instances_of_instanceLine uses defined taken read

/-- A capital sigma at the end of a name is lowercased by a rule that looks at its neighbours: it is
the same one in all three places. -/
theorem names_agree_sigma :
    IsWord "Bus_ΔΟΣ".toList ∧ IsWord "BUS_ΔΟΣ".toList ∧ IsWord "bus_ΔΟΣ".toList ∧
    lowercase "bus_ΔΟΣ" ∉ ["and", "or", "not", "xor", "nand", "nor", "buf"] ∧
    ∃ name,
      SourceFile.ofPath? (Path.join "rtl" ("Bus_ΔΟΣ" ++ "." ++ Language.vhdl.extension)) =
        some { path := Path.join "rtl" ("Bus_ΔΟΣ" ++ "." ++ Language.vhdl.extension),
               moduleName := name } ∧
      splitTestbenches "BUS_ΔΟΣ" = [name] ∧
      ∀ capture line, (Language.vhdl = .vhdl → capture = .entity) →
        InstanceLine "bus_ΔΟΣ" Language.vhdl.family line →
        Dialect.instances { language := .vhdl, capture := capture } line = [name] := by
  have defines : IsWord "Bus_ΔΟΣ".toList := isWord_iff.mpr (by decide +kernel)
  have tests : IsWord "BUS_ΔΟΣ".toList := isWord_iff.mpr (by decide +kernel)
  have uses : IsWord "bus_ΔΟΣ".toList := isWord_iff.mpr (by decide +kernel)
  have defined :
      lowercase "bus_ΔΟΣ" ∉ ["and", "or", "not", "xor", "nand", "nor", "buf"] := by
    decide +kernel
  exact ⟨defines, tests, uses, defined,
    names_agree defines tests uses (by decide +kernel) (by decide +kernel) defined "rtl" .vhdl⟩

end HdlClosure
