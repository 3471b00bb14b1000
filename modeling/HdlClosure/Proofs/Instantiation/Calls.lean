import HdlClosure.Proofs.Instantiation.Grammar
import HdlClosure.Proofs.Text.Lines

namespace HdlClosure

open Text

section Trimmed

theorem stopsAt_of_append {kind : Char → Bool} {text rest : List Char}
    (stops : StopsAt kind (text ++ rest)) : StopsAt kind text := by
  intro c head
  exact stops c (by simp [List.head?_append, head])

theorem stopsAt_trim (text : List Char) : StopsAt isBlank (trim text) := by
  obtain ⟨blanks, _, split⟩ := exists_trimStart (trimStart text).reverse
  have kept : trimStart text = trim text ++ blanks.reverse := by
    rw [← List.reverse_reverse (trimStart text), split, List.reverse_append]
    rfl
  have stops : StopsAt isBlank (trimStart text) := stopsAt_dropWhile isBlank text
  rw [kept] at stops
  exact stopsAt_of_append stops

theorem eq_nil_of_stopsAt {blanks rest : List Char} (areBlank : Blanks blanks)
    (stops : StopsAt isBlank (blanks ++ rest)) : blanks = [] := by
  cases blanks with
  | nil => rfl
  | cons c blanks =>
    have visible := stops c rfl
    rw [areBlank c (by simp)] at visible
    cases visible

end Trimmed

/-- A line that begins `type name (`, from its first character on. It stands for the module of that
type in lowercase, unless this is a gate. -/
inductive Calls : List Char → String → Prop where
  | of {type between name after : List Char} (rest : List Char) (typed : IsWord type)
    (apart : between ≠ []) (spaced : Blanks between) (named : IsWord name) (opened : Blanks after)
    (defined : String.ofList (lower type) ∉ ["and", "or", "not", "xor", "nand", "nor", "buf"]) :
    Calls (type ++ (between ++ (name ++ (after ++ '(' :: rest)))) (String.ofList (lower type))

/-- On a line without leading blanks, calls are the call lines. -/
theorem calls_iff {text : List Char} {name : String} (trimmed : StopsAt isBlank text) :
    Calls text name ↔ name ∉ primitives ∧
      ∃ type, CallLine text type ∧ name = String.ofList (lower type) := by
  constructor
  · intro call
    cases call with
    | @of type between label after rest typed apart spaced named opened defined =>
      exact ⟨defined, type, .of rest blanks_nil typed apart spaced named opened, rfl⟩
  · intro given
    obtain ⟨defined, type, line, rfl⟩ := given
    obtain ⟨rest, indented, typed, apart, spaced, named, opened⟩ := line
    obtain rfl := eq_nil_of_stopsAt indented trimmed
    exact .of rest typed apart spaced named opened defined

/-- A call begins with a word, so that it is neither an empty line nor a comment. -/
theorem code_of_calls {text : List Char} {name : String} (call : Calls text name) :
    text ≠ [] ∧ ¬ "//".toList <+: text := by
  cases call with
  | @of type between label after rest typed =>
    obtain ⟨visible, inside⟩ := typed
    cases type with
    | nil => exact absurd rfl visible
    | cons c type =>
      refine ⟨List.cons_ne_nil _ _, fun comment => ?_⟩
      have slash : '/' = c := (List.cons_prefix_cons.mp comment).1
      have letter := inside c (by simp)
      rw [← slash] at letter
      exact absurd letter (by decide +kernel)

namespace Dialect

variable {dialect : Dialect}

theorem instanceOf?_eq_some_iff_calls
    (language : dialect.language = .verilog ∨ dialect.language = .systemVerilog)
    (line : List Char) (name : String) :
    dialect.instanceOf? line = some name ↔ Calls (trim line) name := by
  have marker : dialect.language.commentMarker = "//" := by
    rcases language with same | same <;> rw [same] <;> rfl
  have shape (text word : List Char) : dialect.Matches text word ↔ CallLine text word := by
    rcases language with same | same <;> rw [Matches, same] <;> rfl
  have call : Calls (trim line) name ↔ _ := calls_iff (stopsAt_trim line)
  rw [instanceOf?_eq_some_iff, LineInstantiates, marker]
  simp only [shape]
  constructor
  · intro given
    obtain ⟨_, _, spelled⟩ := given
    exact call.mpr spelled
  · intro given
    obtain ⟨visible, plain⟩ := code_of_calls given
    exact ⟨visible, plain, call.mp given⟩

/-- A source in one of the two languages is read line by line, without the blanks around a line:
every line that is a call gives its name, and no other line gives anything. -/
theorem instances_eq_iff_calls
    (language : dialect.language = .verilog ∨ dialect.language = .systemVerilog)
    (source : String) (names : List String) :
    dialect.instances source = names ↔ ∃ lines, HasLines source.toList lines ∧
      ReadsOff (fun line name => Calls (trim line) name) lines names := by
  simp only [hasLines_iff, exists_eq_left']
  exact (readsOff_iff (instanceOf?_eq_some_iff_calls language)).symm

/-- A comment, a blank line, a gate in capitals and an instance with parameters give nothing; a lone
carriage return separates words, and the last sigma of a word has a form of its own. -/
theorem reads_calls_only :
    ∃ lines, HasLines ("  Mux2 m0 (.a(a));\r\n// mux2 m1 (\n \nNAND g (y);\n" ++
        "fifo #(.W(8)) f0 ();\nΔΟΣ\ru1\u00a0(\nmux2 m2(").toList lines ∧
      ReadsOff (fun line name => Calls (trim line) name) lines ["mux2", "δος", "mux2"] := by
  have language : Dialect.language { language := .verilog } = .verilog := rfl
  exact (instances_eq_iff_calls (.inl language) _ _).mp (by decide +kernel)

end Dialect

end HdlClosure
