import HdlClosure.Json.Printer
import HdlClosure.Proofs.Json.Grammar
import Mathlib.Data.List.Forall2

namespace HdlClosure.Json

section Strings

/-- Two digits spell a code below the space. -/
theorem unit?_hexDigits : ∀ code < 0x20,
    unit? ['0', '0', hexDigit (code / 16), hexDigit (code % 16)] = some code := by
  decide

theorem charText_quoteChar (c : Char) : CharText c (quoteChar c) := by
  unfold quoteChar
  split
  · exact .named rfl
  · exact .named rfl
  · exact .named rfl
  · exact .named rfl
  · exact .named rfl
  · exact .named rfl
  · exact .named rfl
  · rename_i quote escape _ _ _ _ _
    by_cases low : c.toNat < 0x20
    · rw [if_pos low]
      exact .coded (unit?_hexDigits c.toNat low)
    · rw [if_neg low]
      exact .plain (Nat.le_of_not_lt low) quote escape

theorem chars_flatMap (text : List Char) : Chars text (text.flatMap quoteChar) := by
  induction text with
  | nil => exact .nil
  | cons c text ih => exact .cons (charText_quoteChar c) ih

theorem quoted_quoted (text : String) : Quoted text (quoted text) :=
  .of (chars_flatMap text.toList)

end Strings

section Numbers

theorem head?_toDigits (number : Nat) (zero : (Nat.toDigits 10 number).head? = some '0') :
    Nat.toDigits 10 number = ['0'] := by
  induction number using Nat.strongRecOn with
  | _ number ih =>
    by_cases single : number < 10
    · rw [Nat.toDigits_of_lt_base single] at zero ⊢
      simpa using zero
    · have split := Nat.toDigits_of_base_le (by decide) (Nat.le_of_not_lt single)
      rw [split, List.head?_append_of_ne_nil _ Nat.toDigits_ne_nil] at zero
      have lone := ih (number / 10) (by omega) zero
      have value := congrArg (Nat.ofDigitChars 10 · 0) lone
      simp only [Nat.ofDigitChars_ten_toDigits] at value
      have positive : 0 < number / 10 := by omega
      rw [value] at positive
      exact absurd positive (by decide)

theorem numberText_toDigits (number : Nat) : NumberText (Nat.toDigits 10 number) := by
  have counted : Digits (Nat.toDigits 10 number) :=
    ⟨Nat.toDigits_ne_nil, fun _ member =>
      Nat.isDigit_of_mem_toDigits (by decide) (by decide) member⟩
  simpa using NumberText.of (.inl rfl) counted (head?_toDigits number) (.inl rfl) (.inl rfl)

end Numbers

mutual

/-- What a document of the program stands for. -/
def value : Json → Value
  | .text content => .text content
  | .number amount => .number (Nat.toDigits 10 amount)
  | .list items => .list (values items)
  | .fields members => .fields (namedValues members)

def values : List Json → List Value
  | [] => []
  | item :: rest => value item :: values rest

def namedValues : List (String × Json) → List (String × Value)
  | [] => []
  | (name, item) :: rest => (name, value item) :: namedValues rest

end

theorem values_eq_map (items : List Json) : values items = items.map value := by
  induction items with
  | nil => rfl
  | cons item rest ih => rw [values, ih, List.map_cons]

theorem namedValues_eq_map (members : List (String × Json)) :
    namedValues members = members.map fun member => (member.1, value member.2) := by
  induction members with
  | nil => rfl
  | cons member rest ih => rw [namedValues, ih, List.map_cons]

section Layout

theorem gap_newLine (level : Nat) : Gap (newLine level) := by
  intro c member
  rcases List.mem_cons.mp member with rfl | space
  · rfl
  · rw [List.eq_of_mem_replicate space]
    rfl

theorem gap_nil : Gap [] := fun _ member => nomatch member

variable {α : Type} {one : α → List Char → Prop}

theorem listed_intercalate {items : List α} {texts : List (List Char)} (level lower : Nat)
    (written : List.Forall₂ one items texts) (some : texts ≠ []) :
    Listed one items
      (newLine level ++ (',' :: newLine level).intercalate texts ++ newLine lower) := by
  induction written with
  | nil => exact absurd rfl some
  | @cons item text items texts first others ih =>
    cases others with
    | nil =>
      rw [List.intercalate_singleton, List.append_assoc]
      exact .last (gap_newLine level) first (gap_newLine lower)
    | cons second others =>
      have tail := ih (List.cons_ne_nil _ _)
      have listed := Listed.more (gap_newLine level) first gap_nil tail
      simpa [List.intercalate_cons_cons] using listed

end Layout

mutual

theorem written_print (level : Nat) :
    (document : Json) → Written (value document) (print level document)
  | .text content => .text (quoted_quoted content)
  | .number amount => .number (numberText_toDigits amount)
  | .list items => by
    have texts := written_printItems (level + 1) items
    rw [value, print, bracketed]
    cases printed : printItems (level + 1) items with
    | nil =>
      rw [printed, List.forall₂_nil_right_iff] at texts
      rw [texts]
      exact .emptyList gap_nil
    | cons text rest =>
      rw [printed] at texts
      have listed := listed_intercalate (level + 1) level texts (List.cons_ne_nil _ _)
      simpa using Written.list listed
  | .fields members => by
    have texts := written_printMembers (level + 1) members
    rw [value, print, bracketed]
    cases printed : printMembers (level + 1) members with
    | nil =>
      rw [printed, List.forall₂_nil_right_iff] at texts
      rw [texts]
      exact .noFields gap_nil
    | cons text rest =>
      rw [printed] at texts
      have listed := listed_intercalate (level + 1) level texts (List.cons_ne_nil _ _)
      simpa using Written.fields listed

theorem written_printItems (level : Nat) :
    (items : List Json) → List.Forall₂ Written (values items) (printItems level items)
  | [] => .nil
  | item :: rest => .cons (written_print level item) (written_printItems level rest)

theorem written_printMembers (level : Nat) : (members : List (String × Json)) →
    List.Forall₂ (Named Written) (namedValues members) (printMembers level members)
  | [] => .nil
  | (name, item) :: rest => by
    have space : Gap [' '] := by
      intro c member
      rw [List.mem_singleton.mp member]
      rfl
    have named := Named.of (quoted_quoted name) gap_nil space (written_print level item)
    refine .cons ?_ (written_printMembers level rest)
    simpa using named

end

theorem document_render (document : Json) : Document (value document) document.render.toList := by
  have written := Document.of gap_nil (written_print 0 document) gap_nil
  simpa [render] using written

end HdlClosure.Json
