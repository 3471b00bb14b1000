import HdlClosure.Proofs.Text.Runs
import HdlClosure.Text.Blank
import Mathlib.Data.List.Basic

namespace HdlClosure.Text

theorem words_of_visible {text : List Char} (some : text ≠ [])
    (visible : ∀ c ∈ text, isBlank c = false) : words text = [text] := by
  rw [words, List.splitOnP_eq_singleton visible]
  simp [some]

/-- No piece holds a character that was split at. -/
theorem not_of_mem_splitOnP {kind : Char → Bool} {text piece : List Char}
    (member : piece ∈ text.splitOnP kind) : ∀ c ∈ piece, kind c = false := by
  induction text generalizing piece with
  | nil =>
    rw [List.splitOnP_nil, List.mem_singleton] at member
    simp [member]
  | cons d text ih =>
    rw [List.splitOnP_cons_eq_if_modifyHead] at member
    split at member
    case isTrue =>
      rcases List.mem_cons.mp member with rfl | later
      · exact fun _ inside => nomatch inside
      · exact ih later
    case isFalse other =>
      obtain ⟨first, others, split⟩ :=
        List.exists_cons_of_ne_nil (List.splitOnP_ne_nil kind text)
      rw [split, List.modifyHead_cons] at member
      rw [split] at ih
      rcases List.mem_cons.mp member with rfl | later
      · exact List.forall_mem_cons.mpr ⟨by simpa using other, ih List.mem_cons_self⟩
      · exact ih (List.mem_cons_of_mem first later)

theorem visible_of_mem_words {text word : List Char} (member : word ∈ words text) :
    word ≠ [] ∧ ∀ c ∈ word, isBlank c = false := by
  obtain ⟨piece, some⟩ := List.mem_filter.mp member
  exact ⟨by simpa using some, not_of_mem_splitOnP piece⟩

theorem words_ne_nil {text : List Char} {c : Char} (member : c ∈ text)
    (visible : isBlank c = false) : words text ≠ [] := by
  induction text with
  | nil => cases member
  | cons d text ih =>
    by_cases blank : isBlank d = true
    · have later : c ∈ text := by
        rcases List.mem_cons.mp member with rfl | later
        · rw [blank] at visible
          cases visible
        · exact later
      have split := words_append_cons blank [] text
      rw [List.nil_append, words_nil, List.nil_append] at split
      rw [split]
      exact ih later
    · obtain ⟨first, others, split⟩ :=
        List.exists_cons_of_ne_nil (List.splitOnP_ne_nil isBlank text)
      rw [words, List.splitOnP_cons_eq_if_modifyHead, if_neg blank, split, List.modifyHead_cons]
      simp

section Split

def isVisible (c : Char) : Bool := !isBlank c

theorem isVisible_iff {c : Char} : isVisible c = true ↔ isBlank c = false := by
  rw [isVisible, Bool.not_eq_true']

/-- A text and its words. White space is passed over, and a word goes on up to the next white space
or to the end. -/
inductive HasWords : List Char → List (List Char) → Prop where
  | none {blanks : List Char} (areBlank : ∀ c ∈ blanks, isBlank c = true) : HasWords blanks []
  | more {blanks word rest : List Char} {following : List (List Char)}
    (areBlank : ∀ c ∈ blanks, isBlank c = true) (some : word ≠ [])
    (visible : ∀ c ∈ word, isBlank c = false) (ends : StopsAt isVisible rest)
    (after : HasWords rest following) : HasWords (blanks ++ (word ++ rest)) (word :: following)

theorem words_blanks_append {blanks : List Char} (areBlank : ∀ c ∈ blanks, isBlank c = true)
    (text : List Char) : words (blanks ++ text) = words text := by
  induction blanks with
  | nil => rfl
  | cons c rest ih =>
    obtain ⟨blank, others⟩ := List.forall_mem_cons.mp areBlank
    have split := words_append_cons blank [] (rest ++ text)
    rw [List.nil_append, words_nil, List.nil_append] at split
    rw [List.cons_append, split, ih others]

/-- The words before white space and those after it. -/
theorem words_append_blanks {gap : List Char} (apart : gap ≠ [])
    (areBlank : ∀ c ∈ gap, isBlank c = true) (before after : List Char) :
    words (before ++ (gap ++ after)) = words before ++ words after := by
  obtain ⟨c, blanks, rfl⟩ := List.exists_cons_of_ne_nil apart
  obtain ⟨blank, others⟩ := List.forall_mem_cons.mp areBlank
  rw [List.cons_append, words_append_cons blank, words_blanks_append others]

theorem words_of_blank {blanks : List Char} (areBlank : ∀ c ∈ blanks, isBlank c = true) :
    words blanks = [] := by
  rw [← List.append_nil blanks, words_blanks_append areBlank, words_nil]

theorem words_append_of_stopsAt {word rest : List Char} (some : word ≠ [])
    (visible : ∀ c ∈ word, isBlank c = false) (ends : StopsAt isVisible rest) :
    words (word ++ rest) = word :: words rest := by
  cases rest with
  | nil => rw [List.append_nil, words_of_visible some visible, words_nil]
  | cons c rest =>
    have blank : isBlank c = true := by simpa [isVisible] using ends c rfl
    have later : words (c :: rest) = words rest :=
      words_blanks_append (List.forall_mem_singleton.mpr blank) rest
    rw [words_append_cons blank, words_of_visible some visible, later, List.singleton_append]

theorem hasWords_words (text : List Char) : HasWords text (words text) := by
  have split : text.takeWhile isBlank ++ text.dropWhile isBlank = text :=
    List.takeWhile_append_dropWhile
  have areBlank : ∀ c ∈ text.takeWhile isBlank, isBlank c = true := fun _ => List.mem_takeWhile_imp
  cases start : text.dropWhile isBlank with
  | nil =>
    rw [start, List.append_nil] at split
    rw [split] at areBlank
    rw [words_of_blank areBlank]
    exact .none areBlank
  | cons c rest =>
    have begins : (text.dropWhile isBlank).head? = some c := by rw [start, List.head?_cons]
    have visible : isVisible c = true := isVisible_iff.mpr (stopsAt_dropWhile isBlank text c begins)
    let word := (c :: rest).takeWhile isVisible
    have some : word ≠ [] := by simp [word, visible]
    have shown : ∀ d ∈ word, isBlank d = false :=
      fun _ member => isVisible_iff.mp (List.mem_takeWhile_imp member)
    have ends := stopsAt_dropWhile isVisible (c :: rest)
    have whole : word ++ (c :: rest).dropWhile isVisible = c :: rest :=
      List.takeWhile_append_dropWhile
    have after := hasWords_words ((c :: rest).dropWhile isVisible)
    rw [start, ← whole] at split
    rw [← split, words_blanks_append areBlank, words_append_of_stopsAt some shown ends]
    exact .more areBlank some shown ends after
termination_by text.length
decreasing_by
  have dropped := (List.dropWhile_sublist isBlank (l := text)).length_le
  rw [start, List.length_cons] at dropped
  have further := (List.dropWhile_sublist isVisible (l := rest)).length_le
  rw [List.dropWhile_cons_of_pos visible]
  omega

theorem hasWords_iff {text : List Char} {listed : List (List Char)} :
    HasWords text listed ↔ words text = listed := by
  constructor
  · intro split
    induction split with
    | none areBlank => exact words_of_blank areBlank
    | more areBlank some visible ends _ ih =>
      rw [words_blanks_append areBlank, words_append_of_stopsAt some visible ends, ih]
  · rintro rfl
    exact hasWords_words text

theorem words_eq_nil_iff {text : List Char} :
    words text = [] ↔ ∀ c ∈ text, isBlank c = true := by
  refine ⟨fun none c member => ?_, words_of_blank⟩
  by_contra other
  exact words_ne_nil member (Bool.eq_false_iff.mpr other) none

end Split

end HdlClosure.Text
