import HdlClosure.Proofs.Text.WordCase
import HdlClosure.Settings

namespace HdlClosure

open Text

section Names

theorem splitTestbenches_of_visible {text : String} (some : text.toList ≠ [])
    (visible : ∀ c ∈ text.toList, isBlank c = false) :
    splitTestbenches text = [lowercase text] := by
  rw [splitTestbenches, words_of_visible some visible]
  rfl

theorem splitTestbenches_of_small {name : String} (some : name ≠ "")
    (visible : ∀ c ∈ name.toList, isBlank c = false) (small : lowercase name = name) :
    splitTestbenches name = [name] := by
  have inside : name.toList ≠ [] := mt String.toList_eq_nil_iff.mp some
  rw [splitTestbenches_of_visible inside visible, small]

theorem small_of_mem_splitTestbenches {text name : String}
    (member : name ∈ splitTestbenches text) :
    name ≠ "" ∧ (∀ c ∈ name.toList, isBlank c = false) ∧ lowercase name = name := by
  obtain ⟨word, piece, rfl⟩ := List.mem_map.mp member
  obtain ⟨some, visible⟩ := visible_of_mem_words piece
  rw [lowercase, String.toList_ofList, lower_lower]
  refine ⟨fun empty => some (lower_eq_nil_iff.mp ?_), visible_lower visible, rfl⟩
  have letters := congrArg String.toList empty
  rwa [String.toList_ofList, String.toList_empty] at letters

end Names

section Texts

theorem splitTestbenches_append {gap : String} (apart : gap ≠ "")
    (blank : ∀ c ∈ gap.toList, isBlank c = true) (first second : String) :
    splitTestbenches (first ++ gap ++ second) =
      splitTestbenches first ++ splitTestbenches second := by
  have inside : gap.toList ≠ [] := mt String.toList_eq_nil_iff.mp apart
  rw [splitTestbenches, String.toList_append, String.toList_append, List.append_assoc,
    words_append_blanks inside blank, List.map_append]
  rfl

theorem splitTestbenches_lowercase (text : String) :
    splitTestbenches (lowercase text) = splitTestbenches text := by
  rw [splitTestbenches, lowercase, String.toList_ofList, words_lower, List.map_map]
  exact List.map_congr_left fun word _ => congrArg String.ofList (lower_lower word)

/-- Names in a row, with white space between any two of them. -/
inductive Spaced : List String → String → Prop where
  | none : Spaced [] ""
  | last (name : String) : Spaced [name] name
  | more {next gap text : String} {names : List String} (name : String) (apart : gap ≠ "")
    (blank : ∀ c ∈ gap.toList, isBlank c = true) (others : Spaced (next :: names) text) :
    Spaced (name :: next :: names) (name ++ gap ++ text)

theorem spaced_intercalate {gap : String} (apart : gap ≠ "")
    (blank : ∀ c ∈ gap.toList, isBlank c = true) (names : List String) :
    Spaced names (gap.intercalate names) := by
  induction names with
  | nil => exact .none
  | cons name names ih =>
    cases names with
    | nil =>
      rw [String.intercalate_singleton]
      exact .last name
    | cons next names =>
      rw [String.intercalate_cons_cons]
      exact .more name apart blank ih

theorem splitTestbenches_of_spaced {names : List String} {text : String}
    (spaced : Spaced names text) (alone : ∀ name ∈ names, splitTestbenches name = [name]) :
    splitTestbenches text = names := by
  induction spaced with
  | none => rw [splitTestbenches, String.toList_empty, words_nil, List.map_nil]
  | last name => exact alone name List.mem_cons_self
  | more name apart blank _ ih =>
    obtain ⟨first, others⟩ := List.forall_mem_cons.mp alone
    rw [splitTestbenches_append apart blank, first, ih others, List.singleton_append]

end Texts

/-- Splitting a text yields a normal form. White space cuts the text in two that are split apart;
the names are not empty, free of white space and in lowercase; joined by white space of any kind
they are split into themselves; and the text may as well be lowercased before. -/
theorem splitTestbenches_normal_form (first second : String) {gap : String} (apart : gap ≠ "")
    (blank : ∀ c ∈ gap.toList, isBlank c = true) :
    splitTestbenches (first ++ gap ++ second) =
        splitTestbenches first ++ splitTestbenches second ∧
      (∀ name ∈ splitTestbenches first,
        name ≠ "" ∧ (∀ c ∈ name.toList, isBlank c = false) ∧ lowercase name = name) ∧
      splitTestbenches (gap.intercalate (splitTestbenches first)) = splitTestbenches first ∧
      (∀ text, Spaced (splitTestbenches first) text →
        splitTestbenches text = splitTestbenches first) ∧
      splitTestbenches (lowercase first) = splitTestbenches first := by
  have alone : ∀ name ∈ splitTestbenches first, splitTestbenches name = [name] := by
    intro name member
    obtain ⟨some, visible, small⟩ := small_of_mem_splitTestbenches member
    exact splitTestbenches_of_small some visible small
  have joined {text : String} (spaced : Spaced (splitTestbenches first) text) :
      splitTestbenches text = splitTestbenches first :=
    splitTestbenches_of_spaced spaced alone
  exact ⟨splitTestbenches_append apart blank first second,
    fun _ => small_of_mem_splitTestbenches, joined (spaced_intercalate apart blank _),
    fun _ => joined, splitTestbenches_lowercase first⟩

/-- The gap is a wide space and a line feed. The sigma before it is final, and no other. -/
theorem splitTestbenches_normal_form_sigma :
    let first := "\tΟΔΟΣ Top"
    let gap := "\u3000\n"
    gap ≠ "" ∧ (∀ c ∈ gap.toList, isBlank c = true) ∧
      splitTestbenches (first ++ gap ++ "Σ_tb") =
        splitTestbenches first ++ splitTestbenches "Σ_tb" ∧
      splitTestbenches (gap.intercalate (splitTestbenches first)) = splitTestbenches first ∧
      splitTestbenches (lowercase first) = splitTestbenches first ∧
      splitTestbenches first = ["οδος", "top"] ∧ splitTestbenches "Σ_tb" = ["σ_tb"] := by
  intro first gap
  have apart : gap ≠ "" := by decide
  have blank : ∀ c ∈ gap.toList, isBlank c = true := List.all_eq_true.mp (by decide)
  obtain ⟨cut, _, joined, _, lowered⟩ := splitTestbenches_normal_form first "Σ_tb" apart blank
  exact ⟨apart, blank, cut, joined, lowered, by decide +kernel, by decide +kernel⟩

namespace Settings

/-- Testbenches as a run names them: there is one at least, and each is a name in lowercase without
white space. -/
structure Canonical (testbenches : List String) : Prop where
  some : testbenches ≠ []
  visible : ∀ name ∈ testbenches, name ≠ "" ∧ ∀ c ∈ name.toList, isBlank c = false
  small : ∀ name ∈ testbenches, lowercase name = name

/-- Splitting once more changes nothing. -/
theorem flatMap_splitTestbenches {testbenches : List String} (canonical : Canonical testbenches) :
    testbenches.flatMap splitTestbenches = testbenches := by
  have each : ∀ name ∈ testbenches, splitTestbenches name = [name] := by
    intro name member
    obtain ⟨some, visible⟩ := canonical.visible name member
    exact splitTestbenches_of_small some visible (canonical.small name member)
  rw [List.flatMap_congr each, List.flatMap_singleton']

theorem canonical_of_split {testbenches : List String} (some : testbenches ≠ [])
    (split : ∀ name ∈ testbenches, ∃ text, name ∈ splitTestbenches text) :
    Canonical testbenches := by
  have spelled : ∀ name ∈ testbenches,
      name ≠ "" ∧ (∀ c ∈ name.toList, isBlank c = false) ∧ lowercase name = name := by
    intro name member
    obtain ⟨text, inside⟩ := split name member
    exact small_of_mem_splitTestbenches inside
  refine ⟨some, fun name member => ?_, fun name member => (spelled name member).2.2⟩
  obtain ⟨given, visible, _⟩ := spelled name member
  exact ⟨given, visible⟩

theorem canonical_ofText (language : Language) {text : String} (hdlDir simDir : String)
    {c : Char} (member : c ∈ text.toList) (visible : isBlank c = false) :
    Canonical (ofText language text hdlDir simDir).testbenches := by
  refine canonical_of_split ?_ fun name inside => ⟨text, inside⟩
  rw [ofText, splitTestbenches]
  exact mt List.map_eq_nil_iff.mp (words_ne_nil member visible)

end Settings

end HdlClosure
