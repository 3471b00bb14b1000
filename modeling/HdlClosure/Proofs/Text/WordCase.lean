import HdlClosure.Proofs.Text.Lowercase
import HdlClosure.Proofs.Text.Words

/-! Lowercasing word by word. The rule for the final sigma looks past some characters, but never
past white space: what a word becomes depends on no other word. -/
namespace HdlClosure.Text

/-- Everything that lowercasing looks at in a white space character. -/
theorem looks_of_isBlank {c : Char} (blank : isBlank c = true) :
    isCased c = false ∧ isCaseIgnorable c = false ∧ IsLower c :=
  of_isBlank blank (by decide +kernel)

variable {c : Char} (blank : isBlank c = true)

include blank

/-- White space ends the look at the neighbours as the end of the text does. -/
theorem meetsCased_append_cons (near far : List Char) :
    meetsCased (near ++ c :: far) = meetsCased near := by
  obtain ⟨caseless, counts, _⟩ := looks_of_isBlank blank
  induction near with
  | nil => simp [meetsCased, caseless, counts]
  | cons d near ih =>
    cases passed : isCaseIgnorable d with
    | true => simpa [meetsCased, passed] using ih
    | false => simp [meetsCased, passed]

theorem lowerFrom_append_cons (near far text : List Char) :
    lowerFrom (near ++ c :: far) text = lowerFrom near text := by
  induction text generalizing near with
  | nil => rfl
  | cons d text ih =>
    rw [lowerFrom, lowerFrom, lowerSigma, meetsCased_append_cons blank, ← lowerSigma,
      ← List.cons_append, ih]

/-- White space cuts a text in two that are lowercased apart. -/
theorem lowerFrom_cut (before text rest : List Char) :
    lowerFrom before (text ++ c :: rest) = lowerFrom before text ++ c :: lower rest := by
  induction text generalizing before with
  | nil =>
    obtain ⟨_, _, plain, own⟩ := looks_of_isBlank blank
    have apart := lowerFrom_append_cons blank [] before rest
    rw [List.nil_append] at apart
    change lowerFrom before (c :: rest) = c :: lower rest
    rw [lowerFrom, if_neg plain, own, apart]
    rfl
  | cons d text ih =>
    rw [List.cons_append, lowerFrom, lowerFrom, lowerSigma, meetsCased_append_cons blank,
      ← lowerSigma, ih, List.append_assoc]

theorem lower_append_cons (text rest : List Char) :
    lower (text ++ c :: rest) = lower text ++ c :: lower rest :=
  lowerFrom_cut blank [] text rest

omit blank

theorem lower_blanks_append {blanks : List Char} (areBlank : ∀ c ∈ blanks, isBlank c = true)
    (text : List Char) : lower (blanks ++ text) = blanks ++ lower text := by
  induction blanks with
  | nil => rfl
  | cons c blanks ih =>
    obtain ⟨blank, others⟩ := List.forall_mem_cons.mp areBlank
    have cut := lower_append_cons blank [] (blanks ++ text)
    rw [List.cons_append, List.cons_append, ← ih others]
    exact cut

theorem lower_append_of_stopsAt {rest : List Char} (word : List Char)
    (ends : StopsAt isVisible rest) :
    lower (word ++ rest) = lower word ++ lower rest ∧ StopsAt isVisible (lower rest) := by
  cases rest with
  | nil => exact ⟨by simp [lower, lowerFrom], ends⟩
  | cons c rest =>
    have blank : isBlank c = true := by simpa [isVisible] using ends c rfl
    have first := lower_append_cons blank [] rest
    rw [List.nil_append] at first
    rw [lower_append_cons blank, first]
    exact ⟨rfl, stopsAt_cons (ends c rfl) (lower rest)⟩

theorem hasWords_lower {text : List Char} {listed : List (List Char)}
    (split : HasWords text listed) : HasWords (lower text) (listed.map lower) := by
  induction split with
  | @none blanks areBlank =>
    have same := lower_blanks_append areBlank []
    rw [List.append_nil] at same
    rw [same]
    exact .none (by simpa [lower, lowerFrom] using areBlank)
  | @more blanks word rest following areBlank some visible ends _ ih =>
    obtain ⟨cut, endsLower⟩ := lower_append_of_stopsAt word ends
    rw [lower_blanks_append areBlank, cut]
    exact .more areBlank (mt lower_eq_nil_iff.mp some) (visible_lower visible) endsLower ih

theorem words_lower (text : List Char) : words (lower text) = (words text).map lower :=
  hasWords_iff.mp (hasWords_lower (hasWords_words text))

end HdlClosure.Text
