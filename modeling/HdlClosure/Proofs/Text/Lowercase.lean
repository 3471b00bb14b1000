import HdlClosure.Proofs.Text.CodeBits
import HdlClosure.Text.Blank
import HdlClosure.Text.Lowercase
import HdlClosure.Text.WordChar
import Mathlib.Data.List.TakeWhile

namespace HdlClosure.Text

section Codes

/-- A code point is its own lowercase, or the first run that spans it sends it to a target. -/
theorem lowerCodeIn_cases (runs : List CaseRun) (code : Nat) :
    lowerCodeIn runs code = code ∨ ∃ run ∈ runs, ∃ more, code = run.first + more ∧
      code ≤ run.last ∧ more % run.step = 0 ∧ lowerCodeIn runs code = run.target + more := by
  induction runs with
  | nil => exact .inl rfl
  | cons run rest ih =>
    unfold lowerCodeIn
    by_cases past : code < run.first
    · exact .inl (if_pos past)
    · rw [if_neg past]
      by_cases spanned : code ≤ run.last ∧ (code - run.first) % run.step = 0
      · rw [if_pos spanned]
        exact .inr ⟨run, by simp, code - run.first, by omega, spanned.1, spanned.2, rfl⟩
      · rw [if_neg spanned]
        rcases ih with own | ⟨other, member, more, same, inside, stride, target⟩
        · exact .inl own
        · exact .inr ⟨other, List.mem_cons_of_mem _ member, more, same, inside, stride, target⟩

theorem lowerCodeIn_of_unlisted {runs : List CaseRun} {code : Nat}
    (unlisted : (CaseRun.sources runs).testBit code = false) : lowerCodeIn runs code = code := by
  rcases lowerCodeIn_cases runs code with own | ⟨run, member, more, rfl, inside, stride, _⟩
  · exact own
  · rw [CaseRun.testBit_sources inside stride member] at unlisted
    cases unlisted

/-- The two letters that have rules of their own, and the surrogates, which are no characters. -/
def exceptions : Ranges :=
  [('İ'.toNat, 'İ'.toNat), ('Σ'.toNat, 'Σ'.toNat), (0xD800, 0xDFFF)]

theorem not_exception {code : Nat} (missed : exceptions.has code = false) :
    code ≠ 'İ'.toNat ∧ code ≠ 'Σ'.toNat ∧ ¬ (0xD800 ≤ code ∧ code ≤ 0xDFFF) := by
  have dotted : 'İ'.toNat = 0x130 := rfl
  have sigma : 'Σ'.toNat = 0x3A3 := rfl
  simp only [exceptions, Ranges.has, dotted, sigma] at missed ⊢
  split_ifs at missed <;> omega

/-- Runs lead to characters, neither white space nor exceptions nor letters of runs, and from word
characters to word characters. -/
theorem targets_plain : (caseRuns.all fun run =>
    run.avoids blankRanges.bits && run.avoids exceptions.bits &&
    run.avoids (CaseRun.sources caseRuns) && run.keeps wordRanges.bits &&
    Nat.blt (run.target + (run.last - run.first)) 0x110000) = true := by
  decide +kernel

theorem plain_of_target {run : CaseRun} (member : run ∈ caseRuns) {more : Nat}
    (inside : run.first + more ≤ run.last) (stride : more % run.step = 0) :
    let code := run.target + more
    code.isValidChar ∧ code ≠ 'Σ'.toNat ∧ code ≠ 'İ'.toNat ∧ blankRanges.has code = false ∧
      lowerCodeIn caseRuns code = code ∧
      (wordRanges.has (run.first + more) = true → wordRanges.has code = true) := by
  intro code
  have plain := List.all_eq_true.mp targets_plain run member
  simp only [Bool.and_eq_true, Nat.blt_eq] at plain
  obtain ⟨⟨⟨⟨visible, ruled⟩, fresh⟩, kept⟩, bound⟩ := plain
  have missed := CaseRun.testBit_of_avoids inside stride ruled
  rw [Ranges.testBit_bits] at missed
  obtain ⟨dotless, sigma, whole⟩ := not_exception missed
  refine ⟨?_, sigma, dotless, ?_, ?_, ?_⟩
  · unfold Nat.isValidChar
    omega
  · rw [← Ranges.testBit_bits, CaseRun.testBit_of_avoids inside stride visible]
  · exact lowerCodeIn_of_unlisted (CaseRun.testBit_of_avoids inside stride fresh)
  · rw [← Ranges.testBit_bits, ← Ranges.testBit_bits]
    exact CaseRun.testBit_of_keeps inside stride kept

end Codes

section Characters

theorem toNat_ofNat_of_valid {code : Nat} (valid : code.isValidChar) :
    (Char.ofNat code).toNat = code := by
  rw [Char.ofNat, dif_pos valid]
  rfl

/-- A character that lowercasing leaves alone wherever it stands. -/
def IsLower (c : Char) : Prop := c ≠ 'Σ' ∧ lowerChar c = [c]

instance (c : Char) : Decidable (IsLower c) := by unfold IsLower; infer_instance

/-- The small letters that the rules for single characters write. -/
theorem small_of_ruled {c : Char} (ruled : c ∈ ['i', '\u0307', 'ς', 'σ']) :
    IsLower c ∧ isBlank c = false ∧ isWordChar c = true := by
  have small : (['i', '\u0307', 'ς', 'σ'].all fun c =>
      decide (IsLower c) && !isBlank c && isWordChar c) = true := by
    decide +kernel
  simpa [and_assoc] using List.all_eq_true.mp small c ruled

/-- A character is its own lowercase, or its lowercase is lower, no white space, and part of a word
if the character is. -/
theorem lowerChar_cases (c : Char) :
    lowerChar c = [c] ∨ ∀ d ∈ lowerChar c,
      IsLower d ∧ isBlank d = false ∧ (isWordChar c = true → isWordChar d = true) := by
  by_cases dotted : c = 'İ'
  · subst dotted
    refine .inr fun d made => ?_
    have ruled : d ∈ ['i', '\u0307', 'ς', 'σ'] := by
      rw [lowerChar, if_pos rfl] at made
      exact List.mem_append_left ['ς', 'σ'] made
    obtain ⟨small, visible, word⟩ := small_of_ruled ruled
    exact ⟨small, visible, fun _ => word⟩
  · rw [lowerChar, if_neg dotted]
    rcases lowerCodeIn_cases caseRuns c.toNat with
      own | ⟨run, member, more, same, inside, stride, sent⟩
    · exact .inl (by rw [own, Char.ofNat_toNat])
    · rw [same] at inside
      -- The run that spans the character sends it to a target, and targets are plain.
      obtain ⟨valid, sigma, dotless, visible, own, word⟩ := plain_of_target member inside stride
      have code := toNat_ofNat_of_valid valid
      have other {d : Char} (apart : run.target + more ≠ d.toNat) :
          Char.ofNat (run.target + more) ≠ d := by
        rintro rfl
        exact apart code.symm
      refine .inr fun d made => ?_
      rw [sent, List.mem_singleton] at made
      subst made
      refine ⟨⟨other sigma, ?_⟩, ?_, ?_⟩
      · rw [lowerChar, if_neg (other dotless), code, own]
      · rw [isBlank, code, visible]
      · rw [isWordChar, isWordChar, code, same]
        exact word

theorem isLower_of_mem_lowerChar {c d : Char} (plain : c ≠ 'Σ') (member : d ∈ lowerChar c) :
    IsLower d := by
  rcases lowerChar_cases c with own | lowered
  · rw [own, List.mem_singleton] at member
    subst member
    exact ⟨plain, own⟩
  · exact (lowered d member).1

theorem isBlank_of_mem_lowerChar {c d : Char} (visible : isBlank c = false)
    (member : d ∈ lowerChar c) : isBlank d = false := by
  rcases lowerChar_cases c with own | lowered
  · rw [own, List.mem_singleton] at member
    subst member
    exact visible
  · exact (lowered d member).2.1

theorem isWordChar_of_mem_lowerChar {c d : Char} (word : isWordChar c = true)
    (member : d ∈ lowerChar c) : isWordChar d = true := by
  rcases lowerChar_cases c with own | lowered
  · rw [own, List.mem_singleton] at member
    subst member
    exact word
  · exact (lowered d member).2.2 word

theorem lowerChar_ne_nil (c : Char) : lowerChar c ≠ [] := by
  unfold lowerChar
  split <;> simp

theorem lowerSigma_cases (before after : List Char) :
    lowerSigma before after = 'ς' ∨ lowerSigma before after = 'σ' := by
  unfold lowerSigma
  split
  · exact .inl rfl
  · exact .inr rfl

end Characters

section Texts

/-- What is written for a character in a text is the lowercase of it alone, or one of the two small
sigmas. -/
theorem mem_lowerFrom {before text : List Char} {d : Char} (member : d ∈ lowerFrom before text) :
    d = 'ς' ∨ d = 'σ' ∨ ∃ c ∈ text, c ≠ 'Σ' ∧ d ∈ lowerChar c := by
  induction text generalizing before with
  | nil => cases member
  | cons c text ih =>
    rw [lowerFrom, List.mem_append] at member
    rcases member with first | later
    · by_cases sigma : c = 'Σ'
      · rw [if_pos sigma, List.mem_singleton] at first
        rw [first, ← or_assoc]
        exact .inl (lowerSigma_cases before text)
      · rw [if_neg sigma] at first
        exact .inr (.inr ⟨c, by simp, sigma, first⟩)
    · rcases ih later with final | small | ⟨other, inside, found⟩
      · exact .inl final
      · exact .inr (.inl small)
      · exact .inr (.inr ⟨other, List.mem_cons_of_mem _ inside, found⟩)

theorem isLower_of_mem_lower {text : List Char} {d : Char} (member : d ∈ lower text) :
    IsLower d := by
  rcases mem_lowerFrom member with rfl | rfl | ⟨c, _, plain, found⟩
  · exact (small_of_ruled (by simp)).1
  · exact (small_of_ruled (by simp)).1
  · exact isLower_of_mem_lowerChar plain found

theorem lowerFrom_of_isLower {before text : List Char} (small : ∀ c ∈ text, IsLower c) :
    lowerFrom before text = text := by
  induction text generalizing before with
  | nil => rfl
  | cons c text ih =>
    obtain ⟨plain, own⟩ := small c (by simp)
    rw [lowerFrom, if_neg plain, own, ih fun d member => small d (List.mem_cons_of_mem _ member)]
    rfl

/-- Lowercasing leaves alone what it has written, whatever stood around it. -/
theorem lower_lower (text : List Char) : lower (lower text) = lower text :=
  lowerFrom_of_isLower fun _ member => isLower_of_mem_lower member

theorem visible_lower {text : List Char} (visible : ∀ c ∈ text, isBlank c = false) :
    ∀ d ∈ lower text, isBlank d = false := by
  intro d member
  rcases mem_lowerFrom member with rfl | rfl | ⟨c, inside, _, found⟩
  · exact (small_of_ruled (by simp)).2.1
  · exact (small_of_ruled (by simp)).2.1
  · exact isBlank_of_mem_lowerChar (visible c inside) found

theorem isWordChar_of_mem_lower {text : List Char} (word : ∀ c ∈ text, isWordChar c = true) :
    ∀ d ∈ lower text, isWordChar d = true := by
  intro d member
  rcases mem_lowerFrom member with rfl | rfl | ⟨c, inside, _, found⟩
  · exact (small_of_ruled (by simp)).2.2
  · exact (small_of_ruled (by simp)).2.2
  · exact isWordChar_of_mem_lowerChar (word c inside) found

theorem lower_eq_nil_iff {text : List Char} : lower text = [] ↔ text = [] := by
  cases text with
  | nil => simp [lower, lowerFrom]
  | cons c text =>
    have first : lowerChar c ≠ [] := lowerChar_ne_nil c
    rw [lower, lowerFrom]
    split <;> simp [first]

end Texts

section LetterCase

/-- What changes under `Char.toLower` is one of 26 letters. -/
theorem toLower_cases (c : Char) : c.toLower = c ∨ ∃ k < 26, c = Char.ofNat ('A'.toNat + k) := by
  by_cases capital : c.val ≥ 'A'.val ∧ c.val ≤ 'Z'.val
  · have low : 65 ≤ c.toNat := capital.1
    have high : c.toNat ≤ 90 := capital.2
    refine .inr ⟨c.toNat - 'A'.toNat, Nat.sub_lt_left_of_lt_add low (Nat.lt_succ_of_le high), ?_⟩
    rw [show 'A'.toNat + (c.toNat - 'A'.toNat) = c.toNat from Nat.add_sub_cancel' low,
      Char.ofNat_toNat]
  · exact .inl (dif_neg capital)

/-- Everything that lowercasing looks at in a character. -/
theorem looks_toLower (c : Char) : lowerChar c.toLower = lowerChar c ∧
    (c.toLower = 'Σ' ↔ c = 'Σ') ∧ isCased c.toLower = isCased c ∧
    isCaseIgnorable c.toLower = isCaseIgnorable c := by
  have letters : ∀ k < 26, let c := Char.ofNat ('A'.toNat + k)
      lowerChar c.toLower = lowerChar c ∧ (c.toLower = 'Σ' ↔ c = 'Σ') ∧
      isCased c.toLower = isCased c ∧ isCaseIgnorable c.toLower = isCaseIgnorable c := by
    decide +kernel
  rcases toLower_cases c with same | ⟨k, bound, rfl⟩
  · rw [same]
    exact ⟨rfl, Iff.rfl, rfl, rfl⟩
  · exact letters k bound

theorem meetsCased_map_toLower (text : List Char) :
    meetsCased (text.map Char.toLower) = meetsCased text := by
  have passed : isCaseIgnorable ∘ Char.toLower = isCaseIgnorable :=
    funext fun c => (looks_toLower c).2.2.2
  have seen : isCased ∘ Char.toLower = isCased := funext fun c => (looks_toLower c).2.2.1
  rw [meetsCased, List.dropWhile_map, passed, List.head?_map, Option.map_map, seen]
  rfl

theorem lowerFrom_map_toLower (before text : List Char) :
    lowerFrom (before.map Char.toLower) (text.map Char.toLower) = lowerFrom before text := by
  induction text generalizing before with
  | nil => rfl
  | cons c text ih =>
    obtain ⟨alone, sigma, _, _⟩ := looks_toLower c
    rw [List.map_cons, lowerFrom, lowerFrom, lowerSigma, meetsCased_map_toLower,
      meetsCased_map_toLower, alone, ← List.map_cons, ih]
    simp only [sigma, lowerSigma]

theorem lower_map_toLower (text : List Char) : lower (text.map Char.toLower) = lower text :=
  lowerFrom_map_toLower [] text

/-- Texts that differ only in the case of ASCII letters have the same lowercase. -/
theorem lower_congr {first second : List Char}
    (same : first.map Char.toLower = second.map Char.toLower) : lower first = lower second := by
  rw [← lower_map_toLower first, same, lower_map_toLower]

end LetterCase

end HdlClosure.Text
