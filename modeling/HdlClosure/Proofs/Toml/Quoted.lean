import HdlClosure.Proofs.Text.Runs
import HdlClosure.Toml.Quoted
import Mathlib.Data.List.Basic

namespace HdlClosure.Toml

section Spelling

/-- What stands for a character between double quotes: the character, a backslash and a letter, or a
backslash and its code. -/
inductive Spelled (block : Bool) : Char → List Char → Prop where
  | plain {c : Char} (inside : isTextChar c = true ∨ block = true ∧ c = '\n') (quote : c ≠ '"')
    (slash : c ≠ '\\') : Spelled block c [c]
  | letter {c letter : Char} (stands : escaped? letter = some c) : Spelled block c ['\\', letter]
  | code {c d e f g : Char} (stands : charOfHex? [d, e, f, g] = some c) :
    Spelled block c ['\\', 'u', d, e, f, g]

theorem charOfHex?_hexDigits : ∀ code < 0x80,
    charOfHex? ['0', '0', hexDigit (code / 16), hexDigit (code % 16)] = some (Char.ofNat code) := by
  decide +kernel

theorem toNat_lt_of_needsEscape {c : Char} (needed : needsEscape c = true) : c.toNat < 0x80 := by
  simp only [needsEscape, isTextChar, Bool.and_eq_true, Bool.not_eq_true', Bool.or_eq_false_iff,
    Bool.and_eq_false_iff, decide_eq_false_iff_not] at needed
  omega

theorem spelled_escapeChar (block : Bool) {c : Char} (quote : c ≠ '"') :
    Spelled block c (escapeChar block c) := by
  unfold escapeChar
  split
  case h_3 =>
    cases block with
    | true => exact .plain (.inr ⟨rfl, rfl⟩) (by decide) (by decide)
    | false => exact .letter rfl
  case h_7 newline _ _ slash =>
    by_cases needed : needsEscape c = true
    · have stands := charOfHex?_hexDigits c.toNat (toNat_lt_of_needsEscape needed)
      rw [Char.ofNat_toNat] at stands
      rw [if_pos needed]
      exact .code stands
    · rw [if_neg needed]
      refine .plain (.inl ?_) quote slash
      by_contra other
      exact newline (by simpa [needsEscape, other] using needed)
  all_goals exact .letter rfl

variable {block : Bool} {c : Char} {text : List Char}

theorem Spelled.exists_cons (spelled : Spelled block c text) :
    ∃ first rest, text = first :: rest ∧ first ≠ '"' := by
  cases spelled with
  | plain inside quote slash => exact ⟨_, _, rfl, quote⟩
  | letter stands => exact ⟨_, _, rfl, by decide⟩
  | code stands => exact ⟨_, _, rfl, by decide⟩

theorem isTextChar_of_escaped? {letter : Char} (stands : escaped? letter = some c) :
    isTextChar letter = true := by
  unfold escaped? at stands
  split at stands
  case h_8 => cases stands
  all_goals rfl

theorem isTextChar_of_hexValue? {digit : Char} {value : Nat}
    (stands : Text.hexValue? digit = some value) : isTextChar digit = true := by
  unfold Text.hexValue? at stands
  have between {low high : Char} (first : 0x20 ≤ low.toNat) (last : high.toNat < 0x7F)
      (inside : low ≤ digit ∧ digit ≤ high) : isTextChar digit = true := by
    have above : low.toNat ≤ digit.toNat := Char.le_def.mp inside.1
    have below : digit.toNat ≤ high.toNat := Char.le_def.mp inside.2
    have visible : 0x20 ≤ digit.toNat ∧ digit.toNat ≠ 0x7F := by omega
    simp [isTextChar, visible]
  split_ifs at stands with digits small large
  · exact between (by decide) (by decide) digits
  · exact between (by decide) (by decide) small
  · exact between (by decide) (by decide) large

theorem letter_ne {letter : Char} (other : Char) (stands : escaped? letter = some c)
    (unknown : escaped? other = none) : letter ≠ other := by
  rintro rfl
  rw [unknown] at stands
  cases stands

theorem hexValue?_of_mapM {digits : List Char} {values : List Nat} {digit : Char}
    (read : digits.mapM Text.hexValue? = some values) (member : digit ∈ digits) :
    ∃ value, Text.hexValue? digit = some value := by
  induction digits generalizing values with
  | nil => cases member
  | cons first digits ih =>
    rw [List.mapM_cons] at read
    obtain ⟨value, found, read⟩ := Option.bind_eq_some_iff.mp read
    obtain ⟨others, read, _⟩ := Option.bind_eq_some_iff.mp read
    rcases List.mem_cons.mp member with rfl | inside
    · exact ⟨value, found⟩
    · exact ih read inside

/-- Only text stands for a character, unless it is a line feed that stands for itself. -/
theorem Spelled.mem {d : Char} (spelled : Spelled block c text) (member : d ∈ text) :
    isTextChar d = true ∨ d = '\n' ∧ c = '\n' := by
  cases spelled with
  | plain inside quote slash =>
    rw [List.mem_singleton] at member
    rw [member]
    exact inside.imp_right fun feed => ⟨feed.2, feed.2⟩
  | letter stands =>
    simp only [List.mem_cons, List.not_mem_nil, or_false] at member
    rcases member with rfl | rfl
    · exact .inl rfl
    · exact .inl (isTextChar_of_escaped? stands)
  | code stands =>
    left
    obtain ⟨values, read, _⟩ := Option.bind_eq_some_iff.mp stands
    rcases List.mem_cons.mp member with rfl | member
    · rfl
    · rcases List.mem_cons.mp member with rfl | member
      · rfl
      · obtain ⟨value, found⟩ := hexValue?_of_mapM read member
        exact isTextChar_of_hexValue? found

/-- A raw quote is left in a block; anything else is spelled on its own. -/
theorem escape_cons_cases (block : Bool) (run : Nat) (c : Char) (text : List Char) :
    (block = true ∧ run < 2 ∧ c = '"' ∧
        escape block run (c :: text) = '"' :: escape block (run + 1) text) ∨
      ∃ written, Spelled block c written ∧
        escape block run (c :: text) = written ++ escape block 0 text := by
  by_cases quote : c = '"'
  · by_cases raw : (block && decide (run < 2)) = true
    · obtain ⟨inBlock, more⟩ : block = true ∧ run < 2 := by simpa using raw
      exact .inl ⟨inBlock, more, quote, by rw [escape, if_pos quote, if_pos raw]⟩
    · refine .inr ⟨['\\', '"'], .letter (congrArg some quote.symm), ?_⟩
      rw [escape, if_pos quote, if_neg raw]
      rfl
  · exact .inr ⟨escapeChar block c, spelled_escapeChar block quote, by rw [escape, if_neg quote]⟩

theorem mem_escape {run : Nat} {d : Char} (member : d ∈ escape block run text) :
    isTextChar d = true ∨ d = '\n' ∧ '\n' ∈ text := by
  induction text generalizing run with
  | nil => cases member
  | cons c text ih =>
    have later {run : Nat} (member : d ∈ escape block run text) :
        isTextChar d = true ∨ d = '\n' ∧ '\n' ∈ c :: text :=
      (ih member).imp_right fun feed => ⟨feed.1, List.mem_cons_of_mem c feed.2⟩
    rcases escape_cons_cases block run c text with ⟨_, _, _, split⟩ | ⟨written, spelled, split⟩
    · rw [split, List.mem_cons] at member
      rcases member with rfl | inside
      · exact .inl rfl
      · exact later inside
    · rw [split, List.mem_append] at member
      rcases member with first | inside
      · refine (spelled.mem first).imp_right fun feed => ⟨feed.1, ?_⟩
        rw [feed.2]
        exact List.mem_cons_self
      · exact later inside

end Spelling

section Basic

theorem readBasic_spelled {c : Char} {text : List Char} (spelled : Spelled false c text)
    (rest : List Char) : readBasic (text ++ rest) = (readBasic rest).after [c] := by
  cases spelled with
  | plain inside quote slash =>
    have inside : isTextChar c = true := by simpa using inside
    simp [readBasic, quote, slash, inside]
  | letter stands =>
    have small := letter_ne 'u' stands rfl
    have large := letter_ne 'U' stands rfl
    simp [readBasic, small, large, stands]
  | code stands => simp [readBasic, stands]

theorem readBasic_escape (text rest : List Char) :
    readBasic (escape false 0 text ++ '"' :: rest) = some (text, rest) := by
  induction text with
  | nil => simp [escape, readBasic]
  | cons c text ih =>
    rcases escape_cons_cases false 0 c text with ⟨inBlock, _⟩ | ⟨written, spelled, split⟩
    · cases inBlock
    · rw [split, List.append_assoc, readBasic_spelled spelled, ih]
      rfl

end Basic

section Closing

def leading (quote : Char) (text : List Char) : Nat := (text.takeWhile (· = quote)).length

variable {quote : Char} {text rest : List Char}

theorem leading_cons_of_ne {c : Char} (other : c ≠ quote) : leading quote (c :: text) = 0 := by
  simp [leading, other]

theorem leading_cons_self : leading quote (quote :: text) = leading quote text + 1 := by
  simp [leading]

theorem takeWhile_quote_eq_self : text.takeWhile (· = quote) = text ↔ ∀ c ∈ text, c = quote := by
  simp [List.takeWhile_eq_self_iff]

/-- Quotes at the end of a block belong to it, as long as there are no more than two. -/
theorem closing?_of_quotes (few : leading quote text ≤ 2) (stops : StopsAt (· = quote) rest)
    (whole : ∀ c ∈ text, c = quote) :
    closing? quote (text ++ (List.replicate 3 quote ++ rest)) = some (text, rest) := by
  have quotes : text = List.replicate text.length quote := List.eq_replicate_iff.mpr ⟨rfl, whole⟩
  have inside : ∀ c ∈ text ++ List.replicate 3 quote, decide (c = quote) = true := by
    intro c member
    rw [quotes, ← List.replicate_add] at member
    simpa using List.eq_of_mem_replicate member
  obtain ⟨taken, _⟩ := takeWhile_append_of_stopsAt inside stops
  rw [leading, takeWhile_quote_eq_self.mpr whole] at few
  have five : min (text.length + 3) 5 = text.length + 3 := by omega
  rw [← List.append_assoc, closing?, taken]
  simp [five, ← quotes]

theorem closing?_of_other (few : leading quote text ≤ 2) (other : ¬∀ c ∈ text, c = quote)
    (rest : List Char) : closing? quote (text ++ rest) = none := by
  have inner : (text.takeWhile (· = quote)).length ≠ text.length := fun equal =>
    other (takeWhile_quote_eq_self.mp ((List.takeWhile_prefix _).eq_of_length equal))
  rw [leading] at few
  rw [closing?, List.takeWhile_append, if_neg inner, if_neg (by omega)]

theorem closing?_cons_of_ne {c : Char} (other : c ≠ quote) :
    closing? quote (c :: rest) = none := by
  simp [closing?, other]

end Closing

section Literal

theorem readLiteral_append {text : List Char} (rest : List Char)
    (plain : ∀ c ∈ text, isTextChar c = true) (apart : '\'' ∉ text) :
    readLiteral (text ++ '\'' :: rest) = some (text, rest) := by
  induction text with
  | nil => simp [readLiteral]
  | cons c text ih =>
    obtain ⟨first, others⟩ := List.forall_mem_cons.mp plain
    obtain ⟨other, apart⟩ := not_or.mp (mt List.mem_cons.mpr apart)
    rw [List.cons_append, readLiteral, if_neg (Ne.symm other), if_pos first, ih others apart]
    rfl

/-- In no part of a text do more than some number of quotes come one after another. -/
def RunsAtMost (limit : Nat) (quote : Char) (text : List Char) : Prop :=
  ∀ part, part <:+ text → leading quote part ≤ limit

theorem RunsAtMost.tail {limit : Nat} {quote c : Char} {text : List Char}
    (short : RunsAtMost limit quote (c :: text)) : RunsAtMost limit quote text :=
  fun part suffix => short part (suffix.trans (List.suffix_cons c text))

theorem readLiteralBlock_of_closing {text : List Char} {found : List Char × List Char}
    (closed : closing? '\'' text = some found) : readLiteralBlock text = some found := by
  cases text with
  | nil => cases closed
  | cons c rest => rw [readLiteralBlock, closed]

theorem readLiteralBlock_append {text rest : List Char}
    (plain : ∀ c ∈ text, isTextChar c = true ∨ c = '\n') (short : RunsAtMost 2 '\'' text)
    (stops : StopsAt (· = '\'') rest) :
    readLiteralBlock (text ++ (List.replicate 3 '\'' ++ rest)) = some (text, rest) := by
  induction text with
  | nil =>
    have few := short [] (List.suffix_refl _)
    exact readLiteralBlock_of_closing (closing?_of_quotes few stops nofun)
  | cons c text ih =>
    have few := short (c :: text) (List.suffix_refl _)
    by_cases whole : ∀ d ∈ c :: text, d = '\''
    · exact readLiteralBlock_of_closing (closing?_of_quotes few stops whole)
    · have inner := closing?_of_other few whole (List.replicate 3 '\'' ++ rest)
      obtain ⟨first, others⟩ := List.forall_mem_cons.mp plain
      rw [List.cons_append] at inner
      rw [List.cons_append, readLiteralBlock, inner, ih others short.tail]
      simp [first, Reading.after]

/-- One step of the count: the longest run so far, and the run that goes on. -/
def countRun (quote : Char) (state : Nat × Nat) (c : Char) : Nat × Nat :=
  if c = quote then (max state.1 (state.2 + 1), state.2 + 1) else (state.1, 0)

theorem longestRun_eq (quote : Char) (text : List Char) :
    longestRun quote text = (text.foldl (countRun quote) (0, 0)).1 := rfl

/-- The count goes on from the quotes just read: these and those ahead are one run. -/
theorem runsAtMost_countRun (quote : Char) (text : List Char) {longest run : Nat}
    (within : run ≤ longest) {found : Nat}
    (counted : (text.foldl (countRun quote) (longest, run)).1 = found) :
    longest ≤ found ∧ run + leading quote text ≤ found ∧ RunsAtMost found quote text := by
  induction text generalizing longest run with
  | nil =>
    rw [List.foldl_nil] at counted
    refine ⟨counted.le, by simp [leading]; omega, fun part suffix => ?_⟩
    rw [List.suffix_nil.mp suffix]
    exact Nat.zero_le _
  | cons c text ih =>
    rw [List.foldl_cons] at counted
    have front : longest ≤ found ∧ run + leading quote (c :: text) ≤ found ∧
        RunsAtMost found quote text := by
      by_cases same : c = quote
      · rw [countRun, if_pos same] at counted
        obtain ⟨kept, here, later⟩ := ih (Nat.le_max_right longest (run + 1)) counted
        rw [same, leading_cons_self]
        exact ⟨by omega, by omega, later⟩
      · rw [countRun, if_neg same] at counted
        obtain ⟨kept, here, later⟩ := ih (Nat.zero_le longest) counted
        rw [leading_cons_of_ne same]
        exact ⟨kept, by omega, later⟩
    refine ⟨front.1, front.2.1, fun part suffix => ?_⟩
    rcases List.suffix_cons_iff.mp suffix with rfl | inner
    · exact Nat.le_trans (Nat.le_add_left _ run) front.2.1
    · exact front.2.2 part inner

/-- The longest run is as long as every run. -/
theorem runsAtMost_longestRun (quote : Char) (text : List Char) :
    RunsAtMost (longestRun quote text) quote text :=
  (runsAtMost_countRun quote text (Nat.le_refl 0) (longestRun_eq quote text).symm).2.2

end Literal

section BasicBlock

variable {c : Char} {text rest : List Char} {run : Nat}

theorem readBasicBlock_of_closing {found : List Char × List Char}
    (closed : closing? '"' text = some found) : readBasicBlock .text text = some found := by
  cases text with
  | nil => cases closed
  | cons c rest =>
    rw [readBasicBlock.eq_def]
    simp [closed]

theorem readBasicBlock_cons (inner : closing? '"' (c :: rest) = none)
    (inside : isTextChar c = true ∨ c = '\n') (slash : c ≠ '\\') :
    readBasicBlock .text (c :: rest) = (readBasicBlock .text rest).after [c] := by
  rw [readBasicBlock.eq_def]
  simp [inner, slash, inside]

theorem readBasicBlock_spelled (spelled : Spelled true c text) (rest : List Char) :
    readBasicBlock .text (text ++ rest) = (readBasicBlock .text rest).after [c] := by
  have inner : ∀ rest, closing? '"' ('\\' :: rest) = none := fun _ =>
    closing?_cons_of_ne (by decide)
  cases spelled with
  | plain inside quote slash =>
    exact readBasicBlock_cons (closing?_cons_of_ne quote) (inside.imp_right And.right) slash
  | letter stands =>
    have small := letter_ne 'u' stands rfl
    have large := letter_ne 'U' stands rfl
    have feed := letter_ne '\n' stands rfl
    have space := letter_ne ' ' stands rfl
    have tab := letter_ne '\t' stands rfl
    simp [readBasicBlock, inner, small, large, feed, space, tab, stands]
  | code stands => simp [readBasicBlock, inner, stands]

/-- Raw quotes are counted, so that no three of them ever stand together. -/
theorem leading_escape (text : List Char) (few : run ≤ 2) :
    run + leading '"' (escape true run text) ≤ 2 := by
  induction text generalizing run with
  | nil => simpa [escape, leading] using few
  | cons c text ih =>
    rcases escape_cons_cases true run c text with ⟨_, more, _, split⟩ | ⟨written, spelled, split⟩
    · have later : run + 1 + leading '"' (escape true (run + 1) text) ≤ 2 := ih more
      rw [split, leading_cons_self]
      omega
    · obtain ⟨first, others, rfl, other⟩ := spelled.exists_cons
      rw [split, List.cons_append, leading_cons_of_ne other]
      exact few

/-- Where nothing but quotes is written, nothing had to be escaped. -/
theorem escape_eq_self (quotes : ∀ d ∈ escape true run text, d = '"') :
    escape true run text = text := by
  induction text generalizing run with
  | nil => rfl
  | cons c text ih =>
    rcases escape_cons_cases true run c text with ⟨_, _, rfl, split⟩ | ⟨written, spelled, split⟩
    · rw [split] at quotes ⊢
      rw [ih (List.forall_mem_cons.mp quotes).2]
    · obtain ⟨first, others, rfl, other⟩ := spelled.exists_cons
      rw [split] at quotes
      exact absurd (quotes first List.mem_cons_self) other

theorem readBasicBlock_escape (text : List Char) (few : run ≤ 2) (stops : StopsAt (· = '"') rest) :
    readBasicBlock .text (escape true run text ++ (List.replicate 3 '"' ++ rest)) =
      some (text, rest) := by
  induction text generalizing run with
  | nil =>
    have closed : closing? '"' ([] ++ (List.replicate 3 '"' ++ rest)) = _ :=
      closing?_of_quotes (Nat.zero_le 2) stops nofun
    exact readBasicBlock_of_closing closed
  | cons c text ih =>
    rcases escape_cons_cases true run c text with ⟨_, more, rfl, split⟩ | ⟨written, spelled, split⟩
    · have within := Nat.le_trans (Nat.le_add_left _ run) (leading_escape ('"' :: text) few)
      -- Quotes at the end of the text run into the three that close the block.
      by_cases whole : ∀ d ∈ escape true run ('"' :: text), d = '"'
      · have closed := closing?_of_quotes within stops whole
        rw [readBasicBlock_of_closing closed, escape_eq_self whole]
      · have inner := closing?_of_other within whole (List.replicate 3 '"' ++ rest)
        rw [split, List.cons_append] at inner ⊢
        rw [readBasicBlock_cons inner (.inl rfl) (by decide), ih more]
        rfl
    · rw [split, List.append_assoc, readBasicBlock_spelled spelled, ih (Nat.zero_le 2)]
      rfl

end BasicBlock

section Forms

variable {text rest : List Char}

def isQuote (c : Char) : Bool := c = '"' || c = '\''

theorem isQuote_iff {c : Char} : isQuote c = true ↔ c = '"' ∨ c = '\'' := by
  simp [isQuote]

theorem plain_of_needsEscape {c : Char} (plain : needsEscape c = false) :
    isTextChar c = true ∨ c = '\n' := by
  by_cases newline : c = '\n'
  · exact .inr newline
  · exact .inl (by simpa [needsEscape, newline] using plain)

theorem not_mem_of_runsAtMost {quote : Char} (none : RunsAtMost 0 quote text) : quote ∉ text := by
  intro member
  obtain ⟨before, after, split⟩ := List.append_of_mem member
  have empty := none (quote :: after) ⟨before, split.symm⟩
  rw [leading_cons_self] at empty
  exact Nat.not_succ_le_zero _ empty

theorem formOf_literal (form : formOf text = .literal) :
    (∀ c ∈ text, isTextChar c = true) ∧ '\'' ∉ text := by
  dsimp only [formOf] at form
  split_ifs at form with plain literal
  simp only [Bool.and_eq_true, Bool.not_eq_true', decide_eq_true_eq, List.any_eq_false,
    List.contains_eq_mem, decide_eq_false_iff_not] at literal
  obtain ⟨⟨escapes, singles⟩, newline⟩ := literal
  constructor
  · intro c member
    refine (plain_of_needsEscape (by simpa using escapes c member)).resolve_right ?_
    rintro rfl
    exact newline member
  · exact not_mem_of_runsAtMost (singles ▸ runsAtMost_longestRun '\'' text)

theorem formOf_literalBlock (form : formOf text = .literalBlock) :
    (∀ c ∈ text, isTextChar c = true ∨ c = '\n') ∧ RunsAtMost 2 '\'' text := by
  dsimp only [formOf] at form
  split_ifs at form with plain literal block fits
  simp only [Bool.and_eq_true, Bool.not_eq_true', decide_eq_true_eq, List.any_eq_false] at fits
  obtain ⟨escapes, singles⟩ := fits
  constructor
  · exact fun c member => plain_of_needsEscape (by simpa using escapes c member)
  · exact fun part suffix => Nat.le_trans (runsAtMost_longestRun '\'' text part suffix) singles

theorem dropBreak_leadingBreak {body : List Char} (same : '\n' ∉ text → body.head? ≠ some '\n') :
    dropBreak (leadingBreak text ++ body) = body := by
  by_cases newline : '\n' ∈ text
  · simp [leadingBreak, newline, dropBreak]
  · have first := same newline
    rw [leadingBreak, if_neg (by simpa using newline), List.nil_append]
    unfold dropBreak
    split
    · exact absurd rfl first
    · rfl

theorem head?_ne_of_not_mem {c : Char} (apart : c ∉ text) {rest : List Char}
    (other : rest.head? ≠ some c) : (text ++ rest).head? ≠ some c := by
  cases text with
  | nil => exact other
  | cons d text =>
    intro first
    rw [List.cons_append, List.head?_cons, Option.some.injEq] at first
    exact apart (first ▸ List.mem_cons_self)

theorem readString_basic {text : List Char}
    (short : ∀ rest, text ≠ '"' :: '"' :: rest) : readString ('"' :: text) = readBasic text := by
  rw [readString]
  exact short

theorem readString_literal {text : List Char}
    (short : ∀ rest, text ≠ '\'' :: '\'' :: rest) :
    readString ('\'' :: text) = readLiteral text := by
  rw [readString]
  exact short

/-- The quotes of an empty text and what follows them do not open a block. -/
theorem append_ne_quotes {quote : Char} (first : text.head? ≠ some quote)
    (stops : StopsAt (· = quote) rest) (more : List Char) :
    text ++ quote :: rest ≠ quote :: quote :: more := by
  intro same
  cases text with
  | nil =>
    obtain ⟨_, rfl⟩ := List.cons.inj same
    simpa using stops quote rfl
  | cons c text =>
    obtain ⟨rfl, _⟩ := List.cons.inj same
    exact first rfl

theorem head?_escape (text : List Char) : (escape false 0 text).head? ≠ some '"' := by
  cases text with
  | nil => simp [escape]
  | cons c text =>
    rcases escape_cons_cases false 0 c text with ⟨inBlock, _⟩ | ⟨written, spelled, split⟩
    · cases inBlock
    · obtain ⟨first, others, rfl, other⟩ := spelled.exists_cons
      rw [split, List.cons_append, List.head?_cons]
      exact fun same => other (Option.some.inj same)

/-- A text is read back, with what follows it, whatever form is chosen for it. -/
theorem readString_quoted (text : String) {rest : List Char} (stops : StopsAt isQuote rest) :
    readString (quoted text ++ rest) = some (text.toList, rest) := by
  have double : StopsAt (· = '"') rest := fun c head =>
    (Bool.or_eq_false_iff.mp (stops c head)).1
  have single : StopsAt (· = '\'') rest := fun c head =>
    (Bool.or_eq_false_iff.mp (stops c head)).2
  rw [quoted]
  generalize text.toList = text
  cases form : formOf text with
  | basic =>
    have read := readBasic_escape text rest
    rw [← readString_basic (append_ne_quotes (head?_escape text) double)] at read
    simpa [writeAs] using read
  | literal =>
    obtain ⟨plain, apart⟩ := formOf_literal form
    have read := readLiteral_append rest plain apart
    have first : text.head? ≠ some '\'' := fun head => apart (List.mem_of_head? head)
    rw [← readString_literal (append_ne_quotes first single)] at read
    simpa [writeAs] using read
  | basicBlock =>
    -- The break behind the opening quotes is dropped, and the text begins with none of its own.
    have read := readBasicBlock_escape text (Nat.zero_le 2) double
    have body : dropBreak (leadingBreak text ++
        (escape true 0 text ++ (List.replicate 3 '"' ++ rest))) = _ :=
      dropBreak_leadingBreak fun newline =>
        head?_ne_of_not_mem (fun member => newline ((mem_escape member).resolve_left (by decide)).2)
          (by simp)
    rw [← body] at read
    simpa [writeAs, readString] using read
  | literalBlock =>
    obtain ⟨plain, short⟩ := formOf_literalBlock form
    have read := readLiteralBlock_append plain short single
    have body : dropBreak (leadingBreak text ++
        (text ++ (List.replicate 3 '\'' ++ rest))) = _ :=
      dropBreak_leadingBreak fun newline => head?_ne_of_not_mem newline (by simp)
    rw [← body] at read
    simpa [writeAs, readString] using read

theorem head?_quoted (text : String) : ∃ quote rest, isQuote quote = true ∧
    quoted text = quote :: rest := by
  rw [quoted]
  cases formOf text.toList <;> exact ⟨_, _, rfl, rfl⟩

theorem mem_quoted {text : String} {c : Char} (member : c ∈ quoted text) :
    isTextChar c = true ∨ c = '\n' := by
  have quote {d : Char} (quote : isQuote d = true) : c = d → isTextChar c = true ∨ c = '\n' := by
    rintro rfl
    left
    rcases isQuote_iff.mp quote with rfl | rfl <;> rfl
  have breaks : c ∈ leadingBreak text.toList → isTextChar c = true ∨ c = '\n' := by
    intro member
    unfold leadingBreak at member
    split at member
    · exact .inr (List.mem_singleton.mp member)
    · cases member
  have escaped {block : Bool} : c ∈ escape block 0 text.toList → isTextChar c = true ∨ c = '\n' :=
    fun member => (mem_escape member).imp_right And.left
  rw [quoted] at member
  cases form : formOf text.toList with
  | basic =>
    simp only [form, writeAs, List.mem_cons, List.mem_append, List.not_mem_nil, or_false] at member
    rcases member with (opening | inside) | closing
    · exact quote rfl opening
    · exact escaped inside
    · exact quote rfl closing
  | literal =>
    simp only [form, writeAs, List.mem_cons, List.mem_append, List.not_mem_nil, or_false] at member
    rcases member with (opening | inside) | closing
    · exact quote rfl opening
    · exact .inl ((formOf_literal form).1 c inside)
    · exact quote rfl closing
  | basicBlock =>
    simp only [form, writeAs, List.mem_cons, List.mem_append, List.not_mem_nil, or_false,
      or_self] at member
    rcases member with ((opening | feed) | inside) | closing
    · exact quote rfl opening
    · exact breaks feed
    · exact escaped inside
    · exact quote rfl closing
  | literalBlock =>
    simp only [form, writeAs, List.mem_cons, List.mem_append, List.not_mem_nil, or_false,
      or_self] at member
    rcases member with ((opening | feed) | inside) | closing
    · exact quote rfl opening
    · exact breaks feed
    · exact (formOf_literalBlock form).1 c inside
    · exact quote rfl closing

end Forms

end HdlClosure.Toml
