import HdlClosure.Proofs.Json.Grammar
import HdlClosure.Proofs.Text.Runs

namespace HdlClosure.Json

section Reader

variable {α : Type}

def skipGap (text : List Char) : List Char := text.dropWhile isGapChar

/-- Reads a text up to its closing quote. -/
def readChars : List Char → Option (List Char × List Char)
  | [] => none
  | '"' :: rest => some ([], rest)
  | '\\' :: 'u' :: a :: b :: c :: d :: rest =>
    (unit? [a, b, c, d]).bind fun unit =>
      if unit.isValidChar then
        (readChars rest).map fun (value, rest) => (Char.ofNat unit :: value, rest)
      else
        match rest with
        | '\\' :: 'u' :: e :: f :: g :: h :: rest =>
          (unit? [e, f, g, h]).bind fun low =>
            (readChars rest).map fun (value, rest) => (Char.ofNat (joined unit low) :: value, rest)
        | _ => none
  | '\\' :: letter :: rest =>
    (escaped? letter).bind fun c => (readChars rest).map fun (value, rest) => (c :: value, rest)
  | c :: rest =>
    if 0x20 ≤ c.toNat then (readChars rest).map fun (value, rest) => (c :: value, rest) else none

def readListed (one : List Char → Option (α × List Char)) (closing : Char) :
    Nat → List Char → Option (List α × List Char)
  | 0, _ => none
  | fuel + 1, input => do
    let (item, rest) ← one (skipGap input)
    match skipGap rest with
    | [] => none
    | c :: rest =>
      if c = closing then return ([item], rest)
      else if c = ',' then
        let (items, rest) ← readListed one closing fuel rest
        return (item :: items, rest)
      else none

def readBracketed (one : List Char → Option (α × List Char)) (closing : Char) (fuel : Nat)
    (text : List Char) : Option (List α × List Char) :=
  match skipGap text with
  | [] => none
  | c :: rest => if c = closing then some ([], rest) else readListed one closing fuel text

def readNamed (one : List Char → Option (α × List Char)) :
    List Char → Option ((String × α) × List Char)
  | '"' :: input => do
    let (name, rest) ← readChars input
    match skipGap rest with
    | ':' :: rest =>
      let (value, rest) ← one (skipGap rest)
      return ((String.ofList name, value), rest)
    | _ => none
  | _ => none

/-- A character that a number goes on with. -/
def isNumberChar (c : Char) : Bool := c.isDigit || ['-', '+', '.', 'e', 'E'].contains c

def readWord : List Char → Option (Value × List Char)
  | 'n' :: 'u' :: 'l' :: 'l' :: rest => some (.null, rest)
  | 't' :: 'r' :: 'u' :: 'e' :: rest => some (.truth true, rest)
  | 'f' :: 'a' :: 'l' :: 's' :: 'e' :: rest => some (.truth false, rest)
  | _ => none

def readValue : Nat → List Char → Option (Value × List Char)
  | 0, _ => none
  | _ + 1, [] => none
  | fuel + 1, c :: rest =>
    if c = '"' then (readChars rest).map fun (value, rest) => (.text (String.ofList value), rest)
    else if c = '[' then
      (readBracketed (readValue fuel) ']' fuel rest).map fun (items, rest) => (.list items, rest)
    else if c = '\x7b' then
      (readBracketed (readNamed (readValue fuel)) '\x7d' fuel rest).map fun (members, rest) =>
        (.fields members, rest)
    else if isNumberChar c then
      some (.number ((c :: rest).takeWhile isNumberChar), (c :: rest).dropWhile isNumberChar)
    else readWord (c :: rest)

def read (text : List Char) : Option Value := do
  let (value, rest) ← readValue (text.length + 1) (skipGap text)
  if rest.all isGapChar then some value else none

end Reader

section Strings

theorem readChars_charText {c : Char} {text : List Char} (shown : CharText c text)
    (rest : List Char) :
    readChars (text ++ rest) =
      (readChars rest).map fun (value, rest) => (c :: value, rest) := by
  cases shown with
  | plain visible noQuote noEscape =>
    rw [List.singleton_append, readChars.eq_5 c rest noQuote
      (fun _ _ _ _ _ escape _ => noEscape escape) (fun _ _ escape _ => noEscape escape),
      if_pos visible]
  | @named letter _ known =>
    have other : letter ≠ 'u' := by
      rintro rfl
      cases known
    show readChars ('\\' :: letter :: rest) = _
    rw [readChars.eq_4 letter rest fun _ _ _ _ _ coded _ => other coded, known, Option.bind_some]
  | coded spelled =>
    have valid : c.toNat.isValidChar := c.valid
    simp [readChars, spelled, valid]
  | @paired _ _ _ _ _ _ _ _ _ high low first isHigh second isLow same =>
    have half : ¬ high.isValidChar := by unfold Nat.isValidChar; omega
    simp [readChars, first, second, half, ← same]

theorem readChars_chars {value text : List Char} (shown : Chars value text) (rest : List Char) :
    readChars (text ++ '"' :: rest) = some (value, rest) := by
  induction shown with
  | nil => simp [readChars]
  | cons first following ih => rw [List.append_assoc, readChars_charText first, ih, Option.map_some]

end Strings

section Gaps

theorem skipGap_append {gap rest : List Char} (blank : Gap gap) (stops : StopsAt isGapChar rest) :
    skipGap (gap ++ rest) = rest :=
  (takeWhile_append_of_stopsAt blank stops).2

theorem isNumberChar_of_isGapChar {c : Char} (gap : isGapChar c = true) :
    isNumberChar c = false := by
  simp only [isGapChar, Bool.or_eq_true, decide_eq_true_eq] at gap
  rcases gap with ((rfl | rfl) | rfl) | rfl <;> decide

/-- White space ends a number; without any, what follows has to. -/
theorem stopsAt_number_of_gap {gap rest : List Char} (blank : Gap gap)
    (stops : StopsAt isNumberChar rest) : StopsAt isNumberChar (gap ++ rest) := by
  cases gap with
  | nil => exact stops
  | cons c gap => exact stopsAt_cons (isNumberChar_of_isGapChar (blank c (by simp))) _

end Gaps

section Lists

variable {α : Type}

/-- What items look like: each begins with a character that is neither white space nor a closing
bracket. -/
def Opens (one : α → List Char → Prop) : Prop :=
  ∀ item text, one item text →
    ∃ c rest, text = c :: rest ∧ isGapChar c = false ∧ c ≠ ']' ∧ c ≠ '\x7d'

/-- A reader finds every item of less than a length, provided that no number goes on after it. -/
def Finds (one : α → List Char → Prop) (readOne : List Char → Option (α × List Char))
    (size : Nat) : Prop :=
  ∀ item text, one item text → text.length < size → ∀ rest, StopsAt isNumberChar rest →
    readOne (text ++ rest) = some (item, rest)

variable {one : α → List Char → Prop} {readOne : List Char → Option (α × List Char)} {size : Nat}

theorem stopsAt_gap_of_opens (opens : Opens one) {item : α} {text : List Char}
    (written : one item text) (rest : List Char) : StopsAt isGapChar (text ++ rest) := by
  obtain ⟨c, more, rfl, visible, _⟩ := opens item text written
  exact stopsAt_cons visible _

theorem readListed_listed {items : List α} {body : List Char} (opens : Opens one)
    (finds : Finds one readOne size) {closing : Char} (bracket : closing = ']' ∨ closing = '\x7d')
    (listed : Listed one items body) {fuel : Nat} (short : body.length < size)
    (fueled : body.length < fuel) (rest : List Char) :
    readListed readOne closing fuel (body ++ closing :: rest) = some (items, rest) := by
  have visible : isGapChar closing = false := by rcases bracket with rfl | rfl <;> decide
  have ended : isNumberChar closing = false := by rcases bracket with rfl | rfl <;> decide
  have comma : closing ≠ ',' := by rcases bracket with rfl | rfl <;> decide
  induction listed generalizing fuel with
  | @last item before text after above written below =>
    obtain ⟨fuel, rfl⟩ := Nat.exists_eq_add_one_of_ne_zero (Nat.ne_zero_of_lt fueled)
    simp only [List.length_append] at short
    have begins := stopsAt_gap_of_opens opens written (after ++ closing :: rest)
    have start := skipGap_append above begins
    have found := finds item text written (by omega) (after ++ closing :: rest)
      (stopsAt_number_of_gap below (stopsAt_cons ended rest))
    have finish := skipGap_append below (stopsAt_cons visible rest)
    simp [readListed, start, found, finish]
  | @more item items before text after following above written below _ ih =>
    obtain ⟨fuel, rfl⟩ := Nat.exists_eq_add_one_of_ne_zero (Nat.ne_zero_of_lt fueled)
    simp only [List.length_append, List.length_cons] at short fueled
    have tail := ih (by omega) (show following.length < fuel by omega)
    have start := skipGap_append above
      (stopsAt_gap_of_opens opens written (after ++ ',' :: (following ++ closing :: rest)))
    have found := finds item text written (by omega)
      (after ++ ',' :: (following ++ closing :: rest))
      (stopsAt_number_of_gap below (stopsAt_cons (by decide) _))
    have finish := skipGap_append below
      (stopsAt_cons (c := ',') (by decide) (following ++ closing :: rest))
    simp [readListed, start, found, finish, tail, comma.symm]

theorem readBracketed_listed {items : List α} {body : List Char} (opens : Opens one)
    (finds : Finds one readOne size) {closing : Char} (bracket : closing = ']' ∨ closing = '\x7d')
    (listed : Listed one items body) (short : body.length < size) (rest : List Char) :
    readBracketed readOne closing size (body ++ closing :: rest) = some (items, rest) := by
  have first : ∃ c more, skipGap (body ++ closing :: rest) = c :: more ∧ c ≠ closing := by
    cases listed with
    | @last item before text after above written below =>
      obtain ⟨c, more, same, _, square, curly⟩ := opens item text written
      have start := skipGap_append above
        (stopsAt_gap_of_opens opens written (after ++ closing :: rest))
      refine ⟨c, more ++ (after ++ closing :: rest), ?_, ?_⟩
      · simpa [same] using start
      · rcases bracket with rfl | rfl <;> assumption
    | @more item items before text after following above written below _ =>
      obtain ⟨c, more, same, _, square, curly⟩ := opens item text written
      have start := skipGap_append above
        (stopsAt_gap_of_opens opens written (after ++ ',' :: (following ++ closing :: rest)))
      refine ⟨c, more ++ (after ++ ',' :: (following ++ closing :: rest)), ?_, ?_⟩
      · simpa [same] using start
      · rcases bracket with rfl | rfl <;> assumption
  obtain ⟨c, more, start, other⟩ := first
  rw [readBracketed, start]
  simp only [if_neg other]
  exact readListed_listed opens finds bracket listed short short rest

theorem readBracketed_gap {gap : List Char} {closing : Char}
    (bracket : closing = ']' ∨ closing = '\x7d') (blank : Gap gap) (rest : List Char) :
    readBracketed readOne closing size (gap ++ closing :: rest) = some ([], rest) := by
  have visible : isGapChar closing = false := by rcases bracket with rfl | rfl <;> decide
  rw [readBracketed, skipGap_append blank (stopsAt_cons visible rest)]
  simp

theorem opens_named : Opens (Named one) := by
  intro member text named
  obtain ⟨⟨chars⟩, _⟩ := named
  exact ⟨_, _, rfl, by decide, by decide, by decide⟩

theorem finds_named (opens : Opens one) (finds : Finds one readOne size) :
    Finds (Named one) (readNamed readOne) size := by
  intro member text named short rest ends
  obtain ⟨quoted, above, below, written⟩ := named
  rename_i name value key between inner text
  obtain ⟨chars⟩ := quoted
  simp only [List.length_cons, List.length_append] at short
  have found := finds value text written (by omega) rest ends
  have key := readChars_chars chars (between ++ ':' :: (inner ++ (text ++ rest)))
  have colon := skipGap_append above
    (stopsAt_cons (c := ':') (by decide) (inner ++ (text ++ rest)))
  have start := skipGap_append below (stopsAt_gap_of_opens opens written rest)
  simp [readNamed, key, colon, start, found]

end Lists

section Values

theorem isNumberChar_of_numberText {literal : List Char} (spelled : NumberText literal) :
    (∀ c ∈ literal, isNumberChar c = true) ∧ literal ≠ [] := by
  have digit {digits : List Char} (counted : Digits digits) :
      ∀ c ∈ digits, isNumberChar c = true := by
    intro c member
    rw [isNumberChar, counted.2 c member, Bool.true_or]
  obtain ⟨signed, counted, _, parted, scaled⟩ := spelled
  rename_i sign whole fraction exponent
  refine ⟨fun c member => ?_, fun empty => counted.1 (by simp_all)⟩
  simp only [List.mem_append] at member
  rcases member with inSign | inWhole | inFraction | inExponent
  · rcases signed with rfl | rfl
    · cases inSign
    · rw [List.mem_singleton.mp inSign]
      rfl
  · exact digit counted c inWhole
  · rcases parted with rfl | ⟨digits, after, rfl⟩
    · cases inFraction
    · rcases List.mem_cons.mp inFraction with rfl | inside
      · rfl
      · exact digit after c inside
  · rcases scaled with rfl | ⟨mark, direction, digits, isMark, isDirection, after, rfl⟩
    · cases inExponent
    · rcases List.mem_cons.mp inExponent with rfl | inside
      · simp only [List.mem_cons, List.not_mem_nil, or_false] at isMark
        rcases isMark with rfl | rfl <;> rfl
      · rcases List.mem_append.mp inside with inDirection | inDigits
        · simp only [List.mem_cons, List.not_mem_nil, or_false] at isDirection
          rcases isDirection with rfl | rfl | rfl
          · cases inDirection
          · rw [List.mem_singleton.mp inDirection]
            rfl
          · rw [List.mem_singleton.mp inDirection]
            rfl
        · exact digit after c inDigits

theorem other_of_isNumberChar {c : Char} (number : isNumberChar c = true) :
    isGapChar c = false ∧ c ≠ '"' ∧ c ≠ '[' ∧ c ≠ ']' ∧ c ≠ '\x7b' ∧ c ≠ '\x7d' := by
  have ne {d : Char} (other : isNumberChar d = false) : c ≠ d := by
    rintro rfl
    rw [number] at other
    cases other
  refine ⟨?_, ne rfl, ne rfl, ne rfl, ne rfl, ne rfl⟩
  rw [Bool.eq_false_iff]
  intro gap
  rw [isNumberChar_of_isGapChar gap] at number
  cases number

theorem opens_written : Opens Written := by
  intro value text written
  cases written with
  | number spelled =>
    obtain ⟨inside, visible⟩ := isNumberChar_of_numberText spelled
    obtain ⟨c, rest, same⟩ := List.exists_cons_of_ne_nil visible
    obtain ⟨noGap, _, _, square, _, curly⟩ := other_of_isNumberChar (inside c (by simp [same]))
    exact ⟨c, rest, same, noGap, square, curly⟩
  | text quoted =>
    obtain ⟨chars⟩ := quoted
    exact ⟨_, _, rfl, by decide, by decide, by decide⟩
  | _ => exact ⟨_, _, rfl, by decide, by decide, by decide⟩

theorem finds_written (size : Nat) : Finds Written (readValue size) size := by
  induction size with
  | zero => exact fun _ _ _ short => absurd short (Nat.not_lt_zero _)
  | succ size ih =>
    intro value text written short rest ends
    cases written with
    | null => rfl
    | yes => rfl
    | no => rfl
    | number spelled =>
      obtain ⟨inside, visible⟩ := isNumberChar_of_numberText spelled
      -- The first character rules out every other kind of value.
      obtain ⟨c, more, same⟩ := List.exists_cons_of_ne_nil visible
      have first := inside c (by simp [same])
      obtain ⟨_, quote, square, _, curly, _⟩ := other_of_isNumberChar first
      obtain ⟨taken, left⟩ := takeWhile_append_of_stopsAt inside ends
      rw [same, List.cons_append] at taken left ⊢
      rw [readValue, if_neg quote, if_neg square, if_neg curly, if_pos first, taken, left]
    | text quoted =>
      obtain ⟨chars⟩ := quoted
      simp [readValue, readChars_chars chars]
    | emptyList blank =>
      simp [readValue, readBracketed_gap (.inl rfl) blank]
    | list listed =>
      simp only [List.length_cons, List.length_append, List.length_nil] at short
      simp [readValue, readBracketed_listed opens_written ih (.inl rfl) listed (by omega)]
    | noFields blank =>
      simp [readValue, readBracketed_gap (.inr rfl) blank]
    | fields listed =>
      simp only [List.length_cons, List.length_append, List.length_nil] at short
      simp [readValue, readBracketed_listed opens_named (finds_named opens_written ih) (.inr rfl)
        listed (by omega)]

/-- The reader finds what the grammar says. -/
theorem read_document {value : Value} {text : List Char} (document : Document value text) :
    read text = some value := by
  obtain ⟨above, written, below⟩ := document
  rename_i before text after
  have nothing : StopsAt isNumberChar [] := fun _ head => nomatch head
  have ends : StopsAt isNumberChar after := by
    simpa using stopsAt_number_of_gap below nothing
  have start := skipGap_append above (stopsAt_gap_of_opens opens_written written after)
  have found := finds_written ((before ++ (text ++ after)).length + 1) value text written
    (by simp only [List.length_append]; omega) after ends
  have blank : after.all isGapChar = true := List.all_eq_true.mpr below
  rw [read, start, found]
  simp only [Option.bind_eq_bind, Option.bind_some, blank, ↓reduceIte]

/-- A text stands for one value at most. -/
theorem document_unique {first second : Value} {text : List Char} (one : Document first text)
    (other : Document second text) : first = second :=
  Option.some.inj ((read_document one).symm.trans (read_document other))

end Values

end HdlClosure.Json
