import HdlClosure.Proofs.Toml.Quoted
import HdlClosure.Toml.Reader

namespace HdlClosure.Toml

section Gaps

theorem joinLineEnds_eq_self {text : List Char} (plain : '\r' ∉ text) :
    joinLineEnds text = text := by
  induction text with
  | nil => rfl
  | cons c text ih =>
    obtain ⟨first, others⟩ := not_or.mp (mt List.mem_cons.mpr plain)
    rw [joinLineEnds, ih others]
    rintro rest rfl
    exact absurd rfl first

def isBlankChar (c : Char) : Bool := c = ' ' || c = '\t'

theorem skipBlanks_of_stopsAt {text : List Char} (visible : StopsAt isBlankChar text) :
    skipBlanks text = text := by
  have nothing : ∀ c ∈ ([] : List Char), isBlankChar c = true := fun _ member => nomatch member
  exact (takeWhile_append_of_stopsAt nothing visible).2

def isGapChar (c : Char) : Bool := isBlankChar c || c = '\n'

theorem skipGap_append {gap : List Char} (blank : ∀ c ∈ gap, isGapChar c = true)
    (rest : List Char) : skipGap false (gap ++ rest) = skipGap false rest := by
  induction gap with
  | nil => rfl
  | cons c gap ih =>
    obtain ⟨first, others⟩ := List.forall_mem_cons.mp blank
    rw [List.cons_append, skipGap]
    by_cases newline : c = '\n'
    · rw [if_pos newline, ih others]
    · have space : c = ' ' ∨ c = '\t' := by simpa [isGapChar, isBlankChar, newline] using first
      simp [newline, space, ih others]

theorem skipGap_cons {c : Char} (visible : isGapChar c = false) (hash : c ≠ '#')
    (rest : List Char) : skipGap false (c :: rest) = some (c :: rest) := by
  simp only [isGapChar, isBlankChar, Bool.or_eq_false_iff, decide_eq_false_iff_not] at visible
  simp [skipGap, visible, hash]

end Gaps

section Keys

def IsBare (key : String) : Prop := key.toList ≠ [] ∧ ∀ c ∈ key.toList, isBareChar c = true

theorem ne_of_isBareChar {c : Char} (other : Char) (bare : isBareChar c = true)
    (apart : isBareChar other = false) : c ≠ other := by
  rintro rfl
  rw [apart] at bare
  cases bare

theorem IsBare.exists_cons {key : String} (bare : IsBare key) :
    ∃ c rest, key.toList = c :: rest ∧ isBareChar c = true := by
  obtain ⟨c, rest, split⟩ := List.exists_cons_of_ne_nil bare.1
  exact ⟨c, rest, split, bare.2 c (by rw [split]; exact List.mem_cons_self)⟩

theorem readKeyPart_bare {key : String} {rest : List Char} (bare : IsBare key)
    (ends : StopsAt isBareChar rest) : readKeyPart (key.toList ++ rest) = some (key, rest) := by
  obtain ⟨c, more, split, first⟩ := bare.exists_cons
  obtain ⟨taken, left⟩ := takeWhile_append_of_stopsAt bare.2 ends
  have double := ne_of_isBareChar '"' first rfl
  have single := ne_of_isBareChar '\'' first rfl
  have name : String.ofList (c :: more) = key := by rw [← split, String.ofList_toList]
  rw [split, List.cons_append] at taken left ⊢
  unfold readKeyPart
  simp [taken, left, name, double, single]

theorem readKey_bare {key : String} (bare : IsBare key) (fuel : Nat) (rest : List Char) :
    readKey (fuel + 1) (key.toList ++ ' ' :: '=' :: rest) = some ([key], '=' :: rest) := by
  obtain ⟨c, more, split, first⟩ := bare.exists_cons
  have visible : StopsAt isBlankChar (key.toList ++ ' ' :: '=' :: rest) := by
    have space := ne_of_isBareChar ' ' first rfl
    have tab := ne_of_isBareChar '\t' first rfl
    rw [split]
    exact stopsAt_cons (by simp [isBlankChar, space, tab]) _
  rw [readKey, skipBlanks_of_stopsAt visible, readKeyPart_bare bare (stopsAt_cons rfl _)]
  rfl

end Keys

section Values

theorem readValue_quoted (fuel : Nat) (text : String) {rest : List Char}
    (stops : StopsAt isQuote rest) :
    readValue (fuel + 1) (quoted text ++ rest) = some (.text text, rest) := by
  have read := readString_quoted text stops
  obtain ⟨quote, more, isQuote, split⟩ := head?_quoted text
  have square : quote ≠ '[' := by rintro rfl; cases isQuote
  have curly : quote ≠ '\x7b' := by rintro rfl; cases isQuote
  rw [split, List.cons_append] at read ⊢
  rw [readValue, if_neg square, if_neg curly, read]
  simp

theorem readItems_close (fuel : Nat) (before : List Value) {gap : List Char}
    (blank : ∀ c ∈ gap, isGapChar c = true) (rest : List Char) :
    readItems (fuel + 1) before (gap ++ ']' :: rest) = some (.array before, rest) := by
  rw [readItems, skipGap_append blank, skipGap_cons (by decide) (by decide)]
  rfl

theorem readItems_quoted (fuel : Nat) (before : List Value) {gap : List Char} (text : String)
    {c : Char} (blank : ∀ c ∈ gap, isGapChar c = true) (ends : c = ',' ∨ c = ']')
    (rest : List Char) :
    readItems (fuel + 2) before (gap ++ (quoted text ++ c :: rest)) =
      if c = ',' then readItems (fuel + 1) (before ++ [.text text]) rest
      else some (.array (before ++ [.text text]), rest) := by
  have stops : StopsAt isQuote (c :: rest) :=
    stopsAt_cons (by rcases ends with rfl | rfl <;> rfl) rest
  have following : skipGap false (c :: rest) = some (c :: rest) := by
    rcases ends with rfl | rfl <;> exact skipGap_cons (by decide) (by decide) rest
  have read := readValue_quoted fuel text stops
  obtain ⟨quote, more, isQuote, split⟩ := head?_quoted text
  have visible : isGapChar quote = false ∧ quote ≠ '#' ∧ quote ≠ ']' := by
    rcases isQuote_iff.mp isQuote with rfl | rfl <;> decide
  rw [split, List.cons_append] at read ⊢
  rw [readItems, skipGap_append blank, skipGap_cons visible.1 visible.2.1]
  rcases ends with rfl | rfl <;> simp [visible.2.2, read, following]

/-- The lines of an array that has each item on a line of its own. -/
def itemLines (items : List String) : List Char :=
  items.flatMap fun item => "    ".toList ++ quoted item ++ ",\n".toList

theorem length_le_itemLines (items : List String) : items.length ≤ (itemLines items).length := by
  induction items with
  | nil => exact Nat.le_refl 0
  | cons item items ih =>
    simp only [itemLines, List.flatMap_cons, List.length_append, List.length_cons] at ih ⊢
    have feed : 0 < ",\n".toList.length := by decide
    omega

theorem readItems_lines {fuel : Nat} (before : List Value) {items : List String}
    (enough : items.length < fuel) {gap : List Char} (blank : ∀ c ∈ gap, isGapChar c = true)
    (rest : List Char) :
    readItems fuel before (gap ++ (itemLines items ++ ']' :: rest)) =
      some (.array (before ++ items.map .text), rest) := by
  induction items generalizing fuel before gap with
  | nil =>
    obtain ⟨fuel, rfl⟩ := Nat.exists_eq_add_of_lt enough
    simpa [itemLines] using readItems_close _ before blank rest
  | cons item items ih =>
    obtain ⟨fuel, rfl⟩ : ∃ less, fuel = less + 2 := ⟨fuel - 2, by simp at enough; omega⟩
    have indented : ∀ c ∈ gap ++ "    ".toList, isGapChar c = true :=
      List.forall_mem_append.mpr ⟨blank, by simp [isGapChar, isBlankChar]⟩
    have feed : ∀ c ∈ ['\n'], isGapChar c = true := by simp [isGapChar]
    have later := ih (before ++ [.text item]) (Nat.lt_of_succ_lt_succ enough) feed
    have read := readItems_quoted fuel before item indented (.inl rfl)
      (['\n'] ++ (itemLines items ++ ']' :: rest))
    rw [if_pos rfl, later] at read
    simpa [itemLines] using read

end Values

section Lines

/-- A text that is read as a value, whatever follows it on the next line. -/
structure Written (value : Value) (text : List Char) : Prop where
  nonempty : text ≠ []
  visible : StopsAt isBlankChar text
  plain : '\r' ∉ text
  read : ∀ fuel rest, text.length < fuel →
    readValue fuel (text ++ '\n' :: rest) = some (value, '\n' :: rest)

theorem written_quoted (text : String) : Written (.text text) (quoted text) := by
  obtain ⟨quote, more, isQuote, split⟩ := head?_quoted text
  refine ⟨by simp [split], ?_, ?_, fun fuel rest enough => ?_⟩
  · rw [split]
    apply stopsAt_cons
    rcases isQuote_iff.mp isQuote with rfl | rfl <;> decide
  · intro member
    rcases mem_quoted member with inside | feed
    · cases inside
    · cases feed
  · obtain ⟨fuel, rfl⟩ := Nat.exists_eq_add_of_lt enough
    exact readValue_quoted _ text (stopsAt_cons rfl rest)

/-- A key that is new in the document gets the value on its line. -/
theorem readLines_line {fuel : Nat} {members : Members} {key : String} {value : Value}
    {text : List Char} (bare : IsBare key) (fresh : members.lookup key = none)
    (written : Written value text) (enough : text.length ≤ fuel) (rest : List Char) :
    readLines (fuel + 1) { members := members }
        (key.toList ++ ' ' :: '=' :: ' ' :: (text ++ '\n' :: rest)) =
      readLines fuel { members := members ++ [(key, value)] } rest := by
  obtain ⟨c, more, split, first⟩ := bare.exists_cons
  have visible : isGapChar c = false := by
    rw [Bool.eq_false_iff]
    intro gap
    simp only [isGapChar, isBlankChar, Bool.or_eq_true, decide_eq_true_eq] at gap
    rcases gap with (rfl | rfl) | rfl <;> cases first
  have hash := ne_of_isBareChar '#' first rfl
  have header := ne_of_isBareChar '[' first rfl
  have named := readKey_bare bare fuel (' ' :: (text ++ '\n' :: rest))
  have blank : skipBlanks (' ' :: (text ++ '\n' :: rest)) = text ++ '\n' :: rest := by
    obtain ⟨d, others, same⟩ := List.exists_cons_of_ne_nil written.nonempty
    have begins : StopsAt isBlankChar (text ++ '\n' :: rest) := by
      rw [same]
      exact stopsAt_cons (written.visible d (by rw [same]; rfl)) _
    exact skipBlanks_of_stopsAt begins
  have valued := written.read (fuel + 1) rest (Nat.lt_succ_of_le enough)
  have defined : members.define value [key] = some (members ++ [(key, value)]) := by
    simp [Members.define, fresh]
  rw [split, List.cons_append] at named ⊢
  rw [readLines, skipGap_cons visible hash]
  simp [header, named, expect, blank, valued, Members.within, defined, endLine]

/-- A document of one line for each member, in order. -/
inductive Lines : Members → List Char → Prop where
  | nil : Lines [] []
  | cons {key : String} {value : Value} {text : List Char} {members : Members} {rest : List Char}
    (bare : IsBare key) (written : Written value text) (others : Lines members rest) :
    Lines ((key, value) :: members) (key.toList ++ ' ' :: '=' :: ' ' :: (text ++ '\n' :: rest))

theorem lookup_eq_none {members : Members} {key : String} (apart : key ∉ members.map Prod.fst) :
    members.lookup key = none := by
  rw [List.lookup_eq_none_iff]
  intro member inside
  rw [bne_iff_ne]
  rintro rfl
  exact apart (List.mem_map_of_mem inside)

/-- As long as each key is new, the members are those of the lines before and of those ahead. -/
theorem readLines_lines {fuel : Nat} {before members : Members} {text : List Char}
    (lines : Lines members text) (distinct : ((before ++ members).map Prod.fst).Nodup)
    (enough : text.length < fuel) :
    readLines fuel { members := before } text = some (before ++ members) := by
  induction lines generalizing fuel before with
  | nil =>
    obtain ⟨fuel, rfl⟩ := Nat.exists_eq_add_of_lt enough
    rw [List.append_nil]
    rfl
  | @cons key value text members rest bare written others ih =>
    obtain ⟨fuel, rfl⟩ : ∃ less, fuel = less + 1 := ⟨fuel - 1, by omega⟩
    simp only [List.length_append, List.length_cons] at enough
    have fresh : before.lookup key = none := by
      apply lookup_eq_none
      rw [List.map_append, List.map_cons] at distinct
      exact fun inside => List.nodup_append.mp distinct |>.2.2 key inside key List.mem_cons_self rfl
    have short : text.length ≤ fuel := by omega
    rw [List.append_cons] at distinct
    rw [readLines_line bare fresh written short rest, ih distinct (by omega), ← List.append_cons]

theorem Lines.plain {members : Members} {text : List Char} (lines : Lines members text) :
    '\r' ∉ text ∧ text.head? ≠ some '\uFEFF' := by
  induction lines with
  | nil => exact ⟨List.not_mem_nil, nofun⟩
  | @cons key value text members rest bare written others ih =>
    have apart {c : Char} (other : isBareChar c = false) : c ∉ key.toList := fun inside =>
      ne_of_isBareChar c (bare.2 c inside) other rfl
    constructor
    · simp [apart (c := '\r') rfl, written.plain, ih.1]
    · obtain ⟨c, more, split, first⟩ := bare.exists_cons
      have mark : isBareChar '\uFEFF' = false := by decide
      rw [split, List.cons_append, List.head?_cons]
      exact fun same => ne_of_isBareChar _ first mark (Option.some.inj same)

/-- A document with one line for each of its keys has these members. -/
theorem read_lines {members : Members} {text : String} (lines : Lines members text.toList)
    (distinct : (members.map Prod.fst).Nodup) : read text = some members := by
  obtain ⟨plain, unmarked⟩ := lines.plain
  have whole : dropMark text.toList = text.toList := by
    unfold dropMark
    split
    · rename_i same
      rw [same] at unmarked
      exact absurd rfl unmarked
    · rfl
  rw [read, whole, joinLineEnds_eq_self plain]
  exact readLines_lines lines distinct (Nat.lt_succ_of_le String.length_toList.le)

end Lines

end HdlClosure.Toml
