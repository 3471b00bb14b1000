import HdlClosure.Instantiation
import HdlClosure.Proofs.Text.Runs

namespace HdlClosure

open Text

section Pieces

def Blanks (text : List Char) : Prop := ∀ c ∈ text, isBlank c = true

theorem blanks_nil : Blanks [] := fun _ member => nomatch member

theorem blanks_singleton {c : Char} (blank : isBlank c = true) : Blanks [c] :=
  List.forall_mem_singleton.mpr blank

def IsWord (text : List Char) : Prop := text ≠ [] ∧ ∀ c ∈ text, isWordChar c = true

theorem isWord_iff {text : List Char} :
    IsWord text ↔ (!text.isEmpty && text.all isWordChar) = true := by
  simp [IsWord]

theorem not_mem_of_isWord {word : List Char} {c : Char} (isWord : IsWord word)
    (other : isWordChar c = false) : c ∉ word := by
  intro member
  rw [isWord.2 c member] at other
  cases other

theorem isWordChar_of_isBlank {c : Char} (blank : isBlank c = true) : isWordChar c = false :=
  of_isBlank blank (by decide +kernel)

theorem visible_of_isWord {word : List Char} (isWord : IsWord word) :
    ∀ c ∈ word, isBlank c = false := by
  intro c member
  rw [Bool.eq_false_iff]
  intro blank
  exact not_mem_of_isWord isWord (isWordChar_of_isBlank blank) member

theorem stopsAt_blank_of_word {word : List Char} (isWord : IsWord word) (rest : List Char) :
    StopsAt isBlank (word ++ rest) := by
  obtain ⟨visible, inside⟩ := isWord
  cases word with
  | nil => exact absurd rfl visible
  | cons c word =>
    apply stopsAt_cons
    rw [Bool.eq_false_iff]
    intro blank
    have outside := isWordChar_of_isBlank blank
    rw [inside c (by simp)] at outside
    cases outside

/-- Blanks end a word; without any, what follows has to. -/
theorem stopsAt_word_of_blanks {blanks rest : List Char} (areBlank : Blanks blanks)
    (stops : blanks = [] → StopsAt isWordChar rest) : StopsAt isWordChar (blanks ++ rest) := by
  cases blanks with
  | nil => exact stops rfl
  | cons c blanks => exact stopsAt_cons (isWordChar_of_isBlank (areBlank c (by simp))) _

end Pieces

section Readers

theorem trimStart_append {blanks rest : List Char} (areBlank : Blanks blanks)
    (stops : StopsAt isBlank rest) : trimStart (blanks ++ rest) = rest :=
  (takeWhile_append_of_stopsAt areBlank stops).2

theorem exists_trimStart (text : List Char) :
    ∃ blanks, Blanks blanks ∧ text = blanks ++ trimStart text :=
  ⟨text.takeWhile isBlank, fun _ member => List.mem_takeWhile_imp member,
    List.takeWhile_append_dropWhile.symm⟩

theorem takeWord?_eq_some_iff {text word rest : List Char} :
    takeWord? text = some (word, rest) ↔
      text = word ++ rest ∧ IsWord word ∧ StopsAt isWordChar rest := by
  constructor
  · intro taken
    unfold takeWord? at taken
    split at taken
    · cases taken
    · rename_i visible
      cases taken
      exact ⟨List.takeWhile_append_dropWhile.symm,
        ⟨visible, fun _ member => List.mem_takeWhile_imp member⟩, stopsAt_dropWhile _ _⟩
  · intro given
    obtain ⟨rfl, ⟨visible, inside⟩, stops⟩ := given
    obtain ⟨taken, left⟩ := takeWhile_append_of_stopsAt inside stops
    unfold takeWord?
    rw [taken, left]
    cases word with
    | nil => exact absurd rfl visible
    | cons c word => rfl

theorem takeWord?_append {word rest : List Char} (isWord : IsWord word)
    (stops : StopsAt isWordChar rest) : takeWord? (word ++ rest) = some (word, rest) :=
  takeWord?_eq_some_iff.mpr ⟨rfl, isWord, stops⟩

theorem takeChar?_eq_some_iff {expected : Char} {text rest : List Char} :
    takeChar? expected text = some rest ↔ text = expected :: rest := by
  cases text with
  | nil => simp [takeChar?]
  | cons c text =>
    simp only [takeChar?, List.cons.injEq]
    split <;> simp [*]

/-- A word that spells a lowercase keyword, in either case or as it stands. -/
def Spells (anyCase : Bool) (word keyword : List Char) : Prop :=
  (if anyCase then word.map Char.toLower else word) = keyword

theorem spells_cons {anyCase : Bool} {c k : Char} {word keyword : List Char}
    (lowercase : k.toLower = k) : Spells anyCase (c :: word) (k :: keyword) ↔
      (c = k ∨ (anyCase = true ∧ c.toLower = k)) ∧ Spells anyCase word keyword := by
  cases anyCase with
  | false => simp [Spells]
  | true =>
    have either : c.toLower = k ↔ c = k ∨ c.toLower = k :=
      ⟨.inr, fun same => same.elim (fun equal => equal ▸ lowercase) id⟩
    simp [Spells, ← either]

theorem takeKeyword?_eq_some_iff {anyCase : Bool} {keyword text rest : List Char}
    (lowercase : ∀ k ∈ keyword, k.toLower = k) :
    takeKeyword? anyCase keyword text = some rest ↔
      ∃ word, Spells anyCase word keyword ∧ text = word ++ rest := by
  induction keyword generalizing text with
  | nil =>
    have empty (word : List Char) : Spells anyCase word [] ↔ word = [] := by
      cases anyCase <;> simp [Spells]
    simp [takeKeyword?, empty]
  | cons k keyword ih =>
    have letter := lowercase k (by simp)
    have short : ¬ Spells anyCase [] (k :: keyword) := by
      cases anyCase <;> simp [Spells]
    constructor
    · intro taken
      cases text with
      | nil => cases taken
      | cons c text =>
        simp only [takeKeyword?] at taken
        split at taken
        · rename_i same
          obtain ⟨word, spelled, rfl⟩ :=
            (ih fun k member => lowercase k (by simp [member])).mp taken
          exact ⟨c :: word, (spells_cons letter).mpr ⟨same, spelled⟩, rfl⟩
        · cases taken
    · intro given
      obtain ⟨word, spelled, rfl⟩ := given
      cases word with
      | nil => exact absurd spelled short
      | cons c word =>
        obtain ⟨same, spelledRest⟩ := (spells_cons letter).mp spelled
        have taken : takeKeyword? anyCase keyword (word ++ rest) = some rest :=
          (ih fun k member => lowercase k (by simp [member])).mpr ⟨word, spelledRest, rfl⟩
        simpa [takeKeyword?, same] using taken

end Readers

theorem toLower_of_isBlank {c : Char} (blank : isBlank c = true) : c.toLower = c :=
  of_isBlank blank (by decide +kernel)

theorem stopsAt_blank_of_spells {anyCase : Bool} {word keyword : List Char} {k : Char}
    (letter : k.toLower = k) (visible : isBlank k = false)
    (spelled : Spells anyCase word (k :: keyword)) (rest : List Char) :
    StopsAt isBlank (word ++ rest) := by
  cases word with
  | nil => cases anyCase <;> simp [Spells] at spelled
  | cons c word =>
    obtain ⟨same, _⟩ := (spells_cons letter).mp spelled
    apply stopsAt_cons
    rw [Bool.eq_false_iff]
    intro blank
    have equal : c = k := same.elim id fun ⟨_, lower⟩ => (toLower_of_isBlank blank).symm.trans lower
    rw [equal, visible] at blank
    cases blank

inductive CallLine : List Char → List Char → Prop where
  | of {before type between name after : List Char} (rest : List Char) (indented : Blanks before)
    (typed : IsWord type) (apart : between ≠ []) (spaced : Blanks between) (named : IsWord name)
    (opened : Blanks after) :
    CallLine (before ++ (type ++ (between ++ (name ++ (after ++ '(' :: rest))))) type

/-- A line of the shape `label : entity library.name`. What follows the name does not go on with
it. -/
inductive EntityLine (anyCase : Bool) : List Char → List Char → List Char → Prop where
  | of {before label after between keyword blanks library entity rest : List Char}
    (indented : Blanks before) (labelled : IsWord label) (closed : Blanks after)
    (spaced : Blanks between) (spelled : Spells anyCase keyword "entity".toList)
    (parted : Blanks blanks) (stored : IsWord library) (named : IsWord entity)
    (ends : StopsAt isWordChar rest) :
    EntityLine anyCase (before ++ (label ++ (after ++ ':' :: (between ++ (keyword ++
      (blanks ++ (library ++ '.' :: (entity ++ rest)))))))) label entity

section Lines

theorem calledType?_eq_some_iff {line type : List Char} :
    calledType? line = some type ↔ CallLine line type := by
  constructor
  · intro called
    simp only [calledType?, Option.bind_eq_bind, Option.bind_eq_some_iff, Prod.exists,
      Option.pure_def] at called
    obtain ⟨word, rest, first, called⟩ := called
    split at called
    · rename_i shorter
      simp only [Option.bind_eq_some_iff, Prod.exists, takeChar?_eq_some_iff] at called
      obtain ⟨name, rest', second, rest'', bracket, same⟩ := called
      cases same
      obtain ⟨before, indented, line⟩ := exists_trimStart line
      obtain ⟨between, spaced, middle⟩ := exists_trimStart rest
      obtain ⟨after, opened, last⟩ := exists_trimStart rest'
      obtain ⟨firstSplit, typed, _⟩ := takeWord?_eq_some_iff.mp first
      obtain ⟨secondSplit, named, _⟩ := takeWord?_eq_some_iff.mp second
      -- The reader compares lengths to see that blanks were skipped.
      have apart : between ≠ [] := by
        rintro rfl
        rw [List.nil_append] at middle
        rw [← middle] at shorter
        exact Nat.lt_irrefl _ shorter
      rw [line, firstSplit, middle, secondSplit, last, bracket]
      exact .of rest'' indented typed apart spaced named opened
    · cases called
  · intro given
    obtain ⟨rest, indented, typed, apart, spaced, named, opened⟩ := given
    rename_i before between name after
    have bracket : trimStart (after ++ '(' :: rest) = '(' :: rest :=
      trimStart_append opened (stopsAt_cons (by decide) rest)
    have second : takeWord? (name ++ (after ++ '(' :: rest)) = some (name, _) :=
      takeWord?_append named
        (stopsAt_word_of_blanks opened fun _ => stopsAt_cons (by decide +kernel) rest)
    have skipped := trimStart_append spaced (stopsAt_blank_of_word named (after ++ '(' :: rest))
    have first : takeWord? (type ++ (between ++ (name ++ (after ++ '(' :: rest)))) =
        some (type, _) :=
      takeWord?_append typed (stopsAt_word_of_blanks spaced fun empty => absurd empty apart)
    have start := trimStart_append indented
      (stopsAt_blank_of_word typed (between ++ (name ++ (after ++ '(' :: rest))))
    simp [calledType?, start, first, skipped, apart, second, bracket, takeChar?]

theorem entityUse?_eq_some_iff {anyCase : Bool} {line label entity : List Char} :
    entityUse? anyCase line = some (label, entity) ↔ EntityLine anyCase line label entity := by
  have letters : "entity".toList.all (fun k => k.toLower == k) = true := by decide
  have lowercase : ∀ k ∈ "entity".toList, k.toLower = k :=
    fun k member => eq_of_beq (List.all_eq_true.mp letters k member)
  constructor
  · intro used
    simp only [entityUse?, Option.bind_eq_bind, Option.bind_eq_some_iff, Prod.exists,
      Option.pure_def, takeWord?_eq_some_iff, takeChar?_eq_some_iff,
      takeKeyword?_eq_some_iff lowercase] at used
    obtain ⟨word, colon, ⟨first, labelled, _⟩, start, second, names, ⟨keyword, spelled, third⟩,
      library, dot, ⟨fourth, stored, _⟩, name, rfl, last, rest, ⟨rfl, named, ends⟩, same⟩ := used
    cases same
    obtain ⟨before, indented, line⟩ := exists_trimStart line
    obtain ⟨after, closed, middle⟩ := exists_trimStart colon
    obtain ⟨between, spaced, inner⟩ := exists_trimStart start
    obtain ⟨blanks, parted, outer⟩ := exists_trimStart names
    rw [line, first, middle, second, inner, third, outer, fourth]
    exact .of indented labelled closed spaced spelled parted stored named ends
  · intro given
    obtain ⟨indented, labelled, closed, spaced, spelled, parted, stored, named, ends⟩ := given
    rename_i before after between keyword blanks library rest
    have final := takeWord?_append named ends
    have dotted := takeWord?_append stored
      (stopsAt_cons (c := '.') (by decide +kernel) (entity ++ rest))
    have outer := trimStart_append parted
      (stopsAt_blank_of_word stored ('.' :: (entity ++ rest)))
    -- Each reader in turn stops where the next part of the line begins.
    have key (tail : List Char) : takeKeyword? anyCase "entity".toList (keyword ++ tail) =
        some tail := (takeKeyword?_eq_some_iff lowercase).mpr ⟨keyword, spelled, rfl⟩
    have inner (tail : List Char) : trimStart (between ++ (keyword ++ tail)) = keyword ++ tail :=
      trimStart_append spaced (stopsAt_blank_of_spells (by decide) (by decide) spelled tail)
    have middle (tail : List Char) : trimStart (after ++ ':' :: tail) = ':' :: tail :=
      trimStart_append closed (stopsAt_cons (by decide) tail)
    have first (tail : List Char) : takeWord? (label ++ (after ++ ':' :: tail)) =
        some (label, after ++ ':' :: tail) :=
      takeWord?_append labelled
        (stopsAt_word_of_blanks closed fun _ => stopsAt_cons (by decide +kernel) tail)
    have start (tail : List Char) : trimStart (before ++ (label ++ tail)) = label ++ tail :=
      trimStart_append indented (stopsAt_blank_of_word labelled tail)
    simp only [entityUse?, start, first, middle, inner, key, outer, dotted, final, takeChar?,
      ↓reduceIte, Option.bind_eq_bind, Option.bind_some, Option.pure_def]

end Lines

namespace Dialect

variable {dialect : Dialect}

/-- A line has the shape of an instantiation, and the word is the one to take from it. Only where
the entity is taken may the keyword have capitals. -/
def Matches (dialect : Dialect) (line word : List Char) : Prop :=
  match dialect.language.family, dialect.capture with
  | .call, _ => CallLine line word
  | .entity, .entity => ∃ label, EntityLine true line label word
  | .entity, .label => ∃ entity, EntityLine false line word entity

theorem captured?_eq_some_iff {line word : List Char} :
    dialect.captured? line = some word ↔ dialect.Matches line word := by
  unfold captured? Matches
  cases dialect.language.family with
  | call => exact calledType?_eq_some_iff
  | entity =>
    cases dialect.capture with
    | entity => simp [entityUse?_eq_some_iff]
    | label => simp [entityUse?_eq_some_iff]

/-- A line, once trimmed, is no comment and instantiates a module; the name is in lowercase and not
that of a primitive. -/
def LineInstantiates (dialect : Dialect) (line : List Char) (name : String) : Prop :=
  trim line ≠ [] ∧ ¬ dialect.language.commentMarker.toList <+: trim line ∧ name ∉ primitives ∧
    ∃ word, dialect.Matches (trim line) word ∧ name = String.ofList (lower word)

theorem isCode_iff {line : List Char} : dialect.isCode line = true ↔
    line ≠ [] ∧ ¬ dialect.language.commentMarker.toList <+: line := by
  rw [isCode, Bool.and_eq_true, Bool.not_eq_true', Bool.not_eq_true', Bool.eq_false_iff,
    Bool.eq_false_iff, Ne, Ne, List.isEmpty_iff, List.isPrefixOf_iff_prefix]

theorem instanceOf?_eq_some_iff {line : List Char} {name : String} :
    dialect.instanceOf? line = some name ↔ dialect.LineInstantiates line name := by
  unfold instanceOf? LineInstantiates
  by_cases code : dialect.isCode (trim line) = true
  · obtain ⟨visible, plain⟩ := isCode_iff.mp code
    rw [if_pos code, Option.bind_eq_some_iff]
    simp only [captured?_eq_some_iff]
    constructor
    · intro given
      obtain ⟨word, matched, taken⟩ := given
      split at taken
      · cases taken
      · rename_i defined
        cases taken
        exact ⟨visible, plain, by simpa [isPrimitive] using defined, word, matched, rfl⟩
    · intro given
      obtain ⟨_, _, defined, word, matched, rfl⟩ := given
      exact ⟨word, matched, if_neg (by simpa [isPrimitive] using defined)⟩
  · rw [if_neg code]
    refine ⟨fun found => (nomatch found), fun ⟨visible, plain, _⟩ => ?_⟩
    exact absurd (isCode_iff.mpr ⟨visible, plain⟩) code

theorem mem_instances {source name : String} :
    name ∈ dialect.instances source ↔
      ∃ line ∈ lines source.toList, dialect.LineInstantiates line name := by
  simp only [instances, List.mem_filterMap, instanceOf?_eq_some_iff]

end Dialect

end HdlClosure
