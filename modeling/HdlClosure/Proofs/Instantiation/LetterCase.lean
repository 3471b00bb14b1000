import HdlClosure.Proofs.Instantiation.EntityUses
import HdlClosure.Proofs.Instantiation.Layout
import HdlClosure.Proofs.Text.Lowercase
import Mathlib.Data.List.Forall2

/-! The case of ASCII letters in a source. It decides neither where words end nor what is blank, and
lowercasing takes it away from the names that are read. Only the keyword is spelled in one case, and
only where labels are taken. -/
namespace HdlClosure

open Text

/-- Texts that differ in the case of ASCII letters at most. -/
def Text.SameLetters (text other : List Char) : Prop :=
  text.map Char.toLower = other.map Char.toLower

instance (text other : List Char) : Decidable (Text.SameLetters text other) :=
  inferInstanceAs (Decidable (text.map Char.toLower = other.map Char.toLower))

namespace Text.SameLetters

variable {text other rest : List Char}

theorem map_eq (same : SameLetters text other) :
    text.map Char.toLower = other.map Char.toLower :=
  same

theorem symm (same : SameLetters text other) : SameLetters other text :=
  same.map_eq.symm

/-- The characters that are looked for in a line, or that end one. None of them is a letter. -/
def marks : List Char := ['\n', '\r', '(', ':', '.']

/-- What is asked about a character has the same answer for both cases of a letter. -/
theorem kinds_toLower (c : Char) : isBlank c.toLower = isBlank c ∧
    isWordChar c.toLower = isWordChar c ∧
    marks.all (fun mark => (c.toLower == mark) == (c == mark)) = true := by
  have letters : ∀ k < 26, let c := Char.ofNat ('A'.toNat + k)
      isBlank c.toLower = isBlank c ∧ isWordChar c.toLower = isWordChar c ∧
      marks.all (fun mark => (c.toLower == mark) == (c == mark)) = true := by
    decide +kernel
  rcases toLower_cases c with same | ⟨k, bound, rfl⟩
  · rw [same]
    exact ⟨rfl, rfl, List.all_eq_true.mpr fun mark _ => beq_self_eq_true _⟩
  · exact letters k bound

theorem isBlank_toLower (c : Char) : isBlank c.toLower = isBlank c :=
  (kinds_toLower c).1

theorem isWordChar_toLower (c : Char) : isWordChar c.toLower = isWordChar c :=
  (kinds_toLower c).2.1

theorem toLower_eq_iff {mark : Char} (listed : mark ∈ marks) (c : Char) :
    c.toLower = mark ↔ c = mark := by
  have alike := List.all_eq_true.mp (kinds_toLower c).2.2 mark listed
  rw [beq_iff_eq, Bool.eq_iff_iff, beq_iff_eq, beq_iff_eq] at alike
  exact alike

section Pieces

theorem exists_append (same : SameLetters (text ++ rest) other) :
    ∃ first second, other = first ++ second ∧ SameLetters text first ∧ SameLetters rest second := by
  have parts := same.map_eq.symm
  rw [List.map_append, List.map_eq_append_iff] at parts
  obtain ⟨first, second, rfl, left, right⟩ := parts
  exact ⟨first, second, rfl, left.symm, right.symm⟩

theorem exists_cons {mark : Char} (listed : mark ∈ marks)
    (same : SameLetters (mark :: rest) other) :
    ∃ second, other = mark :: second ∧ SameLetters rest second := by
  have parts := same.map_eq.symm
  rw [List.map_cons, List.map_eq_cons_iff] at parts
  obtain ⟨c, second, rfl, first, right⟩ := parts
  rw [(toLower_eq_iff listed mark).mpr rfl, toLower_eq_iff listed] at first
  exact ⟨second, by rw [first], right.symm⟩

theorem forall_mem {kind : Char → Bool} (blind : ∀ c : Char, kind c.toLower = kind c)
    (same : SameLetters text other) (inside : ∀ c ∈ text, kind c = true) :
    ∀ c ∈ other, kind c = true := by
  intro c member
  have listed : c.toLower ∈ text.map Char.toLower := by
    rw [same.map_eq]
    exact List.mem_map_of_mem member
  obtain ⟨d, found, equal⟩ := List.mem_map.mp listed
  rw [← blind c, ← equal, blind d]
  exact inside d found

theorem blanks (same : SameLetters text other) (areBlank : Blanks text) : Blanks other :=
  same.forall_mem isBlank_toLower areBlank

theorem ne_nil (same : SameLetters text other) (some : text ≠ []) : other ≠ [] := by
  rintro rfl
  exact some (List.map_eq_nil_iff.mp same)

theorem isWord (same : SameLetters text other) (isWord : IsWord text) : IsWord other :=
  ⟨same.ne_nil isWord.1, same.forall_mem isWordChar_toLower isWord.2⟩

theorem stopsAt_word (same : SameLetters text other) (stops : StopsAt isWordChar text) :
    StopsAt isWordChar other := by
  intro c head
  have heads : text.head?.map Char.toLower = some c.toLower := by
    rw [← List.head?_map, same.map_eq, List.head?_map, head, Option.map_some]
  obtain ⟨d, front, equal⟩ := Option.map_eq_some_iff.mp heads
  rw [← isWordChar_toLower c, ← equal, isWordChar_toLower d]
  exact stops d front

end Pieces

section Trim

theorem trimStart (same : SameLetters text other) :
    SameLetters (Text.trimStart text) (Text.trimStart other) := by
  have blind : isBlank ∘ Char.toLower = isBlank := funext isBlank_toLower
  have lowered (text : List Char) :
      (Text.trimStart text).map Char.toLower = Text.trimStart (text.map Char.toLower) := by
    rw [Text.trimStart, Text.trimStart, List.dropWhile_map, blind]
  rw [SameLetters, lowered, lowered, same.map_eq]

theorem reverse (same : SameLetters text other) : SameLetters text.reverse other.reverse := by
  rw [SameLetters, List.map_reverse, List.map_reverse, same.map_eq]

theorem trim (same : SameLetters text other) : SameLetters (Text.trim text) (Text.trim other) :=
  same.trimStart.reverse.trimStart.reverse

end Trim

end Text.SameLetters

section Lines

theorem not_mem_map_toLower {mark : Char} (listed : mark ∈ SameLetters.marks)
    {text : List Char} (absent : mark ∉ text) : mark ∉ text.map Char.toLower := by
  rintro member
  obtain ⟨c, inside, equal⟩ := List.mem_map.mp member
  rw [SameLetters.toLower_eq_iff listed] at equal
  exact absent (equal ▸ inside)

theorem map_toLower_dropReturn (line : List Char) :
    (dropReturn line).map Char.toLower = dropReturn (line.map Char.toLower) := by
  have ends : (line.map Char.toLower).getLast? = some '\r' ↔ line.getLast? = some '\r' := by
    rw [List.getLast?_map]
    cases line.getLast? with
    | none => simp
    | some c => simpa using SameLetters.toLower_eq_iff (by decide) c
  rw [dropReturn, dropReturn]
  split
  · rename_i returned
    rw [if_pos (ends.mpr returned), List.map_dropLast]
  · rename_i other
    rw [if_neg (ends.not.mpr other)]

theorem hasLines_map_toLower {text : List Char} {listed : List (List Char)}
    (split : HasLines text listed) :
    HasLines (text.map Char.toLower) (listed.map (List.map Char.toLower)) := by
  induction split with
  | none => exact .none
  | last visible plain =>
    exact .last (by simpa using visible) (not_mem_map_toLower (by decide) plain)
  | @more line rest _ plain _ ih =>
    have feed : Char.toLower '\n' = '\n' := by decide
    rw [List.map_append, List.map_cons, List.map_cons, map_toLower_dropReturn, feed]
    exact .more (not_mem_map_toLower (by decide) plain) ih

theorem lines_map_toLower (text : List Char) :
    lines (text.map Char.toLower) = (lines text).map (List.map Char.toLower) :=
  hasLines_iff.mp (hasLines_map_toLower (hasLines_lines text))

theorem forall₂_of_map_eq {α β : Type} {look : α → β} {first second : List α}
    (same : first.map look = second.map look) :
    List.Forall₂ (fun item other => look item = look other) first second := by
  rw [← List.forall₂_eq_eq_eq, List.forall₂_map_left_iff, List.forall₂_map_right_iff] at same
  exact same

end Lines

section Colon

/-- What a line says from its first colon on; nothing where it has none. -/
def fromColon (line : List Char) : List Char := line.dropWhile (· ≠ ':')

variable {front line : List Char}

theorem fromColon_append (plain : ':' ∉ front) (rest : List Char) :
    fromColon (front ++ rest) = fromColon rest := by
  refine List.dropWhile_append_of_pos fun c member => ?_
  rw [decide_eq_true_eq]
  rintro rfl
  exact plain member

theorem fromColon_cons (rest : List Char) : fromColon (':' :: rest) = ':' :: rest := rfl

theorem fromColon_plain (plain : ':' ∉ line) : fromColon line = [] := by
  have none := fromColon_append plain []
  rwa [List.append_nil] at none

theorem mem_of_mem_trimStart {c : Char} {text : List Char} (member : c ∈ trimStart text) :
    c ∈ text :=
  (List.dropWhile_sublist isBlank).subset member

theorem mem_of_mem_trim {c : Char} {text : List Char} (member : c ∈ trim text) : c ∈ text := by
  rw [trim, List.mem_reverse] at member
  exact mem_of_mem_trimStart (List.mem_reverse.mp (mem_of_mem_trimStart member))

theorem trimStart_append_cons {c : Char} (visible : isBlank c = false) (front rest : List Char) :
    trimStart (front ++ c :: rest) = trimStart front ++ c :: rest := by
  have kept : trimStart (c :: rest) = c :: rest := List.dropWhile_cons_of_neg (by simp [visible])
  have split : trimStart (front ++ c :: rest) =
      if (trimStart front).isEmpty then trimStart (c :: rest) else trimStart front ++ c :: rest :=
    List.dropWhile_append
  rw [split]
  split
  · rename_i empty
    rw [kept, List.isEmpty_iff.mp empty, List.nil_append]
  · rfl

theorem trim_append_cons {c : Char} (visible : isBlank c = false) (front rest : List Char) :
    trim (front ++ c :: rest) = trimStart front ++ trim (c :: rest) := by
  have kept : trimStart (c :: rest) = c :: rest := trimStart_append_cons visible [] rest
  have turned (before : List Char) : trimStart (before ++ c :: rest).reverse =
      trimStart rest.reverse ++ c :: before.reverse := by
    rw [← trimStart_append_cons visible]
    simp
  have alone := turned []
  rw [List.nil_append] at alone
  rw [trim, trim, trimStart_append_cons visible, kept, turned, alone]
  simp

/-- Trimming a line trims what it says from its first colon on. -/
theorem fromColon_trim (line : List Char) : fromColon (trim line) = trim (fromColon line) := by
  by_cases colon : ':' ∈ line
  · obtain ⟨front, rest, rfl, plain⟩ := List.eq_append_cons_of_mem colon
    have visible : ∀ c ∈ [':'], isBlank c = false := List.forall_mem_singleton.mpr (by decide)
    obtain ⟨more, kept⟩ : [':'] <+: trim (':' :: rest) := prefix_trim visible rest
    rw [trim_append_cons (by decide),
      fromColon_append fun member => plain (mem_of_mem_trimStart member), fromColon_append plain,
      fromColon_cons, ← kept]
    rfl
  · rw [fromColon_plain colon, fromColon_plain fun member => colon (mem_of_mem_trim member),
      trim_eq_nil blanks_nil]

end Colon

section Shapes

variable {text other : List Char}

theorem Calls.recased {name : String} (call : Calls text name) (same : SameLetters text other) :
    Calls other name := by
  cases call with
  | @of type between label after rest typed apart spaced named opened defined =>
    obtain ⟨type', _, rfl, typeSame, same⟩ := same.exists_append
    obtain ⟨between', _, rfl, betweenSame, same⟩ := same.exists_append
    obtain ⟨label', _, rfl, labelSame, same⟩ := same.exists_append
    obtain ⟨after', _, rfl, afterSame, same⟩ := same.exists_append
    obtain ⟨rest', rfl, _⟩ := same.exists_cons (by decide)
    rw [lower_congr typeSame] at defined ⊢
    exact .of rest' (typeSame.isWord typed) (betweenSame.ne_nil apart) (betweenSame.blanks spaced)
      (labelSame.isWord named) (afterSame.blanks opened) defined

theorem colon_not_mem_of_isWord {word : List Char} (isWord : IsWord word) : ':' ∉ word :=
  not_mem_of_isWord isWord (by decide +kernel)

theorem colon_not_mem_of_blanks {blanks : List Char} (areBlank : Blanks blanks) : ':' ∉ blanks := by
  intro member
  exact absurd (areBlank ':' member) (by decide)

/-- A use of an entity is one in the other text. Where labels are taken, the texts have to agree
from the first colon on, since this is where the keyword stands. -/
theorem EntityUse.recased {capture : Capture} {label entity : List Char}
    (use : EntityUse capture text label entity) (same : SameLetters text other)
    (keyword : capture = .label → fromColon text = fromColon other) :
    ∃ label' entity', EntityUse capture other label' entity' ∧
      SameLetters (capture.pick label entity) (capture.pick label' entity') := by
  cases use with
  | @of label after between word blanks library entity rest labelled closed spaced spelled parted
      stored named ends =>
    obtain ⟨label', _, rfl, labelSame, same⟩ := same.exists_append
    obtain ⟨after', _, rfl, afterSame, same⟩ := same.exists_append
    obtain ⟨tail, rfl, tailSame⟩ := same.exists_cons (by decide)
    have labelled' := labelSame.isWord labelled
    have closed' := afterSame.blanks closed
    cases capture with
    | entity =>
      obtain ⟨between', _, rfl, betweenSame, same⟩ := tailSame.exists_append
      obtain ⟨word', _, rfl, wordSame, same⟩ := same.exists_append
      obtain ⟨blanks', _, rfl, blanksSame, same⟩ := same.exists_append
      obtain ⟨library', _, rfl, librarySame, same⟩ := same.exists_append
      obtain ⟨_, rfl, nameSame⟩ := same.exists_cons (by decide)
      obtain ⟨entity', rest', rfl, entitySame, restSame⟩ := nameSame.exists_append
      have spelled' : Capture.entity.IsKeyword word' := wordSame.map_eq.symm.trans spelled
      exact ⟨label', entity', .of labelled' closed' (betweenSame.blanks spaced) spelled'
        (blanksSame.blanks parted) (librarySame.isWord stored) (entitySame.isWord named)
        (restSame.stopsAt_word ends), entitySame⟩
    | label =>
      -- From the colon on the texts are one, keyword and name included.
      have agree := keyword rfl
      rw [fromColon_append (colon_not_mem_of_isWord labelled),
        fromColon_append (colon_not_mem_of_blanks closed),
        fromColon_append (colon_not_mem_of_isWord labelled'),
        fromColon_append (colon_not_mem_of_blanks closed'), fromColon_cons, fromColon_cons] at agree
      obtain rfl := (List.cons.inj agree).2
      exact ⟨label', entity, .of labelled' closed' spaced spelled parted stored named ends,
        labelSame⟩

theorem EntityName.recased {capture : Capture} {name : String}
    (spelled : EntityName capture text name) (same : SameLetters text other)
    (keyword : capture = .label → fromColon text = fromColon other) :
    EntityName capture other name := by
  cases spelled with
  | of used defined =>
    obtain ⟨label', entity', used', picked⟩ := used.recased same keyword
    rw [lower_congr picked] at defined ⊢
    exact .of used' defined

end Shapes

namespace Dialect

variable {dialect : Dialect}

/-- The keyword of a line counts as it is spelled: labels are taken from its sources. -/
def TakesLabels (dialect : Dialect) : Prop := dialect.language = .vhdl ∧ dialect.capture = .label

theorem instanceOf?_of_recased {line other : List Char} {name : String}
    (found : dialect.instanceOf? line = some name) (same : SameLetters line other)
    (keyword : dialect.TakesLabels → fromColon line = fromColon other) :
    dialect.instanceOf? other = some name := by
  obtain ⟨language, capture⟩ := dialect
  cases language with
  | verilog =>
    rw [instanceOf?_eq_some_iff_calls (.inl rfl)] at found ⊢
    exact found.recased same.trim
  | systemVerilog =>
    rw [instanceOf?_eq_some_iff_calls (.inr rfl)] at found ⊢
    exact found.recased same.trim
  | vhdl =>
    have spelled := (instanceOf?_eq_some_iff_entityName line name).mp found
    refine (instanceOf?_eq_some_iff_entityName other name).mpr (spelled.recased same.trim ?_)
    rintro rfl
    rw [fromColon_trim, fromColon_trim, keyword ⟨rfl, rfl⟩]

theorem instanceOf?_recased {line other : List Char} (same : SameLetters line other)
    (keyword : dialect.TakesLabels → fromColon line = fromColon other) :
    dialect.instanceOf? line = dialect.instanceOf? other := by
  apply Option.ext
  intro name
  exact ⟨fun found => instanceOf?_of_recased found same keyword,
    fun found => instanceOf?_of_recased found same.symm fun takes => (keyword takes).symm⟩

theorem filterMap_instanceOf?_of_forall₂ {first second : List (List Char)}
    (same : List.Forall₂ (fun line other => dialect.instanceOf? line = dialect.instanceOf? other)
      first second) :
    first.filterMap dialect.instanceOf? = second.filterMap dialect.instanceOf? := by
  induction same with
  | nil => rfl
  | cons line _ ih => rw [List.filterMap_cons, List.filterMap_cons, line, ih]

/-- What is read off a source does not depend on the case of its ASCII letters. Where labels are
taken, this holds of sources that agree on every line from its first colon on, the keyword
included. -/
theorem instances_recased {source other : String}
    (same : SameLetters source.toList other.toList)
    (keyword : dialect.TakesLabels →
      (lines source.toList).map fromColon = (lines other.toList).map fromColon) :
    dialect.instances source = dialect.instances other := by
  have lowered : (lines source.toList).map (List.map Char.toLower) =
      (lines other.toList).map (List.map Char.toLower) := by
    rw [← lines_map_toLower, ← lines_map_toLower, same.map_eq]
  apply filterMap_instanceOf?_of_forall₂
  by_cases takes : dialect.TakesLabels
  · have both := congrArg₂ List.zip lowered (keyword takes)
    rw [List.zip_map', List.zip_map'] at both
    refine (forall₂_of_map_eq both).imp fun line other agree => ?_
    obtain ⟨letters, tails⟩ := Prod.mk.inj agree
    exact instanceOf?_recased letters fun _ => tails
  · exact (forall₂_of_map_eq lowered).imp fun line other letters =>
      instanceOf?_recased letters fun labels => absurd labels takes

/-- Capitals next to a sigma that is not the last letter, and before one that is; a label over a
keyword that keeps its case, and a comment with a colon. -/
theorem instances_recased_sigma :
    let source := "ΑΣb : entity Work.Adder\r\n-- NOTE: x\nCPU_ΟΣ : ENTITY w.cpu\nU1: entity w.Fifo"
    let other := "ΑΣB : entity Work.Adder\r\n-- Note: x\ncpu_ΟΣ : ENTITY w.cpu\nu1: entity w.Fifo"
    SameLetters source.toList other.toList ∧
    (lines source.toList).map fromColon = (lines other.toList).map fromColon ∧
    (vhdl .label).instances source = (vhdl .label).instances other ∧
    (vhdl .label).instances source = ["ασb", "u1"] := by
  intro source other
  have same : SameLetters source.toList other.toList := by decide +kernel
  have keyword : (lines source.toList).map fromColon = (lines other.toList).map fromColon := by
    decide +kernel
  exact ⟨same, keyword, instances_recased same fun _ => keyword, by decide +kernel⟩

end Dialect

end HdlClosure
