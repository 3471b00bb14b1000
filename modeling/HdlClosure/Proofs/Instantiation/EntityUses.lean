import HdlClosure.Proofs.Instantiation.Calls

namespace HdlClosure

open Text

def Capture.pick (capture : Capture) (label entity : List Char) : List Char :=
  match capture with
  | .entity => entity
  | .label => label

/-- The word `entity`. Only where the entity is taken may it have capitals. -/
def Capture.IsKeyword (capture : Capture) (word : List Char) : Prop :=
  match capture with
  | .entity => word.map Char.toLower = ['e', 'n', 't', 'i', 't', 'y']
  | .label => word = ['e', 'n', 't', 'i', 't', 'y']

/-- A line that begins `label : entity library.name`, from its first character on. Blanks may be
missing everywhere, so that the keyword and the library can be one word; the name is as long as it
can be. -/
inductive EntityUse (capture : Capture) : List Char → List Char → List Char → Prop where
  | of {label after between keyword blanks library entity rest : List Char}
    (labelled : IsWord label) (closed : Blanks after) (spaced : Blanks between)
    (spelled : capture.IsKeyword keyword) (parted : Blanks blanks) (stored : IsWord library)
    (named : IsWord entity) (ends : StopsAt isWordChar rest) :
    EntityUse capture (label ++ (after ++ ':' :: (between ++ (keyword ++ (blanks ++ (library ++
      '.' :: (entity ++ rest))))))) label entity

/-- A line that uses an entity stands for the name taken from it, in lowercase, unless this is a
gate. -/
inductive EntityName (capture : Capture) : List Char → String → Prop where
  | of {text label entity : List Char} (used : EntityUse capture text label entity)
    (defined : String.ofList (lower (capture.pick label entity)) ∉
      ["and", "or", "not", "xor", "nand", "nor", "buf"]) :
    EntityName capture text (String.ofList (lower (capture.pick label entity)))

section Grammar

variable {capture : Capture} {text label entity : List Char}

def Capture.anyCase (capture : Capture) : Bool := capture == .entity

theorem isKeyword_iff {word : List Char} :
    capture.IsKeyword word ↔ Spells capture.anyCase word "entity".toList := by
  cases capture <;> rfl

/-- On a line without leading blanks, entity uses are the entity lines. -/
theorem entityUse_iff (capture : Capture) (label entity : List Char)
    (trimmed : StopsAt isBlank text) :
    EntityUse capture text label entity ↔ EntityLine capture.anyCase text label entity := by
  constructor
  · intro use
    obtain ⟨labelled, closed, spaced, spelled, parted, stored, named, ends⟩ := use
    exact .of blanks_nil labelled closed spaced (isKeyword_iff.mp spelled) parted stored named ends
  · intro line
    obtain ⟨indented, labelled, closed, spaced, spelled, parted, stored, named, ends⟩ := line
    obtain rfl := eq_nil_of_stopsAt indented trimmed
    exact .of labelled closed spaced (isKeyword_iff.mpr spelled) parted stored named ends

/-- A use begins with a word, so that it is neither an empty line nor a comment. -/
theorem code_of_entityUse (use : EntityUse capture text label entity) :
    text ≠ [] ∧ ¬ "--".toList <+: text := by
  obtain ⟨⟨visible, inside⟩, _⟩ := use
  cases label with
  | nil => exact absurd rfl visible
  | cons c label =>
    refine ⟨List.cons_ne_nil _ _, fun comment => ?_⟩
    have dash : '-' = c := (List.cons_prefix_cons.mp comment).1
    have letter := inside c (by simp)
    rw [← dash] at letter
    exact absurd letter (by decide +kernel)

/-- A lowercase keyword may stand wherever one in any case may. -/
theorem EntityUse.ofLabel (use : EntityUse .label text label entity) :
    EntityUse .entity text label entity := by
  obtain ⟨labelled, closed, spaced, rfl, parted, stored, named, ends⟩ := use
  exact .of labelled closed spaced rfl parted stored named ends

end Grammar

namespace Dialect

def vhdl (capture : Capture) : Dialect := { language := .vhdl, capture := capture }

/-- The reader takes a name from a line. The name may still turn out to be a gate. -/
def Accepts (dialect : Dialect) (line : List Char) : Prop :=
  dialect.isCode (trim line) = true ∧ (dialect.captured? (trim line)).isSome

theorem matches_vhdl_iff {capture : Capture} {text word : List Char} :
    (vhdl capture).Matches text word ↔
      ∃ label entity, EntityLine capture.anyCase text label entity ∧
        word = capture.pick label entity := by
  cases capture with
  | entity =>
    constructor
    · rintro ⟨label, line⟩
      exact ⟨label, word, line, rfl⟩
    · rintro ⟨label, entity, line, rfl⟩
      exact ⟨label, line⟩
  | label =>
    constructor
    · rintro ⟨entity, line⟩
      exact ⟨word, entity, line, rfl⟩
    · rintro ⟨label, entity, line, rfl⟩
      exact ⟨entity, line⟩

theorem accepts_vhdl_iff {capture : Capture} {line : List Char} :
    (vhdl capture).Accepts line ↔ ∃ label entity, EntityUse capture (trim line) label entity := by
  have use (label entity : List Char) := entityUse_iff capture label entity (stopsAt_trim line)
  rw [Accepts, isCode_iff, Option.isSome_iff_exists]
  simp only [captured?_eq_some_iff, matches_vhdl_iff]
  constructor
  · rintro ⟨_, _, label, entity, shape, _⟩
    exact ⟨label, entity, (use label entity).mpr shape⟩
  · rintro ⟨label, entity, used⟩
    exact ⟨code_of_entityUse used, _, label, entity, (use label entity).mp used, rfl⟩

theorem instanceOf?_eq_some_iff_entityName {capture : Capture} (line : List Char)
    (name : String) :
    (vhdl capture).instanceOf? line = some name ↔ EntityName capture (trim line) name := by
  have use (label entity : List Char) := entityUse_iff capture label entity (stopsAt_trim line)
  rw [instanceOf?_eq_some_iff, LineInstantiates]
  simp only [matches_vhdl_iff]
  constructor
  · rintro ⟨_, _, defined, _, ⟨label, entity, shape, rfl⟩, rfl⟩
    exact .of ((use label entity).mpr shape) defined
  · rintro ⟨used, defined⟩
    obtain ⟨visible, plain⟩ := code_of_entityUse used
    exact ⟨visible, plain, defined, _, ⟨_, _, (use _ _).mp used, rfl⟩, rfl⟩

/-- A source in VHDL is read line by line, without the blanks around a line. A line is accepted when
it uses an entity, and gives the name taken from it unless this is a gate; no other line gives
anything. What is accepted for the label is accepted for the entity. -/
theorem instances_eq_iff_entityNames (capture : Capture) :
    (∀ line, (vhdl capture).Accepts line ↔
      ∃ label entity, EntityUse capture (trim line) label entity) ∧
    (∀ source names, (vhdl capture).instances source = names ↔
      ∃ lines, HasLines source.toList lines ∧
        ReadsOff (fun line name => EntityName capture (trim line) name) lines names) ∧
    ∀ line, (vhdl .label).Accepts line → (vhdl .entity).Accepts line := by
  refine ⟨fun _ => accepts_vhdl_iff, fun source names => ?_, fun line accepted => ?_⟩
  · simp only [hasLines_iff, exists_eq_left']
    exact (readsOff_iff instanceOf?_eq_some_iff_entityName).symm
  · obtain ⟨label, entity, used⟩ := accepts_vhdl_iff.mp accepted
    exact accepts_vhdl_iff.mpr ⟨label, entity, used.ofLabel⟩

/-- The keyword and the library may be one word. Gates are left out by the name that is taken, and
capitals in the keyword hide a line from the labels only. -/
example :
    (vhdl .entity).instances "u0:entitywork.Adder\nand: ENTITY w.mux2(rtl)\nu2 : entity w.nor" =
      ["adder", "mux2"] ∧
    (vhdl .label).instances "u0:entitywork.Adder\nand: ENTITY w.mux2(rtl)\nu2 : entity w.nor" =
      ["u0", "u2"] := by
  decide +kernel

end Dialect

end HdlClosure
