import HdlClosure.Proofs.Settings.File
import Mathlib.Data.List.Forall2

/-! Overrides over a draft. Where a setting comes from leaves no trace: what is made of the two is made
of the draft with the overrides put in. The first required setting that it lacks is named, and only
where it lacks none are the settings complete. -/
namespace HdlClosure.Settings

open Text

/-- The draft with every setting replaced that the overrides give. A text of testbenches stands for
the list of itself. -/
def Overrides.over (overrides : Overrides) (draft : Draft) : Draft where
  language := overrides.language <|> draft.language
  testbenches := (overrides.testbenches.map fun text => [text]) <|> draft.testbenches
  hdlDir := overrides.hdlDir <|> draft.hdlDir
  simDir := overrides.simDir <|> draft.simDir
  duplicates := overrides.duplicates <|> draft.duplicates
  capture := overrides.capture <|> draft.capture
  format := overrides.format <|> draft.format

def requiredOrder : List RequiredSetting := [.language, .testbenches, .hdlDir, .simDir]

namespace Draft

def texts (draft : Draft) : List String := draft.testbenches.getD []

/-- Whether a draft does not give a required setting. Testbenches are not given by texts that are
all blank. -/
def lacks (draft : Draft) : RequiredSetting → Bool
  | .language => draft.language.isNone
  | .testbenches => draft.texts.all fun text => text.toList.all isBlank
  | .hdlDir => draft.hdlDir.isNone
  | .simDir => draft.simDir.isNone

def Names (text : String) (names : List String) : Prop :=
  ∃ words, HasWords text.toList words ∧ names = words.map fun word => String.ofList (lower word)

/-- The settings are those of the draft, and defaults where it gives none. Their testbenches are the
words of its texts, one text after the other. -/
structure Completes (draft : Draft) (settings : Settings) : Prop where
  language : draft.language = some settings.language
  some : settings.testbenches ≠ []
  testbenches : ∃ lists, List.Forall₂ Names draft.texts lists ∧
    settings.testbenches = lists.flatten
  hdlDir : draft.hdlDir = Option.some settings.hdlDir
  simDir : draft.simDir = Option.some settings.simDir
  duplicates : settings.duplicates = draft.duplicates.getD .warn
  capture : settings.capture = draft.capture.getD .entity
  format : settings.format = draft.format.getD .plain

end Draft

section Testbenches

theorem testbenchesOver_eq (overrides : Overrides) (draft : Draft) :
    overrides.testbenchesOver draft = (overrides.over draft).texts.flatMap splitTestbenches := by
  rw [Overrides.testbenchesOver, Draft.texts, Overrides.over]
  cases overrides.testbenches with
  | none => rfl
  | some text => exact (List.flatMap_singleton _ _).symm

theorem names_iff {text : String} {names : List String} :
    Draft.Names text names ↔ splitTestbenches text = names := by
  rw [Draft.Names, splitTestbenches]
  simp only [hasWords_iff, exists_eq_left']
  exact eq_comm

theorem forall₂_names_iff {texts : List String} {lists : List (List String)} :
    List.Forall₂ Draft.Names texts lists ↔ texts.map splitTestbenches = lists := by
  rw [← List.forall₂_eq_eq_eq, List.forall₂_map_left_iff]
  constructor
  · exact fun given => given.imp fun _ _ => names_iff.mp
  · exact fun given => given.imp fun _ _ => names_iff.mpr

theorem splitTestbenches_eq_nil_iff {text : String} :
    splitTestbenches text = [] ↔ text.toList.all isBlank = true := by
  rw [splitTestbenches, List.map_eq_nil_iff, words_eq_nil_iff, List.all_eq_true]

theorem flatMap_eq_nil_iff_lacks {draft : Draft} :
    draft.texts.flatMap splitTestbenches = [] ↔ draft.lacks .testbenches = true := by
  rw [List.flatMap_eq_nil_iff, Draft.lacks, List.all_eq_true]
  exact forall₂_congr fun _ _ => splitTestbenches_eq_nil_iff

end Testbenches

section Applying

variable {overrides : Overrides} {draft : Draft}

theorem apply_eq_ok_iff_completes {settings : Settings} :
    overrides.apply draft = .ok settings ↔ (overrides.over draft).Completes settings := by
  rw [apply_eq_ok_iff, testbenchesOver_eq]
  constructor
  · rintro ⟨language, ⟨split, some⟩, hdlDir, simDir, duplicates, capture, format⟩
    exact ⟨language, some, ⟨_, forall₂_names_iff.mpr rfl, split.symm⟩, hdlDir, simDir,
      duplicates.symm, capture.symm, format.symm⟩
  · rintro ⟨language, some, ⟨lists, named, joined⟩, hdlDir, simDir, duplicates, capture, format⟩
    rw [forall₂_names_iff] at named
    subst named
    exact ⟨language, ⟨joined.symm, some⟩, hdlDir, simDir, duplicates.symm, capture.symm,
      format.symm⟩

theorem require_bind_of_none {α β : Type} {setting : RequiredSetting} {given : Option α}
    {next : α → Except Failure β} (absent : given = none) :
    (require setting given >>= next) = .error (.missingSetting setting) := by
  rw [absent]
  rfl

theorem require_bind_of_some {α β : Type} {setting : RequiredSetting} {given : Option α}
    {next : α → Except Failure β} {value : α} (present : given = some value) :
    (require setting given >>= next) = next value := by
  rw [present]
  rfl

/-- The settings are asked for one after the other, up to the first that is lacking. -/
theorem apply_of_lacking {setting : RequiredSetting}
    (first : requiredOrder.find? (overrides.over draft).lacks = some setting) :
    overrides.apply draft = .error (.missingSetting setting) := by
  have unnamed : overrides.testbenchesOver draft = [] ↔
      (overrides.over draft).lacks .testbenches = true :=
    testbenchesOver_eq overrides draft ▸ flatMap_eq_nil_iff_lacks
  unfold requiredOrder at first
  rw [Overrides.apply]
  cases language : (overrides.over draft).language with
  | none =>
    rw [List.find?_cons_of_pos (by simp [Draft.lacks, language])] at first
    cases first
    exact require_bind_of_none language
  | some value =>
  rw [List.find?_cons_of_neg (by simp [Draft.lacks, language])] at first
  refine (require_bind_of_some language).trans ?_
  by_cases testbenches : overrides.testbenchesOver draft = []
  · rw [List.find?_cons_of_pos (unnamed.mp testbenches)] at first
    cases first
    exact if_pos testbenches
  rw [List.find?_cons_of_neg (mt unnamed.mpr testbenches)] at first
  refine (if_neg testbenches).trans ?_
  cases hdlDir : (overrides.over draft).hdlDir with
  | none =>
    rw [List.find?_cons_of_pos (by simp [Draft.lacks, hdlDir])] at first
    cases first
    exact require_bind_of_none hdlDir
  | some value =>
  rw [List.find?_cons_of_neg (by simp [Draft.lacks, hdlDir])] at first
  refine (require_bind_of_some hdlDir).trans ?_
  have simDir := List.find?_some first
  cases List.mem_singleton.mp (List.mem_of_find?_eq_some first)
  exact require_bind_of_none (Option.isNone_iff_eq_none.mp simDir)

/-- Where no required setting is lacking, there are settings that complete the draft. -/
theorem Draft.exists_completes {draft : Draft}
    (complete : ∀ setting ∈ requiredOrder, ¬draft.lacks setting = true) :
    ∃ settings, draft.Completes settings := by
  have given {α : Type} {value : Option α} (present : ¬value.isNone = true) :
      ∃ found, value = some found :=
    Option.ne_none_iff_exists'.mp (mt Option.isNone_iff_eq_none.mpr present)
  obtain ⟨language, languageGiven⟩ := given (complete .language (by decide))
  obtain ⟨hdlDir, hdlGiven⟩ := given (complete .hdlDir (by decide))
  obtain ⟨simDir, simGiven⟩ := given (complete .simDir (by decide))
  have named := mt flatMap_eq_nil_iff_lacks.mp (complete .testbenches (by decide))
  exact ⟨{ language := language, testbenches := draft.texts.flatMap splitTestbenches,
           hdlDir := hdlDir, simDir := simDir, duplicates := draft.duplicates.getD .warn,
           capture := draft.capture.getD .entity, format := draft.format.getD .plain },
    languageGiven, named, ⟨_, forall₂_names_iff.mpr rfl, rfl⟩, hdlGiven, simGiven, rfl, rfl, rfl⟩

theorem over_none (draft : Draft) : ({} : Overrides).over draft = draft := rfl

theorem apply_over (overrides : Overrides) (draft : Draft) :
    overrides.apply draft = ({} : Overrides).apply (overrides.over draft) := by
  rw [Overrides.apply, Overrides.apply, testbenchesOver_eq, testbenchesOver_eq, over_none]
  rfl

theorem apply_eq_error_iff {failure : Failure} :
    overrides.apply draft = .error failure ↔
      ∃ setting, requiredOrder.find? (overrides.over draft).lacks = some setting ∧
        failure = .missingSetting setting := by
  constructor
  · intro failed
    cases first : requiredOrder.find? (overrides.over draft).lacks with
    | none =>
      obtain ⟨settings, completes⟩ := Draft.exists_completes (List.find?_eq_none.mp first)
      rw [apply_eq_ok_iff_completes.mpr completes] at failed
      cases failed
    | some setting =>
      rw [apply_of_lacking first] at failed
      cases failed
      exact ⟨setting, rfl, rfl⟩
  · rintro ⟨setting, first, rfl⟩
    exact apply_of_lacking first

end Applying

/-- Merging sees the overrides and the draft only through the draft with the overrides put in. It
fails with the first required setting which that lacks, and else gives the settings that complete
it. -/
theorem apply_merged (overrides : Overrides) (draft : Draft) :
    overrides.apply draft = ({} : Overrides).apply (overrides.over draft) ∧
    requiredOrder.map RequiredSetting.option = ["--lang", "--tbs", "--hdl-dir", "--sim-dir"] ∧
    (∀ failure, overrides.apply draft = .error failure ↔
      ∃ setting, requiredOrder.find? (overrides.over draft).lacks = some setting ∧
        failure = .missingSetting setting) ∧
    ∀ settings, overrides.apply draft = .ok settings ↔
      (overrides.over draft).Completes settings :=
  ⟨apply_over overrides draft, rfl, fun _ => apply_eq_error_iff,
    fun _ => apply_eq_ok_iff_completes⟩

/-- A blank text of testbenches hides those of the file, and they are asked for before the missing
directory. -/
example :
    ({ testbenches := some " \t" } : Overrides).apply
        { language := some .vhdl, testbenches := some ["top_tb"], hdlDir := some "rtl" } =
      .error (.missingSetting .testbenches) := rfl

end HdlClosure.Settings
