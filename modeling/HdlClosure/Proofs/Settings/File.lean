import HdlClosure.Proofs.FileTree.Access
import HdlClosure.Proofs.Settings.Document
import HdlClosure.Proofs.Settings.Testbenches
import HdlClosure.Settings.File

namespace HdlClosure.Settings

open Text (isBlank)

section Applying

theorem require_eq_ok_iff {α : Type} {setting : RequiredSetting} {given : Option α} {value : α} :
    require setting given = .ok value ↔ given = some value := by
  cases given <;> simp [require]

theorem apply_eq_ok_iff {overrides : Overrides} {draft : Draft} {settings : Settings} :
    overrides.apply draft = .ok settings ↔
      (overrides.language <|> draft.language) = some settings.language ∧
      (overrides.testbenchesOver draft = settings.testbenches ∧ settings.testbenches ≠ []) ∧
      (overrides.hdlDir <|> draft.hdlDir) = some settings.hdlDir ∧
      (overrides.simDir <|> draft.simDir) = some settings.simDir ∧
      (overrides.duplicates <|> draft.duplicates).getD .warn = settings.duplicates ∧
      (overrides.capture <|> draft.capture).getD .entity = settings.capture ∧
      (overrides.format <|> draft.format).getD .plain = settings.format := by
  rw [Overrides.apply, bind_eq_ok_iff]
  simp only [require_eq_ok_iff]
  constructor
  · rintro ⟨language, languageFound, rest⟩
    split_ifs at rest with absent
    obtain ⟨hdlDir, hdlFound, rest⟩ := bind_eq_ok_iff.mp rest
    obtain ⟨simDir, simFound, rest⟩ := bind_eq_ok_iff.mp rest
    cases rest
    exact ⟨languageFound, ⟨rfl, absent⟩, require_eq_ok_iff.mp hdlFound,
      require_eq_ok_iff.mp simFound, rfl, rfl, rfl⟩
  · rintro ⟨languageFound, ⟨split, some⟩, hdlFound, simFound, duplicates, capture, format⟩
    refine ⟨settings.language, languageFound, ?_⟩
    rw [if_neg (split ▸ some), bind_eq_ok_iff]
    refine ⟨settings.hdlDir, require_eq_ok_iff.mpr hdlFound, ?_⟩
    rw [bind_eq_ok_iff]
    refine ⟨settings.simDir, require_eq_ok_iff.mpr simFound, ?_⟩
    rw [split, duplicates, capture, format]
    rfl

end Applying

theorem canonical_of_apply {overrides : Overrides} {draft : Draft} {settings : Settings}
    (applied : overrides.apply draft = .ok settings) : Canonical settings.testbenches := by
  obtain ⟨_, ⟨split, some⟩, _⟩ := apply_eq_ok_iff.mp applied
  refine canonical_of_split some fun name member => ?_
  rw [← split, Overrides.testbenchesOver] at member
  cases given : overrides.testbenches with
  | some text =>
    rw [given] at member
    exact ⟨text, member⟩
  | none =>
    rw [given] at member
    obtain ⟨text, _, inside⟩ := List.mem_flatMap.mp member
    exact ⟨text, inside⟩

theorem apply_toDraft {settings : Settings} (canonical : Canonical settings.testbenches) :
    ({} : Overrides).apply settings.toDraft = .ok settings :=
  apply_eq_ok_iff.mpr
    ⟨rfl, ⟨flatMap_splitTestbenches canonical, canonical.some⟩, rfl, rfl, rfl, rfl, rfl⟩

theorem accessed_eq_ok_iff {α : Type} {outcome : Except AccessError α} {value : α} :
    accessed outcome = .ok value ↔ outcome = .ok value := by
  cases outcome <;> simp [accessed]

theorem load_of_save {settings : Settings} {tree saved : FileTree} {path : String}
    (wrote : settings.save tree path = .ok saved) :
    (Draft.load saved path).result = .ok settings.toDraft := by
  obtain ⟨made, _, written⟩ := bind_eq_ok_iff.mp (accessed_eq_ok_iff.mp wrote)
  have read := FileTree.readText_writeText written
  rw [Draft.load, Traced.result_bind_eq_ok_iff]
  refine ⟨(), rfl, ?_⟩
  rw [Traced.result_bind_eq_ok_iff]
  refine ⟨settings.toText, accessed_eq_ok_iff.mpr read, ?_⟩
  rw [parse?_toText]
  rfl

/-- Settings are the same after they are saved and loaded again, as long as their testbenches are
named the way that a run names them. Settings that were put together from a file and a command line,
or for a text of names, are. -/
theorem saved_settings_kept :
    (∀ (settings : Settings) (tree saved : FileTree) (path : String),
      Canonical settings.testbenches → settings.save tree path = .ok saved →
        ∃ draft, (Draft.load saved path).result = .ok draft ∧
          ({} : Overrides).apply draft = .ok settings) ∧
    (∀ (overrides : Overrides) (draft : Draft) (settings : Settings),
      overrides.apply draft = .ok settings → Canonical settings.testbenches) ∧
    ∀ (language : Language) (text hdlDir simDir : String),
      (∃ c ∈ text.toList, isBlank c = false) →
        Canonical (ofText language text hdlDir simDir).testbenches := by
  refine ⟨fun settings tree saved path canonical wrote => ?_, fun _ _ _ => canonical_of_apply, ?_⟩
  · exact ⟨settings.toDraft, load_of_save wrote, apply_toDraft canonical⟩
  · rintro language text hdlDir simDir ⟨c, member, visible⟩
    exact canonical_ofText language hdlDir simDir member visible

/-- Directories with quotes, a backslash, line breaks and a character that cannot be shown. -/
def intricate : Settings where
  language := .vhdl
  testbenches := ["top_δος", "bus_tb"]
  hdlDir := "rtl \"core\" '''\r\x07"
  simDir := "sim\n\\tests\t''"
  duplicates := .error
  capture := .label
  format := .json

theorem saved_settings_kept_intricate :
    ∃ saved draft, intricate.save {} "conf/deps.toml" = .ok saved ∧
      (Draft.load saved "conf/deps.toml").result = .ok draft ∧
      ({} : Overrides).apply draft = .ok intricate := by
  have canonical : Canonical intricate.testbenches :=
    saved_settings_kept.2.2 .vhdl "Top_ΔΟΣ BUS_TB" "" "" ⟨'T', by decide +kernel, by decide⟩
  cases wrote : intricate.save {} "conf/deps.toml" with
  | error failure =>
    have succeeds : (intricate.save {} "conf/deps.toml").isOk = true := by decide +kernel
    rw [wrote] at succeeds
    cases succeeds
  | ok saved =>
    obtain ⟨draft, loaded, applied⟩ := saved_settings_kept.1 intricate {} saved _ canonical wrote
    exact ⟨saved, draft, rfl, loaded, applied⟩

end HdlClosure.Settings
