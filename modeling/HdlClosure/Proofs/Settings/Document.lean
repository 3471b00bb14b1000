import HdlClosure.Proofs.Toml.Reader
import HdlClosure.Settings.Document

namespace HdlClosure.Settings

open Toml (Value Members Written Lines quoted isGapChar itemLines)

theorem written_bracketed {items : List Value} {text : List Char} (plain : '\r' ∉ text)
    (read : ∀ fuel rest, text.length < fuel →
      Toml.readItems fuel [] (text ++ '\n' :: rest) = some (.array items, '\n' :: rest)) :
    Written (.array items) ('[' :: text) where
  nonempty := List.cons_ne_nil _ _
  visible := stopsAt_cons rfl text
  plain := by simpa using plain
  read fuel rest enough := by
    obtain ⟨fuel, rfl⟩ := Nat.exists_eq_add_of_lt enough
    rw [List.cons_append, Toml.readValue, if_pos rfl]
    exact read _ rest (by simp at enough ⊢; omega)

theorem written_writeTexts (items : List String) :
    Written (.array (items.map .text)) (writeTexts items) := by
  have nothing : ∀ c ∈ ([] : List Char), isGapChar c = true := fun _ member => nomatch member
  have plain (item : String) : '\r' ∉ quoted item := (Toml.written_quoted item).plain
  match items with
  | [] =>
    have layout : writeTexts [] = '[' :: [']'] := rfl
    rw [layout]
    refine written_bracketed (by simp) fun fuel rest enough => ?_
    obtain ⟨fuel, rfl⟩ := Nat.exists_eq_add_of_lt enough
    exact Toml.readItems_close _ [] nothing _
  | [item] =>
    have layout : writeTexts [item] = '[' :: (quoted item ++ [']']) := rfl
    rw [layout]
    refine written_bracketed (by simp [plain item]) fun fuel rest enough => ?_
    have some : 0 < (quoted item).length :=
      List.length_pos_iff.mpr (Toml.written_quoted item).nonempty
    -- The item takes one step of the reader and the closing bracket another.
    obtain ⟨fuel, rfl⟩ : ∃ less, fuel = less + 2 := ⟨fuel - 2, by
      rw [List.length_append, List.length_singleton] at enough
      omega⟩
    have read := Toml.readItems_quoted fuel [] item nothing (.inr rfl) ('\n' :: rest)
    simpa using read
  | first :: second :: more =>
    have layout : writeTexts (first :: second :: more) =
        '[' :: (['\n'] ++ (itemLines (first :: second :: more) ++ [']'])) := by
      simp [writeTexts, itemLines]
    rw [layout]
    generalize first :: second :: more = items
    have feed : ∀ c ∈ ['\n'], isGapChar c = true := by simp [isGapChar]
    refine written_bracketed (by simp [itemLines, plain]) fun fuel rest enough => ?_
    have count := Toml.length_le_itemLines items
    simp only [List.length_append, List.length_singleton] at enough
    have read := Toml.readItems_lines [] (show items.length < fuel by omega) feed ('\n' :: rest)
    simpa using read

theorem written_writeChoice {α : Type} [Choice α] (value : α) :
    Written (.text (Choice.name value)) (writeChoice value) :=
  Toml.written_quoted _

def members (settings : Settings) : Members :=
  [("language", .text (Choice.name settings.language)),
    ("testbenches", .array (settings.testbenches.map .text)),
    ("hdl_dir", .text settings.hdlDir),
    ("sim_dir", .text settings.simDir),
    ("duplicates", .text (Choice.name settings.duplicates)),
    ("vhdl_capture", .text (Choice.name settings.capture)),
    ("format", .text (Choice.name settings.format))]

theorem lines_writeLine {key : String} {value : Value} {text rest : List Char} {members : Members}
    (bare : Toml.IsBare key) (written : Written value text) (others : Lines members rest) :
    Lines ((key, value) :: members) (writeLine key text ++ rest) := by
  simpa [writeLine] using Lines.cons bare written others

theorem lines_write (settings : Settings) : Lines settings.members settings.write := by
  have bare {key : String}
      (plain : (!key.toList.isEmpty && key.toList.all Toml.isBareChar) = true) :
      Toml.IsBare key := by
    simpa [Toml.IsBare] using plain
  rw [write, members, ← List.append_nil (writeLine "format" _)]
  simp only [List.append_assoc]
  exact lines_writeLine (bare (by decide)) (written_writeChoice settings.language) <|
    lines_writeLine (bare (by decide)) (written_writeTexts settings.testbenches) <|
    lines_writeLine (bare (by decide)) (Toml.written_quoted settings.hdlDir) <|
    lines_writeLine (bare (by decide)) (Toml.written_quoted settings.simDir) <|
    lines_writeLine (bare (by decide)) (written_writeChoice settings.duplicates) <|
    lines_writeLine (bare (by decide)) (written_writeChoice settings.capture) <|
    lines_writeLine (bare (by decide)) (written_writeChoice settings.format) .nil

/-- Complete settings as a draft that leaves nothing open. -/
def toDraft (settings : Settings) : Draft where
  language := some settings.language
  testbenches := some settings.testbenches
  hdlDir := some settings.hdlDir
  simDir := some settings.simDir
  duplicates := some settings.duplicates
  capture := some settings.capture
  format := some settings.format

theorem texts?_array (items : List String) : texts? (.array (items.map .text)) = some items := by
  have each : text? ∘ Value.text = fun item => pure (id item) := rfl
  rw [texts?, List.mapM_map, each, List.mapM_pure, List.map_id]
  rfl

theorem ofMembers?_members (settings : Settings) :
    Draft.ofMembers? settings.members = some settings.toDraft := by
  obtain ⟨language, testbenches, hdlDir, simDir, duplicates, capture, format⟩ := settings
  have languageRead : choice? Language (.text (Choice.name language)) = some language := by
    cases language <;> rfl
  have duplicatesRead :
      choice? DuplicatePolicy (.text (Choice.name duplicates)) = some duplicates := by
    cases duplicates <;> rfl
  have captureRead : choice? Capture (.text (Choice.name capture)) = some capture := by
    cases capture <;> rfl
  have formatRead : choice? OutputFormat (.text (Choice.name format)) = some format := by
    cases format <;> rfl
  simp [Draft.ofMembers?, members, Draft.set, languageRead, duplicatesRead, captureRead, formatRead,
    texts?_array, text?, toDraft]

theorem parse?_toText (settings : Settings) :
    Draft.parse? settings.toText = some settings.toDraft := by
  have lines : Lines settings.members settings.toText.toList := by
    rw [toText, String.toList_ofList]
    exact lines_write settings
  have distinct : (settings.members.map Prod.fst).Nodup := by simp [members]
  rw [Draft.parse?, Toml.read_lines lines distinct, Option.bind_some, ofMembers?_members]

end HdlClosure.Settings
