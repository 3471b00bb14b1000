import HdlClosure.CommandLine.Arguments
import Mathlib.Data.List.Basic

namespace HdlClosure.CommandLine

/-- The arguments name the file to write settings to. -/
inductive GivesFile (path : String) : List String → Prop where
  | attached (rest : List String) : GivesFile path (("--init-config=" ++ path) :: rest)
  | separate (rest : List String) : GivesFile path ("--init-config" :: path :: rest)
  | later (argument : String) {rest : List String} (gives : GivesFile path rest) :
    GivesFile path (argument :: rest)

/-- The argument is the switch for that file, alone or with something attached. -/
def Mentions (argument : String) : Prop :=
  argument = "--init-config" ∨ ∃ path, argument = "--init-config=" ++ path

variable {path argument : String} {rest : List String} {options changed final : Options}
  {switch : Switch}

theorem givesFile_cons_iff :
    GivesFile path (argument :: rest) ↔ argument = "--init-config=" ++ path ∨
      (argument = "--init-config" ∧ rest.head? = some path) ∨ GivesFile path rest := by
  constructor
  · intro gives
    cases gives with
    | attached => exact .inl rfl
    | separate => exact .inr (.inl ⟨rfl, rfl⟩)
    | later _ gives => exact .inr (.inr gives)
  · rintro (rfl | ⟨rfl, next⟩ | gives)
    · exact .attached rest
    · obtain ⟨others, rfl⟩ := List.head?_eq_some_iff.mp next
      exact .separate others
    · exact .later argument gives

theorem givesFile_cons_of_not (other : ¬Mentions argument) :
    GivesFile path (argument :: rest) ↔ GivesFile path rest := by
  rw [givesFile_cons_iff]
  constructor
  · rintro (attached | ⟨alone, _⟩ | gives)
    · exact absurd (.inr ⟨path, attached⟩) other
    · exact absurd (.inl alone) other
    · exact gives
  · exact fun gives => .inr (.inr gives)

section Mentions

theorem mentions_iff {text : List Char} (dashes : argument.toList = '-' :: '-' :: text) :
    Mentions argument ↔ text.takeWhile (· ≠ '=') = "init-config".toList := by
  constructor
  · rintro (rfl | ⟨path, rfl⟩)
    · cases dashes
      decide
    · rw [String.toList_append] at dashes
      cases dashes
      rfl
  · intro name
    have cut := List.takeWhile_append_dropWhile (p := (· ≠ '=')) (l := text)
    rw [name] at cut
    cases attached : text.dropWhile (· ≠ '=') with
    | nil =>
      rw [attached] at cut
      refine .inl (String.toList_injective ?_)
      rw [dashes, ← cut]
      rfl
    | cons c value =>
      have equals : c = '=' := by
        have stops := List.head?_dropWhile_not (· ≠ '=') text
        rw [attached] at stops
        simpa using stops
      rw [attached, equals] at cut
      refine .inr ⟨String.ofList value, String.toList_injective ?_⟩
      rw [dashes, ← cut, String.toList_append]
      exact congrArg ("--init-config=".toList ++ ·) String.toList_ofList.symm

theorem isSwitch_of_mentions (mentions : Mentions argument) : isSwitch argument = true := by
  rcases mentions with rfl | ⟨path, rfl⟩
  · decide
  · have long : "--init-config=" ++ path ≠ "-" := fun same => by
      have count := congrArg (List.length ∘ String.toList) same
      simp at count
    simp [isSwitch, long]

end Mentions

section Keeping

/-- Reading goes on with the same file for a template, or ends before all is read. -/
def Progress.Keeps (options : Options) : Progress → Prop
  | .done (.go _) => False
  | .done _ => True
  | .more changed => changed.initConfig = options.initConfig
  | .value switch changed => switch ≠ .initConfig ∧ changed.initConfig = options.initConfig

theorem Progress.Keeps.trans {progress : Progress} (kept : progress.Keeps changed)
    (same : changed.initConfig = options.initConfig) : progress.Keeps options := by
  unfold Keeps at kept ⊢
  rwa [same] at kept

theorem give_keeps {value : String} (other : switch ≠ .initConfig)
    (given : options.give switch value = some changed) :
    changed.initConfig = options.initConfig := by
  cases switch with
  | initConfig => exact absurd rfl other
  | verbose | quiet | noColor | help | version => cases given
  | tbs =>
    obtain ⟨_, rest⟩ := Option.ite_none_left_eq_some.mp given
    cases rest
    rfl
  | lang | hdlDir | simDir | config | onDuplicate | vhdlCapture | format =>
    obtain ⟨_, rest⟩ := Option.ite_none_left_eq_some.mp given
    obtain ⟨_, _, rfl⟩ := Option.map_eq_some_iff.mp rest
    rfl

theorem raise_keeps (raised : options.raise switch = some changed) :
    changed.initConfig = options.initConfig := by
  cases switch with
  | verbose | quiet | noColor =>
    obtain ⟨_, rest⟩ := Option.ite_none_left_eq_some.mp raised
    cases rest
    rfl
  | _ => cases raised

theorem ofChange_keeps {change : Option Options}
    (kept : ∀ changed, change = some changed → changed.initConfig = options.initConfig) :
    (Progress.ofChange change).Keeps options := by
  cases change with
  | none => trivial
  | some changed => exact kept changed rfl

theorem readFlag_keeps (long : Bool) : (readFlag options long switch).Keeps options := by
  unfold readFlag
  split
  · trivial
  · trivial
  · exact ofChange_keeps fun _ => raise_keeps

theorem ofLong?_eq_initConfig_iff {name : String} :
    Switch.ofLong? name = some .initConfig ↔ name = "init-config" := by
  constructor
  · intro found
    have spelled := List.find?_some found
    simpa [Switch.long, Switch.alias?, eq_comm] using spelled
  · rintro rfl
    decide

theorem ne_initConfig_of_ofShort? {letter : Char} (found : Switch.ofShort? letter = some switch) :
    switch ≠ .initConfig := by
  rintro rfl
  have spelled := List.find?_some found
  simp [Switch.short?] at spelled

theorem readShort_keeps (letters : List Char) : (readShort options letters).Keeps options := by
  induction letters generalizing options with
  | nil => rfl
  | cons letter rest ih =>
    rw [readShort]
    split
    case h_1 => trivial
    case h_2 switch found =>
    have other := ne_initConfig_of_ofShort? found
    split_ifs with takes last
    · exact ⟨other, rfl⟩
    · exact ofChange_keeps fun _ => give_keeps other
    · have flag : (readFlag options false switch).Keeps options := readFlag_keeps false
      split
      case h_1 changed raised =>
        rw [raised] at flag
        exact ih.trans flag
      case h_2 => exact flag

theorem readLong_keeps {text : List Char}
    (other : text.takeWhile (· ≠ '=') ≠ "init-config".toList) :
    (readLong options text).Keeps options := by
  have apart {switch : Switch}
      (found : Switch.ofLong? (String.ofList (text.takeWhile (· ≠ '='))) = some switch) :
      switch ≠ .initConfig := by
    rintro rfl
    have spelled := congrArg String.toList (ofLong?_eq_initConfig_iff.mp found)
    exact other (String.toList_ofList.symm.trans spelled)
  dsimp only [readLong]
  split
  case h_1 => trivial
  case h_2 switch found _ =>
    split_ifs
    · exact ⟨apart found, rfl⟩
    · exact readFlag_keeps true
  case h_3 switch c value found _ =>
    split_ifs
    · exact ofChange_keeps fun _ => give_keeps (apart found)
    · trivial

/-- An argument that is not the switch leaves the file for a template as it is. -/
theorem readArgument_keeps (other : ¬Mentions argument) :
    (readArgument options argument).Keeps options := by
  unfold readArgument
  split
  case h_1 text dashes => exact readLong_keeps (mt (mentions_iff dashes).mpr other)
  case h_2 => exact readShort_keeps _
  case h_3 => trivial

end Keeping

section Giving

theorem give_initConfig {value : String} (given : options.give .initConfig value = some changed) :
    options.initConfig = none ∧ changed.initConfig = some value := by
  obtain ⟨free, rest⟩ := Option.ite_none_left_eq_some.mp given
  obtain ⟨found, valid, rfl⟩ := Option.map_eq_some_iff.mp rest
  obtain ⟨_, same⟩ := Option.ite_none_left_eq_some.mp valid
  exact ⟨by simpa using free, same.symm⟩

theorem readArgument_alone : readArgument options "--init-config" = .value .initConfig options := by
  rfl

theorem readArgument_attached (path : String) :
    readArgument options ("--init-config=" ++ path) =
      .ofChange (options.give .initConfig path) := by
  have text : ("--init-config=" ++ path).toList =
      '-' :: '-' :: ("init-config".toList ++ '=' :: path.toList) := String.toList_append
  rw [readArgument, text]
  show Progress.ofChange (options.give .initConfig (String.ofList path.toList)) = _
  rw [String.ofList_toList]

end Giving

section Steps

/-- The file is given already, or the arguments that are left give it: the first of them where the
switch waits for its value. -/
def Asked (path : String) (options : Options) (waiting : Option Switch) (arguments : List String) :
    Prop :=
  options.initConfig = some path ∨ (waiting = some .initConfig ∧ arguments.head? = some path) ∨
    GivesFile path arguments

theorem attached_ne_alone (attached : String) : "--init-config=" ++ attached ≠ "--init-config" := by
  have text : ("--init-config=" ++ attached).toList =
      '-' :: '-' :: ("init-config=".toList ++ attached.toList) := String.toList_append
  intro same
  cases text.symm.trans (congrArg String.toList same)

theorem asked_of_value (plain : isSwitch argument = false)
    (given : options.give switch argument = some changed) :
    Asked path changed none rest ↔ Asked path options (some switch) (argument :: rest) := by
  have other : ¬Mentions argument :=
    mt isSwitch_of_mentions (Bool.eq_false_iff.mp plain)
  rw [Asked, Asked, givesFile_cons_of_not other]
  by_cases same : switch = .initConfig
  · subst same
    obtain ⟨free, now⟩ := give_initConfig given
    simp [free, now]
  · simp [give_keeps same given, same]

/-- All that reading one argument can do to the file for a template. -/
inductive Reads (options : Options) (argument : String) : Progress → Prop where
  | stops {request : Request} (ends : ∀ final, request ≠ .go final) :
    Reads options argument (.done request)
  | alone (same : argument = "--init-config") : Reads options argument (.value .initConfig options)
  | attached {path : String} {changed : Options} (same : argument = "--init-config=" ++ path)
    (free : options.initConfig = none) (now : changed.initConfig = some path) :
    Reads options argument (.more changed)
  | more {changed : Options} (other : ¬Mentions argument)
    (kept : changed.initConfig = options.initConfig) : Reads options argument (.more changed)
  | waits {switch : Switch} {changed : Options} (other : ¬Mentions argument)
    (apart : switch ≠ .initConfig) (kept : changed.initConfig = options.initConfig) :
    Reads options argument (.value switch changed)

theorem Progress.Keeps.reads {progress : Progress} (kept : progress.Keeps options)
    (other : ¬Mentions argument) : Reads options argument progress := by
  cases progress with
  | done request =>
    refine .stops fun final same => ?_
    subst same
    exact kept
  | more changed => exact .more other kept
  | value switch changed => exact .waits other kept.1 kept.2

theorem reads_readArgument (options : Options) (argument : String) :
    Reads options argument (readArgument options argument) := by
  by_cases mentions : Mentions argument
  · rcases mentions with rfl | ⟨path, rfl⟩
    · rw [readArgument_alone]
      exact .alone rfl
    · rw [readArgument_attached]
      cases given : options.give .initConfig path with
      | none => exact .stops fun _ same => by cases same
      | some changed =>
        obtain ⟨free, now⟩ := give_initConfig given
        exact .attached rfl free now
  · exact (readArgument_keeps mentions).reads mentions

theorem asked_of_more (reads : Reads options argument (.more changed)) :
    Asked path changed none rest ↔ Asked path options none (argument :: rest) := by
  rw [Asked, Asked]
  cases reads with
  | attached same free now => simp [givesFile_cons_iff, attached_ne_alone, same, free, now]
  | more other kept => simp [givesFile_cons_of_not other, kept]

theorem asked_of_waits (reads : Reads options argument (.value switch changed)) :
    Asked path changed (some switch) rest ↔ Asked path options none (argument :: rest) := by
  rw [Asked, Asked]
  cases reads with
  | alone same => simp [givesFile_cons_iff, (attached_ne_alone path).symm, same]
  | waits other apart kept => simp [givesFile_cons_of_not other, apart, kept]

end Steps

section Run

theorem eq_of_finish (finished : finish options = .go final) : final = options := by
  unfold finish at finished
  split_ifs at finished
  exact (Request.go.inj finished).symm

/-- After all arguments, the file for a template is the one that was asked for at any time. -/
theorem initConfig_of_readArguments {waiting : Option Switch} {arguments : List String}
    (read : readArguments options waiting arguments = .go final) :
    final.initConfig = some path ↔ Asked path options waiting arguments := by
  have ends : ¬GivesFile path [] := nofun
  induction arguments generalizing options waiting with
  | nil =>
    unfold readArguments at read
    split_ifs at read
    simp [Asked, eq_of_finish read, ends]
  | cons argument rest ih =>
    unfold readArguments at read
    split at read
    case h_1 switch =>
      split_ifs at read with dash
      split at read
      case h_2 => cases read
      case h_1 changed given =>
        exact (ih read).trans (asked_of_value (Bool.eq_false_iff.mpr dash) given)
    case h_2 =>
      split_ifs at read with dashes last
      -- Two dashes alone name no switch, and nothing may follow them.
      · have other : ¬Mentions argument := fun mentions => by
          subst dashes
          exact absurd ((mentions_iff rfl).mp mentions) (by decide)
        rw [Asked, givesFile_cons_of_not other, List.isEmpty_iff.mp last, eq_of_finish read]
        simp [ends]
      · have reads := reads_readArgument options argument
        split at read
        case h_1 request done =>
          rw [done] at reads
          cases reads with
          | stops ends => exact absurd read (ends final)
        case h_2 changed more => exact (ih read).trans (asked_of_more (more ▸ reads))
        case h_3 switch changed waits => exact (ih read).trans (asked_of_waits (waits ▸ reads))

/-- Arguments that are understood ask for a file exactly where they name it. -/
theorem initConfig_iff_givesFile {arguments : List String}
    (asked : request arguments = .go options) :
    options.initConfig = some path ↔ GivesFile path arguments := by
  rw [initConfig_of_readArguments asked]
  simp [Asked]

end Run

end HdlClosure.CommandLine
