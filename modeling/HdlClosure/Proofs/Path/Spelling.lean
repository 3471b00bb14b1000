import HdlClosure.Proofs.Path
import HdlClosure.Proofs.Text.Words
import Mathlib.Logic.Relation

/-! The spellings of one path. Dots and needless slashes change neither where a path starts nor the
names and parents that it goes through, and these two make up the plain spelling. -/
namespace HdlClosure.Path

/-- Pieces that lead nowhere: what stands between two slashes in a row, and a dot. -/
def isIdle (piece : String) : Bool := piece == "" || piece == "."

/-- The names and parents that a path goes through. -/
def moves (path : String) : List String := (pieces path).filter fun piece => !isIdle piece

theorem isIdle_iff {piece : String} : isIdle piece = true ↔ piece = "" ∨ piece = "." := by
  simp [isIdle]

section Names

/-- A step that names an entry of a directory, rather than staying there or going up. -/
structure Named (step : String) : Prop where
  moves : isIdle step = false
  down : step ≠ ".."

structure EntryName (name : String) : Prop extends Named name where
  plain : '/' ∉ name.toList

variable {name : String}

theorem not_named_up : ¬Named ".." := fun named => named.down rfl

theorem Named.not_idle (named : Named name) : ¬isIdle name = true := by
  rw [named.moves]
  nofun

theorem entryName_iff :
    EntryName name ↔ isIdle name = false ∧ name ≠ ".." ∧ '/' ∉ name.toList := by
  constructor
  · exact fun entryName => ⟨entryName.moves, entryName.down, entryName.plain⟩
  · rintro ⟨moves, down, plain⟩
    exact ⟨⟨moves, down⟩, plain⟩

instance (name : String) : Decidable (EntryName name) :=
  decidable_of_iff _ entryName_iff.symm

end Names

section Moves

theorem intercalate_pieces (path : String) : "/".intercalate (pieces path) = path := by
  apply String.toList_injective
  have joined : ['/'].intercalate (path.toList.splitOn '/') = path.toList :=
    List.intercalate_splitOn '/'
  rw [List.splitOn_eq_splitOnP] at joined
  rw [String.toList_intercalate, pieces, List.map_map]
  simpa [Function.comp_def] using joined

theorem slash_not_mem_of_mem_pieces {path piece : String} (member : piece ∈ pieces path) :
    '/' ∉ piece.toList := by
  obtain ⟨text, part, rfl⟩ := List.mem_map.mp member
  rw [String.toList_ofList]
  intro slash
  exact absurd (Text.not_of_mem_splitOnP part '/' slash) (by decide)

theorem pieces_intercalate {texts : List String} (some : texts ≠ [])
    (slashless : ∀ text ∈ texts, '/' ∉ text.toList) : pieces ("/".intercalate texts) = texts := by
  have split : (['/'].intercalate (texts.map String.toList)).splitOn '/' =
      texts.map String.toList :=
    List.splitOn_intercalate '/' (by simpa using slashless) (by simpa using some)
  rw [List.splitOn_eq_splitOnP] at split
  have slash : "/".toList = ['/'] := rfl
  rw [pieces, String.toList_intercalate, slash, split, List.map_map]
  simp [Function.comp_def]

theorem pieces_between (first rest : String) :
    pieces (first ++ "/" ++ rest) = pieces first ++ pieces rest := by
  have split := pieces_append_slash first.toList rest.toList
  rw [String.ofList_toList, String.ofList_toList] at split
  rw [← split]
  congr 1
  exact String.toList_injective (by simp)

@[simp] theorem moves_between (first rest : String) :
    moves (first ++ "/" ++ rest) = moves first ++ moves rest := by
  rw [moves, pieces_between, List.filter_append]
  rfl

@[simp] theorem moves_empty : moves "" = [] := by decide +kernel

@[simp] theorem moves_dot : moves "." = [] := by decide +kernel

theorem mem_moves {path move : String} :
    move ∈ moves path ↔ move ∈ pieces path ∧ isIdle move = false := by
  rw [moves, List.mem_filter, Bool.not_eq_true']

theorem slash_not_mem_of_mem_moves {path : String} : ∀ move ∈ moves path, '/' ∉ move.toList :=
  fun _ member => slash_not_mem_of_mem_pieces (mem_moves.mp member).1

theorem moves_intercalate (path : String) : moves ("/".intercalate (moves path)) = moves path := by
  by_cases none : moves path = []
  · rw [none, String.intercalate_nil, moves_empty]
  · rw [moves, pieces_intercalate none slash_not_mem_of_mem_moves, List.filter_eq_self]
    exact fun move member => by simp [(mem_moves.mp member).2]

theorem mem_intercalate {c : Char} (other : c ≠ '/') (texts : List String) :
    c ∈ ("/".intercalate texts).toList ↔ ∃ text ∈ texts, c ∈ text.toList := by
  induction texts with
  | nil => simp
  | cons first rest ih =>
    cases rest with
    | nil => simp
    | cons second rest =>
      rw [String.intercalate_cons_cons, String.toList_append, String.toList_append, List.mem_append,
        List.mem_append, ih, List.exists_mem_cons_iff]
      simp [other]

/-- What is neither a slash nor a dot occurs in the moves of a path. -/
theorem mem_toList_iff {c : Char} (noSlash : c ≠ '/') (noDot : c ≠ '.') (path : String) :
    c ∈ path.toList ↔ ∃ move ∈ moves path, c ∈ move.toList := by
  have pieces := mem_intercalate noSlash (pieces path)
  rw [intercalate_pieces] at pieces
  rw [pieces]
  constructor
  · rintro ⟨piece, member, inside⟩
    refine ⟨piece, mem_moves.mpr ⟨member, ?_⟩, inside⟩
    rw [Bool.eq_false_iff, Ne, isIdle_iff]
    rintro (rfl | rfl)
    · cases inside
    · exact noDot (List.mem_singleton.mp inside)
  · rintro ⟨move, member, inside⟩
    exact ⟨move, (mem_moves.mp member).1, inside⟩

end Moves

section Plain

def componentOf (move : String) : Component := if move = ".." then .parent else .name move

theorem componentOf?_eq (piece : String) :
    componentOf? piece = if isIdle piece then none else some (componentOf piece) := by
  by_cases idle : piece = "" ∨ piece = "."
  · rw [componentOf?, if_pos idle, if_pos (isIdle_iff.mpr idle)]
  · rw [componentOf?, if_neg idle, if_neg (isIdle_iff.not.mpr idle), componentOf]
    exact (apply_ite some _ _ _).symm

theorem EntryName.componentOf?_eq {name : String} (entryName : EntryName name) :
    componentOf? name = some (.name name) := by
  rw [Path.componentOf?_eq, entryName.moves, componentOf, if_neg entryName.down]
  rfl

theorem filterMap_componentOf? (path : String) :
    (pieces path).filterMap componentOf? = (moves path).map componentOf := by
  rw [moves, ← List.filterMap_eq_map, List.filterMap_filter]
  congr 1
  funext piece
  rw [componentOf?_eq]
  cases isIdle piece <;> rfl

theorem text_componentOf (move : String) : (componentOf move).text = move := by
  unfold componentOf
  split
  case isTrue up => exact up.symm
  case isFalse => rfl

theorem ofComponents_componentOf (texts : List String) :
    ofComponents (texts.map componentOf) = "/".intercalate texts := by
  have same : (texts.map componentOf).map Component.text = texts := by
    simp [Function.comp_def, text_componentOf]
  cases texts with
  | nil => rfl
  | cons first rest =>
    rw [List.map_cons] at same
    have notRoot : componentOf first ≠ .root := by
      unfold componentOf
      split <;> nofun
    rw [List.map_cons, ofComponents, same]
    exact fun root => notRoot root

/-- The plain spelling takes a path from where it starts through its moves. -/
theorem plain_eq (path : String) :
    plain path = (if isAbsolute path then "/" else "") ++ "/".intercalate (moves path) := by
  have kept : ((moves path).map componentOf).filter (· != .current) =
      (moves path).map componentOf := by
    rw [List.filter_eq_self]
    intro component member
    obtain ⟨move, _, rfl⟩ := List.mem_map.mp member
    unfold componentOf
    split <;> rfl
  rw [plain, components, List.filter_append, filterMap_componentOf?, kept]
  by_cases absolute : isAbsolute path = true
  · rw [if_pos absolute, if_pos absolute]
    show "/" ++ "/".intercalate (((moves path).map componentOf).map Component.text) = _
    simp [Function.comp_def, text_componentOf]
  · rw [if_neg absolute, if_neg absolute, String.empty_append, ← ofComponents_componentOf]
    split <;> rfl

theorem isAbsolute_append {first : String} (given : first ≠ "") (rest : String) :
    isAbsolute (first ++ rest) = isAbsolute first := by
  rw [isAbsolute, isAbsolute, String.toList_append, List.head?_append_of_ne_nil]
  simpa using given

theorem exists_of_isAbsolute {path : String} (absolute : isAbsolute path = true) :
    ∃ rest, path = "/" ++ rest := by
  obtain ⟨rest, begins⟩ := List.head?_eq_some_iff.mp (beq_iff_eq.mp absolute)
  refine ⟨String.ofList rest, String.toList_injective ?_⟩
  simp [begins]

theorem moves_slash (rest : String) : moves ("/" ++ rest) = moves rest := by
  rw [show "/" ++ rest = "" ++ "/" ++ rest from rfl, moves_between, moves_empty, List.nil_append]

theorem moves_plain (path : String) : moves (plain path) = moves path := by
  rw [plain_eq]
  split
  · rw [moves_slash, moves_intercalate]
  · rw [String.empty_append, moves_intercalate]

theorem begins_of_mem_moves {path move : String} (member : move ∈ moves path) :
    move ≠ "" ∧ isAbsolute move = false := by
  obtain ⟨piece, moving⟩ := mem_moves.mp member
  constructor
  · rintro rfl
    cases moving
  · rw [Bool.eq_false_iff]
    intro absolute
    obtain ⟨rest, rfl⟩ := exists_of_isAbsolute absolute
    exact slash_not_mem_of_mem_pieces piece (by simp)

theorem isAbsolute_moves (path : String) :
    isAbsolute ("/".intercalate (moves path)) = false := by
  cases split : moves path with
  | nil => rfl
  | cons first rest =>
    obtain ⟨given, relative⟩ := begins_of_mem_moves (split ▸ List.mem_cons_self)
    cases rest with
    | nil => rwa [String.intercalate_singleton]
    | cons second rest =>
      rw [String.intercalate_cons_cons, String.append_assoc, isAbsolute_append given, relative]

theorem isAbsolute_plain (path : String) : isAbsolute (plain path) = isAbsolute path := by
  rw [plain_eq]
  by_cases absolute : isAbsolute path = true
  · rw [if_pos absolute, absolute, isAbsolute_append (by decide)]
    rfl
  · rw [if_neg absolute, String.empty_append, isAbsolute_moves, Bool.eq_false_iff.mpr absolute]

theorem utf8ByteSize_intercalate_cons (first : String) {rest : List String} (some : rest ≠ []) :
    ("/".intercalate (first :: rest)).utf8ByteSize =
      first.utf8ByteSize + (1 + ("/".intercalate rest).utf8ByteSize) := by
  rw [String.intercalate_cons_of_ne_nil some, String.utf8ByteSize_append,
    String.utf8ByteSize_append, Nat.add_assoc]
  rfl

theorem utf8ByteSize_intercalate_le {part whole : List String} (fewer : part.Sublist whole) :
    ("/".intercalate part).utf8ByteSize ≤ ("/".intercalate whole).utf8ByteSize := by
  induction fewer with
  | slnil => exact Nat.le_refl _
  | @cons part rest first fewer ih =>
    by_cases last : rest = []
    · rw [last, List.sublist_nil] at fewer
      rw [fewer, String.intercalate_nil]
      exact Nat.zero_le _
    · rw [utf8ByteSize_intercalate_cons first last]
      omega
  | @cons_cons part rest first fewer ih =>
    by_cases last : rest = []
    · rw [last, List.sublist_nil] at fewer
      exact Nat.le_of_eq (by rw [fewer, last])
    · rw [utf8ByteSize_intercalate_cons first last]
      by_cases alone : part = []
      · rw [alone, String.intercalate_singleton]
        exact Nat.le_add_right _ _
      · rw [utf8ByteSize_intercalate_cons first alone]
        omega

theorem utf8ByteSize_moves_le (path : String) :
    ("/".intercalate (moves path)).utf8ByteSize ≤ path.utf8ByteSize := by
  have fewer : (moves path).Sublist (pieces path) := List.filter_sublist
  have shorter := utf8ByteSize_intercalate_le fewer
  rwa [intercalate_pieces] at shorter

end Plain

/-- One change in the spelling of a path: a dot in front, a slash made two or a dot between two, a
slash at the end, or a slash and a dot. -/
inductive Respelling : String → String → Prop where
  | dotted (path : String) (relative : isAbsolute path = false) : Respelling path ("./" ++ path)
  | doubled (before after : String) : Respelling (before ++ "/" ++ after) (before ++ "//" ++ after)
  | dotBetween (before after : String) :
    Respelling (before ++ "/" ++ after) (before ++ "/./" ++ after)
  | slashed (path : String) : Respelling path (path ++ "/")
  | dottedEnd (path : String) : Respelling path (path ++ "/.")

structure Alike (path other : String) : Prop where
  given : path ≠ ""
  otherGiven : other ≠ ""
  start : isAbsolute path = isAbsolute other
  moves : moves path = moves other

section Alike

variable {path other third : String}

theorem Alike.refl (given : path ≠ "") : Alike path path := ⟨given, given, rfl, rfl⟩

theorem Alike.trans (alike : Alike path other) (next : Alike other third) : Alike path third :=
  ⟨alike.given, next.otherGiven, alike.start.trans next.start, alike.moves.trans next.moves⟩

theorem isAbsolute_between (first rest : String) :
    isAbsolute (first ++ "/" ++ rest) = isAbsolute (first ++ "/") :=
  isAbsolute_append (by simp) rest

theorem alike_between {idle : String} (leadsNowhere : moves idle = []) (before after : String) :
    Alike (before ++ "/" ++ after) (before ++ "/" ++ idle ++ "/" ++ after) where
  given := by simp
  otherGiven := by simp
  start := by
    have after' : before ++ "/" ++ idle ++ "/" ++ after =
        before ++ "/" ++ (idle ++ "/" ++ after) := by simp only [String.append_assoc]
    rw [after', isAbsolute_between, isAbsolute_between]
  moves := by simp [leadsNowhere]

theorem alike_after {idle : String} (leadsNowhere : moves idle = []) (given : path ≠ "") :
    Alike path (path ++ "/" ++ idle) where
  given := given
  otherGiven := by simp
  start := by rw [String.append_assoc, isAbsolute_append given]
  moves := by simp [leadsNowhere]

theorem Respelling.alike (respelling : Respelling path other) (given : path ≠ "") :
    Alike path other := by
  cases respelling with
  | dotted _ relative =>
    refine ⟨given, by simp, ?_, ?_⟩
    · rw [relative, @isAbsolute_append "./" (by decide)]
      rfl
    · rw [show "./" ++ path = "." ++ "/" ++ path from rfl, moves_between, moves_dot,
        List.nil_append]
  | doubled before after =>
    have inserted := alike_between moves_empty before after
    rwa [show before ++ "/" ++ "" ++ "/" ++ after = before ++ "//" ++ after from
      String.toList_injective (by simp)] at inserted
  | dotBetween before after =>
    have inserted := alike_between moves_dot before after
    rwa [show before ++ "/" ++ "." ++ "/" ++ after = before ++ "/./" ++ after from
      String.toList_injective (by simp)] at inserted
  | slashed =>
    have appended := alike_after moves_empty given
    rwa [String.append_empty] at appended
  | dottedEnd =>
    have appended := alike_after moves_dot given
    rwa [String.append_assoc] at appended

/-- A path stays the same through any number of changes in its spelling. -/
theorem alike_of_respellings (respellings : Relation.ReflTransGen Respelling path other)
    (given : path ≠ "") : Alike path other := by
  induction respellings with
  | refl => exact .refl given
  | tail _ respelling alike => exact alike.trans (respelling.alike alike.otherGiven)

end Alike

section Walked

theorem alike_walked {directory : String} (given : directory ≠ "") :
    Alike directory (walked directory) := by
  unfold walked
  by_cases here : plain directory = ""
  · have start := isAbsolute_plain directory
    have same := moves_plain directory
    rw [here] at start same
    rw [if_pos here]
    exact ⟨given, by decide, start.symm, same.symm⟩
  · rw [if_neg here]
    exact ⟨given, here, (isAbsolute_plain directory).symm, (moves_plain directory).symm⟩

theorem Alike.plain {path other : String} (alike : Alike path other) :
    plain path = plain other := by
  rw [plain_eq, plain_eq, alike.start, alike.moves]

theorem walked_eq_dash_iff {directory : String} :
    walked directory = "-" ↔ plain directory = "-" := by
  unfold walked
  split
  case isTrue here => simp [here]
  case isFalse => rfl

theorem utf8ByteSize_walked_le {directory : String} (given : directory ≠ "") :
    (walked directory).utf8ByteSize ≤ directory.utf8ByteSize := by
  unfold walked
  split
  · exact Nat.one_le_iff_ne_zero.mpr (String.utf8ByteSize_eq_zero_iff.not.mpr given)
  · rw [plain_eq]
    by_cases absolute : isAbsolute directory = true
    · obtain ⟨rest, rfl⟩ := exists_of_isAbsolute absolute
      rw [if_pos absolute, moves_slash, String.utf8ByteSize_append, String.utf8ByteSize_append]
      exact Nat.add_le_add_left (utf8ByteSize_moves_le rest) _
    · rw [if_neg absolute, String.empty_append]
      exact utf8ByteSize_moves_le directory

end Walked

end HdlClosure.Path
