import HdlClosure.FileTree.Access
import Mathlib.Data.List.Infix

namespace HdlClosure

theorem bind_eq_ok_iff {ε α β : Type} {first : Except ε α} {next : α → Except ε β} {value : β} :
    (first >>= next) = .ok value ↔ ∃ middle, first = .ok middle ∧ next middle = .ok value := by
  cases first with
  | error error => exact ⟨nofun, nofun⟩
  | ok middle =>
    constructor
    · exact fun found => ⟨middle, rfl, found⟩
    · rintro ⟨_, same, found⟩
      cases same
      exact found

namespace FileTree

section Entries

variable {tree : FileTree} {location : Location}

theorem entry?_put_self (tree : FileTree) (below : location ≠ []) (entry : Entry) :
    entry? (tree.put location entry) location = some entry := by
  simp [ entry?, put, below]

theorem entry?_put_of_ne {place : Location} (other : place ≠ location) (entry : Entry) :
    entry? (tree.put location entry) place = entry? tree place := by
  have apart : compare location place ≠ .eq := fun same =>
    other (Std.LawfulEqCmp.eq_of_compare same).symm
  simp [ entry?, put, Std.TreeMap.getElem?_insert, apart]

theorem ne_nil_of_isDirectoryAt (free : tree.isDirectoryAt location = false) : location ≠ [] := by
  rintro rfl
  cases free

theorem isDirectoryAt_put {place : Location} (free : tree.isDirectoryAt location = false)
    (directory : tree.isDirectoryAt place = true) (entry : Entry) :
    (tree.put location entry).isDirectoryAt place = true := by
  have other : place ≠ location := by
    rintro rfl
    rw [free] at directory
    cases directory
  rwa [isDirectoryAt, entry?_put_of_ne other]

end Entries

theorem readText_of_file {tree : FileTree} {path : String} (location : Location)
    (text : String) (leads : tree.resolve path = .ok location)
    (holds : tree.entry? location = some (.file text.toUTF8)) : tree.readText path = .ok text := by
  have bytes : tree.readBytes path = .ok text.toUTF8 := by
    simp [readBytes, leads, holds, Bind.bind, Except.bind]
  have decoded : String.fromUTF8? text.toByteArray = some text := by
    unfold String.fromUTF8?
    simpa using ⟨text.isValidUTF8, rfl⟩
  simp [readText, bytes, decoded, Bind.bind, Except.bind]

section Writing

def Spot.location : Spot → Location
  | .found location => location
  | .vacant parent name => parent ++ [name]

/-- A look-up comes to the location of a file that was written in a tree, from a place that the
look-up before came through. The file can stand for a link only where the place lies below it. -/
structure Reached (tree : FileTree) (location place : Location)
    (outcome : Except AccessError Spot) : Prop where
  free : tree.isDirectoryAt location = false
  found : outcome = .ok (.found location)
  apart : location <+: place ∨ ∀ target, tree.entry? location ≠ some (.link target)

structure IsName (step : String) : Prop where
  moves : ¬(step = "" ∨ step = ".")
  down : step ≠ ".."
  fits : ¬nameLimit < step.utf8ByteSize

variable {tree : FileTree} {follow again : Location → List String → Except AccessError Spot}

section Steps

variable {location place : Location} {step : String} {rest : List String}

theorem walkWith_link {target : String} (directory : tree.isDirectoryAt place = true)
    (name : IsName step) (found : tree.entry? (place ++ [step]) = some (.link target)) :
    walkWith tree false again place (step :: rest) =
      again (startOf place target) (steps target ++ rest) := by
  simp [walkWith, directory, name.moves, name.down, name.fits, found]

theorem walkWith_entry {entry : Entry} (directory : tree.isDirectoryAt place = true)
    (name : IsName step) (found : tree.entry? (place ++ [step]) = some entry)
    (noLink : ∀ target, entry ≠ .link target) :
    walkWith tree false again place (step :: rest) =
      walkWith tree false again (place ++ [step]) rest := by
  simp [walkWith, directory, name.moves, name.down, name.fits, found]

theorem prefix_of_startOf {target : String} (above : location <+: startOf place target) :
    location <+: place := by
  unfold startOf at above
  split at above
  · rw [List.prefix_nil.mp above]
    exact List.nil_prefix
  · exact above

variable (directory : tree.isDirectoryAt place = true) {content : ByteArray}

include directory

theorem Reached.stay (idle : step = "" ∨ step = ".")
    (reached : Reached tree location place
      (walkWith (tree.put location (.file content)) false again place rest)) :
    Reached tree location place
      (walkWith (tree.put location (.file content)) false again place (step :: rest)) := by
  have there := isDirectoryAt_put reached.free directory (.file content)
  refine ⟨reached.free, ?_, reached.apart⟩
  rw [walkWith, if_pos there, if_pos idle, reached.found]

theorem Reached.up (moves : ¬(step = "" ∨ step = ".")) (up : step = "..")
    (reached : Reached tree location place.dropLast
      (walkWith (tree.put location (.file content)) false again place.dropLast rest)) :
    Reached tree location place
      (walkWith (tree.put location (.file content)) false again place (step :: rest)) := by
  have there := isDirectoryAt_put reached.free directory (.file content)
  have higher (above : location <+: place.dropLast) : location <+: place :=
    above.trans (List.dropLast_prefix place)
  refine ⟨reached.free, ?_, reached.apart.imp_left higher⟩
  rw [walkWith, if_pos there, if_neg moves, if_pos up, reached.found]

theorem Reached.through (name : IsName step) {target : String}
    (link : tree.entry? (place ++ [step]) = some (.link target))
    (reached : Reached tree location (startOf place target)
      (again (startOf place target) (steps target ++ rest))) :
    Reached tree location place
      (walkWith (tree.put location (.file content)) false again place (step :: rest)) := by
  have there := isDirectoryAt_put reached.free directory (.file content)
  -- The file did not replace this link, or the look-up before would have come below a link.
  have other : place ++ [step] ≠ location := by
    rintro rfl
    rcases reached.apart with above | noLink
    · have shorter := (prefix_of_startOf above).length_le
      rw [List.length_append, List.length_singleton] at shorter
      exact Nat.not_succ_le_self _ shorter
    · exact noLink target link
  have kept := (entry?_put_of_ne other (.file content)).trans link
  refine ⟨reached.free, ?_, reached.apart.imp_left prefix_of_startOf⟩
  rw [walkWith_link there name kept, reached.found]

theorem Reached.into (name : IsName step) {entry : Entry}
    (present : tree.entry? (place ++ [step]) = some entry) (noLink : ∀ target, entry ≠ .link target)
    (reached : Reached tree location (place ++ [step])
      (walkWith (tree.put location (.file content)) false again (place ++ [step]) rest)) :
    Reached tree location place
      (walkWith (tree.put location (.file content)) false again place (step :: rest)) := by
  have there := isDirectoryAt_put reached.free directory (.file content)
  refine ⟨reached.free, ?_, ?_⟩
  -- The entry on the way may be the very file that was written over.
  · by_cases here : place ++ [step] = location
    · subst here
      have written := entry?_put_self tree (ne_nil_of_isDirectoryAt reached.free) (.file content)
      rw [walkWith_entry there name written nofun, reached.found]
    · have kept := (entry?_put_of_ne here (.file content)).trans present
      rw [walkWith_entry there name kept noLink, reached.found]
  · rcases reached.apart with above | other
    · rcases List.prefix_concat_iff.mp above with rfl | inner
      · refine .inr fun target link => noLink target ?_
        rwa [present, Option.some.injEq] at link
      · exact .inl inner
    · exact .inr other

theorem Reached.new (name : IsName step) (none : tree.entry? (place ++ [step]) = none) :
    Reached tree (place ++ [step]) place
      (walkWith (tree.put (place ++ [step]) (.file content)) false again place [step]) := by
  have free : tree.isDirectoryAt (place ++ [step]) = false := by
    rw [isDirectoryAt, none]
    rfl
  have there := isDirectoryAt_put free directory (.file content)
  have written := entry?_put_self tree (ne_nil_of_isDirectoryAt free) (.file content)
  refine ⟨free, ?_, .inr fun target link => ?_⟩
  · rw [walkWith_entry there name written nofun]
    rfl
  · rw [none] at link
    cases link

end Steps

variable {spot : Spot} {content : ByteArray}

/-- After a file is written, the steps that led to where it was to be made lead to it. -/
theorem walkWith_put
    (overwrites : ∀ location, spot = .found location → tree.isDirectoryAt location = false)
    (follows : ∀ place steps, follow place steps = .ok spot →
      Reached tree spot.location place (again place steps))
    {place : Location} {steps : List String}
    (walked : walkWith tree true follow place steps = .ok spot) :
    Reached tree spot.location place
      (walkWith (tree.put spot.location (.file content)) false again place steps) := by
  induction steps generalizing place with
  | nil =>
    obtain rfl : Spot.found place = spot := Except.ok.inj walked
    exact ⟨overwrites place rfl, rfl, .inl (List.prefix_refl place)⟩
  | cons step rest ih =>
    rw [walkWith] at walked
    split at walked
    case isFalse => cases walked
    case isTrue directory =>
    split at walked
    case isTrue idle => exact (ih walked).stay directory idle
    case isFalse idle =>
    split at walked
    case isTrue up => exact (ih walked).up directory idle up
    case isFalse up =>
    split at walked
    case isTrue => cases walked
    case isFalse slash =>
    split at walked
    case isTrue => cases walked
    case isFalse long =>
    have name : IsName step := ⟨idle, up, long⟩
    split at walked
    case h_1 target link => exact (follows _ _ walked).through directory name link
    case h_2 entry noLink present => exact (ih walked).into directory name present noLink
    case h_3 none =>
    split at walked
    case isFalse => cases walked
    case isTrue last =>
      -- A free name comes last: the slash that could follow it asks for a directory.
      obtain rfl : Spot.vacant place step = spot := Except.ok.inj walked
      obtain rfl : rest = [] := last.resolve_right fun slashed => slash ⟨rfl, slashed⟩
      exact Reached.new directory name none

theorem walk_put (content : ByteArray)
    (overwrites : ∀ location, spot = .found location → tree.isDirectoryAt location = false)
    {links : Nat} {place : Location} {steps : List String}
    (walked : walk tree true links place steps = .ok spot) :
    Reached tree spot.location place
      (walk (tree.put spot.location (.file content)) false links place steps) := by
  induction links generalizing place steps with
  | zero => exact walkWith_put overwrites (fun _ _ tooMany => by cases tooMany) walked
  | succ links ih => exact walkWith_put overwrites (fun _ _ => ih) walked

/-- The path that a file was made at leads to it. -/
theorem resolve_put {path : String} (located : tree.locateNew path = .ok spot)
    (overwrites : ∀ location, spot = .found location → tree.isDirectoryAt location = false) :
    spot.location ≠ [] ∧
      (tree.put spot.location (.file content)).resolve path = .ok spot.location := by
  unfold locateNew spotOf at located
  split_ifs at located with zero empty long
  obtain ⟨free, found, _⟩ := walk_put content overwrites located
  have start : (tree.put spot.location (.file content)).here = tree.here := rfl
  refine ⟨ne_nil_of_isDirectoryAt free, ?_⟩
  rw [resolve, locate, spotOf, if_neg zero, if_neg empty, if_neg long, start, found]

/-- A file is written at the location that its path leads to, and no directory stands there. -/
theorem exists_spot_of_writeBytes {written : FileTree} {path : String}
    (wrote : tree.writeBytes path content = .ok written) :
    ∃ spot, tree.locateNew path = .ok spot ∧ written = tree.put spot.location (.file content) ∧
      ∀ location, spot = .found location → tree.isDirectoryAt location = false := by
  obtain ⟨spot, located, wrote⟩ := bind_eq_ok_iff.mp wrote
  refine ⟨spot, located, ?_⟩
  cases spot with
  | found location =>
    dsimp only at wrote
    split_ifs at wrote with directory
    refine ⟨(Except.ok.inj wrote).symm, fun place same => ?_⟩
    rw [← Spot.found.inj same]
    simpa using directory
  | vacant parent name => exact ⟨(Except.ok.inj wrote).symm, nofun⟩

theorem readText_writeText {written : FileTree} {path text : String}
    (wrote : tree.writeText path text = .ok written) : written.readText path = .ok text := by
  obtain ⟨spot, located, rfl, overwrites⟩ := exists_spot_of_writeBytes wrote
  obtain ⟨below, leads⟩ := resolve_put located overwrites
  exact readText_of_file spot.location text leads (entry?_put_self tree below _)

end Writing

end FileTree

end HdlClosure
