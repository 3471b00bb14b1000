import HdlClosure.Proofs.FileTree.WellFormed

namespace HdlClosure.FileTree

variable {tree other : FileTree} {path : String} {location : Location} {spot : Spot}
  {content : ByteArray}

section Resolve

theorem steps_ne_nil (given : path ≠ "") : steps path ≠ [] := by
  intro none
  obtain ⟨named, slash⟩ := List.append_eq_nil_iff.mp none
  have some : path.toList ≠ [] := mt String.toList_eq_nil_iff.mp given
  have last := List.getLast?_eq_some_getLast some
  by_cases ends : path.toList.getLast some = '/'
  · rw [ends] at last
    simp [last] at slash
  · have inside := List.mem_of_getLast? last
    generalize path.toList.getLast some = c at inside ends
    rw [← Path.intercalate_pieces path, Path.mem_intercalate ends] at inside
    obtain ⟨piece, member, within⟩ := inside
    have blank := List.filter_eq_nil_iff.mp named piece member
    obtain rfl : piece = "" := by simpa using blank
    cases within

theorem Leads.isDirectoryAt {place target : Location} {step : String} {rest : List String}
    (leads : Leads tree place (step :: rest) target) : tree.isDirectoryAt place = true := by
  cases leads <;> assumption

theorem WellFormed.solid_of_resolve (wellFormed : tree.WellFormed)
    (leads : tree.resolve path = .ok location) : Solid tree location := by
  obtain ⟨given, _, walked⟩ := walk_of_resolve leads
  have route := leads_of_walk walked
  obtain ⟨step, rest, cut⟩ := List.exists_cons_of_ne_nil (steps_ne_nil given)
  have start := (cut ▸ route).isDirectoryAt
  exact wellFormed.solid_of_leads (solid_of_isDirectoryAt start) route

end Resolve

section Making

variable {follow again : Location → List String → Except AccessError Spot} {place : Location}
  {route : List String}

def Spot.Free (tree : FileTree) : Spot → Prop
  | .found _ => True
  | .vacant parent name => tree.entry? (parent ++ [name]) = none

/-- What is found for a file that is to be made is found by every look-up. -/
theorem walkWith_of_making
    (follows : ∀ start steps, follow start steps = .ok spot →
      again start steps = .ok spot ∧ spot.Free tree)
    (walked : walkWith tree true follow place route = .ok spot) :
    walkWith tree false again place route = .ok spot ∧ spot.Free tree := by
  induction route generalizing place with
  | nil =>
    cases walked
    exact ⟨rfl, trivial⟩
  | cons step rest ih =>
    rw [walkWith] at walked ⊢
    split at walked
    case isFalse => cases walked
    case isTrue directory =>
    rw [if_pos directory]
    split at walked
    case isTrue idle =>
      rw [if_pos idle]
      exact ih walked
    case isFalse idle =>
    rw [if_neg idle]
    split at walked
    case isTrue up =>
      rw [if_pos up]
      exact ih walked
    case isFalse up =>
    -- Only the look-up that makes a file minds a slash at the end.
    rw [if_neg up, if_neg (fun making => Bool.false_ne_true making.1)]
    split at walked
    case isTrue => cases walked
    case isFalse =>
    split at walked
    case isTrue => cases walked
    case isFalse fits =>
    rw [if_neg fits]
    split at walked
    case h_1 target link => exact follows _ _ walked
    case h_2 entry noLink present => exact ih walked
    case h_3 none =>
      refine ⟨walked, ?_⟩
      split at walked <;> cases walked
      exact none

theorem walk_of_making {links : Nat} (walked : walk tree true links place route = .ok spot) :
    walk tree false links place route = .ok spot ∧ spot.Free tree := by
  induction links generalizing place route with
  | zero => exact walkWith_of_making (fun _ _ tooMany => by cases tooMany) walked
  | succ links ih => exact walkWith_of_making (fun _ _ => ih) walked

theorem locate_of_locateNew (located : tree.locateNew path = .ok spot) :
    tree.locate path = .ok spot ∧ spot.Free tree := by
  unfold locateNew spotOf at located
  split_ifs at located with zero empty long
  rw [locate, spotOf, if_neg zero, if_neg empty, if_neg long]
  exact walk_of_making located

end Making

section Writing

/-- A file at the location is new under the path, or takes the place of the file that the path leads
to. -/
inductive TakesFile (tree : FileTree) (path : String) (location : Location) : Prop where
  | new (missing : tree.resolve path = .error .notFound) (free : tree.entry? location = none)
  | old (leads : tree.resolve path = .ok location) (apart : tree.isDirectoryAt location = false)
    (file : tree.WellFormed → ∃ content, tree.entry? location = some (.file content))

/-- The second tree is the first with one file written, the one that the path leads to. -/
structure OnlyWrote (before after : FileTree) (path : String) (content : ByteArray)
    (location : Location) : Prop where
  takes : before.TakesFile path location
  leads : after.resolve path = .ok location
  holds : after.entry? location = some (.file content)
  others : ∀ place ≠ location, after.entry? place = before.entry? place
  here : after.here = before.here

/-- The path is looked up alike in both trees when a file is to be made at it. -/
structure FindsAlike (first second : FileTree) (path : String) : Prop where
  spot : first.locateNew path = second.locateNew path
  directory : ∀ location, first.locateNew path = .ok (.found location) →
    first.isDirectoryAt location = second.isDirectoryAt location

theorem FindsAlike.refl (tree : FileTree) (path : String) : FindsAlike tree tree path :=
  ⟨rfl, fun _ _ => rfl⟩

theorem takesFile_of_locateNew (located : tree.locateNew path = .ok spot)
    (overwrites : ∀ location, spot = .found location → tree.isDirectoryAt location = false) :
    tree.TakesFile path spot.location := by
  obtain ⟨looked, free⟩ := locate_of_locateNew located
  cases spot with
  | vacant parent name => exact .new (by rw [resolve, looked]) free
  | found location =>
    have leads : tree.resolve path = .ok location := by rw [resolve, looked]
    exact .old leads (overwrites location rfl) fun wellFormed =>
      (wellFormed.solid_of_resolve leads).exists_content (overwrites location rfl)

theorem onlyWrote_put (located : tree.locateNew path = .ok spot)
    (overwrites : ∀ location, spot = .found location → tree.isDirectoryAt location = false) :
    OnlyWrote tree (tree.put spot.location (.file content)) path content spot.location := by
  obtain ⟨below, leads⟩ := resolve_put located overwrites
  exact ⟨takesFile_of_locateNew located overwrites, leads, entry?_put_self tree below _,
    fun place apart => entry?_put_of_ne apart _, rfl⟩

theorem writeBytes_of_error {cause : AccessError} (located : tree.locateNew path = .error cause) :
    tree.writeBytes path content = .error cause := by
  rw [writeBytes, located]
  rfl

theorem writeBytes_of_directory (located : tree.locateNew path = .ok (.found location))
    (directory : tree.isDirectoryAt location = true) :
    tree.writeBytes path content = .error .isDirectory := by
  rw [writeBytes, located]
  exact if_pos directory

theorem writeBytes_of_spot (located : tree.locateNew path = .ok spot)
    (overwrites : ∀ location, spot = .found location → tree.isDirectoryAt location = false) :
    tree.writeBytes path content = .ok (tree.put spot.location (.file content)) := by
  rw [writeBytes, located]
  cases spot with
  | found location => exact if_neg (Bool.eq_false_iff.mp (overwrites location rfl))
  | vacant parent name => rfl

/-- In trees that find the path alike, one error stops the writing, or it is done at one location. -/
theorem writeBytes_alike (alike : FindsAlike tree other path) (content : ByteArray) :
    (∃ cause, tree.writeBytes path content = .error cause ∧
      other.writeBytes path content = .error cause) ∨
    ∃ location written rewritten, tree.writeBytes path content = .ok written ∧
      other.writeBytes path content = .ok rewritten ∧
      OnlyWrote tree written path content location ∧
      OnlyWrote other rewritten path content location := by
  cases located : tree.locateNew path with
  | error cause =>
    have also := alike.spot.symm.trans located
    exact .inl ⟨cause, writeBytes_of_error located, writeBytes_of_error also⟩
  | ok spot =>
    have also := alike.spot.symm.trans located
    by_cases overwrites : ∀ location, spot = .found location → tree.isDirectoryAt location = false
    · have overwrites' (location : Location) (found : spot = .found location) :
          other.isDirectoryAt location = false :=
        (alike.directory location (located.trans (congrArg _ found))) ▸ overwrites location found
      exact .inr ⟨spot.location, _, _, writeBytes_of_spot located overwrites,
        writeBytes_of_spot also overwrites', onlyWrote_put located overwrites,
        onlyWrote_put also overwrites'⟩
    · push Not at overwrites
      obtain ⟨location, rfl, directory⟩ := overwrites
      rw [ne_eq, Bool.not_eq_false] at directory
      have directory' := alike.directory location located ▸ directory
      exact .inl ⟨_, writeBytes_of_directory located directory,
        writeBytes_of_directory also directory'⟩

end Writing

end HdlClosure.FileTree
