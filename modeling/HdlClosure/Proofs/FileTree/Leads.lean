import HdlClosure.Proofs.FileTree.Spelling

/-! Where steps lead in a tree of files, whatever the limits of a look-up: every link is followed,
and a name may have any length. Steps lead to one place at most, and a look-up that ends at an entry
ends there. -/
namespace HdlClosure.FileTree

/-- The steps lead from a place to a target. -/
inductive Leads (tree : FileTree) : Location → List String → Location → Prop where
  | here (place : Location) : Leads tree place [] place
  | stay {place target : Location} {step : String} {rest : List String}
    (directory : tree.isDirectoryAt place = true) (idle : Path.isIdle step = true)
    (leads : Leads tree place rest target) : Leads tree place (step :: rest) target
  | up {place target : Location} {rest : List String}
    (directory : tree.isDirectoryAt place = true) (leads : Leads tree place.dropLast rest target) :
    Leads tree place (".." :: rest) target
  | through {place target : Location} {step text : String} {rest : List String}
    (directory : tree.isDirectoryAt place = true) (named : Path.Named step)
    (link : tree.entry? (place ++ [step]) = some (.link text))
    (leads : Leads tree (startOf place text) (steps text ++ rest) target) :
    Leads tree place (step :: rest) target
  | into {place target : Location} {step : String} {rest : List String} {entry : Entry}
    (directory : tree.isDirectoryAt place = true) (named : Path.Named step)
    (present : tree.entry? (place ++ [step]) = some entry) (noLink : ∀ text, entry ≠ .link text)
    (leads : Leads tree (place ++ [step]) rest target) : Leads tree place (step :: rest) target

namespace Leads

variable {tree : FileTree} {place target other : Location} {step : String}
  {route rest : List String}

section Inversion

theorem eq_of_nil (leads : Leads tree place [] target) : place = target := by
  cases leads
  rfl

theorem of_idle (idle : Path.isIdle step = true) (leads : Leads tree place (step :: rest) target) :
    Leads tree place rest target := by
  cases leads with
  | stay _ _ leads => exact leads
  | up => exact absurd idle (by decide)
  | through _ named => exact absurd idle named.not_idle
  | into _ named => exact absurd idle named.not_idle

theorem of_up (leads : Leads tree place (".." :: rest) target) :
    Leads tree place.dropLast rest target := by
  cases leads with
  | stay _ idle => exact absurd idle (by decide)
  | up _ leads => exact leads
  | through _ named => exact absurd named Path.not_named_up
  | into _ named => exact absurd named Path.not_named_up

theorem of_link {text : String} (named : Path.Named step)
    (link : tree.entry? (place ++ [step]) = some (.link text))
    (leads : Leads tree place (step :: rest) target) :
    Leads tree (startOf place text) (steps text ++ rest) target := by
  cases leads with
  | stay _ idle => exact absurd idle named.not_idle
  | up => exact absurd named Path.not_named_up
  | through _ _ found leads =>
    rw [link] at found
    cases found
    exact leads
  | into _ _ present noLink =>
    rw [link] at present
    cases present
    exact absurd rfl (noLink text)

theorem of_entry {entry : Entry} (named : Path.Named step)
    (present : tree.entry? (place ++ [step]) = some entry) (noLink : ∀ text, entry ≠ .link text)
    (leads : Leads tree place (step :: rest) target) :
    Leads tree (place ++ [step]) rest target := by
  cases leads with
  | stay _ idle => exact absurd idle named.not_idle
  | up => exact absurd named Path.not_named_up
  | through _ _ link =>
    rw [present] at link
    exact absurd (Option.some.inj link) (noLink _)
  | into _ _ _ _ leads => exact leads

end Inversion

theorem unique (leads : Leads tree place route target) (also : Leads tree place route other) :
    target = other := by
  induction leads with
  | here => exact also.eq_of_nil
  | stay _ idle _ ih => exact ih (also.of_idle idle)
  | up _ _ ih => exact ih also.of_up
  | through _ named link _ ih => exact ih (also.of_link named link)
  | into _ named present noLink _ ih => exact ih (also.of_entry named present noLink)

theorem split {first second : List String} (leads : Leads tree place (first ++ second) target) :
    ∃ middle, Leads tree place first middle ∧ Leads tree middle second target := by
  generalize whole : first ++ second = route at leads
  induction leads generalizing first with
  | here place =>
    obtain ⟨rfl, rfl⟩ := List.append_eq_nil_iff.mp whole
    exact ⟨place, .here place, .here place⟩
  | stay directory idle leads ih =>
    rcases List.append_eq_cons_iff.mp whole with ⟨rfl, rfl⟩ | ⟨left, rfl, rfl⟩
    · exact ⟨_, .here _, .stay directory idle leads⟩
    · obtain ⟨middle, before, after⟩ := ih rfl
      exact ⟨middle, .stay directory idle before, after⟩
  | up directory leads ih =>
    rcases List.append_eq_cons_iff.mp whole with ⟨rfl, rfl⟩ | ⟨left, rfl, rfl⟩
    · exact ⟨_, .here _, .up directory leads⟩
    · obtain ⟨middle, before, after⟩ := ih rfl
      exact ⟨middle, .up directory before, after⟩
  | through directory named link leads ih =>
    rcases List.append_eq_cons_iff.mp whole with ⟨rfl, rfl⟩ | ⟨left, rfl, rfl⟩
    · exact ⟨_, .here _, .through directory named link leads⟩
    -- The steps of the link come before those that are left of the first ones.
    · obtain ⟨middle, before, after⟩ := ih (List.append_assoc _ left second)
      exact ⟨middle, .through directory named link before, after⟩
  | into directory named present noLink leads ih =>
    rcases List.append_eq_cons_iff.mp whole with ⟨rfl, rfl⟩ | ⟨left, rfl, rfl⟩
    · exact ⟨_, .here _, .into directory named present noLink leads⟩
    · obtain ⟨middle, before, after⟩ := ih rfl
      exact ⟨middle, .into directory named present noLink before, after⟩

end Leads

/-- Some steps at which nothing moves are left out. -/
inductive Sheds : List String → List String → Prop where
  | nil : Sheds [] []
  | keep (step : String) {steps fewer : List String} (sheds : Sheds steps fewer) :
    Sheds (step :: steps) (step :: fewer)
  | drop {step : String} {steps fewer : List String} (idle : Path.isIdle step = true)
    (sheds : Sheds steps fewer) : Sheds (step :: steps) fewer

namespace Sheds

theorem append_left {rest fewer : List String} (sheds : Sheds rest fewer) (first : List String) :
    Sheds (first ++ rest) (first ++ fewer) := by
  induction first with
  | nil => exact sheds
  | cons step first ih => exact .keep step ih

theorem to_moving (steps : List String) : Sheds steps (moving steps) := by
  induction steps with
  | nil => exact .nil
  | cons step steps ih =>
    by_cases idle : Path.isIdle step = true
    · have stays : moving (step :: steps) = moving steps := by simp [moving, idle]
      rw [stays]
      exact .drop idle ih
    · have goes : moving (step :: steps) = step :: moving steps := by simp [moving, idle]
      rw [goes]
      exact .keep step ih

end Sheds

/-- Steps lead to the same place without those at which nothing moves. -/
theorem Leads.shed {tree : FileTree} {place target : Location} {steps fewer : List String}
    (leads : Leads tree place steps target) (sheds : Sheds steps fewer) :
    Leads tree place fewer target := by
  induction leads generalizing fewer with
  | here place =>
    cases sheds
    exact .here place
  | stay directory idle _ ih =>
    cases sheds with
    | keep _ sheds => exact .stay directory idle (ih sheds)
    | drop _ sheds => exact ih sheds
  | up directory _ ih =>
    cases sheds with
    | keep _ sheds => exact .up directory (ih sheds)
    | drop idle => exact absurd idle (by decide)
  | through directory named link _ ih =>
    cases sheds with
    | keep _ sheds => exact .through directory named link (ih (sheds.append_left _))
    | drop idle => exact absurd idle named.not_idle
  | into directory named present noLink _ ih =>
    cases sheds with
    | keep _ sheds => exact .into directory named present noLink (ih sheds)
    | drop idle => exact absurd idle named.not_idle

section Walks

variable {tree : FileTree} {place target : Location} {steps : List String}

/-- A look-up that ends at an entry goes where the steps lead, if what goes on after a link does. -/
theorem leads_of_walkWith {follow : Location → List String → Except AccessError Spot}
    (follows : ∀ start route, follow start route = .ok (.found target) →
      Leads tree start route target)
    (walked : walkWith tree false follow place steps = .ok (.found target)) :
    Leads tree place steps target := by
  induction steps generalizing place with
  | nil =>
    cases walked
    exact .here target
  | cons step rest ih =>
    rw [walkWith] at walked
    split at walked
    case isFalse => cases walked
    case isTrue directory =>
    split at walked
    case isTrue idle => exact .stay directory (Path.isIdle_iff.mpr idle) (ih walked)
    case isFalse idle =>
    split at walked
    case isTrue up =>
      subst up
      exact .up directory (ih walked)
    case isFalse up =>
    have named : Path.Named step := ⟨Bool.eq_false_iff.mpr (Path.isIdle_iff.not.mpr idle), up⟩
    split at walked
    case isTrue making => cases making.1
    case isFalse =>
    split at walked
    case isTrue => cases walked
    case isFalse =>
    split at walked
    case h_1 text link => exact .through directory named link (follows _ _ walked)
    case h_2 entry noLink present => exact .into directory named present noLink (ih walked)
    -- A free name ends the look-up, but not at an entry.
    case h_3 none => split at walked <;> cases walked

theorem leads_of_walk {links : Nat}
    (walked : walk tree false links place steps = .ok (.found target)) :
    Leads tree place steps target := by
  induction links generalizing place steps with
  | zero => exact leads_of_walkWith (fun _ _ tooMany => by cases tooMany) walked
  | succ links ih => exact leads_of_walkWith (fun _ _ => ih) walked

end Walks

section Resolve

variable {tree : FileTree} {path : String} {target : Location}

/-- A path that leads to an entry is neither empty nor too long. -/
theorem walk_of_resolve (resolved : tree.resolve path = .ok target) :
    path ≠ "" ∧ path.utf8ByteSize < pathLimit ∧
      walk tree false linkLimit (startOf tree.here path) (steps path) = .ok (.found target) := by
  unfold resolve at resolved
  split at resolved
  case h_1 location located =>
    cases resolved
    unfold locate spotOf at located
    split_ifs at located with zero empty long
    exact ⟨empty, Nat.lt_of_not_le long, located⟩
  case h_2 => cases resolved
  case h_3 => cases resolved

theorem leads_of_resolve (resolved : tree.resolve path = .ok target) :
    Leads tree (startOf tree.here path) (Path.moves path) target := by
  obtain ⟨_, _, walked⟩ := walk_of_resolve resolved
  rw [← moving_steps]
  exact (leads_of_walk walked).shed (.to_moving _)

theorem directory?_eq_some_iff :
    tree.directory? path = some target ↔
      tree.resolve path = .ok target ∧ tree.isDirectoryAt target = true := by
  unfold directory? resolve
  cases tree.locate path with
  | error cause => simp [directoryOf?]
  | ok spot =>
    cases spot with
    | vacant parent name => simp [directoryOf?]
    | found location =>
      simp only [directoryOf?, Except.ok.injEq]
      constructor
      · intro found
        split at found
        case isTrue directory =>
          cases found
          exact ⟨rfl, directory⟩
        case isFalse => cases found
      · rintro ⟨rfl, directory⟩
        exact if_pos directory

theorem isDirectory_eq_isSome (tree : FileTree) (path : String) :
    tree.isDirectory path = (tree.directory? path).isSome := by
  unfold isDirectory directory? resolve
  cases tree.locate path with
  | error cause => rfl
  | ok spot =>
    cases spot with
    | vacant parent name => rfl
    | found location =>
      simp only [directoryOf?]
      split <;> simp [*]

/-- A directory that is there is found where it is walked. -/
theorem directory?_walked_of_some (found : tree.directory? path = some target) :
    tree.directory? (Path.walked path) = some target := by
  obtain ⟨given, fits, _⟩ := walk_of_resolve (directory?_eq_some_iff.mp found).1
  rw [directory?_walked given fits, found]

end Resolve

end HdlClosure.FileTree
