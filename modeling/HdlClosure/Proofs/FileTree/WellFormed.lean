import HdlClosure.Proofs.FileTree.Leads

namespace HdlClosure.FileTree

/-- Every entry has the name of one, and stands in a directory. -/
structure WellFormed (tree : FileTree) : Prop where
  named : ∀ {parent : Location} {name : String} {entry : Entry},
    tree.entry? (parent ++ [name]) = some entry → Path.EntryName name
  rooted : ∀ {parent : Location} {name : String} {entry : Entry},
    tree.entry? (parent ++ [name]) = some entry → tree.isDirectoryAt parent = true

variable {tree : FileTree} {location place target : Location} {route : List String}

section Children

theorem entry?_below (tree : FileTree) (location : Location) (name : String) :
    tree.entry? (location ++ [name]) = tree.entries[location ++ [name]]? :=
  if_neg (List.append_ne_nil_of_right_ne_nil _ (List.cons_ne_nil _ _))

theorem mem_entries_iff {item : Location × Entry} :
    item ∈ tree.entries.toList ↔ tree.entries[item.1]? = some item.2 :=
  Std.TreeMap.mem_toList_iff_getElem?_eq_some

/-- The child that an item of the tree is for a directory. -/
def childOf? (location : Location) (item : Location × Entry) : Option (String × Entry) :=
  if item.1.dropLast = location then item.1.getLast?.map (·, item.2) else none

theorem children_eq (tree : FileTree) (location : Location) :
    tree.children location = tree.entries.toList.filterMap (childOf? location) :=
  rfl

theorem childOf?_eq_some_iff {item : Location × Entry} {child : String × Entry} :
    childOf? location item = some child ↔ item = (location ++ [child.1], child.2) := by
  obtain ⟨place, entry⟩ := item
  obtain ⟨name, other⟩ := child
  constructor
  · intro found
    unfold childOf? at found
    split at found
    case isFalse => cases found
    case isTrue parent =>
      obtain ⟨last, ends, same⟩ := Option.map_eq_some_iff.mp found
      cases same
      rw [← parent, List.dropLast_append_getLast? _ ends]
  · intro same
    cases same
    simp [childOf?]

theorem mem_children_iff {name : String} {entry : Entry} :
    (name, entry) ∈ tree.children location ↔ tree.entry? (location ++ [name]) = some entry := by
  rw [children_eq, List.mem_filterMap, entry?_below]
  constructor
  · rintro ⟨item, member, found⟩
    rw [childOf?_eq_some_iff] at found
    subst found
    exact mem_entries_iff.mp member
  · exact fun present => ⟨(location ++ [name], entry), mem_entries_iff.mpr present,
      childOf?_eq_some_iff.mpr rfl⟩

theorem nodup_children (tree : FileTree) (location : Location) :
    ((tree.children location).map Prod.fst).Nodup := by
  have keys : (tree.entries.toList.map Prod.fst).Nodup := by
    rw [Std.TreeMap.map_fst_toList_eq_keys]
    exact Std.TreeMap.nodup_keys
  rw [List.Nodup, List.pairwise_map] at keys
  rw [children_eq, List.Nodup, List.pairwise_map, List.pairwise_filterMap]
  refine keys.imp fun {item other} apart child found next also same => apart ?_
  rw [childOf?_eq_some_iff.mp found, childOf?_eq_some_iff.mp also, same]

end Children

section Ends

/-- The place is that of a file or of a directory, not of a link. -/
def Solid (tree : FileTree) (place : Location) : Prop :=
  ∃ entry, tree.entry? place = some entry ∧ ∀ text, entry ≠ .link text

theorem solid_of_isDirectoryAt (directory : tree.isDirectoryAt place = true) : Solid tree place :=
  ⟨.directory, beq_iff_eq.mp directory, nofun⟩

/-- What is solid and no directory is a file. -/
theorem Solid.exists_content (solid : Solid tree place)
    (other : tree.isDirectoryAt place = false) :
    ∃ content, tree.entry? place = some (.file content) := by
  obtain ⟨entry, present, noLink⟩ := solid
  cases entry with
  | file content => exact ⟨content, present⟩
  | link text => exact absurd rfl (noLink text)
  | directory =>
    rw [isDirectoryAt, present] at other
    cases other

theorem WellFormed.isDirectoryAt_dropLast (wellFormed : tree.WellFormed)
    (directory : tree.isDirectoryAt place = true) : tree.isDirectoryAt place.dropLast = true := by
  rcases List.eq_nil_or_concat' place with rfl | ⟨parent, name, rfl⟩
  · exact directory
  · rw [List.dropLast_concat]
    exact wellFormed.rooted (beq_iff_eq.mp directory)

theorem isDirectoryAt_startOf (directory : tree.isDirectoryAt place = true) (path : String) :
    tree.isDirectoryAt (startOf place path) = true := by
  unfold startOf
  split
  · rfl
  · exact directory

/-- Steps from a directory lead to a directory or to a file. -/
theorem WellFormed.solid_of_leads (wellFormed : tree.WellFormed) (solid : Solid tree place)
    (leads : Leads tree place route target) : Solid tree target := by
  induction leads with
  | here => exact solid
  | stay directory _ _ ih => exact ih (solid_of_isDirectoryAt directory)
  | up directory _ ih =>
    exact ih (solid_of_isDirectoryAt (wellFormed.isDirectoryAt_dropLast directory))
  | through directory _ _ _ ih =>
    exact ih (solid_of_isDirectoryAt (isDirectoryAt_startOf directory _))
  | into _ _ present noLink _ ih => exact ih ⟨_, present, noLink⟩

end Ends

section Checked

/-- Whether a tree is well formed is seen from its items. -/
theorem wellFormed_iff : tree.WellFormed ↔ ∀ item ∈ tree.entries.toList, ∀ name ∈ item.1.getLast?,
    Path.EntryName name ∧ tree.isDirectoryAt item.1.dropLast = true := by
  constructor
  · rintro wellFormed ⟨place, entry⟩ member name last
    have split : place.dropLast ++ [name] = place := List.dropLast_append_getLast? name last
    have present : tree.entry? (place.dropLast ++ [name]) = some entry := by
      rw [entry?_below, split]
      exact mem_entries_iff.mp member
    exact ⟨wellFormed.named present, wellFormed.rooted present⟩
  · intro items
    have item {parent : Location} {name : String} {entry : Entry}
        (present : tree.entry? (parent ++ [name]) = some entry) :
        Path.EntryName name ∧ tree.isDirectoryAt parent = true := by
      rw [entry?_below] at present
      have found := items (parent ++ [name], entry) (mem_entries_iff.mpr present) name (by simp)
      simpa using found
    exact ⟨fun present => (item present).1, fun present => (item present).2⟩

instance (tree : FileTree) : Decidable tree.WellFormed :=
  decidable_of_iff _ wellFormed_iff.symm

end Checked

end HdlClosure.FileTree
