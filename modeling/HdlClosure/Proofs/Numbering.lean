import Mathlib.Data.List.Induction
import Mathlib.Data.List.Nodup
import Std.Data.TreeMap

/-! Arrays whose slots are found by name. A table numbers the names; both are changed together, by
replacing the slot of a known name or by appending one with a new name. -/
namespace HdlClosure

/-- Every slot is found under its name, and what is found under a name bears it. -/
structure Numbered {α : Type} (name : α → String) (slots : Array α)
    (numbers : Std.TreeMap String Nat) : Prop where
  found : ∀ number slot, slots[number]? = some slot → numbers[name slot]? = some number
  held : ∀ key number, numbers[key]? = some number →
    ∃ slot, slots[number]? = some slot ∧ name slot = key

namespace Numbered

variable {α : Type} {name : α → String} {slots : Array α} {numbers : Std.TreeMap String Nat}

def slot? (slots : Array α) (numbers : Std.TreeMap String Nat) (key : String) : Option α :=
  numbers[key]?.bind (slots[·]?)

theorem empty (name : α → String) : Numbered name #[] ∅ :=
  ⟨fun _ _ found => by simp at found, fun _ _ found => by simp at found⟩

theorem number_lt (table : Numbered name slots numbers) {key : String} {number : Nat}
    (found : numbers[key]? = some number) : number < slots.size := by
  obtain ⟨slot, present, _⟩ := table.held key number found
  exact (Array.getElem?_eq_some_iff.mp present).1

theorem slot?_eq_some_iff (table : Numbered name slots numbers) {key : String} {slot : α} :
    slot? slots numbers key = some slot ↔ slot ∈ slots ∧ name slot = key := by
  unfold slot?
  rw [Option.bind_eq_some_iff]
  constructor
  · intro given
    obtain ⟨number, found, present⟩ := given
    obtain ⟨other, placed, same⟩ := table.held key number found
    have equal := Option.some.inj (present.symm.trans placed)
    subst other
    exact ⟨Array.mem_of_getElem? present, same⟩
  · intro given
    obtain ⟨member, rfl⟩ := given
    obtain ⟨number, present⟩ := Array.mem_iff_getElem?.mp member
    exact ⟨number, table.found number slot present, present⟩

theorem slot?_eq_none_iff (table : Numbered name slots numbers) (key : String) :
    slot? slots numbers key = none ↔ numbers[key]? = none := by
  unfold slot?
  cases found : numbers[key]? with
  | none => simp
  | some number =>
    obtain ⟨slot, present, _⟩ := table.held key number found
    simp [present]

theorem replace (table : Numbered name slots numbers) (slot : α) {number : Nat}
    (known : numbers[name slot]? = some number) :
    Numbered name (slots.setIfInBounds number slot) numbers := by
  constructor
  · intro other actual present
    rw [Array.getElem?_setIfInBounds] at present
    split at present
    · rename_i same
      subst other
      split at present
      · cases present; exact known
      · cases present
    · exact table.found other actual present
  · intro key other found
    obtain ⟨actual, present, same⟩ := table.held key other found
    rw [Array.getElem?_setIfInBounds]
    by_cases hit : number = other
    · subst hit
      obtain ⟨replaced, placed, bears⟩ := table.held _ _ known
      have equal := Option.some.inj (present.symm.trans placed)
      subst replaced
      exact ⟨slot, by simp [table.number_lt known], bears.symm.trans same⟩
    · exact ⟨actual, by simpa [hit] using present, same⟩

theorem push (table : Numbered name slots numbers) (slot : α) (fresh : numbers[name slot]? = none) :
    Numbered name (slots.push slot) (numbers.insert (name slot) slots.size) := by
  constructor
  · intro number actual present
    rw [Array.getElem?_push] at present
    rw [Std.TreeMap.getElem?_insert]
    split at present
    · rename_i same
      cases present
      simp [same]
    · have known := table.found number actual present
      have other : name slot ≠ name actual := by
        intro same
        rw [same, known] at fresh
        cases fresh
      simpa [other] using known
  · intro key number found
    rw [Std.TreeMap.getElem?_insert] at found
    by_cases same : name slot = key
    · have last : slots.size = number := by simpa [same] using found
      exact ⟨slot, by simp [← last], same⟩
    · obtain ⟨actual, present, bears⟩ := table.held key number (by simpa [same] using found)
      have inside := (Array.getElem?_eq_some_iff.mp present).1
      exact ⟨actual, by simpa [Array.getElem?_push, Nat.ne_of_lt inside] using present, bears⟩

theorem slot?_replace (table : Numbered name slots numbers) (slot : α) {number : Nat}
    (known : numbers[name slot]? = some number) (key : String) :
    slot? (slots.setIfInBounds number slot) numbers key =
      if name slot = key then some slot else slot? slots numbers key := by
  unfold slot?
  split
  · rename_i same
    subst key
    simp [known, table.number_lt known]
  · rename_i other
    cases found : numbers[key]? with
    | none => rfl
    | some place =>
      have apart : number ≠ place := by
        intro same
        subst place
        obtain ⟨first, placed, bears⟩ := table.held _ _ known
        obtain ⟨second, present, named⟩ := table.held _ _ found
        have equal := Option.some.inj (placed.symm.trans present)
        subst second
        exact other (bears.symm.trans named)
      simp [apart]

theorem slot?_push (table : Numbered name slots numbers) (slot : α) (key : String) :
    slot? (slots.push slot) (numbers.insert (name slot) slots.size) key =
      if name slot = key then some slot else slot? slots numbers key := by
  unfold slot?
  rw [Std.TreeMap.getElem?_insert]
  split
  · rename_i same
    have equal : name slot = key := by simpa using same
    simp [equal]
  · rename_i other
    have apart : name slot ≠ key := by simpa using other
    cases found : numbers[key]? with
    | none => simp [apart]
    | some number => simp [apart, Array.getElem?_push, Nat.ne_of_lt (table.number_lt found)]

theorem names_nodup (table : Numbered name slots numbers) : (slots.toList.map name).Nodup := by
  rw [List.Nodup, List.pairwise_map, List.pairwise_iff_getElem]
  intro first second firstInside secondInside before same
  have left := table.found first slots.toList[first] (by
    simp at firstInside
    simp [firstInside])
  have right := table.found second slots.toList[second] (by
    simp at secondInside
    simp [secondInside])
  rw [same, right] at left
  exact Nat.ne_of_lt before (Option.some.inj left).symm

/-- Tables in which the same is found hold the same slots, in some order. -/
theorem perm (table : Numbered name slots numbers) {others : Array α}
    {otherNumbers : Std.TreeMap String Nat} (other : Numbered name others otherNumbers)
    (same : ∀ key, slot? slots numbers key = slot? others otherNumbers key) :
    slots.toList.Perm others.toList := by
  apply (List.perm_ext_iff_of_nodup table.names_nodup.of_map other.names_nodup.of_map).mpr
  intro slot
  have left : slot? slots numbers (name slot) = some slot ↔ slot ∈ slots ∧ name slot = name slot :=
    table.slot?_eq_some_iff
  rw [same, other.slot?_eq_some_iff] at left
  simpa using left.symm

section Order

/-- Numbers count the names from the first slot on. -/
theorem number_eq_some_iff (table : Numbered name slots numbers) {key : String} {number : Nat} :
    numbers[key]? = some number ↔ (slots.toList.map name)[number]? = some key := by
  rw [List.getElem?_map, Array.getElem?_toList, Option.map_eq_some_iff]
  constructor
  · exact table.held key number
  · intro given
    obtain ⟨slot, present, rfl⟩ := given
    exact table.found number slot present

theorem mem_names_iff (table : Numbered name slots numbers) {key : String} :
    key ∈ slots.toList.map name ↔ numbers[key]? ≠ none := by
  rw [List.mem_iff_getElem?, Option.ne_none_iff_exists']
  simp only [table.number_eq_some_iff]

variable {others : Array α} {otherNumbers : Std.TreeMap String Nat}

/-- The order of the names decides the numbers. -/
theorem equiv_of_names (table : Numbered name slots numbers)
    (other : Numbered name others otherNumbers)
    (order : slots.toList.map name = others.toList.map name) : numbers.Equiv otherNumbers := by
  apply Std.TreeMap.Equiv.of_forall_constGet?_eq
  intro key
  apply Option.ext
  intro number
  rw [table.number_eq_some_iff, other.number_eq_some_iff, order]

private theorem present_of_same (table : Numbered name slots numbers)
    (numbered : numbers.Equiv otherNumbers)
    (same : ∀ key, slot? slots numbers key = slot? others otherNumbers key) {number : Nat} {slot : α}
    (present : slots[number]? = some slot) : others[number]? = some slot := by
  have known := table.found number slot present
  have found : slot? slots numbers (name slot) = some slot := by
    simp [slot?, known, present]
  rw [same, slot?, ← numbered.getElem?_eq, known] at found
  exact found

/-- Tables with their names in one order, in which the same is found, hold the same slots. -/
theorem eq_of_names (table : Numbered name slots numbers)
    (other : Numbered name others otherNumbers)
    (order : slots.toList.map name = others.toList.map name)
    (same : ∀ key, slot? slots numbers key = slot? others otherNumbers key) : slots = others := by
  have numbered := table.equiv_of_names other order
  apply Array.ext_getElem?
  intro number
  apply Option.ext
  intro slot
  exact ⟨present_of_same table numbered same,
    present_of_same other numbered.symm fun key => (same key).symm⟩

end Order

end Numbered

section Arrival

variable {α : Type} {name : α → String} {slots : Array α} {numbers : Std.TreeMap String Nat}
  {past : List String}

theorem eraseDups_concat (past : List String) (key : String) :
    (past ++ [key]).eraseDups = past.eraseDups ++ if key ∈ past then [] else [key] := by
  rw [List.eraseDups_append]
  by_cases member : key ∈ past <;> simp [List.removeAll, member, List.eraseDups_cons]

theorem eraseDups_eraseDups (names : List String) : names.eraseDups.eraseDups = names.eraseDups := by
  induction names using List.reverseRecOn with
  | nil => rfl
  | append_singleton names last ih =>
    rw [eraseDups_concat]
    split
    · rw [List.append_nil, ih]
    · rename_i absent
      rw [eraseDups_concat, ih, if_neg (absent ∘ List.mem_eraseDups.mp)]

/-- The slots stand in the order in which their names first came up. -/
def Arrived (name : α → String) (slots : Array α) (past : List String) : Prop :=
  slots.toList.map name = past.eraseDups

theorem arrived_known (table : Numbered name slots numbers) (arrived : Arrived name slots past)
    {key : String} {number : Nat} (known : numbers[key]? = some number) :
    Arrived name slots (past ++ [key]) := by
  have member : key ∈ past := by
    rw [← List.mem_eraseDups, ← arrived, table.mem_names_iff, known]
    simp
  rw [Arrived, eraseDups_concat, if_pos member, List.append_nil]
  exact arrived

theorem arrived_replace (table : Numbered name slots numbers) (arrived : Arrived name slots past)
    (slot : α) {number : Nat} (known : numbers[name slot]? = some number) :
    Arrived name (slots.setIfInBounds number slot) (past ++ [name slot]) := by
  have kept : (slots.setIfInBounds number slot).toList.map name = slots.toList.map name := by
    obtain ⟨inside, bears⟩ := List.getElem?_eq_some_iff.mp (table.number_eq_some_iff.mp known)
    rw [Array.toList_setIfInBounds, List.map_set, ← bears, List.set_getElem_self]
  exact kept.trans (arrived_known table arrived known)

theorem arrived_push (table : Numbered name slots numbers) (arrived : Arrived name slots past)
    (slot : α) (fresh : numbers[name slot]? = none) :
    Arrived name (slots.push slot) (past ++ [name slot]) := by
  have absent : name slot ∉ past := by
    rw [← List.mem_eraseDups, ← arrived, table.mem_names_iff, fresh]
    simp
  rw [Arrived, eraseDups_concat, if_neg absent, Array.toList_push, List.map_append, arrived]
  rfl

end Arrival

end HdlClosure
