namespace HdlClosure.Text

abbrev Ranges := List (Nat × Nat)

/-- Membership; the scan stops at the first range that lies past the code point. -/
def Ranges.has : Ranges → Nat → Bool
  | [], _ => false
  | (first, last) :: rest, code =>
    if code < first then false
    else if code ≤ last then true
    else Ranges.has rest code

theorem Ranges.exists_of_has {ranges : Ranges} {code : Nat} (found : ranges.has code = true) :
    ∃ range ∈ ranges, range.1 ≤ code ∧ code ≤ range.2 := by
  induction ranges with
  | nil => simp [Ranges.has] at found
  | cons range rest ih =>
    obtain ⟨first, last⟩ := range
    simp only [Ranges.has] at found
    split at found
    · simp at found
    · split at found
      · exact ⟨(first, last), by simp, by omega, by assumption⟩
      · obtain ⟨other, member, bounds⟩ := ih found
        exact ⟨other, List.mem_cons_of_mem _ member, bounds⟩

end HdlClosure.Text
