import Mathlib.Data.List.Sort
import Mathlib.Data.String.Basic
import Std.Data.TreeSet

/-! Strings in the order of their bytes. UTF-8 keeps the order of the characters, so this is the
order by which strings are compared, sorted and kept in tables. -/
namespace HdlClosure.Text

def bytes (text : String) : List UInt8 := text.toUTF8.data.toList

/-- One string stands before another, byte by byte. -/
def Before (left right : String) : Prop := bytes left < bytes right

theorem bytes_eq (text : String) : bytes text = text.toList.flatMap String.utf8EncodeChar := by
  rw [bytes, String.toUTF8_eq_toByteArray, ← String.utf8Encode_toList, List.utf8Encode,
    List.toList_data_toByteArray]

/-- The higher digits of a number to the base 64. -/
private theorem div_digits (code : Nat) :
    code / 4096 = code / 64 / 64 ∧ code / 262144 = code / 64 / 64 / 64 := by
  omega

/-- A smaller character has smaller bytes, whatever follows. -/
theorem encode_lt {c d : Char} (less : c < d) (after rest : List UInt8) :
    String.utf8EncodeChar c ++ after < String.utf8EncodeChar d ++ rest := by
  have below : c.val.toNat < d.val.toNat := less
  have bound : d.val.toNat < 0x110000 := by
    have valid := d.valid
    simp only [UInt32.isValidChar, Nat.isValidChar] at valid
    omega
  unfold String.utf8EncodeChar
  simp only [div_digits]
  split_ifs <;>
    simp only [List.cons_append, List.nil_append, List.cons_lt_cons_iff, UInt8.lt_iff_toNat_lt,
      ← UInt8.toNat_inj, UInt8.toNat_ofNat'] <;>
    omega

theorem flatMap_encode_lt {left right : List Char} (less : left < right) :
    left.flatMap String.utf8EncodeChar < right.flatMap String.utf8EncodeChar := by
  induction less with
  | nil =>
    rename_i c rest
    cases encoded : String.utf8EncodeChar c with
    | nil => exact absurd encoded String.utf8EncodeChar_ne_nil
    | cons byte more => simp [encoded]
  | rel less => exact encode_lt less _ _
  | cons _ ih => exact List.append_left_lt ih

/-- Strings are compared by their bytes. -/
theorem before_iff_lt {left right : String} : Before left right ↔ left < right := by
  rw [Before, bytes_eq, bytes_eq, String.lt_iff_toList_lt]
  constructor
  · intro less
    rcases lt_trichotomy left.toList right.toList with first | same | second
    · exact first
    · rw [same] at less
      exact absurd less (List.lt_irrefl _)
    · exact absurd less (List.lt_asymm (flatMap_encode_lt second))
  · exact flatMap_encode_lt

section Sorting

theorem pairwise_le_mergeSort (texts : List String) : texts.mergeSort.Pairwise (· ≤ ·) := by
  have sorted : (texts.mergeSort fun a b : String => decide (a ≤ b)).Pairwise
      fun a b => decide (a ≤ b) = true := by
    apply List.pairwise_mergeSort
    · intro a b c first second
      simpa using le_trans (by simpa using first) (by simpa using second)
    · exact fun a b => by simpa using le_total a b
  exact sorted.imp fun le => by simpa using le

/-- Without repetitions, sorting puts every text before all that follow it. -/
theorem pairwise_before_mergeSort {texts : List String} (distinct : texts.Nodup) :
    texts.mergeSort.Pairwise Before := by
  have apart : texts.mergeSort.Nodup := (List.mergeSort_perm texts _).nodup_iff.mpr distinct
  refine (pairwise_le_mergeSort texts).imp₂ (fun _ _ le ne => ?_) apart
  exact before_iff_lt.mpr (lt_of_le_of_ne le ne)

theorem mergeSort_eq_of_perm {first second : List String} (perm : first.Perm second) :
    first.mergeSort = second.mergeSort := by
  have same : first.mergeSort.Perm second.mergeSort :=
    ((List.mergeSort_perm first _).trans perm).trans (List.mergeSort_perm second _).symm
  exact same.eq_of_pairwise (fun _ _ _ _ => le_antisymm) (pairwise_le_mergeSort first)
    (pairwise_le_mergeSort second)

theorem pairwise_before_toList (texts : Std.TreeSet String) : texts.toList.Pairwise Before :=
  Std.TreeSet.ordered_toList.imp fun less =>
    before_iff_lt.mpr (by simpa [compare_lt_iff_lt] using less)

theorem toList_eq_of_mem_iff {first second : Std.TreeSet String}
    (same : ∀ text, text ∈ first ↔ text ∈ second) : first.toList = second.toList :=
  Std.TreeSet.equiv_iff_toList_eq.mp (Std.TreeSet.Equiv.of_forall_mem_iff same)

end Sorting

end HdlClosure.Text
