import HdlClosure.Text.Case
import Mathlib.Data.Nat.Bitwise

/-! Sets of code points as the bits of a number. Tables with hundreds of ranges are then compared as
wholes: a few operations on long numbers say of every letter of a run where it leads. -/
namespace HdlClosure.Text

section Tables

/-- The code points of a table. As in the scan, a range hides what a later one holds below it. -/
def Ranges.bits : Ranges → Nat
  | [] => 0
  | (first, last) :: rest =>
    ((Ranges.bits rest >>> first) ||| ((1 <<< (last + 1 - first)) - 1)) <<< first

theorem Ranges.testBit_bits (ranges : Ranges) (code : Nat) :
    ranges.bits.testBit code = ranges.has code := by
  induction ranges with
  | nil => exact Nat.zero_testBit code
  | cons range rest ih =>
    obtain ⟨first, last⟩ := range
    rw [bits, has, Nat.testBit_shiftLeft]
    by_cases before : code < first
    · rw [if_pos before, decide_eq_false (Nat.not_le.mpr before), Bool.false_and]
    · have after : first ≤ code := Nat.not_lt.mp before
      rw [if_neg before, decide_eq_true after, Bool.true_and, Nat.testBit_or,
        Nat.testBit_shiftRight, Nat.add_sub_cancel' after, ih, Nat.one_shiftLeft,
        Nat.testBit_two_pow_sub_one]
      by_cases inside : code ≤ last
      · rw [if_pos inside, decide_eq_true (by omega), Bool.or_true]
      · rw [if_neg inside, decide_eq_false (by omega), Bool.or_false]

end Tables

section Multiples

def multiples (step : Nat) : Nat → Nat
  | 0 => 0
  | count + 1 => (multiples step count <<< step) ||| 1

theorem testBit_multiples {step count index : Nat} (inside : index < count) :
    (multiples step count).testBit (step * index) = true := by
  induction count generalizing index with
  | zero => exact absurd inside (Nat.not_lt_zero index)
  | succ count ih =>
    rw [multiples, Nat.testBit_or]
    cases index with
    | zero => rw [Nat.mul_zero, Nat.testBit_one_zero, Bool.or_true]
    | succ index =>
      rw [Nat.mul_succ, Nat.testBit_shiftLeft, Nat.add_sub_cancel,
        ih (Nat.lt_of_succ_lt_succ inside), decide_eq_true (Nat.le_add_left step _)]
      rfl

end Multiples

namespace CaseRun

/-- How far the letters of a run lie behind the first one. -/
def offsets (run : CaseRun) : Nat :=
  multiples run.step ((run.last - run.first) / run.step + 1)

/-- The letters of runs. -/
def sources : List CaseRun → Nat
  | [] => 0
  | run :: rest => (run.offsets <<< run.first) ||| sources rest

/-- Whether a run leads to none of the codes. -/
def avoids (run : CaseRun) (codes : Nat) : Bool :=
  Nat.beq ((codes >>> run.target) &&& run.offsets) 0

/-- Whether a run leads those of its letters that are among the codes to others among them. -/
def keeps (run : CaseRun) (codes : Nat) : Bool :=
  let held := (codes >>> run.first) &&& run.offsets
  Nat.beq ((codes >>> run.target) &&& held) held

section Letters

variable {run : CaseRun} {more codes : Nat} (inside : run.first + more ≤ run.last)
  (stride : more % run.step = 0)

include inside stride

theorem testBit_offsets : run.offsets.testBit more = true := by
  have reached : more / run.step < (run.last - run.first) / run.step + 1 :=
    Nat.lt_succ_of_le (Nat.div_le_div_right (Nat.le_sub_of_add_le' inside))
  have spelled : run.step * (more / run.step) = more :=
    Nat.mul_div_cancel' (Nat.dvd_of_mod_eq_zero stride)
  rw [← spelled]
  exact testBit_multiples reached

theorem testBit_sources {runs : List CaseRun} (member : run ∈ runs) :
    (sources runs).testBit (run.first + more) = true := by
  induction runs with
  | nil => cases member
  | cons other rest ih =>
    rw [sources, Nat.testBit_or, Bool.or_eq_true]
    rcases List.mem_cons.mp member with rfl | later
    · left
      rw [Nat.testBit_shiftLeft, Nat.add_sub_cancel_left, testBit_offsets inside stride,
        decide_eq_true (Nat.le_add_right _ _)]
      rfl
    · exact .inr (ih later)

theorem testBit_of_avoids (avoided : run.avoids codes = true) :
    codes.testBit (run.target + more) = false := by
  have none : ((codes >>> run.target) &&& run.offsets).testBit more = false := by
    rw [Nat.eq_of_beq_eq_true avoided, Nat.zero_testBit]
  rwa [Nat.testBit_and, Nat.testBit_shiftRight, testBit_offsets inside stride,
    Bool.and_true] at none

theorem testBit_of_keeps (kept : run.keeps codes = true)
    (held : codes.testBit (run.first + more) = true) :
    codes.testBit (run.target + more) = true := by
  have same := congrArg (Nat.testBit · more) (Nat.eq_of_beq_eq_true kept)
  simpa only [Nat.testBit_and, Nat.testBit_shiftRight, held, testBit_offsets inside stride,
    Bool.and_true] using same

end Letters

end CaseRun

end HdlClosure.Text
