import Mathlib.Data.List.TakeWhile

namespace HdlClosure

theorem beq_of_not_mem {c : Char} {text : List Char} (absent : c ∉ text) :
    ∀ d ∈ text, (d == c) = false := by
  intro d member
  rw [beq_eq_false_iff_ne]
  rintro rfl
  exact absent member

/-- A text that does not begin with a character of a kind. -/
def StopsAt (kind : Char → Bool) (text : List Char) : Prop :=
  ∀ c, text.head? = some c → kind c = false

theorem stopsAt_cons {kind : Char → Bool} {c : Char} (other : kind c = false) (rest : List Char) :
    StopsAt kind (c :: rest) := by
  intro first head
  cases head
  exact other

theorem takeWhile_append_of_stopsAt {kind : Char → Bool} {text rest : List Char}
    (inside : ∀ c ∈ text, kind c = true) (stops : StopsAt kind rest) :
    (text ++ rest).takeWhile kind = text ∧ (text ++ rest).dropWhile kind = rest := by
  rw [List.takeWhile_append_of_pos inside, List.dropWhile_append_of_pos inside]
  cases rest with
  | nil => simp
  | cons c rest => simp [stops c rfl]

theorem stopsAt_dropWhile (kind : Char → Bool) (text : List Char) :
    StopsAt kind (text.dropWhile kind) := by
  intro c head
  have first := List.head?_dropWhile_not kind text
  simpa [head] using first

end HdlClosure
