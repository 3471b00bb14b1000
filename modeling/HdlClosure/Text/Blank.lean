import HdlClosure.Text.Ranges

namespace HdlClosure.Text

/-- Code points with the property White_Space. -/
def blankRanges : Ranges :=
  [(0x9, 0xD), (0x20, 0x20), (0x85, 0x85), (0xA0, 0xA0), (0x1680, 0x1680), (0x2000, 0x200A),
   (0x2028, 0x2029), (0x202F, 0x202F), (0x205F, 0x205F), (0x3000, 0x3000)]

def isBlank (c : Char) : Bool := blankRanges.has c.toNat

/-- What holds of each code point in the table holds of white space. -/
@[elab_as_elim]
theorem of_isBlank {P : Char → Prop} {c : Char} (blank : isBlank c = true)
    (each : ∀ range ∈ blankRanges, ∀ more < range.2 + 1 - range.1,
      P (Char.ofNat (range.1 + more))) : P c := by
  obtain ⟨range, member, above, below⟩ := Ranges.exists_of_has blank
  have holds := each range member (c.toNat - range.1) (by omega)
  rwa [Nat.add_sub_cancel' above, Char.ofNat_toNat] at holds

def trimStart (text : List Char) : List Char := text.dropWhile isBlank

def trim (text : List Char) : List Char :=
  (trimStart (trimStart text).reverse).reverse

/-- The longest pieces without white space, in order. -/
def words (text : List Char) : List (List Char) :=
  (text.splitOnP isBlank).filter fun piece => !piece.isEmpty

theorem words_nil : words [] = [] := by
  simp [words, List.splitOnP_nil]

/-- A white space character ends the word before it and starts no other. -/
theorem words_append_cons {c : Char} (blank : isBlank c = true) (before after : List Char) :
    words (before ++ c :: after) = words before ++ words after := by
  unfold words
  rw [List.splitOnP_append_cons before after blank, List.filter_append]

end HdlClosure.Text
