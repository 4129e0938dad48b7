/-!
# Ranges of characters

A set of characters is given by ranges of code points, both ends included.
-/

namespace Karel.Text

/-- Whether a character lies in one of the ranges. -/
def inRanges (ranges : List (Nat × Nat)) (character : Char) : Bool :=
  ranges.any fun range => decide (range.1 ≤ character.toNat ∧ character.toNat ≤ range.2)

theorem inRanges_iff {ranges : List (Nat × Nat)} {character : Char} :
    inRanges ranges character = true ↔
      ∃ range ∈ ranges, range.1 ≤ character.toNat ∧ character.toNat ≤ range.2 := by
  simp [inRanges]

end Karel.Text
