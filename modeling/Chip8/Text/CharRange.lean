import Chip8.Text.Basic

/-!
# Ranges of characters

A property of characters is stored as the list of the code point ranges that have it.
-/

namespace Chip8.Text

/-- The first and the last code point of a range. -/
abbrev CharRange := Nat × Nat

/-- Holds when some range of the list includes the character. -/
def inRanges (ranges : List CharRange) (c : Char) : Bool :=
  ranges.any fun range => Nat.ble range.1 c.toNat && Nat.ble c.toNat range.2

theorem inRanges_iff (ranges : List CharRange) (c : Char) :
    inRanges ranges c = true ↔
      ∃ range ∈ ranges, range.1 ≤ c.toNat ∧ c.toNat ≤ range.2 := by
  simp [inRanges]

end Chip8.Text
