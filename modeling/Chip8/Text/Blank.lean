import Chip8.Text.CharRange

/-!
# Blank characters

Blanks separate tokens: the characters that the Unicode standard calls white space or gives the
bidirectional class of a separator.
-/

namespace Chip8.Text

/-- The ranges of blank characters. -/
def blankRanges : List CharRange :=
  [(0x09, 0x0D), (0x1C, 0x20), (0x85, 0x85), (0xA0, 0xA0), (0x1680, 0x1680), (0x2000, 0x200A),
   (0x2028, 0x2029), (0x202F, 0x202F), (0x205F, 0x205F), (0x3000, 0x3000)]

/-- Holds of the characters that separate tokens. -/
def isBlank (c : Char) : Bool :=
  inRanges blankRanges c

theorem isBlank_of_isWhitespace {c : Char} (h : c.isWhitespace = true) : isBlank c = true := by
  simp only [Char.isWhitespace, Bool.or_eq_true, decide_eq_true_eq] at h
  rcases h with ((rfl | rfl) | rfl) | rfl <;> decide

example : (blankRanges.map fun range => range.2 - range.1 + 1).sum = 29 := by decide

end Chip8.Text
