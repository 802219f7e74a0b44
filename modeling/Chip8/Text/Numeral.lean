import Chip8.Text.Basic

/-!
# Numerals

Reading and writing whole numbers in base ten and base sixteen.
-/

namespace Chip8.Text

/-- Holds of the ASCII digits of base sixteen, in either case. -/
def isHexDigit (c : Char) : Bool :=
  c.isDigit || ('a' ≤ c && c ≤ 'f') || ('A' ≤ c && c ≤ 'F')

/-- The value of a digit of base sixteen; zero for any other character. -/
def digitValue (c : Char) : Nat :=
  if c.isDigit then c.toNat - '0'.toNat
  else if 'a' ≤ c && c ≤ 'f' then c.toNat - 'a'.toNat + 10
  else if 'A' ≤ c && c ≤ 'F' then c.toNat - 'A'.toNat + 10
  else 0

/-- The number that the digits write, the most significant first. -/
def valueIn (base : Nat) (digits : Text) : Nat :=
  digits.foldl (fun value c => base * value + digitValue c) 0

/-- The upper-case digits of a number in base sixteen. -/
def hexDigits (n : Nat) : Text :=
  (Nat.toDigits 16 n).map Char.toUpper

/-- A number in base ten, after a minus sign if it is negative. -/
def decimal (n : Int) : Text :=
  if n < 0 then '-' :: Nat.toDigits 10 n.natAbs else Nat.toDigits 10 n.natAbs

/-- A number in base sixteen, filled with zeros to `width` characters, the sign included. -/
def hexPadded (width : Nat) (n : Int) : Text :=
  if n < 0 then '-' :: List.leftpad (width - 1) '0' (hexDigits n.natAbs)
  else List.leftpad width '0' (hexDigits n.natAbs)

theorem digitValue_lt (c : Char) : digitValue c < 16 := by
  unfold digitValue
  simp only [Char.isDigit, Bool.and_eq_true, decide_eq_true_eq, ge_iff_le, Char.le_def,
    UInt32.le_iff_toNat_le, Char.toNat]
  split
  · rename_i h
    have := h.2
    simp at this ⊢
    omega
  · split
    · rename_i h
      have := h.2
      simp at this ⊢
      omega
    · split
      · rename_i h
        have := h.2
        simp at this ⊢
        omega
      · omega

theorem valueIn_append (base : Nat) (s t : Text) :
    valueIn base (s ++ t) =
      t.foldl (fun value c => base * value + digitValue c) (valueIn base s) := by
  simp [valueIn]

example : hexPadded 4 512 = "0200".toList := by decide

example : hexPadded 4 (-5) = "-005".toList := by decide

end Chip8.Text
