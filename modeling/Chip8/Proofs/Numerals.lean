import Chip8.Text.Numeral
import Mathlib.Algebra.Ring.Nat

/-!
# Reading numerals back

A numeral that is written for a number is read as that number, in base ten and in base sixteen and
whatever zeros are put before it.  It consists of digits alone, so its end can be found.
-/

namespace Chip8.Text

variable {base n width : Nat} {f : Char → Char} {c : Char}

/-- Each digit of a numeral is that of a number below the base. -/
theorem exists_of_mem_toDigits (hbase : 1 < base) (h : c ∈ Nat.toDigits base n) :
    ∃ d < base, c = Nat.digitChar d := by
  induction n using Nat.strongRecOn with
  | ind n ih =>
      rw [Nat.toDigits_eq_if hbase] at h
      split at h
      · rename_i hlt
        exact ⟨n, hlt, List.mem_singleton.mp h⟩
      · rename_i hle
        rcases List.mem_append.mp h with hfront | hlast
        · exact ih (n / base) (Nat.div_lt_self (by omega) hbase) hfront
        · exact ⟨n % base, Nat.mod_lt n (by omega), List.mem_singleton.mp hlast⟩

/-- A numeral is read as its number if each digit is, however the digits are written. -/
theorem valueIn_map_toDigits (hbase : 1 < base)
    (hf : ∀ d < base, digitValue (f (Nat.digitChar d)) = d) (n : Nat) :
    valueIn base ((Nat.toDigits base n).map f) = n := by
  induction n using Nat.strongRecOn with
  | ind n ih =>
      rw [Nat.toDigits_eq_if hbase]
      split
      · rename_i hlt
        simp [valueIn, hf n hlt]
      · rename_i hle
        have hfront := ih (n / base) (Nat.div_lt_self (by omega) hbase)
        have hlast := hf (n % base) (Nat.mod_lt n (by omega))
        rw [List.map_append, valueIn_append, hfront]
        simp only [List.map_cons, List.map_nil, List.foldl_cons, List.foldl_nil, hlast]
        exact Nat.div_add_mod n base

theorem valueIn_replicate_zero (base count : Nat) : valueIn base (List.replicate count '0') = 0 := by
  have hzero : digitValue '0' = 0 := by decide
  induction count with
  | zero => rfl
  | succ count ih =>
      rw [List.replicate_succ', valueIn_append, ih]
      simp [hzero]

/-- Zeros in front do not count. -/
theorem valueIn_leftpad_zero (base width : Nat) (digits : Text) :
    valueIn base (List.leftpad width '0' digits) = valueIn base digits := by
  rw [List.leftpad, valueIn_append, valueIn_replicate_zero]
  rfl

/-! ### Base ten -/

theorem decimal_natCast (n : Nat) : decimal n = Nat.toDigits 10 n := by
  unfold decimal
  rw [if_neg (by omega), Int.natAbs_natCast]

theorem valueIn_decimal (n : Nat) : valueIn 10 (decimal n) = n := by
  have hdigits : ∀ d < 10, digitValue (id (Nat.digitChar d)) = d := by decide
  rw [decimal_natCast]
  simpa using valueIn_map_toDigits (by decide) hdigits n

theorem isDigit_of_mem_decimal (h : c ∈ decimal n) : c.isDigit = true := by
  rw [decimal_natCast] at h
  obtain ⟨d, hd, rfl⟩ := exists_of_mem_toDigits (by decide) h
  rw [Nat.isDigit_digitChar]
  exact decide_eq_true hd

theorem not_mem_decimal (hc : c.isDigit = false) (n : Nat) : c ∉ decimal n := by
  intro hmem
  rw [isDigit_of_mem_decimal hmem] at hc
  contradiction

theorem decimal_ne_nil (n : Nat) : decimal n ≠ [] := by
  rw [decimal_natCast]
  exact Nat.toDigits_ne_nil

/-! ### Base sixteen -/

theorem hexPadded_natCast (width n : Nat) :
    hexPadded width n = List.leftpad width '0' (hexDigits n) := by
  unfold hexPadded
  rw [if_neg (by omega), Int.natAbs_natCast]

theorem valueIn_hexPadded (width n : Nat) : valueIn 16 (hexPadded width n) = n := by
  have hdigits : ∀ d < 16, digitValue (Char.toUpper (Nat.digitChar d)) = d := by decide
  rw [hexPadded_natCast, valueIn_leftpad_zero]
  exact valueIn_map_toDigits (by decide) hdigits n

theorem isHexDigit_of_mem_hexPadded (h : c ∈ hexPadded width n) : isHexDigit c = true := by
  have hdigits : ∀ d < 16, isHexDigit (Char.toUpper (Nat.digitChar d)) = true := by decide
  rw [hexPadded_natCast, List.leftpad] at h
  rcases List.mem_append.mp h with hzero | hdigit
  · rw [List.eq_of_mem_replicate hzero]
    decide
  · obtain ⟨digit, hmem, rfl⟩ := List.mem_map.mp hdigit
    obtain ⟨d, hd, rfl⟩ := exists_of_mem_toDigits (by decide) hmem
    exact hdigits d hd

theorem not_mem_hexPadded (hc : isHexDigit c = false) (width n : Nat) : c ∉ hexPadded width n := by
  intro hmem
  rw [isHexDigit_of_mem_hexPadded hmem] at hc
  contradiction

/-- A number that has no more digits than the width takes up exactly the width. -/
theorem length_hexPadded (hwidth : 0 < width) (h : n < 16 ^ width) :
    (hexPadded width n).length = width := by
  have hlength : (hexDigits n).length ≤ width := by
    rw [hexDigits, List.length_map]
    exact (Nat.length_toDigits_le_iff (by decide) hwidth).mpr h
  rw [hexPadded_natCast, List.length_leftpad]
  omega

end Chip8.Text
