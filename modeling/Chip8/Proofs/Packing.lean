import Chip8.Operation
import Mathlib.Algebra.Ring.Nat

/-!
# Packing operand fields

The fields of an operation are put into its base word bit by bit.  The bits they go to are zero in
the base word and differ from field to field, so the word is the sum of the base word and the
fields, each at its place.
-/

namespace Chip8

/-- The lowest bits of a number are its remainder, for negative numbers too. -/
theorem truncate_eq_emod (n : Nat) [@NeZero Nat Zero.ofOfNat0 n] (value : Int) :
    ((truncate n value : Fin n) : Int) = value % n := by
  have hn : (0 : Int) < n := by exact_mod_cast Nat.pos_of_ne_zero (NeZero.ne n)
  have hlow : 0 ≤ value % n := Int.emod_nonneg value (by omega)
  have hhigh : value % n < n := Int.emod_lt_of_pos value hn
  have hmod : (value % n).toNat % n = (value % n).toNat := Nat.mod_eq_of_lt (by omega)
  unfold truncate
  rw [Fin.val_ofNat, hmod, Int.toNat_of_nonneg hlow]

/-- A field put into bits that are zero adds its value at their place. -/
theorem or_shiftLeft_eq_add (word : Nat) {k w x : Nat} (hzero : word / 2 ^ k % 2 ^ w = 0)
    (hx : x < 2 ^ w) : word ||| x <<< k = word + 2 ^ k * x := by
  have hhigh : word / 2 ^ k = 2 ^ w * (word / 2 ^ k / 2 ^ w) := by
    have := Nat.div_add_mod (word / 2 ^ k) (2 ^ w)
    omega
  -- the word without the field's bits: what lies above them and what lies below
  have hword : word = 2 ^ (k + w) * (word / 2 ^ k / 2 ^ w) + word % 2 ^ k := by
    rw [Nat.pow_add, Nat.mul_assoc, ← hhigh, Nat.div_add_mod]
  generalize word / 2 ^ k / 2 ^ w = high at hword
  have hlow : word % 2 ^ k < 2 ^ k := Nat.mod_lt _ (Nat.two_pow_pos k)
  generalize word % 2 ^ k = low at hword hlow
  subst hword
  have hfield : 2 ^ k * x + low < 2 ^ (k + w) := by
    have hstep : 2 ^ k * (x + 1) ≤ 2 ^ k * 2 ^ w := Nat.mul_le_mul_left _ hx
    rw [Nat.pow_add]
    rw [Nat.mul_add] at hstep
    omega
  have hbelow : low < 2 ^ (k + w) := by omega
  calc 2 ^ (k + w) * high + low ||| x <<< k
      = 2 ^ (k + w) * high ||| low ||| 2 ^ k * x := by
        rw [Nat.two_pow_add_eq_or_of_lt hbelow, Nat.shiftLeft_eq, Nat.mul_comm x]
    _ = 2 ^ (k + w) * high ||| (2 ^ k * x ||| low) := by
        rw [Nat.or_assoc, Nat.or_comm low]
    _ = 2 ^ (k + w) * high + (2 ^ k * x + low) := by
        rw [← Nat.two_pow_add_eq_or_of_lt hlow, ← Nat.two_pow_add_eq_or_of_lt hfield]
    _ = 2 ^ (k + w) * high + low + 2 ^ k * x := by omega

/-- Every form leaves the bits of the first register free. -/
theorem Opcode.base_register_field (opcode : Opcode) : opcode.base / 0x100 % 0x10 = 0 := by
  cases opcode <;> rfl

namespace Operation

variable {opcode : Opcode}

theorem encoded_address (h : opcode.base % 0x1000 = 0) (target : Fin 0x1000) :
    (address opcode target).encoded = opcode.base + target := by
  have := or_shiftLeft_eq_add opcode.base (k := 0) (w := 12) (by simpa using h)
    target.isLt
  simpa [encoded] using this

theorem encoded_register (opcode : Opcode) (x : Register) :
    (register opcode x).encoded = opcode.base + 0x100 * x :=
  or_shiftLeft_eq_add opcode.base (k := 8) (w := 4) opcode.base_register_field x.isLt

theorem encoded_registerByte (h : opcode.base % 0x1000 = 0) (x : Register) (value : Fin 0x100) :
    (registerByte opcode x value).encoded = opcode.base + 0x100 * x + value := by
  have hx : (register opcode x).encoded = opcode.base + 0x100 * x :=
    encoded_register opcode x
  have hvalue := or_shiftLeft_eq_add (opcode.base + 0x100 * x) (k := 0) (w := 8)
    (by omega) value.isLt
  simp only [encoded] at hx ⊢
  rw [hx]
  simpa using hvalue

theorem encoded_registers (h : opcode.base / 0x10 % 0x100 = 0) (x y : Register) :
    (registers opcode x y).encoded = opcode.base + 0x100 * x + 0x10 * y := by
  have hx : (register opcode x).encoded = opcode.base + 0x100 * x :=
    encoded_register opcode x
  have hy := or_shiftLeft_eq_add (opcode.base + 0x100 * x) (k := 4) (w := 4)
    (by omega) y.isLt
  simp only [encoded] at hx ⊢
  rw [hx]
  exact hy

theorem encoded_registersNibble (h : opcode.base % 0x1000 = 0) (x y : Register)
    (value : Fin 0x10) :
    (registersNibble opcode x y value).encoded =
      opcode.base + 0x100 * x + 0x10 * y + value := by
  have hxy : (registers opcode x y).encoded = opcode.base + 0x100 * x + 0x10 * y :=
    encoded_registers (by omega) x y
  have hvalue := or_shiftLeft_eq_add (opcode.base + 0x100 * x + 0x10 * y) (k := 0)
    (w := 4) (by omega) value.isLt
  simp only [encoded] at hxy ⊢
  rw [hxy]
  simpa using hvalue

/-! ### Fields of any size

A number that does not fit into its field is cut off.  The sums below are over the integers, so that
they hold of negative addresses too. -/

theorem encoded_address_eq (h : opcode.base % 0x1000 = 0) (target : Int) :
    ((address opcode (truncate _ target)).encoded : Int) =
      opcode.base + target % 0x1000 := by
  have htarget := truncate_eq_emod 0x1000 target
  rw [encoded_address h, Int.natCast_add, htarget]
  rfl

theorem encoded_register_eq (opcode : Opcode) (x : Register) :
    ((register opcode x).encoded : Int) = opcode.base + 0x100 * x := by
  rw [encoded_register]
  omega

theorem encoded_registerByte_eq (h : opcode.base % 0x1000 = 0) (x : Register) (value : Nat) :
    ((registerByte opcode x (truncate _ value)).encoded : Int) =
      opcode.base + 0x100 * x + value % 0x100 := by
  have hvalue := truncate_eq_emod 0x100 value
  rw [encoded_registerByte h]
  omega

theorem encoded_registers_eq (h : opcode.base / 0x10 % 0x100 = 0) (x y : Register) :
    ((registers opcode x y).encoded : Int) =
      opcode.base + 0x100 * x + 0x10 * y := by
  rw [encoded_registers h]
  omega

theorem encoded_sprite_eq (x y : Register) (height : Nat) :
    ((registersNibble .drw x y (truncate _ height)).encoded : Int) =
      0xD000 + 0x100 * x + 0x10 * y + height % 0x10 := by
  have hheight := truncate_eq_emod 0x10 height
  have hbase : Opcode.drw.base = 0xD000 := rfl
  rw [encoded_registersNibble (by decide), hbase]
  omega

end Operation

end Chip8
