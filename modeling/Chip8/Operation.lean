import Chip8.Opcode
import Chip8.Operand

/-!
# Operations

An operation is a form of an instruction with values in its operand fields, or a piece of data.
Its encoding puts the fields into the base word of the form.
-/

namespace Chip8

/-- The lowest bits of a number, for `n` a power of two; negative numbers are in two's
complement. -/
def truncate (n : Nat) [@NeZero Nat Zero.ofOfNat0 n] (value : Int) : Fin n :=
  Fin.ofNat n (value % n).toNat

/-- What the machine is told to do, or the data that it finds. -/
inductive Operation
  | bare (opcode : Opcode)
  | address (opcode : Opcode) (target : Fin 0x1000)
  | register (opcode : Opcode) (x : Register)
  | registerByte (opcode : Opcode) (x : Register) (value : Fin 0x100)
  | registers (opcode : Opcode) (x y : Register)
  | registersNibble (opcode : Opcode) (x y : Register) (value : Fin 0x10)
  | word (value : Fin 0x10000)
  | byte (value : Fin 0x100)
  deriving DecidableEq, Repr

namespace Operation

/-- The number that is written for an operation: the base word of its form with the address in the
lowest twelve bits, the first register in bits 8 to 11, the second in bits 4 to 7, and the
immediate value in the lowest bits. -/
def encoded : Operation → Nat
  | bare opcode => opcode.base
  | address opcode target => opcode.base ||| target.val
  | register opcode x => opcode.base ||| x.val <<< 8
  | registerByte opcode x value => opcode.base ||| x.val <<< 8 ||| value.val
  | registers opcode x y => opcode.base ||| x.val <<< 8 ||| y.val <<< 4
  | registersNibble opcode x y value =>
      opcode.base ||| x.val <<< 8 ||| y.val <<< 4 ||| value.val
  | word value => value.val
  | byte value => value.val

theorem encoded_lt (operation : Operation) : operation.encoded < 0x10000 := by
  have base_lt (opcode : Opcode) : opcode.base < 2 ^ 16 := by cases opcode <;> decide
  have field_lt (x : Register) : x.val <<< 8 < 2 ^ 16 := by
    rw [Nat.shiftLeft_eq]; omega
  have small_lt (x : Register) : x.val <<< 4 < 2 ^ 16 := by
    rw [Nat.shiftLeft_eq]; omega
  cases operation with
  | bare opcode => exact base_lt opcode
  | address opcode target => exact Nat.or_lt_two_pow (base_lt opcode) (by omega)
  | register opcode x => exact Nat.or_lt_two_pow (base_lt opcode) (field_lt x)
  | registerByte opcode x value =>
      exact Nat.or_lt_two_pow (Nat.or_lt_two_pow (base_lt opcode) (field_lt x)) (by omega)
  | registers opcode x y =>
      exact Nat.or_lt_two_pow (Nat.or_lt_two_pow (base_lt opcode) (field_lt x)) (small_lt y)
  | registersNibble opcode x y value =>
      exact Nat.or_lt_two_pow
        (Nat.or_lt_two_pow (Nat.or_lt_two_pow (base_lt opcode) (field_lt x)) (small_lt y))
        (by omega)
  | word value => exact value.isLt
  | byte value => exact Nat.lt_trans value.isLt (by decide)

end Operation

end Chip8
