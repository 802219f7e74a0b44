import Chip8.Instruction

/-!
# Images

The image of a program is the row of bytes that its instructions make: two bytes, the high one
first, for an instruction of width two, and the low byte alone for any other.
-/

namespace Chip8

/-- The lowest eight bits of a number. -/
def lowByte (value : Int) : UInt8 :=
  UInt8.ofNat (value % 0x100).toNat

namespace Instruction

/-- The bytes of an instruction that has been encoded. -/
def bytes? (instruction : Instruction) : Option (List UInt8) :=
  instruction.encoded.map fun value =>
    if instruction.width = 2 then [lowByte (value / 0x100), lowByte value] else [lowByte value]

end Instruction

/-- A buffer that images are written to, one after the other. -/
structure Emitter where
  buffer : Array UInt8 := #[]
  deriving DecidableEq, Repr

namespace Emitter

/-- Forgets what the buffer holds. -/
def clear (emitter : Emitter) : Emitter :=
  { emitter with buffer := #[] }

/-- Adds the bytes of instructions, up to the first that has not been encoded. -/
def write (emitter : Emitter) : List Instruction → Emitter × Option Failure
  | [] => (emitter, none)
  | instruction :: rest =>
      match instruction.bytes? with
      | none => (emitter, some (.notEncoded instruction.index instruction.location.line))
      | some bytes => write { emitter with buffer := emitter.buffer ++ bytes } rest

/-- Clears the buffer and writes instructions to it.  The image is what the buffer holds then. -/
def emit (emitter : Emitter) (instructions : List Instruction) :
    Emitter × Except Failure (List UInt8) :=
  match emitter.clear.write instructions with
  | (written, none) => (written, .ok written.buffer.toList)
  | (written, some failure) => (written, .error failure)

end Emitter

/-- The image of instructions. -/
def image (instructions : List Instruction) : Except Failure (List UInt8) :=
  (Emitter.emit {} instructions).2

end Chip8
