import Chip8.Operation
import Chip8.Program

/-!
# Encoding

An instruction is encoded once the labels are known: its mnemonic is looked up, its operands are
counted and read, and the operation they make gives the number to write.  A program is encoded in
order, up to the first instruction that cannot be.
-/

namespace Chip8

namespace Instruction

/-- The token at a position, the mnemonic being at position zero. -/
def tokenAt (instruction : Instruction) (position : Nat) : Except Failure Token :=
  match instruction.tokens[position]? with
  | some token => .ok token
  | none => .error .outOfRange

/-- The report that the operand at a position is at fault. -/
def malformed (instruction : Instruction) (position : Nat) (fault : OperandFault) : Failure :=
  instruction.report (instruction.locationOf position) (.malformedOperand fault)

/-- The register that the token at a position names. -/
def registerAt (instruction : Instruction) (position : Nat) : Except Failure Register := do
  let token ← instruction.tokenAt position
  match Register.ofToken? token with
  | some register => .ok register
  | none => .error (instruction.malformed position (.notRegister token))

/-- The number at a position; labels are refused there. -/
def numberAt (instruction : Instruction) (position : Nat) : Except Failure Nat := do
  let token ← instruction.tokenAt position
  match Operand.ofToken token with
  | .number value => .ok value
  | _ => .error (instruction.malformed position (.notNumber token))

/-- The value at a position: a number, or the address of a label. -/
def valueAt (labels : LabelTable Int) (instruction : Instruction) (position : Nat) :
    Except Failure Int := do
  let token ← instruction.tokenAt position
  match Operand.ofToken token with
  | .number value => .ok value
  | .label =>
      match labels.find? token with
      | some address => .ok address
      | none =>
          .error (instruction.report (instruction.locationOf position)
            (.undefinedLabel token (labels.similar token)))
  | .malformed => .error (instruction.malformed position (.notAddress token))

/-- An operation on the address at a position. -/
def addressForm (labels : LabelTable Int) (instruction : Instruction) (opcode : Opcode)
    (position : Nat) : Except Failure Operation := do
  let target ← valueAt labels instruction position
  return .address opcode (truncate _ target)

/-- An operation on the register at a position. -/
def registerForm (instruction : Instruction) (opcode : Opcode) (position : Nat) :
    Except Failure Operation := do
  let x ← instruction.registerAt position
  return .register opcode x

/-- An operation on the first operand, a register, and the second, a number. -/
def registerByteForm (instruction : Instruction) (opcode : Opcode) :
    Except Failure Operation := do
  let x ← instruction.registerAt 1
  let value ← instruction.numberAt 2
  return .registerByte opcode x (truncate _ value)

/-- An operation on two registers, the first operand and the one at a position. -/
def registersForm (instruction : Instruction) (opcode : Opcode) (second : Nat) :
    Except Failure Operation := do
  let x ← instruction.registerAt 1
  let y ← instruction.registerAt second
  return .registers opcode x y

/-- An operation on a register and, as the second operand looks, a register or a number. -/
def registerOrByteForm (instruction : Instruction) (byteOpcode registerOpcode : Opcode) :
    Except Failure Operation := do
  let second ← instruction.tokenAt 2
  if Register.starts second then
    instruction.registersForm registerOpcode 2
  else
    instruction.registerByteForm byteOpcode

/-- A jump to an address, or to an address that the register `V0` is added to. -/
def jump (labels : LabelTable Int) (instruction : Instruction) : Except Failure Operation := do
  if instruction.operands.length = 1 then
    addressForm labels instruction .jp 1
  else
    let offset ← instruction.registerAt 1
    if offset = 0 then
      addressForm labels instruction .jpV0 2
    else
      let token ← instruction.tokenAt 1
      .error (instruction.malformed 1 (.notZeroRegister token))

/-- A load.  The address register is looked for first, then the special places that a register is
loaded to, then those that a register is loaded from. -/
def load (labels : LabelTable Int) (instruction : Instruction) : Except Failure Operation := do
  let first ← Text.upper <$> instruction.tokenAt 1
  let second ← Text.upper <$> instruction.tokenAt 2
  if first = ['I'] then
    addressForm labels instruction .ldI 2
  else
    match Opcode.loadsTo.lookup first, Opcode.loadsFrom.lookup second with
    | some opcode, _ => instruction.registerForm opcode 2
    | none, some opcode => instruction.registerForm opcode 1
    | none, none => instruction.registerOrByteForm .ldByte .ldReg

/-- An addition to the address register or to a numbered one. -/
def addition (instruction : Instruction) : Except Failure Operation := do
  let first ← Text.upper <$> instruction.tokenAt 1
  if first = ['I'] then
    instruction.registerForm .addIVx 2
  else
    instruction.registerOrByteForm .addByte .addReg

/-- A shift.  With one operand, that register is both. -/
def shift (instruction : Instruction) (opcode : Opcode) : Except Failure Operation :=
  instruction.registersForm opcode (if instruction.operands.length = 2 then 2 else 1)

/-- A sprite at two registers' place, of the height that the third operand gives. -/
def sprite (instruction : Instruction) : Except Failure Operation := do
  let height ← instruction.numberAt 3
  let x ← instruction.registerAt 1
  let y ← instruction.registerAt 2
  return .registersNibble .drw x y (truncate _ height)

/-- The operation that an instruction with the given mnemonic writes.  The number of operands has
been checked. -/
def operation (labels : LabelTable Int) (instruction : Instruction) :
    Mnemonic → Except Failure Operation
  | .cls => .ok (.bare .cls)
  | .ret => .ok (.bare .ret)
  | .sys => addressForm labels instruction .sys 1
  | .jp => jump labels instruction
  | .call => addressForm labels instruction .call 1
  | .se => instruction.registerOrByteForm .seByte .seReg
  | .sne => instruction.registerOrByteForm .sneByte .sneReg
  | .ld => load labels instruction
  | .add => instruction.addition
  | .or => instruction.registersForm .or 2
  | .and => instruction.registersForm .and 2
  | .xor => instruction.registersForm .xor 2
  | .sub => instruction.registersForm .sub 2
  | .shr => instruction.shift .shr
  | .subn => instruction.registersForm .subn 2
  | .shl => instruction.shift .shl
  | .rnd => instruction.registerByteForm .rnd
  | .drw => instruction.sprite
  | .skp => instruction.registerForm .skp 1
  | .sknp => instruction.registerForm .sknp 1
  | .dw => do
      let value ← valueAt labels instruction 1
      return .word (truncate _ value)
  | .db => do
      let value ← valueAt labels instruction 1
      return .byte (truncate _ value)

/-- Encodes an instruction.  Too many operands are reported at the first one too many, too few at
the place after the last. -/
def encode (labels : LabelTable Int) (instruction : Instruction) :
    Except Failure Instruction :=
  match instruction.tokens with
  | [] => .error (instruction.report instruction.location (.unknownMnemonic []))
  | token :: operands =>
      match Mnemonic.ofToken? token with
      | none => .error (instruction.report (instruction.locationOf 0) (.unknownMnemonic token))
      | some mnemonic =>
          if mnemonic.operandCount.admits operands.length then do
            let operation ← operation labels instruction mnemonic
            return { instruction with
              encoded := some operation.encoded
              width := mnemonic.width }
          else
            .error (instruction.malformed (min operands.length (mnemonic.operandCount.most + 1))
              (.wrongCount mnemonic operands.length))

/-- Encodes instructions in order up to the first that fails, which is left as it was with all
after it. -/
def encodeAll (labels : LabelTable Int) : List Instruction → List Instruction × Option Failure
  | [] => ([], none)
  | instruction :: rest =>
      match instruction.encode labels with
      | .error failure => (instruction :: rest, some failure)
      | .ok encoded =>
          let (others, failure) := encodeAll labels rest
          (encoded :: others, failure)

end Instruction

theorem Instruction.length_encodeAll (labels : LabelTable Int) (instructions : List Instruction) :
    (Instruction.encodeAll labels instructions).1.length = instructions.length := by
  induction instructions with
  | nil => rfl
  | cons instruction rest ih =>
      unfold Instruction.encodeAll
      split
      · rfl
      · exact congrArg (· + 1) ih

namespace Program

/-- Encodes the instruction at a position. -/
def encodeAt (program : Program) (position : Nat) : Except Failure Program :=
  match program.instructions[position]? with
  | none => .error .outOfRange
  | some instruction =>
      match instruction.encode program.addresses with
      | .error failure => .error failure
      | .ok encoded =>
          .ok (program.withInstructions (program.instructions.set position encoded)
            List.length_set)

/-- Encodes the instructions in order up to the first that fails. -/
def encode (program : Program) : Program × Option Failure :=
  let encoding := Instruction.encodeAll program.addresses program.instructions
  (program.withInstructions encoding.1 (Instruction.length_encodeAll _ _), encoding.2)

/-- Encodes all instructions, or fails as the first one does that cannot be encoded. -/
def encoded (program : Program) : Except Failure Program :=
  match program.encode with
  | (encoded, none) => .ok encoded
  | (_, some failure) => .error failure

end Program

end Chip8
