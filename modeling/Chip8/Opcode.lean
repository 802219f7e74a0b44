import Chip8.Source.Line

/-!
# Opcodes

Each form of an instruction has a base word, into whose zero bits the operands are put.
-/

namespace Chip8

/-- The forms of the instructions. -/
inductive Opcode
  | sys | cls | ret | jp | call | seByte | sneByte | seReg | ldByte | addByte | ldReg | or | and
  | xor | addReg | sub | shr | subn | shl | sneReg | ldI | jpV0 | rnd | drw | skp | sknp | ldVxDt
  | ldVxK | ldDtVx | ldStVx | addIVx | ldFVx | ldBVx | ldMemVx | ldVxMem
  deriving DecidableEq, Repr

namespace Opcode

/-- Every form once, in the order of the base words. -/
def all : List Opcode :=
  [.sys, .cls, .ret, .jp, .call, .seByte, .sneByte, .seReg, .ldByte, .addByte, .ldReg, .or, .and,
   .xor, .addReg, .sub, .shr, .subn, .shl, .sneReg, .ldI, .jpV0, .rnd, .drw, .skp, .sknp, .ldVxDt,
   .ldVxK, .ldDtVx, .ldStVx, .addIVx, .ldFVx, .ldBVx, .ldMemVx, .ldVxMem]

/-- The base word: the encoding of the form with all operands zero. -/
def base : Opcode → Nat
  | .sys => 0x0000
  | .cls => 0x00E0
  | .ret => 0x00EE
  | .jp => 0x1000
  | .call => 0x2000
  | .seByte => 0x3000
  | .sneByte => 0x4000
  | .seReg => 0x5000
  | .ldByte => 0x6000
  | .addByte => 0x7000
  | .ldReg => 0x8000
  | .or => 0x8001
  | .and => 0x8002
  | .xor => 0x8003
  | .addReg => 0x8004
  | .sub => 0x8005
  | .shr => 0x8006
  | .subn => 0x8007
  | .shl => 0x800E
  | .sneReg => 0x9000
  | .ldI => 0xA000
  | .jpV0 => 0xB000
  | .rnd => 0xC000
  | .drw => 0xD000
  | .skp => 0xE09E
  | .sknp => 0xE0A1
  | .ldVxDt => 0xF007
  | .ldVxK => 0xF00A
  | .ldDtVx => 0xF015
  | .ldStVx => 0xF018
  | .addIVx => 0xF01E
  | .ldFVx => 0xF029
  | .ldBVx => 0xF033
  | .ldMemVx => 0xF055
  | .ldVxMem => 0xF065

/-- The form's name in tables. -/
def name : Opcode → Text
  | .sys => "SYS".toList
  | .cls => "CLS".toList
  | .ret => "RET".toList
  | .jp => "JP".toList
  | .call => "CALL".toList
  | .seByte => "SE_BYTE".toList
  | .sneByte => "SNE_BYTE".toList
  | .seReg => "SE_REG".toList
  | .ldByte => "LD_BYTE".toList
  | .addByte => "ADD_BYTE".toList
  | .ldReg => "LD_REG".toList
  | .or => "OR".toList
  | .and => "AND".toList
  | .xor => "XOR".toList
  | .addReg => "ADD_REG".toList
  | .sub => "SUB".toList
  | .shr => "SHR".toList
  | .subn => "SUBN".toList
  | .shl => "SHL".toList
  | .sneReg => "SNE_REG".toList
  | .ldI => "LD_I".toList
  | .jpV0 => "JP_V0".toList
  | .rnd => "RND".toList
  | .drw => "DRW".toList
  | .skp => "SKP".toList
  | .sknp => "SKNP".toList
  | .ldVxDt => "LD_VX_DT".toList
  | .ldVxK => "LD_VX_K".toList
  | .ldDtVx => "LD_DT_VX".toList
  | .ldStVx => "LD_ST_VX".toList
  | .addIVx => "ADD_I_VX".toList
  | .ldFVx => "LD_F_VX".toList
  | .ldBVx => "LD_B_VX".toList
  | .ldMemVx => "LD_MEM_VX".toList
  | .ldVxMem => "LD_VX_MEM".toList

/-- The forms that load a special place from a register, by the place's name. -/
def loadsTo : List (Text × Opcode) :=
  [("DT".toList, .ldDtVx), ("ST".toList, .ldStVx), ("F".toList, .ldFVx), ("B".toList, .ldBVx),
   ("[I]".toList, .ldMemVx)]

/-- The forms that load a register from a special place, by the place's name. -/
def loadsFrom : List (Text × Opcode) :=
  [("DT".toList, .ldVxDt), ("K".toList, .ldVxK), ("[I]".toList, .ldVxMem)]

theorem mem_all (opcode : Opcode) : opcode ∈ all := by
  cases opcode <;> decide

theorem base_injective {f g : Opcode} (h : f.base = g.base) : f = g := by
  revert h
  cases f <;> cases g <;> decide

end Opcode

end Chip8
