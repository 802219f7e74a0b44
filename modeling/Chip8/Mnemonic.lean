import Chip8.Source.Line
import Chip8.Text.Case

/-!
# Mnemonics

The words that an instruction may start with, how many operands each takes and how many bytes it
makes.
-/

namespace Chip8

/-- The words that an instruction may start with. -/
inductive Mnemonic
  | cls | ret | sys | jp | call | se | sne | ld | add | or | and | xor | sub | shr | subn | shl
  | rnd | drw | skp | sknp | dw | db
  deriving DecidableEq, Repr

/-- How many operands a mnemonic takes: from `least` to `most`. -/
structure OperandCount where
  least : Nat
  most : Nat
  deriving DecidableEq, Repr

namespace OperandCount

/-- Exactly `n` operands. -/
def exactly (n : Nat) : OperandCount := ⟨n, n⟩

/-- Holds of the counts in the range. -/
def admits (range : OperandCount) (n : Nat) : Bool :=
  range.least ≤ n && n ≤ range.most

/-- The range in words. -/
def text (range : OperandCount) : Text :=
  let number :=
    if range.least = range.most then
      Text.decimal range.least
    else
      Text.decimal range.least ++ " to ".toList ++ Text.decimal range.most
  number ++ (if range.most = 1 then " operand".toList else " operands".toList)

end OperandCount

namespace Mnemonic

/-- Every mnemonic once. -/
def all : List Mnemonic :=
  [.cls, .ret, .sys, .jp, .call, .se, .sne, .ld, .add, .or, .and, .xor, .sub, .shr, .subn, .shl,
   .rnd, .drw, .skp, .sknp, .dw, .db]

/-- The upper-case spelling. -/
def spelling : Mnemonic → Text
  | .cls => "CLS".toList
  | .ret => "RET".toList
  | .sys => "SYS".toList
  | .jp => "JP".toList
  | .call => "CALL".toList
  | .se => "SE".toList
  | .sne => "SNE".toList
  | .ld => "LD".toList
  | .add => "ADD".toList
  | .or => "OR".toList
  | .and => "AND".toList
  | .xor => "XOR".toList
  | .sub => "SUB".toList
  | .shr => "SHR".toList
  | .subn => "SUBN".toList
  | .shl => "SHL".toList
  | .rnd => "RND".toList
  | .drw => "DRW".toList
  | .skp => "SKP".toList
  | .sknp => "SKNP".toList
  | .dw => "DW".toList
  | .db => "DB".toList

/-- The mnemonic that a token spells, in any case. -/
def ofToken? (token : Token) : Option Mnemonic :=
  all.find? fun mnemonic => mnemonic.spelling == Text.upper token

/-- How many operands the mnemonic takes. -/
def operandCount : Mnemonic → OperandCount
  | .cls | .ret => .exactly 0
  | .sys | .call | .skp | .sknp | .dw | .db => .exactly 1
  | .jp | .shr | .shl => ⟨1, 2⟩
  | .drw => .exactly 3
  | .se | .sne | .ld | .add | .or | .and | .xor | .sub | .subn | .rnd => .exactly 2

/-- How many bytes an instruction makes: two, and one if it is `DB`. -/
def width : Mnemonic → Nat
  | .db => 1
  | _ => 2

theorem mem_all (mnemonic : Mnemonic) : mnemonic ∈ all := by
  cases mnemonic <;> decide

theorem spelling_injective {m n : Mnemonic} (h : m.spelling = n.spelling) : m = n := by
  revert h
  cases m <;> cases n <;> decide

theorem ofToken?_eq_some_iff {token : Token} {mnemonic : Mnemonic} :
    ofToken? token = some mnemonic ↔ Text.upper token = mnemonic.spelling := by
  unfold ofToken?
  constructor
  · intro h
    have := List.find?_some h
    simpa using (beq_iff_eq.mp this).symm
  · intro h
    rw [h]
    cases mnemonic <;> decide

end Mnemonic

end Chip8
