import Chip8.Source.Line
import Chip8.Text.Numeral
import Chip8.Text.Word

/-!
# Operands

What a token means where a value is expected: a number, the name of a label, or neither.  Registers
are read on their own, since every register is spelled like a name.
-/

namespace Chip8

/-- One of the sixteen registers. -/
abbrev Register := Fin 16

/-- The meaning of a token as a value. -/
inductive Operand
  | number (value : Nat)
  | label
  | malformed
  deriving DecidableEq, Repr

namespace Operand

/-- The most digits that a decimal number may have, leading zeros included. -/
def decimalLimit : Nat := 4300

/-- The value of a number sign and one or more digits of base sixteen. -/
def hexadecimal? : Text → Option Nat
  | '#' :: digits =>
      if !digits.isEmpty && digits.all Text.isHexDigit then
        some (Text.valueIn 16 digits)
      else
        none
  | _ => none

/-- Reads a token as a value.  One line feed at its end is no part of it. -/
def ofToken (token : Token) : Operand :=
  let body := Text.dropFinalNewline token
  match hexadecimal? body with
  | some value => .number value
  | none =>
      if !body.isEmpty && body.all Char.isDigit then
        if body.length ≤ decimalLimit then .number (Text.valueIn 10 body) else .malformed
      else if Text.isWordText body then
        .label
      else
        .malformed

/-- The tokens that name a special place where an instruction takes one. -/
def reserved : List Text :=
  ["B", "DT", "F", "I", "K", "ST", "[I]"].map String.toList

end Operand

namespace Register

/-- The register that a token spells: `V` and a digit of base sixteen, in any case. -/
def ofToken? (token : Token) : Option Register :=
  match Text.dropFinalNewline token with
  | [v, digit] =>
      if (v = 'V' || v = 'v') && Text.isHexDigit digit then
        some ⟨Text.digitValue digit, Text.digitValue_lt digit⟩
      else
        none
  | _ => none

/-- Holds when a token starts like a register. -/
def starts (token : Token) : Bool :=
  token.head? == some 'V' || token.head? == some 'v'

end Register

end Chip8
