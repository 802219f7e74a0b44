import Chip8.Diagnostic
import Chip8.Operand
import Chip8.Options

/-!
# Instructions

One instruction is made of each line.  It has its address from the start; its encoding comes later.
-/

namespace Chip8

/-- The instruction of one line.  `written` are the tokens of the line, `tokens` those from the
mnemonic on without the commas after them, and `columns` the places of the latter.  `encoded` is
the number that the instruction makes, of which `width` bytes are written. -/
structure Instruction where
  written : List Token
  tokens : List Token
  address : Int := programStart
  width : Int := 2
  encoded : Option Int := none
  label : Option Text := none
  location : Location := ⟨Location.unnamed, 0, 0⟩
  sourceLine : Option Text := none
  index : Int := 0
  columns : List Int := []
  deriving DecidableEq, Repr

namespace Instruction

/-- The label that a token defines: a word with a colon after it. -/
def definedLabel? (token : Token) : Option Text :=
  let body := Text.dropFinalNewline token
  match body.getLast?, body.dropLast with
  | some ':', name => if Text.isWordText name then some name else none
  | _, _ => none

/-- Drops one comma from the end of a token. -/
def dropComma (token : Token) : Token :=
  if token.getLast? = some ',' then token.dropLast else token

/-- The width that an instruction is taken to have before it is encoded. -/
def plannedWidth (step : AddressStep) (tokens : List Token) : Int :=
  match step, tokens.head?.bind Mnemonic.ofToken? with
  | .byWidth, some mnemonic => mnemonic.width
  | _, _ => 2

/-- The instruction of a line that stands at the given address and position in the program. -/
def ofLine (step : AddressStep) (address : Int) (index : Nat) (line : Line) : Instruction :=
  let label := line.tokens.head?.bind definedLabel?
  let skipped := if label.isSome then 1 else 0
  let tokens := (line.tokens.drop skipped).map dropComma
  { written := line.tokens
    tokens := tokens
    address := address
    width := plannedWidth step tokens
    label := label
    location := line.location
    sourceLine := some line.text
    index := index
    columns := line.columns.drop skipped }

/-- The tokens after the mnemonic. -/
def operands (instruction : Instruction) : List Token :=
  instruction.tokens.drop 1

/-- Where the token at a position stands; the mnemonic is at position zero. -/
def locationOf (instruction : Instruction) (position : Int) : Location :=
  if position < 0 then
    instruction.location
  else
    match instruction.columns[position.toNat]? with
    | some column => { instruction.location with column := column }
    | none => instruction.location

/-- The report that the instruction is at fault at the given place. -/
def report (instruction : Instruction) (location : Location) (cause : Cause) : Failure :=
  .reported ⟨cause, some location, instruction.sourceLine, some instruction.index⟩

/-- The report that the instruction defines a name again, and where the name was defined first. -/
def duplicateLabel (instruction : Instruction) (name : Text) (first : Option Location) :
    Failure :=
  instruction.report instruction.location (.duplicateLabel name first)

end Instruction

end Chip8
