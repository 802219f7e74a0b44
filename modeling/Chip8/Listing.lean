import Chip8.Image
import Chip8.Program

/-!
# Listings

A listing shows the address, the bytes, the line number and the source of each instruction, and
after them the labels by address.
-/

namespace Chip8

namespace Listing

/-- A byte as two upper-case digits of base sixteen. -/
def byteText (b : UInt8) : Text :=
  Text.hexPadded 2 b.toNat

/-- An address after a dollar sign, in at least four digits of base sixteen. -/
def addressText (address : Int) : Text :=
  '$' :: Text.hexPadded 4 address

/-- The source of an instruction: its line, or its tokens where the line is empty or unknown. -/
def sourceText (instruction : Instruction) : Text :=
  let line :=
    match instruction.sourceLine with
    | none | some [] => Text.join [' '] instruction.written
    | some line => line
  Text.trim Text.isBlank line

/-- The row of an instruction. -/
def row (instruction : Instruction) : Text :=
  let bytes := Text.join [' '] ((instruction.bytes?.getD []).map byteText)
  addressText instruction.address ++ "  ".toList ++ List.rightpad 6 ' ' bytes ++ "  ".toList
    ++ List.leftpad 4 ' ' (Text.decimal instruction.location.line) ++ "  ".toList
    ++ sourceText instruction

/-- The row of a label. -/
def labelRow (label : Text × Int) : Text :=
  List.rightpad 20 ' ' label.1 ++ " = ".toList ++ addressText label.2

/-- The lines above the instructions. -/
def heading : List Text :=
  ["CHIP-8 Assembler Listing".toList, List.replicate 60 '=', [],
    "Addr   Code    Line  Source".toList, List.replicate 60 '-']

/-- The lines between the instructions and the labels. -/
def labelHeading : List Text :=
  [[], "Label Table".toList, List.replicate 30 '-']

/-- The labels by address, those of one address in the order of the table. -/
def sortedLabels (program : Program) : List (Text × Int) :=
  program.addresses.toList.mergeSort fun a b => a.2 ≤ b.2

/-- The lines of a listing. -/
def lines (program : Program) : List Text :=
  heading ++ program.instructions.map row ++ labelHeading ++ (sortedLabels program).map labelRow

end Listing

/-- The listing of a program. -/
def listing (program : Program) : Text :=
  Text.join ['\n'] (Listing.lines program)

end Chip8
