import Chip8.Diagnostic
import Chip8.Operand

/-!
# Written reports

A failure is raised together with the text of its report, which is written at once.  That may fail
itself: numbers with very many digits are not written, and the blanks before the mark of a far
column are more than a text can have, or more than there is memory for.  Then it is this that is
raised.
-/

namespace Chip8

/-- The number of characters that no text can have. -/
def Text.lengthLimit : Nat := 0x8000000000000000

/-- Holds of numbers that can be written in base ten. -/
def Text.isWritable (n : Int) : Bool :=
  (Nat.toDigits 10 n.natAbs).length ≤ Operand.decimalLimit

/-- Holds of places whose line and column can be written. -/
def Location.isWritable (place : Location) : Bool :=
  Text.isWritable place.line && Text.isWritable place.column

/-- The place that the hint for a cause shows. -/
def Cause.place? : Cause → Option Location
  | .duplicateLabel _ first => first
  | _ => none

/-- Why a report cannot be written: a number has too many digits, or the blanks before the mark are
too many for any text, or for the memory that there is. -/
inductive WritingFault
  | digits
  | length
  | memory
  deriving DecidableEq, Repr

/-- The report of a report that cannot be written. -/
def WritingFault.message : WritingFault → Text
  | .digits =>
      "Exceeds the limit (".toList ++ Text.decimal Operand.decimalLimit
        ++ " digits) for integer string conversion; use sys.set_int_max_str_digits() to".toList
        ++ " increase the limit".toList
  | .length => "cannot fit 'int' into an index-sized integer".toList
  | .memory => []

namespace Diagnostic

/-- The number of blanks before the mark, if there is a mark. -/
def indentation? (diagnostic : Diagnostic) : Option Nat :=
  match diagnostic.location, diagnostic.sourceLine with
  | some location, some _ =>
      if 0 < location.column then some (location.column + 3).toNat else none
  | _, _ => none

/-- Writes a report.  There is memory for as many blanks as `room` says. -/
def write (room : Fin Text.lengthLimit) (diagnostic : Diagnostic) : Except WritingFault Text :=
  let places := diagnostic.cause.place?.toList ++ diagnostic.location.toList
  if places.all Location.isWritable then
    match diagnostic.indentation? with
    | none => .ok diagnostic.message
    | some blanks =>
        if Text.lengthLimit ≤ blanks then .error .length
        else if room.val < blanks then .error .memory
        else .ok diagnostic.message
  else
    .error .digits

end Diagnostic

/-- What is raised: a failure with its report, or what writing the report fails with. -/
inductive Raised
  | failed (failure : Failure) (message : Text)
  | unwritten (fault : WritingFault)
  deriving DecidableEq, Repr

/-- What a failure raises where there is memory for `room` blanks. -/
def Failure.raised (room : Fin Text.lengthLimit) : Failure → Raised
  | .reported diagnostic =>
      match diagnostic.write room with
      | .ok message => .failed (.reported diagnostic) message
      | .error fault => .unwritten fault
  | .notEncoded index line =>
      if Text.isWritable index && Text.isWritable line then
        .failed (.notEncoded index line) (Failure.notEncoded index line).message
      else
        .unwritten .digits
  | .outOfRange => .failed .outOfRange Failure.outOfRange.message

end Chip8
