import Chip8.Mnemonic

/-!
# Diagnostics

What can be wrong with a program, and the report of it: a description, the line it is about with a
mark below the place, and a hint.
-/

namespace Chip8

/-- What is wrong with the operands of an instruction. -/
inductive OperandFault
  | notRegister (token : Token)
  | notZeroRegister (token : Token)
  | notNumber (token : Token)
  | notAddress (token : Token)
  | wrongCount (mnemonic : Mnemonic) (given : Nat)
  | described (description : Text) (hint : Option Text)
  deriving DecidableEq, Repr

/-- What is wrong with a program. -/
inductive Cause
  | unknownMnemonic (token : Token)
  | undefinedLabel (label : Text) (similar : List Text)
  | malformedOperand (fault : OperandFault)
  | duplicateLabel (label : Text) (first : Option Location)
  | described (description : Text) (hint : Option Text)
  deriving DecidableEq, Repr

/-- What is wrong and where. -/
structure Diagnostic where
  cause : Cause
  location : Option Location := none
  sourceLine : Option Text := none
  index : Option Int := none
  deriving DecidableEq, Repr

/-- A text between apostrophes, none of it escaped. -/
def Text.inApostrophes (t : Text) : Text :=
  '\'' :: t ++ ['\'']

namespace OperandFault

/-- What is wrong, in words. -/
def description : OperandFault → Text
  | .notRegister token => "expected a V register (V0-VF), got ".toList ++ token.inApostrophes
  | .notZeroRegister token =>
      "JP with an offset register requires V0, got ".toList ++ token.inApostrophes
  | .notNumber token => "expected a numeric value, got ".toList ++ token.inApostrophes
  | .notAddress token => "expected an address or label, got ".toList ++ token.inApostrophes
  | .wrongCount mnemonic given =>
      mnemonic.spelling.inApostrophes ++ " expects ".toList ++ mnemonic.operandCount.text
        ++ ", got ".toList ++ Text.decimal given
  | .described description _ => description

/-- What may help to mend it. -/
def hint : OperandFault → Option Text
  | .notNumber _ =>
      some "use '#' for hexadecimal (#1F) or plain digits for decimal (31)".toList
  | .described _ hint => hint
  | _ => none

end OperandFault

namespace Cause

/-- What is wrong, in words.  A mnemonic that is empty is one that is missing. -/
def description : Cause → Text
  | .unknownMnemonic [] => "expected a mnemonic after the label".toList
  | .unknownMnemonic token => "unknown mnemonic ".toList ++ token.inApostrophes
  | .undefinedLabel label _ => "undefined label ".toList ++ label.inApostrophes
  | .malformedOperand fault => fault.description
  | .duplicateLabel label _ => "duplicate label ".toList ++ label.inApostrophes
  | .described description _ => description

/-- What may help to mend it. -/
def hint : Cause → Option Text
  | .unknownMnemonic [] => some "every line with a label must also hold an instruction".toList
  | .undefinedLabel _ (name :: others) =>
      let names := ((name :: others).take 3).map Text.inApostrophes
      some ("did you mean ".toList ++ Text.join ", ".toList names ++ "?".toList)
  | .malformedOperand fault => fault.hint
  | .duplicateLabel label (some first) =>
      some (label.inApostrophes ++ " was first defined at ".toList ++ first.text)
  | .described _ hint => hint
  | _ => none

end Cause

namespace Diagnostic

/-- The line that a diagnostic is about, and a mark below the column. -/
def excerpt (location : Location) (line : Text) : List Text :=
  let margin := List.replicate 4 ' '
  let mark :=
    if 0 < location.column then
      [margin ++ List.replicate (location.column - 1).toNat ' ' ++ ['^']]
    else
      []
  (margin ++ line) :: mark

/-- The whole report. -/
def message (diagnostic : Diagnostic) : Text :=
  let error := "error: ".toList ++ diagnostic.cause.description
  let headline :=
    match diagnostic.location with
    | some location => location.text ++ ": ".toList ++ error
    | none => error
  let excerpt :=
    match diagnostic.location, diagnostic.sourceLine with
    | some location, some line => excerpt location line
    | _, _ => []
  let hint :=
    match diagnostic.cause.hint with
    | none | some [] => []
    | some hint => ["hint: ".toList ++ hint]
  Text.join ['\n'] (headline :: excerpt ++ hint)

end Diagnostic

/-- Why an operation on a program fails: its text is at fault, an instruction has no encoding yet,
or a token or an instruction is asked for that does not exist. -/
inductive Failure
  | reported (diagnostic : Diagnostic)
  | notEncoded (index line : Int)
  | outOfRange
  deriving DecidableEq, Repr

/-- The report of a failure. -/
def Failure.message : Failure → Text
  | .reported diagnostic => diagnostic.message
  | .notEncoded index line =>
      "instruction ".toList ++ Text.decimal index ++ " at line ".toList ++ Text.decimal line
        ++ " has not been compiled".toList
  | .outOfRange => "list index out of range".toList

end Chip8
