import Chip8.Text.Blank
import Chip8.Text.Case
import Chip8.Text.Quoted

/-!
# Options

How a program is assembled, and how the environment sets it.
-/

namespace Chip8

/-- The address that a program is loaded at. -/
def programStart : Int := 0x200

/-- How far the next address lies after an instruction: as many bytes as the instruction makes, or
always two. -/
inductive AddressStep
  | byWidth
  | fixed
  deriving DecidableEq, Repr

/-- A text that names no address step. -/
structure UnknownStep where
  name : Text
  deriving DecidableEq, Repr

/-- What is said about a text that names no address step. -/
def UnknownStep.message (unknown : UnknownStep) : Text :=
  Text.quoted unknown.name ++ " is not a valid AddressStep".toList

namespace AddressStep

/-- The name of an address step. -/
def name : AddressStep → Text
  | .byWidth => "width".toList
  | .fixed => "fixed".toList

/-- The step that a text names, in any case and with blanks around it. -/
def ofName (t : Text) : Except UnknownStep AddressStep :=
  let name := Text.lower (Text.trim Text.isBlank t)
  if name = AddressStep.byWidth.name then .ok .byWidth
  else if name = AddressStep.fixed.name then .ok .fixed
  else .error ⟨name⟩

end AddressStep

/-- How a program is assembled. -/
structure Options where
  addressStep : AddressStep := .byWidth
  strictLabels : Bool := false
  deriving DecidableEq, Repr

/-- The variables of an environment with their values. -/
abbrev Environment := List (Text × Text)

namespace Environment

/-- The variable that names the address step. -/
def addressStepVariable : Text := "CHIP8_ASM_ADDRESS_STEP".toList

/-- The variable that makes labels strict. -/
def strictLabelsVariable : Text := "CHIP8_ASM_STRICT_LABELS".toList

/-- The value of a variable, unless it is empty. -/
def value? (environment : Environment) (name : Text) : Option Text :=
  (environment.lookup name).filter fun value => !value.isEmpty

end Environment

namespace Options

/-- The texts that switch an option on. -/
def affirmations : List Text :=
  ["1", "true", "yes", "on"].map String.toList

/-- Holds of the texts that switch an option on, in any case and with blanks around them. -/
def isAffirmed (t : Text) : Bool :=
  affirmations.contains (Text.lower (Text.trim Text.isBlank t))

/-- The options that an environment sets.  A value that names no address step is passed over. -/
def ofEnvironment (environment : Environment) : Options :=
  { addressStep :=
      match (environment.value? Environment.addressStepVariable).map AddressStep.ofName with
      | some (.ok step) => step
      | _ => .byWidth
    strictLabels :=
      ((environment.value? Environment.strictLabelsVariable).map isAffirmed).getD false }

end Options

end Chip8
