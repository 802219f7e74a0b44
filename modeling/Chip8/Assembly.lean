import Chip8.Encoding
import Chip8.Listing

/-!
# Assembly

From a source to an image: the lines become a program, its instructions are encoded, and their
bytes are put in a row.  What happens on the way can be told as a list of events.
-/

namespace Chip8

/-- An image and the program that it is the image of. -/
structure Assembly where
  image : List UInt8
  program : Program
  deriving DecidableEq, Repr

namespace Assembly

/-- The labels with their addresses. -/
def labels (assembly : Assembly) : List (Text × Int) :=
  assembly.program.addresses.toList

/-- The listing of the program. -/
def listing (assembly : Assembly) : Text :=
  Chip8.listing assembly.program

end Assembly

/-- Assembles a source. -/
def assemble (options : Options) (file source : Text) : Except Failure Assembly := do
  let parsed ← Program.ofSource options file source
  let program ← parsed.encoded
  let image ← image program.instructions
  return ⟨image, program⟩

/-- A step of an assembly. -/
inductive Event
  | redefined (label : Text) (line earlier later : Int)
  | defined (label : Text) (address : Int)
  | parsed (instructions labels : Nat)
  | encoded (instructions : Nat)
  | generated (file : Text) (bytes : Nat)
  deriving DecidableEq, Repr

namespace Event

/-- The part of the assembler that an event belongs to. -/
def component : Event → Text
  | .redefined .. | .defined .. | .parsed .. => "chip8_asm.assembler.parser".toList
  | .encoded .. => "chip8_asm.assembler.codegen".toList
  | .generated .. => "chip8_asm.assembler.assembler".toList

/-- What happened, in words. -/
def description : Event → Text
  | .redefined label line earlier later =>
      "Label ".toList ++ label.inApostrophes ++ " redefined at line ".toList
        ++ Text.decimal line ++ " (".toList ++ Listing.addressText earlier ++ " -> ".toList
        ++ Listing.addressText later ++ ")".toList
  | .defined label address =>
      "Label ".toList ++ label.inApostrophes ++ " = ".toList ++ Listing.addressText address
  | .parsed instructions labels =>
      "Parsed ".toList ++ Text.decimal instructions ++ " instructions, ".toList
        ++ Text.decimal labels ++ " labels".toList
  | .encoded instructions =>
      "Compiled ".toList ++ Text.decimal instructions ++ " instructions".toList
  | .generated file bytes =>
      file ++ ": generated ".toList ++ Text.decimal bytes ++ " bytes".toList

/-- The line that logs an event. -/
def line (event : Event) : Text :=
  event.component ++ ": ".toList ++ event.description

end Event

namespace Program

/-- The events of defining labels one after the other, up to the first that cannot be defined. -/
def definitionEvents (program : Program) : List (Text × Nat) → List Event
  | [] => []
  | (name, position) :: rest =>
      match program.instructions[position]?, program.define name position with
      | some instruction, .ok later =>
          let redefinition :=
            match program.addresses.find? name with
            | some earlier => [.redefined name instruction.location.line earlier instruction.address]
            | none => []
          redefinition ++ .defined name instruction.address :: later.definitionEvents rest
      | _, _ => []

end Program

/-- What an assembly tells about itself while it runs. -/
structure Progress where
  events : List Event
  messages : List Text
  deriving DecidableEq, Repr

/-- The events and the messages of assembling a source, as far as that gets. -/
def progress (options : Options) (file source : Text) : Progress :=
  let placed := Program.unlabelled options (Source.lines file source)
  let labelling := placed.definitionEvents (Program.definitions placed.instructions)
  let start := "Assembling ".toList ++ file ++ "...".toList
  match Program.ofSource options file source with
  | .error _ => ⟨labelling, [start]⟩
  | .ok parsed =>
      let counted := Event.parsed parsed.instructions.length parsed.labels.size
      match assemble options file source with
      | .error _ => ⟨labelling ++ [counted], [start, counted.description]⟩
      | .ok assembly =>
          ⟨labelling ++ [counted, .encoded parsed.instructions.length,
              .generated file assembly.image.length],
            [start, counted.description,
              "Generated ".toList ++ Text.decimal assembly.image.length
                ++ " bytes of code".toList]⟩

end Chip8
