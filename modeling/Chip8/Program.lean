import Chip8.Instruction
import Chip8.LabelTable

/-!
# Programs

A program is a list of instructions and a table that binds each label to the position of the
instruction it marks.  Lines become a program in two steps: addresses are counted up from the start
of the program, then the labels are defined in order.
-/

namespace Chip8

/-- Instructions, and the positions that labels stand for.  Every label is on an instruction of the
program. -/
structure Program where
  instructions : List Instruction := []
  labels : LabelTable Nat := {}
  bound : ∀ binding ∈ labels.bindings, binding.target < instructions.length := by
    exact fun _ h => absurd h List.not_mem_nil
  deriving DecidableEq, Repr

namespace Program

@[ext]
theorem ext {program other : Program} (hinstructions : program.instructions = other.instructions)
    (hlabels : program.labels = other.labels) : program = other := by
  cases program
  cases other
  cases hinstructions
  cases hlabels
  rfl

/-- The instructions of lines whose first one stands at the given address and position. -/
def place (step : AddressStep) (address : Int) (index : Nat) : List Line → List Instruction
  | [] => []
  | line :: rest =>
      let instruction := Instruction.ofLine step address index line
      instruction :: place step (address + instruction.width) (index + 1) rest

/-- The program with other instructions in the same number. -/
def withInstructions (program : Program) (instructions : List Instruction)
    (h : instructions.length = program.instructions.length) : Program :=
  { instructions := instructions
    labels := program.labels
    bound := fun binding hmem => h ▸ program.bound binding hmem }

/-- The address of the instruction at a position. -/
def addressAt (program : Program) (position : Nat) (h : position < program.instructions.length) :
    Int :=
  program.instructions[position].address

/-- The addresses that labels stand for at present. -/
def addresses (program : Program) : LabelTable Int :=
  program.labels.pmap program.addressAt program.bound

/-- The program after a name has been bound to the instruction at a position. -/
def bind (program : Program) (name : Text) (position : Nat)
    (h : position < program.instructions.length) : Program :=
  { instructions := program.instructions
    labels := program.labels.bind name position
    bound := fun binding hmem =>
      match LabelTable.mem_of_mem_rebind hmem with
      | .inl hnew => hnew ▸ h
      | .inr hold => program.bound binding hold }

/-- Binds a name to the instruction at a position. -/
def define (program : Program) (name : Text) (position : Nat) : Except Failure Program :=
  if h : position < program.instructions.length then
    match program.labels.refusal? name with
    | none => .ok (program.bind name position h)
    | some earlier =>
        .error (program.instructions[position].duplicateLabel name
          (program.instructions[earlier]?.map (·.location)))
  else
    .error .outOfRange

/-- Binds several names, up to the first that cannot be bound. -/
def defineAll (program : Program) : List (Text × Nat) → Except Failure Program
  | [] => .ok program
  | (name, position) :: rest =>
      match program.define name position with
      | .ok defined => defined.defineAll rest
      | .error failure => .error failure

/-- The labels on instructions, each with the position of its instruction. -/
def definitions (instructions : List Instruction) : List (Text × Nat) :=
  instructions.zipIdx.filterMap fun (instruction, position) =>
    instruction.label.map fun name => (name, position)

/-- The lines before the first one that has no token. -/
def usable (lines : List Line) : List Line :=
  lines.takeWhile fun line => !line.tokens.isEmpty

/-- The instructions of the usable lines, with no label defined yet. -/
def unlabelled (options : Options) (lines : List Line) : Program :=
  { instructions := place options.addressStep programStart 0 (usable lines)
    labels := ⟨options.strictLabels, []⟩ }

/-- The program that lines write.  Every line must have a token. -/
def ofLines (options : Options) (lines : List Line) : Except Failure Program :=
  let placed := unlabelled options lines
  match placed.defineAll (definitions placed.instructions) with
  | .error failure => .error failure
  | .ok program =>
      if (usable lines).length < lines.length then .error .outOfRange else .ok program

/-- The program that a source writes. -/
def ofSource (options : Options) (file source : Text) : Except Failure Program :=
  ofLines options (Source.lines file source)

/-- Changes the instruction at a position. -/
def modify (program : Program) (position : Nat) (f : Instruction → Instruction) : Program :=
  program.withInstructions (program.instructions.modify position f) (List.length_modify _ _ _)

end Program

end Chip8
