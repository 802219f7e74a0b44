import Chip8.Encoding

/-!
# Programs that share instructions

Instructions are objects that encoding changes in place.  A program that is put together by hand may
list one of them several times, and may have labels on objects that it does not list.  So objects
have names, and both the list and the labels are made of names: whoever changes an object changes
it wherever it is listed.
-/

namespace Chip8

/-- The objects that there are, those that a program lists, and those that its labels are on. -/
structure SharedProgram (ι : Type) where
  objects : ι → Instruction
  listed : List ι
  labels : LabelTable ι

namespace SharedProgram

section

variable {ι : Type}

/-- The instructions of a program as they are at present. -/
def instructions (program : SharedProgram ι) : List Instruction :=
  program.listed.map program.objects

/-- The addresses that labels stand for at present. -/
def addresses (program : SharedProgram ι) : LabelTable Int :=
  program.labels.map fun object => (program.objects object).address

end

variable {ι : Type} [DecidableEq ι]

/-- Changes one object. -/
def replace (program : SharedProgram ι) (object : ι) (instruction : Instruction) :
    SharedProgram ι :=
  { program with
    objects := fun other => if other = object then instruction else program.objects other }

/-- Encodes one object, whether or not it is listed. -/
def encodeObject (program : SharedProgram ι) (object : ι) : Except Failure (SharedProgram ι) :=
  match (program.objects object).encode program.addresses with
  | .error failure => .error failure
  | .ok encoded => .ok (program.replace object encoded)

/-- Encodes several objects one after the other, up to the first that cannot be encoded. -/
def encodeEach (program : SharedProgram ι) : List ι → SharedProgram ι × Option Failure
  | [] => (program, none)
  | object :: rest =>
      match program.encodeObject object with
      | .error failure => (program, some failure)
      | .ok next => next.encodeEach rest

/-- Encodes the objects of the list in order, up to the first that cannot be encoded. -/
def encode (program : SharedProgram ι) : SharedProgram ι × Option Failure :=
  program.encodeEach program.listed

end SharedProgram

/-- A program of its own: each instruction is an object that is listed once, and its name is its
position. -/
def Program.shared (program : Program) : SharedProgram Nat where
  objects position := program.instructions[position]?.getD { written := [], tokens := [] }
  listed := List.range program.instructions.length
  labels := program.labels

end Chip8
