import Chip8.File.Path
import Chip8.Text.Quoted

/-!
# Disks

What the assembler asks of the place where files are kept, and how a request may fail.
-/

namespace Chip8

/-- The ways in which a request about a file fails. -/
inductive FileProblem
  | notPermitted
  | notFound
  | denied
  | notDirectory
  | isDirectory
  | other (number : Nat) (description : Text)
  deriving DecidableEq, Repr

namespace FileProblem

/-- The number that the system gives to a problem. -/
def number : FileProblem → Nat
  | .notPermitted => 1
  | .notFound => 2
  | .denied => 13
  | .notDirectory => 20
  | .isDirectory => 21
  | .other number _ => number

/-- The problem in words. -/
def description : FileProblem → Text
  | .notPermitted => "Operation not permitted".toList
  | .notFound => "No such file or directory".toList
  | .denied => "Permission denied".toList
  | .notDirectory => "Not a directory".toList
  | .isDirectory => "Is a directory".toList
  | .other _ description => description

end FileProblem

/-- A request that failed, and the path that it was about.  There is none if the file had been
opened. -/
structure FileFault where
  problem : FileProblem
  path : Option Text := none
  deriving DecidableEq, Repr

/-- The report of a fault, which quotes the path. -/
def FileFault.message (fault : FileFault) : Text :=
  let place :=
    match fault.path with
    | some path => ": ".toList ++ Text.quoted path
    | none => []
  "[Errno ".toList ++ Text.decimal fault.problem.number ++ "] ".toList
    ++ fault.problem.description ++ place

/-- What a path leads to. -/
inductive EntryKind
  | file
  | directory
  deriving DecidableEq, Repr

/-- A place where files are kept. -/
class Disk (m : Type → Type) where
  /-- What a path leads to, if it leads anywhere. -/
  kind? : Path → m (Option EntryKind)
  /-- The bytes of a file. -/
  read : Path → m (Except FileFault (List UInt8))
  /-- Writes a file anew. -/
  write : Path → List UInt8 → m (Except FileFault Unit)

end Chip8
