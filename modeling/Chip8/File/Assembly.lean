import Chip8.Assembly
import Chip8.File.Disk
import Chip8.Text.Newline
import Chip8.Text.Utf8

/-!
# Assembling files

A source is read from a file and assembled; its image and its listing are written to others.
-/

namespace Chip8

/-- Why a file cannot be assembled. -/
inductive Trouble
  | program (failure : Failure)
  | file (fault : FileFault)
  | decoding (fault : Text.Utf8.Fault)
  deriving DecidableEq, Repr

/-- The report of a trouble. -/
def Trouble.message : Trouble → Text
  | .program failure => failure.message
  | .file fault => fault.message
  | .decoding fault => fault.message

/-- The source that the bytes of a file hold. -/
def Source.ofBytes (bytes : List UInt8) : Except Text.Utf8.Fault Text :=
  (Text.Utf8.decode bytes).map Text.unifyNewlines

/-- The bytes of a listing's file. -/
def Assembly.listingBytes (assembly : Assembly) : List UInt8 :=
  Text.Utf8.encode (assembly.listing ++ ['\n'])

section

variable {m : Type → Type} [Monad m] [Disk m]

/-- Reads the source in a file. -/
def readSource (path : Path) : m (Except Trouble Text) := do
  match ← Disk.read path with
  | .error fault => return .error (.file fault)
  | .ok bytes => return (Source.ofBytes bytes).mapError .decoding

/-- Assembles the source in a file. -/
def assembleFile (options : Options) (path : Path) : m (Except Trouble Assembly) := do
  match ← readSource path with
  | .error trouble => return .error trouble
  | .ok source => return (assemble options path.text source).mapError .program

end

end Chip8
