import Chip8.File.Disk

/-!
# Consoles

What the command asks of the place where its lines are shown.  A line may not get there: its
characters may have no encoding, and the system may refuse its bytes.
-/

namespace Chip8

/-- Why a line cannot be printed. -/
inductive ConsoleFault
  | encoding (description : Text)
  | system (fault : FileFault)
  deriving DecidableEq, Repr

/-- The report of a fault. -/
def ConsoleFault.message : ConsoleFault → Text
  | .encoding description => description
  | .system fault => fault.message

/-- A place where lines are shown. -/
class Console (m : Type → Type) where
  /-- Prints a line of results. -/
  say : Text → m (Except ConsoleFault Unit)
  /-- Prints a line that is no result. -/
  warn : Text → m (Except ConsoleFault Unit)
  /-- Shows the calls that led to the trouble at hand. -/
  trace : m (Except ConsoleFault Unit)
  /-- Logs a line.  A line that cannot be logged is lost without further notice. -/
  log : Text → m Unit
  /-- Prints what has been held back, when everything else is done. -/
  close : m (Except ConsoleFault Unit)

end Chip8
