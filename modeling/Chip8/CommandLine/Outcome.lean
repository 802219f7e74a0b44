import Chip8.CommandLine.Console
import Chip8.File.Assembly

/-!
# Outcomes

How a run of the command ends, and what it says about what interrupted it.
-/

namespace Chip8.CommandLine

/-- The ways to exit. -/
inductive ExitCode
  | success
  | buildError
  | invalidArguments
  | internalError
  deriving DecidableEq, Repr

namespace ExitCode

/-- Every way to exit, by its number. -/
def all : List ExitCode :=
  [.success, .buildError, .invalidArguments, .internalError]

/-- The number that the system is given. -/
def number : ExitCode → Nat
  | .success => 0
  | .buildError => 1
  | .invalidArguments => 2
  | .internalError => 3

/-- The name in tables. -/
def name : ExitCode → Text
  | .success => "SUCCESS".toList
  | .buildError => "BUILD_ERROR".toList
  | .invalidArguments => "INVALID_ARGS".toList
  | .internalError => "INTERNAL_ERROR".toList

end ExitCode

/-- What interrupts the part of a run in which interruptions are caught. -/
inductive Interruption
  | trouble (trouble : Trouble)
  | console (fault : ConsoleFault)
  deriving DecidableEq, Repr

/-- The report of an interruption. -/
def Interruption.message : Interruption → Text
  | .trouble cause => cause.message
  | .console fault => fault.message

/-- Whose trouble it is: the program's, the request's, or neither's. -/
inductive Blame
  | program
  | request
  | neither
  deriving DecidableEq, Repr

/-- A file that is missing, closed or a directory is the request's trouble. -/
def Blame.ofProblem : FileProblem → Blame
  | .notPermitted | .notFound | .denied | .isDirectory => .request
  | .notDirectory | .other .. => .neither

/-- Only what is reported about the source is the program's trouble. -/
def Blame.ofInterruption : Interruption → Blame
  | .trouble (.program (.reported _)) => .program
  | .trouble (.program _) => .neither
  | .trouble (.file fault) => .ofProblem fault.problem
  | .trouble (.decoding _) => .neither
  | .console (.encoding _) => .neither
  | .console (.system fault) => .ofProblem fault.problem

/-- How a run exits because of an interruption. -/
def Blame.exitCode : Blame → ExitCode
  | .program => .buildError
  | .request => .invalidArguments
  | .neither => .internalError

/-- What is said about an interruption.  If the program is to blame, the activity that failed is
named. -/
def Blame.complaint (blame : Blame) (message activity : Text) : Text :=
  match blame with
  | .program =>
      let start := if activity.isEmpty then [] else activity ++ " failed:\n".toList
      start ++ message
  | .request => "Error: ".toList ++ message
  | .neither => "Internal error: ".toList ++ message

/-- How a run ends: while its arguments are read, at its end, with an exit after a complaint, or
with something that is raised and not caught. -/
inductive Ending
  | answered (status : Nat)
  | returned
  | exited (code : ExitCode)
  | raised
  deriving DecidableEq, Repr

/-- The number that the system is given. -/
def Ending.status : Ending → Nat
  | .answered status => status
  | .returned => 0
  | .exited code => code.number
  | .raised => 1

section

variable {m : Type → Type} [Monad m] [Console m]

/-- Complains, and exits.  In a verbose run the calls that led to a trouble which is neither the
program's nor the request's are shown.  It may be that nothing can be printed any more. -/
def complain (blame : Blame) (message activity : Text) (verbose : Bool) : m Ending := do
  match ← Console.warn (blame.complaint message activity) with
  | .error _ => return .raised
  | .ok () =>
      if blame = .neither ∧ verbose = true then
        match ← Console.trace with
        | .error _ => return .raised
        | .ok () => return .exited blame.exitCode
      else
        return .exited blame.exitCode

end

end Chip8.CommandLine
