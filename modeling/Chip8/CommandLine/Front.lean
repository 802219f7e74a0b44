import Chip8.CommandLine.Arguments
import Chip8.CommandLine.Run

/-!
# A front

One way to read arguments: they are checked against the disk before the command is called, and
questions are answered at once.
-/

namespace Chip8.CommandLine

namespace Front

/-- The variable by which a shell asks how a word may go on. -/
def completionVariable : Text := "_C8ASM_COMPLETE".toList

/-- The shells that are told how a word may go on. -/
def shells : List Text :=
  ["bash", "zsh", "fish"].map String.toList

/-- How a run ends in which a shell asks for completions, if one does: the value names the shell and
what it asks for.  What it is told is not shown. -/
def completion? (environment : Environment) : Option Nat :=
  (environment.value? completionVariable).map fun value =>
    let shell := value.takeWhile (· != '_')
    let asked := (value.dropWhile (· != '_')).drop 1
    if shells.contains shell && ["source".toList, "complete".toList].contains asked then 0 else 1

/-- The address step that an argument names, in any case. -/
def stepOfArgument? (argument : Text) : Option AddressStep :=
  [AddressStep.byWidth, AddressStep.fixed].find? fun step => Text.matchesName step.name argument

/-- The call that arguments ask for, if they name one file, and a known address step if any. -/
def callOf? (arguments : Arguments) : Option Call :=
  match arguments.files, arguments.addressStep.map stepOfArgument? with
  | [_], some none => none
  | [file], step =>
      some {
        input := Path.ofText file
        output := arguments.output.map Path.ofText
        listing := arguments.listing.map Path.ofText
        addressStep := step.join.map (·.name)
        strictLabels := arguments.strictLabels
        verbose := arguments.verbose }
  | _, _ => none

section

variable {m : Type → Type} [Monad m] [Disk m]

/-- What an argument leads to, if it leads anywhere. -/
def kindOfArgument? (argument : Text) : m (Option EntryKind) :=
  match Path.literal? argument with
  | some path => Disk.kind? path
  | none => return none

/-- Holds when an argument, if there is one, names no directory. -/
def mayBeWritten (argument : Option Text) : m Bool :=
  match argument with
  | some argument => return (← kindOfArgument? argument) != some .directory
  | none => return true

/-- Holds when the input is a file and neither output is a directory. -/
def filesAreUsable (arguments : Arguments) : m Bool := do
  let kinds ← arguments.files.mapM kindOfArgument?
  let output ← mayBeWritten arguments.output
  let listing ← mayBeWritten arguments.listing
  return kinds.all (· == some .file) && output && listing

variable [Console m]

/-- Prints a line.  It is raised if that is not possible. -/
def tell (line : Text) : m Reading := do
  match ← Console.say line with
  | .ok () => return .ended ExitCode.success.number
  | .error _ => return .ended Ending.raised.status

/-- Reads arguments.  `usage` is the text that says how the command is used, and `misuse` shows that
arguments have no meaning. -/
def reader (usage : Text) (misuse : m Unit) : Front m := fun environment words => do
  let refuse : m Reading := do
    misuse
    return .ended ExitCode.invalidArguments.number
  match completion? environment, Arguments.ofList? words with
  | some status, _ => return .ended status
  | none, none => refuse
  | none, some arguments =>
      match arguments.question, callOf? arguments with
      | some .version, _ => tell ("c8asm, version ".toList ++ version)
      | some .help, _ => tell usage
      | none, none => refuse
      | none, some call =>
          if ← filesAreUsable arguments then return .called call else refuse

end

end Front

end Chip8.CommandLine
