import Chip8.CommandLine.Front

/-!
# The command

The files and the console of the system, and the command that runs on them.
-/

namespace Chip8.CommandLine

/-- The problem that a failed request of the system tells of. -/
def problemOf : IO.Error → FileProblem
  | .noFileOrDirectory .. => .notFound
  | .permissionDenied _ code _ => if code = 1 then .notPermitted else .denied
  | .inappropriateType _ code details =>
      if code = 20 then .notDirectory
      else if code = 21 then .isDirectory
      else .other code.toNat details.toList
  | error => .other 5 (toString error).toList

/-- The text of a path as the system takes it. -/
def systemPath (path : Path) : String :=
  String.ofList path.text

/-- Makes a request of the system, and tells what becomes of it. -/
def attempt {α : Type} (path : Option Path) (action : IO α) : IO (Except FileFault α) := do
  try
    return .ok (← action)
  catch error =>
    return .error ⟨problemOf error, path.map (·.text)⟩

instance : Disk IO where
  kind? path := do
    match ← attempt path (IO.FS.Handle.mk (systemPath path) .read) with
    | .error _ => return none
    | .ok handle =>
        match ← attempt path (handle.read 1) with
        | .error ⟨.isDirectory, _⟩ => return some .directory
        | _ => return some .file
  read path := attempt path do
    return (← IO.FS.readBinFile (systemPath path)).toList
  write path bytes := do
    match ← attempt path (IO.FS.Handle.mk (systemPath path) .write) with
    | .error fault => return .error fault
    | .ok handle => attempt none do
        handle.write ⟨bytes.toArray⟩
        handle.flush

/-- Makes a request of the console. -/
def attemptPrint (action : IO Unit) : IO (Except ConsoleFault Unit) := do
  return (← attempt none action).mapError .system

instance : Console IO where
  say line := attemptPrint do
    IO.println (String.ofList line)
    (← IO.getStdout).flush
  warn line := attemptPrint (IO.eprintln (String.ofList line))
  -- there is no trace of the calls to show
  trace := return .ok ()
  log line := discard (attemptPrint (IO.eprintln (String.ofList line)))
  close := attemptPrint do (← IO.getStdout).flush

/-- How the command is used. -/
def usage : Text :=
  Text.join ['\n'] (["Usage: c8asm [OPTIONS] INPUT_FILE",
    "",
    "Assembles CHIP-8 source into a program image, to be loaded at $200.",
    "",
    "  -o, --output FILE             where to write the image (the input with .ch8)",
    "  -l, --listing FILE            where to write a listing",
    "      --address-step STEP       width: by each instruction's bytes; fixed: by two",
    "      --[no-]strict-labels      whether a label may be defined only once",
    "  -v, --verbose                 say what is done",
    "      --version                 show the version",
    "      --help                    show this text"].map String.toList)

/-- The variables that the command reads. -/
def environment : IO Environment := do
  let names := [Environment.addressStepVariable, Environment.strictLabelsVariable,
    Front.completionVariable]
  names.filterMapM fun name => do
    return (← IO.getEnv (String.ofList name)).map fun value => (name, value.toList)

end Chip8.CommandLine

open Chip8.CommandLine in
/-- Runs the command on the arguments. -/
def main (arguments : List String) : IO UInt32 := do
  let misuse : IO Unit := discard (Chip8.Console.warn usage)
  let status ← run (Front.reader usage misuse) (← environment) (arguments.map String.toList)
  return UInt32.ofNat status
