import Chip8.CommandLine.Outcome

/-!
# Runs

A run reads its arguments, settles the options, assembles one file, and writes the image and the
listing.  The image is written first.  How arguments are read is left to a front, which may end the
run by itself: the arguments have no meaning, or they ask for something else.
-/

namespace Chip8.CommandLine

/-- What a front makes of arguments that ask for something to be assembled. -/
structure Call where
  input : Path
  output : Option Path := none
  listing : Option Path := none
  addressStep : Option Text := none
  strictLabels : Option Bool := none
  verbose : Bool := false
  deriving DecidableEq, Repr

/-- What comes of reading arguments: the front ends the run, or it calls the command. -/
inductive Reading
  | ended (status : Nat)
  | called (call : Call)
  deriving DecidableEq, Repr

/-- A way to read arguments in an environment. -/
abbrev Front (m : Type → Type) := Environment → List Text → m Reading

/-- What a run is asked to do. -/
structure Request where
  input : Path
  output : Path
  listing : Option Path
  options : Options
  verbose : Bool
  deriving DecidableEq, Repr

/-- The extension of an image. -/
def imageExtension : Text := ".ch8".toList

/-- The version of the command. -/
def version : Text := "1.0.0".toList

/-- Where an image goes: where the call says, and otherwise beside the input. -/
def Call.imagePath? (call : Call) : Option Path :=
  call.output <|> call.input.withExtension? imageExtension

namespace Request

/-- The request that a call makes in an environment.  The call wins over the environment.  There is
none if the step has no meaning, or if there is nowhere to put the image. -/
def ofCall? (environment : Environment) (call : Call) : Option Request := do
  let options := Options.ofEnvironment environment
  let step ←
    match call.addressStep with
    | some name => (AddressStep.ofName name).toOption
    | none => some options.addressStep
  let output ← call.imagePath?
  return {
    input := call.input
    output := output
    listing := call.listing
    options := {
      addressStep := step
      strictLabels := call.strictLabels.getD options.strictLabels }
    verbose := call.verbose }

/-- The first lines of a verbose run. -/
def announcement (request : Request) : List Text :=
  ["Address step: ".toList ++ request.options.addressStep.name,
    "Strict labels: ".toList ++ (if request.options.strictLabels then "on" else "off").toList]

/-- The last lines of a verbose run. -/
def summary (assembly : Assembly) : List Text :=
  ["Assembly complete: ".toList ++ Text.decimal assembly.program.instructions.length
      ++ " instructions, ".toList ++ Text.decimal assembly.image.length ++ " bytes at ".toList
      ++ Listing.addressText programStart,
    "Defined ".toList ++ Text.decimal assembly.labels.length ++ " labels".toList]

/-- The line that says where an image was written. -/
def imageNote (image : List UInt8) (path : Path) : Text :=
  "Wrote ".toList ++ Text.decimal image.length ++ " bytes to ".toList ++ path.text

/-- The line that says where a listing was written. -/
def listingNote (path : Path) : Text :=
  "Wrote listing to ".toList ++ path.text

section

variable {m : Type → Type} [Monad m] [Disk m] [Console m]

/-- Prints some lines of a verbose run, up to the first that cannot be printed. -/
def say (request : Request) (lines : List Text) : ExceptT Interruption m Unit :=
  if request.verbose then
    lines.forM fun line => ExceptT.mk do return (← Console.say line).mapError .console
  else
    pure ()

/-- Logs the events of assembling a source in a verbose run. -/
def log (request : Request) (source : Text) : m Unit :=
  if request.verbose then
    (progress request.options request.input.text source).events.forM fun event =>
      Console.log event.line
  else
    pure ()

/-- Writes a file. -/
def write (path : Path) (bytes : List UInt8) : ExceptT Interruption m Unit :=
  ExceptT.mk do return (← Disk.write path bytes).mapError fun fault => .trouble (.file fault)

/-- Assembles the input. -/
def assemble (request : Request) : ExceptT Interruption m Assembly := do
  let source ← ExceptT.mk do return (← readSource request.input).mapError .trouble
  ExceptT.lift (request.log source)
  ExceptT.mk (pure ((Chip8.assemble request.options request.input.text source).mapError
    fun failure => .trouble (.program failure)))

/-- Writes the listing if it is asked for. -/
def writeListing (request : Request) (assembly : Assembly) : ExceptT Interruption m Unit :=
  match request.listing with
  | none => pure ()
  | some path => do
      write path assembly.listingBytes
      request.say [listingNote path]

/-- Does what is asked. -/
def perform (request : Request) : ExceptT Interruption m Unit := do
  let assembly ← request.assemble
  write request.output assembly.image
  request.say [imageNote assembly.image request.output]
  request.writeListing assembly
  request.say (summary assembly)

end

end Request

section

variable {m : Type → Type} [Monad m] [Disk m] [Console m]

/-- Complains about an interruption. -/
def abandon (interruption : Interruption) (verbose : Bool) : m Ending :=
  complain (.ofInterruption interruption) interruption.message "Assembly".toList verbose

/-- Announces what is asked, does it, and complains if that is interrupted. -/
def Request.run (request : Request) : m Ending := do
  match ← (request.say request.announcement).run with
  | .error _ => return .raised
  | .ok () =>
      match ← request.perform.run with
      | .ok () => return .returned
      | .error interruption => abandon interruption request.verbose

/-- Reads the arguments and does what they ask for. -/
def obey (front : Front m) (environment : Environment) (words : List Text) : m Ending := do
  match ← front environment words with
  | .ended status => return .answered status
  | .called call =>
      match Request.ofCall? environment call with
      | none => return .raised
      | some request => request.run

/-- The number that the system is given if the last lines of a run cannot be printed. -/
def unclosedStatus : Nat := 120

/-- Ends a run.  The result is the number that the system is given. -/
def finish (ending : Ending) : m Nat := do
  match ← Console.close with
  | .ok () => return ending.status
  | .error _ => return unclosedStatus

/-- Runs the command. -/
def run (front : Front m) (environment : Environment) (words : List Text) : m Nat := do
  finish (← obey front environment words)

end

end Chip8.CommandLine
