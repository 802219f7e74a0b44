import Chip8.Text.Basic

/-!
# Arguments

The arguments of a command are options and names of files.  An option is a long name after two
dashes, or a letter after one; letters may share a dash.  Everything after a lone pair of dashes
names files.
-/

namespace Chip8.CommandLine

/-- The options that take a value. -/
inductive Setting
  | output
  | listing
  | addressStep
  deriving DecidableEq, Repr

/-- The options that stand alone. -/
inductive Switch
  | strictLabels (on : Bool)
  | verbose
  | version
  | help
  deriving DecidableEq, Repr

/-- An option of either kind. -/
inductive Flag
  | setting (setting : Setting)
  | switch (switch : Switch)
  deriving DecidableEq, Repr

/-- A request that is met before anything else is looked at. -/
inductive Question
  | version
  | help
  deriving DecidableEq, Repr

/-- What arguments say.  Of an option that is given several times the last one counts, and of the
questions the first. -/
structure Arguments where
  files : List Text := []
  output : Option Text := none
  listing : Option Text := none
  addressStep : Option Text := none
  strictLabels : Option Bool := none
  verbose : Bool := false
  question : Option Question := none
  deriving DecidableEq, Repr

namespace Flag

/-- The option with a long name. -/
def ofName? (name : Text) : Option Flag :=
  let names : List (String × Flag) :=
    [("--output", .setting .output), ("--listing", .setting .listing),
     ("--address-step", .setting .addressStep),
     ("--strict-labels", .switch (.strictLabels true)),
     ("--no-strict-labels", .switch (.strictLabels false)), ("--verbose", .switch .verbose),
     ("--version", .switch .version), ("--help", .switch .help)]
  (names.find? fun entry => entry.1.toList == name).map (·.2)

/-- The option with a letter. -/
def ofLetter? : Char → Option Flag
  | 'o' => some (.setting .output)
  | 'l' => some (.setting .listing)
  | 'v' => some (.switch .verbose)
  | _ => none

end Flag

namespace Arguments

/-- Gives an option its value. -/
def assign (arguments : Arguments) (value : Text) : Setting → Arguments
  | .output => { arguments with output := some value }
  | .listing => { arguments with listing := some value }
  | .addressStep => { arguments with addressStep := some value }

/-- Turns an option on. -/
def turn (arguments : Arguments) : Switch → Arguments
  | .strictLabels on => { arguments with strictLabels := some on }
  | .verbose => { arguments with verbose := true }
  | .version => { arguments with question := arguments.question <|> some .version }
  | .help => { arguments with question := arguments.question <|> some .help }

/-- Reads letters that share a dash.  The first one that takes a value takes the rest of the text;
if nothing is left, the value is still to come. -/
def letters (arguments : Arguments) : Text → Option (Arguments × Option Setting)
  | [] => some (arguments, none)
  | letter :: rest =>
      match Flag.ofLetter? letter with
      | none => none
      | some (.switch switch) => (arguments.turn switch).letters rest
      | some (.setting setting) =>
          if rest.isEmpty then some (arguments, some setting)
          else some (arguments.assign rest setting, none)

/-- Reads a long option.  A value may follow the name after an equals sign. -/
def long (arguments : Arguments) (flag : Flag) (value : Option Text) :
    Option (Arguments × Option Setting) :=
  match flag, value with
  | .switch switch, none => some (arguments.turn switch, none)
  | .switch _, some _ => none
  | .setting setting, some value => some (arguments.assign value setting, none)
  | .setting setting, none => some (arguments, some setting)

/-- Reads one argument.  The result names the option whose value is still to come, if any; there is
none when the argument has no meaning. -/
def read (arguments : Arguments) (argument : Text) : Option (Arguments × Option Setting) :=
  match argument with
  | '-' :: first :: rest =>
      let name := argument.takeWhile (· != '=')
      let value := (argument.dropWhile (· != '=')).tail?
      match Flag.ofName? name with
      | some flag => arguments.long flag value
      | none => if first = '-' then none else arguments.letters (first :: rest)
  | _ => some ({ arguments with files := arguments.files ++ [argument] }, none)

/-- Reads the arguments that follow others. -/
def readAll (arguments : Arguments) : List Text → Option Arguments
  | [] => some arguments
  | argument :: rest =>
      if argument = ['-', '-'] then
        some { arguments with files := arguments.files ++ rest }
      else
        match arguments.read argument with
        | none => none
        | some (next, none) => next.readAll rest
        | some (next, some setting) =>
            match rest with
            | [] => none
            | value :: others => (next.assign value setting).readAll others

/-- What a list of arguments says, if it follows the rules. -/
def ofList? (arguments : List Text) : Option Arguments :=
  readAll {} arguments

end Arguments

end Chip8.CommandLine
