import Chip8.CommandLine.Front
import Chip8.File.Tree

/-!
# Desks

A file tree and what has been printed, as a value: a disk and a console that runs of the command can
be tried on.
-/

namespace Chip8.CommandLine

/-- What is shown besides the results: a line, how the command is used, or a trace of the calls that
led to a trouble. -/
inductive Notice
  | line (text : Text)
  | usage
  | trace
  deriving DecidableEq, Repr

/-- Files, and what has been printed.  A desk may refuse lines of results, and it may have little
room for each file. -/
structure Desk where
  tree : FileTree := {}
  output : List Text := []
  notices : List Notice := []
  refusal? : Text → Option ConsoleFault := fun _ => none
  room : Option Nat := none

namespace Desk

/-- A computation on a desk. -/
abbrev Session := StateM Desk

/-- The fault of a file that has been opened and does not fit. -/
def noRoom : FileFault := { problem := .other 28 "No space left on device".toList }

/-- Writes a file.  If there is too little room, it is left with the bytes that fit. -/
def write (desk : Desk) (path : Path) (bytes : List UInt8) : Except FileFault Unit × Desk :=
  let fitting := bytes.take (desk.room.getD bytes.length)
  match desk.tree.write path fitting with
  | .error fault => (.error fault, desk)
  | .ok tree => (if fitting = bytes then .ok () else .error noRoom, { desk with tree := tree })

/-- Adds a notice. -/
def notice (shown : Notice) (desk : Desk) : Desk :=
  { desk with notices := desk.notices ++ [shown] }

/-- Prints a line of results. -/
def say (line : Text) (desk : Desk) : Except ConsoleFault Unit × Desk :=
  match desk.refusal? line with
  | some fault => (.error fault, desk)
  | none => (.ok (), { desk with output := desk.output ++ [line] })

instance : Disk Session where
  kind? path := fun desk => (desk.tree.kindOf? path, desk)
  read path := fun desk => (desk.tree.read path, desk)
  write path bytes := fun desk => desk.write path bytes

instance : Console Session where
  say line := fun desk => desk.say line
  warn line := fun desk => (.ok (), desk.notice (.line line))
  trace := fun desk => (.ok (), desk.notice .trace)
  log line := fun desk => ((), desk.notice (.line line))
  close := fun desk => (.ok (), desk)

/-- Reads arguments on a desk.  How the command is used is not spelled out. -/
def reader : Front Session :=
  Front.reader [] fun desk => ((), desk.notice .usage)

/-- Runs the command on a desk. -/
def run (desk : Desk) (environment : Environment) (words : List Text) : Nat × Desk :=
  (CommandLine.run reader environment words : Session Nat).run desk

end Desk

end Chip8.CommandLine
