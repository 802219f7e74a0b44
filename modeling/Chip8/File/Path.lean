import Chip8.Text.Basic

/-!
# Paths

A path is a row of names with slashes between them.  Repeated slashes and names that are a single
dot say nothing, so they are left out; a pair of dots is kept, since it may pass through a link.
-/

namespace Chip8

/-- A path: the slashes that it starts with, at most two, and its parts. -/
structure Path where
  slashes : Nat
  parts : List Text
  deriving DecidableEq, Repr

namespace Path

/-- The slashes that a path is taken to start with: two are kept, more than two count as one. -/
def leadingSlashes (t : Text) : Nat :=
  match (t.takeWhile (· == '/')).length with
  | 0 => 0
  | 2 => 2
  | _ => 1

/-- The names between the slashes of a text. -/
def names (t : Text) : List Text :=
  (Text.splitOn '/' t).filter fun name => !name.isEmpty

/-- The path that a text writes. -/
def ofText (t : Text) : Path :=
  ⟨leadingSlashes t, (names t).filter (· != ['.'])⟩

/-- The path that a text writes, with every single dot kept and one added after a slash at the end:
both say that what comes before is a directory.  The empty text writes none. -/
def literal? (t : Text) : Option Path :=
  if t.isEmpty then
    none
  else
    some ⟨leadingSlashes t, names t ++ (if t.getLast? = some '/' then [['.']] else [])⟩

/-- The text of a path, which is a dot when it has no part. -/
def text (path : Path) : Text :=
  match path.slashes, path.parts with
  | 0, [] => ['.']
  | slashes, parts => List.replicate slashes '/' ++ Text.join ['/'] parts

/-- A name without its extension, which starts at the last dot, unless that dot is the first or the
last character of the name. -/
def stem (name : Text) : Text :=
  let extension := (name.reverse.takeWhile (· != '.')).length
  let dot := name.length - extension - 1
  if 0 < extension && 0 < dot then name.take dot else name

/-- Puts an extension in place of the last part's own, if there is a part. -/
def withExtension? (extension : Text) (path : Path) : Option Path :=
  path.parts.getLast?.map fun name =>
    { path with parts := path.parts.dropLast ++ [stem name ++ extension] }

example : (ofText "./a//b/../c/".toList).text = "a/b/../c".toList := by decide

example : ["game.asm", ".asm", "game.", "a.b.c"].map (fun t => String.ofList (stem t.toList)) =
    ["game", ".asm", "game.", "a.b"] := by decide

end Path

end Chip8
