import Chip8.Text.Numeral

/-!
# Locations

A place in a source: the file's name, the line and the column.
-/

namespace Chip8

/-- A place in a source.  Lines and columns count from one; column zero means that only the line
is known. -/
structure Location where
  file : Text
  line : Int
  column : Int
  deriving DecidableEq, Repr

namespace Location

/-- The name of a source that is in no file. -/
def unnamed : Text := "<input>".toList

/-- File, line and column with colons between them. -/
def text (place : Location) : Text :=
  place.file ++ ':' :: Text.decimal place.line ++ ':' :: Text.decimal place.column

end Location

end Chip8
