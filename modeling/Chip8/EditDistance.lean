import Chip8.Text.Basic

/-!
# Edit distance

The least number of characters to insert, delete or replace that turns one text into another.  It
is found row by row: the row of a prefix `s` holds the distances from `s` to each prefix of the
other text, the empty one first.
-/

namespace Chip8.Text

/-- The cells of a row after its first.  `left` is the cell before them, `above` the row above from
that cell on, and `c` the character that the new row adds. -/
def editCells (c : Char) (left : Nat) : Text → List Nat → List Nat
  | d :: rest, diagonal :: up :: above =>
      let cell := if c = d then diagonal else 1 + min (min diagonal up) left
      cell :: editCells c cell rest (up :: above)
  | _, _ => []

/-- The row below `above` when the character `c` is added. -/
def editRow (t : Text) (above : List Nat) (c : Char) : List Nat :=
  let first := above.headD 0 + 1
  first :: editCells c first t above

/-- The last row: the distances from `s` to each prefix of `t`. -/
def editRows (s t : Text) : List Nat :=
  s.foldl (editRow t) (List.range (t.length + 1))

/-- The edit distance.  The rows run along the shorter text. -/
def editDistance (s t : Text) : Nat :=
  if s.length < t.length then (editRows t s).getLastD 0 else (editRows s t).getLastD 0

example : editDistance "kitten".toList "sitting".toList = 3 := by decide

end Chip8.Text
