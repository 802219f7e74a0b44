/-!
# Text

Sources, tokens and messages are lists of characters, so that positions count characters and
every function on them is a recursion that proofs can follow.
-/

namespace Chip8

/-- A run of characters. -/
abbrev Text := List Char

namespace Text

/-- Drops the longest ending all of whose characters satisfy `p`. -/
def trimRight (p : Char → Bool) : Text → Text
  | [] => []
  | c :: rest =>
      match trimRight p rest with
      | [] => if p c then [] else [c]
      | kept => c :: kept

/-- Drops the longest beginning and the longest ending whose characters all satisfy `p`. -/
def trim (p : Char → Bool) (t : Text) : Text :=
  trimRight p (t.dropWhile p)

/-- Cuts a text at every `sep`.  There is always one more piece than there are separators. -/
def splitOn (sep : Char) : Text → List Text
  | [] => [[]]
  | c :: rest =>
      if c = sep then
        [] :: splitOn sep rest
      else
        match splitOn sep rest with
        | [] => [[c]]
        | piece :: pieces => (c :: piece) :: pieces

/-- Puts `sep` between neighbouring pieces. -/
def join (sep : Text) : List Text → Text
  | [] => []
  | [piece] => piece
  | piece :: pieces => piece ++ sep ++ join sep pieces

/-- Drops one line feed from the end, if there is one. -/
def dropFinalNewline : Text → Text
  | [] => []
  | ['\n'] => []
  | c :: rest => c :: dropFinalNewline rest

theorem splitOn_ne_nil (sep : Char) (t : Text) : splitOn sep t ≠ [] := by
  induction t with
  | nil => simp [splitOn]
  | cons c rest _ =>
      simp only [splitOn]
      split
      · simp
      · split <;> simp

theorem join_splitOn (sep : Char) (t : Text) : join [sep] (splitOn sep t) = t := by
  induction t with
  | nil => rfl
  | cons c rest ih =>
      cases h : splitOn sep rest with
      | nil => exact absurd h (splitOn_ne_nil sep rest)
      | cons piece pieces =>
          rw [h] at ih
          by_cases hc : c = sep
          · simp [splitOn, hc, h, join, ih]
          · cases pieces with
            | nil => simpa [splitOn, hc, h, join] using ih
            | cons next others => simpa [splitOn, hc, h, join] using ih

theorem dropFinalNewline_append_newline (t : Text) : dropFinalNewline (t ++ ['\n']) = t := by
  induction t with
  | nil => rfl
  | cons c rest ih =>
      cases rest with
      | nil => simp [dropFinalNewline]
      | cons d others => simpa [dropFinalNewline] using ih

end Text

end Chip8
