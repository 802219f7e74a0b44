import Chip8.Source.Location
import Chip8.Text.Blank
import Chip8.Text.Quoted

/-!
# Source lines

A source is read line by line.  What follows the first semicolon of a line is a comment, the rest
is a row of tokens with blanks between them, and lines without a token are passed over.
-/

namespace Chip8

/-- A maximal run of characters that are not blank. -/
abbrev Token := Text

/-- A token and the column of its first character. -/
structure Word where
  column : Nat
  text : Token
  deriving DecidableEq, Repr

namespace Word

/-- The words of a text whose first character stands in the given column.  A character that is not
blank joins the word that starts in the next column, if there is one. -/
def scan (column : Nat) : Text → List Word
  | [] => []
  | c :: rest =>
      let words := scan (column + 1) rest
      if Text.isBlank c then
        words
      else
        match words with
        | [] => [⟨column, [c]⟩]
        | word :: others =>
            if word.column = column + 1 then
              ⟨column, c :: word.text⟩ :: others
            else
              ⟨column, [c]⟩ :: word :: others

end Word

/-- One line of a source: its tokens, the column of each, and where it comes from. -/
structure Line where
  tokens : List Token
  columns : List Int := []
  number : Int := 0
  text : Text := []
  file : Text := Location.unnamed
  deriving DecidableEq, Repr

namespace Line

/-- The part of a line before its comment. -/
def code (text : Text) : Text :=
  text.takeWhile (· != ';')

/-- Reads one line, of which the carriage returns at the end are no part. -/
def read (file : Text) (number : Nat) (raw : Text) : Line :=
  let text := Text.trimRight (· == '\r') raw
  let words := Word.scan 1 (code text)
  { tokens := words.map (·.text)
    columns := words.map fun word => word.column
    number := number
    text := text
    file := file }

/-- Where the first token stands. -/
def location (line : Line) : Location :=
  ⟨line.file, line.number, line.columns.headD 0⟩

/-- The number of the line and its tokens, for people to read. -/
def description (line : Line) : Text :=
  "TokenizedLine(".toList ++ Text.decimal line.number ++ ", ".toList
    ++ Text.quotedList line.tokens ++ ")".toList

end Line

namespace Source

/-- The lines of a source that hold a token. -/
def lines (file source : Text) : List Line :=
  (((Text.splitOn '\n' source).zipIdx 1).map fun (raw, number) => Line.read file number raw).filter
    fun line => !line.tokens.isEmpty

/-- The tokens of each line that holds one. -/
def tokens (source : Text) : List (List Token) :=
  (lines Location.unnamed source).map (·.tokens)

end Source

end Chip8
