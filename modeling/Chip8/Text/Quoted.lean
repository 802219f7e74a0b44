import Chip8.Text.Numeral
import Chip8.Text.Printable

/-!
# Quoted text

A text is quoted so that it fits on one line and its end can be seen.  The quotation mark is an
apostrophe, or a double quote when the text holds an apostrophe and no double quote.
-/

namespace Chip8.Text

/-- The quotation mark that suits a text. -/
def quoteFor (t : Text) : Char :=
  if t.contains '\'' && !t.contains '"' then '"' else '\''

/-- The code point of a character in lower-case base sixteen, filled with zeros. -/
def codeDigits (width : Nat) (c : Char) : Text :=
  List.leftpad width '0' (Nat.toDigits 16 c.toNat)

/-- How a character is written between quotation marks. -/
def escape (quote c : Char) : Text :=
  if c = quote || c = '\\' then ['\\', c]
  else if c = '\t' then ['\\', 't']
  else if c = '\n' then ['\\', 'n']
  else if c = '\r' then ['\\', 'r']
  else if isPrintable c then [c]
  else if c.toNat < 0x100 then '\\' :: 'x' :: codeDigits 2 c
  else if c.toNat < 0x10000 then '\\' :: 'u' :: codeDigits 4 c
  else '\\' :: 'U' :: codeDigits 8 c

/-- A text between quotation marks. -/
def quoted (t : Text) : Text :=
  let quote := quoteFor t
  quote :: t.flatMap (escape quote) ++ [quote]

/-- Quoted texts between brackets. -/
def quotedList (ts : List Text) : Text :=
  '[' :: join ", ".toList (ts.map quoted) ++ [']']

example : quoted "it's".toList = "\"it's\"".toList := by decide

example : quoted ['a', '\\', '\n', '\x7f'] = "'a\\\\\\n\\x7f'".toList := by decide

end Chip8.Text
