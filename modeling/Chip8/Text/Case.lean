import Chip8.Text.CaseTable

/-!
# Upper and lower case

Upper case is found character by character.  Lower case has one rule that looks around: a capital
sigma that ends a word becomes `ς`, every other one `σ`.  Either way one character may become
several.
-/

namespace Chip8.Text

/-- Changes the case of a character beyond ASCII. -/
def recase (expansions : List (Nat × List Nat)) (runs : List CaseRun) (c : Char) : Text :=
  match expansions.lookup c.toNat with
  | some codes => codes.map Char.ofNat
  | none =>
      match runs.findSome? (·.image? c.toNat) with
      | some code => [Char.ofNat code]
      | none => [c]

/-- The upper-case form of one character. -/
def upperChar (c : Char) : Text :=
  if c.toNat < 128 then [c.toUpper] else recase upperExpansions upperRuns c

/-- The upper-case form of a text. -/
def upper (t : Text) : Text :=
  t.flatMap upperChar

/-- The lower-case form of one character that stands alone. -/
def lowerChar (c : Char) : Text :=
  if c.toNat < 128 then [c.toLower] else recase lowerExpansions lowerRuns c

/-- Holds of the letters that have case. -/
def isCased (c : Char) : Bool :=
  if c.toNat < 128 then c.isAlpha else inRanges casedRanges c

/-- Holds of the characters that do not end the word they stand in. -/
def isCaseIgnorable (c : Char) : Bool :=
  inRanges (if c.toNat < 128 then asciiCaseIgnorable else caseIgnorableRanges) c

/-- Holds when the next character that counts is a letter with case. -/
def startsCased : Text → Bool
  | [] => false
  | c :: rest => if isCaseIgnorable c then startsCased rest else isCased c

/-- Lower case after some text, of which `afterCased` says whether the last character that counts
is a letter with case. -/
def lowerAfter (afterCased : Bool) : Text → Text
  | [] => []
  | c :: rest =>
      let here :=
        if c = 'Σ' then [if afterCased && !startsCased rest then 'ς' else 'σ'] else lowerChar c
      here ++ lowerAfter (if isCaseIgnorable c then afterCased else isCased c) rest

/-- The lower-case form of a text. -/
def lower (t : Text) : Text :=
  lowerAfter false t

/-- The letters of a character whose folded form is ASCII; any other character stays as it is. -/
def foldChar (c : Char) : Text :=
  match c with
  | 'ſ' => ['s']
  | '\u212A' => ['k']
  | 'ß' | 'ẞ' => ['s', 's']
  | 'ﬀ' => ['f', 'f']
  | 'ﬁ' => ['f', 'i']
  | 'ﬂ' => ['f', 'l']
  | 'ﬃ' => ['f', 'f', 'i']
  | 'ﬄ' => ['f', 'f', 'l']
  | 'ﬅ' | 'ﬆ' => ['s', 't']
  | c => [c.toLower]

/-- Holds when a text is `name`, a text of lower-case ASCII letters, up to case.  Ligatures and
other variants of a letter count as the letters they stand for. -/
def matchesName (name t : Text) : Bool :=
  t.flatMap foldChar == name

theorem upper_append (s t : Text) : upper (s ++ t) = upper s ++ upper t := by
  simp [upper]

example : upper "Straße".toList = "STRASSE".toList := by decide +kernel

example : lower "ΟΔΟΣ Σ".toList = "οδος σ".toList := by decide +kernel

end Chip8.Text
