import Chip8.Instruction

/-!
# How tokens are spelled

Every token of a source is a solid run of characters: it is not empty and holds no blank.  The
readers of registers, values and label definitions let one line feed stand at the end of a token.
A solid token has none there, so that each reader accepts exactly the spellings given below.
-/

namespace Chip8

namespace Text

theorem dropFinalNewline_of_not_mem {t : Text} (h : '\n' ∉ t) : dropFinalNewline t = t := by
  induction t with
  | nil => rfl
  | cons c rest ih =>
      simp only [List.mem_cons, not_or] at h
      have hrest := ih h.2
      cases rest with
      | nil => simp [dropFinalNewline, Ne.symm h.1]
      | cons d others => simpa [dropFinalNewline] using hrest

theorem head?_of_dropFinalNewline {t rest : Text} {c : Char}
    (h : dropFinalNewline t = c :: rest) : t.head? = some c := by
  unfold dropFinalNewline at h
  split at h
  · contradiction
  · contradiction
  · simpa using (List.cons.inj h).1

/-- A word holds word characters only. -/
theorem not_mem_of_isWordText {t : Text} {c : Char} (h : isWordText t = true)
    (hc : isWord c = false) : c ∉ t := by
  intro hmem
  rw [isWordText, Bool.and_eq_true, List.all_eq_true] at h
  rw [h.2 c hmem] at hc
  contradiction

/-- A text that starts with an ASCII character starts with its capital in upper case. -/
theorem head?_upper {t : Text} {c : Char} (h : t.head? = some c) (hc : c.toNat < 128) :
    (upper t).head? = some c.toUpper := by
  obtain ⟨rest, rfl⟩ := List.head?_eq_some_iff.mp h
  simp [upper, upperChar, hc]

end Text

namespace Token

/-- Holds of the texts without a blank. -/
def Unbroken (token : Token) : Prop :=
  ∀ c ∈ token, Text.isBlank c = false

/-- Holds of the texts that can be tokens of a source: there is a character, and no blank. -/
def Solid (token : Token) : Prop :=
  token ≠ [] ∧ Unbroken token

instance (token : Token) : Decidable (Unbroken token) :=
  List.decidableBAll (fun c => Text.isBlank c = false) token

instance (token : Token) : Decidable (Solid token) :=
  inferInstanceAs (Decidable (token ≠ [] ∧ Unbroken token))

theorem Unbroken.newline_not_mem {token : Token} (h : Unbroken token) : '\n' ∉ token := by
  intro hmem
  have hblank := h '\n' hmem
  have hnewline : Text.isBlank '\n' = true := by decide
  rw [hnewline] at hblank
  contradiction

theorem Unbroken.dropFinalNewline {token : Token} (h : Unbroken token) :
    Text.dropFinalNewline token = token :=
  Text.dropFinalNewline_of_not_mem h.newline_not_mem

end Token

namespace Word

/-- The words of a text are solid. -/
theorem scan_solid (t : Text) (column : Nat) :
    ∀ word ∈ scan column t, Token.Solid word.text := by
  induction t generalizing column with
  | nil => simp [scan]
  | cons c rest ih =>
      have hrest := ih (column + 1)
      by_cases hc : Text.isBlank c = true
      · simpa [scan, hc] using hrest
      · have hone : Token.Solid [c] := ⟨by simp, by simpa [Token.Unbroken] using hc⟩
        cases hwords : scan (column + 1) rest with
        | nil => simpa [scan, hc, hwords] using hone
        | cons word others =>
            rw [hwords, List.forall_mem_cons] at hrest
            by_cases hcolumn : word.column = column + 1
            · -- the character joins the first of the words that follow it
              have hjoined : Token.Solid (c :: word.text) := by
                refine ⟨by simp, ?_⟩
                intro d hd
                rcases List.mem_cons.mp hd with rfl | hd
                · simpa using hc
                · exact hrest.1.2 d hd
              simpa [scan, hc, hwords, hcolumn] using ⟨hjoined, hrest.2⟩
            · simpa [scan, hc, hwords, hcolumn] using ⟨hone, hrest.1, hrest.2⟩

end Word

namespace Line

/-- Holds when the first word of a line is a name with a colon after it. -/
def Defines (line : Line) (name : Text) : Prop :=
  Text.isWordText name = true ∧ line.tokens.head? = some (name ++ [':'])

theorem read_solid (file : Text) (number : Nat) (raw : Text) :
    ∀ token ∈ (read file number raw).tokens, Token.Solid token := by
  intro token htoken
  obtain ⟨word, hword, rfl⟩ := List.mem_map.mp htoken
  exact Word.scan_solid _ _ word hword

end Line

namespace Source

theorem tokens_ne_nil {file source : Text} {line : Line} (h : line ∈ lines file source) :
    line.tokens ≠ [] := by
  have hkept := (List.mem_filter.mp h).2
  simpa using hkept

theorem tokens_solid {file source : Text} {line : Line} (h : line ∈ lines file source) :
    ∀ token ∈ line.tokens, Token.Solid token := by
  obtain ⟨⟨raw, number⟩, _, rfl⟩ := List.mem_map.mp (List.mem_filter.mp h).1
  exact Line.read_solid file number raw

end Source

namespace Instruction

theorem definedLabel?_eq_some_iff {token : Token} (h : Token.Unbroken token) {name : Text} :
    definedLabel? token = some name ↔ Text.isWordText name = true ∧ token = name ++ [':'] := by
  unfold definedLabel?
  rw [h.dropFinalNewline]
  rcases List.eq_nil_or_concat token with rfl | ⟨front, last, rfl⟩
  · simp
  · simp only [List.concat_eq_append, List.getLast?_append, List.getLast?_singleton,
      List.dropLast_concat, Option.some_or]
    by_cases hlast : last = ':'
    · subst hlast
      by_cases hfront : Text.isWordText front = true
      · constructor
        · intro hname
          simp only [hfront, if_true, Option.some.injEq] at hname
          subst hname
          exact ⟨hfront, rfl⟩
        · rintro ⟨hword, heq⟩
          rw [List.append_cancel_right heq]
          simp [hword]
      · constructor
        · simp [hfront]
        · rintro ⟨hname, heq⟩
          rw [List.append_cancel_right heq] at hfront
          exact absurd hname hfront
    · constructor
      · intro hname
        split at hname
        · simp_all
        · contradiction
      · rintro ⟨_, heq⟩
        have := congrArg List.getLast? heq
        simp [hlast] at this

/-- The label of a line's instruction is the name that the line defines. -/
theorem ofLine_label_eq_some_iff {line : Line} (h : ∀ token ∈ line.tokens, Token.Unbroken token)
    (step : AddressStep) (address : Int) (index : Nat) {name : Text} :
    (ofLine step address index line).label = some name ↔ line.Defines name := by
  show line.tokens.head?.bind definedLabel? = some name ↔ _
  unfold Line.Defines
  cases htokens : line.tokens with
  | nil => simp
  | cons token rest =>
      have hfirst : Token.Unbroken token := h token (by simp [htokens])
      simpa using definedLabel?_eq_some_iff hfirst

end Instruction

namespace Register

/-- The digits of base sixteen in order, in upper case and in lower case. -/
def digitRows : List Text :=
  ["0123456789ABCDEF".toList, "0123456789abcdef".toList]

/-- Holds when a token is the letter `V` and the digit of base sixteen of a register's index. -/
def Spelled (token : Token) (x : Register) : Prop :=
  ∃ v digit, token = [v, digit] ∧ (v = 'V' ∨ v = 'v') ∧
    ∃ row ∈ digitRows, row[x.val]? = some digit

/-- A digit stands in one of the rows, at the place that its value gives. -/
theorem isHexDigit_iff {digit : Char} {x : Register} :
    (Text.isHexDigit digit = true ∧ Text.digitValue digit = x) ↔
      ∃ row ∈ digitRows, row[x.val]? = some digit := by
  constructor
  · rintro ⟨hdigit, hvalue⟩
    have hascii : digit.toNat < 128 := by
      simp only [Text.isHexDigit, Char.isDigit, Bool.or_eq_true, Bool.and_eq_true,
        decide_eq_true_eq, Char.le_def, UInt32.le_iff_toNat_le] at hdigit
      rcases hdigit with (⟨-, hhigh⟩ | ⟨-, hhigh⟩) | ⟨-, hhigh⟩
      · exact Nat.lt_of_le_of_lt hhigh (by decide)
      · exact Nat.lt_of_le_of_lt hhigh (by decide)
      · exact Nat.lt_of_le_of_lt hhigh (by decide)
    have hrows : ∀ code < 128, Text.isHexDigit (Char.ofNat code) = true →
        ∃ row ∈ digitRows, row[Text.digitValue (Char.ofNat code)]? = some (Char.ofNat code) := by
      decide
    have hrow := hrows digit.toNat hascii
    rw [Char.ofNat_toNat, hvalue] at hrow
    exact hrow hdigit
  · rintro ⟨row, hrow, hget⟩
    have hrows : ∀ row ∈ digitRows, ∀ n < 16,
        (row[n]?.all fun d => Text.isHexDigit d && Text.digitValue d == n) = true := by
      decide
    have hall := hrows row hrow x x.isLt
    rw [hget, Option.all_some, Bool.and_eq_true, beq_iff_eq] at hall
    exact hall

theorem ofToken?_eq_some_iff {token : Token} (h : Token.Unbroken token) {x : Register} :
    ofToken? token = some x ↔ Spelled token x := by
  unfold ofToken?
  rw [h.dropFinalNewline]
  constructor
  · intro hx
    split at hx
    · rename_i v digit
      split at hx
      · rename_i hspelled
        simp only [Bool.and_eq_true, Bool.or_eq_true, decide_eq_true_eq] at hspelled
        simp only [Option.some.injEq] at hx
        subst hx
        exact ⟨v, digit, rfl, hspelled.1, isHexDigit_iff.mp ⟨hspelled.2, rfl⟩⟩
      · contradiction
    · contradiction
  · rintro ⟨v, digit, rfl, hv, hrow⟩
    obtain ⟨hdigit, hx⟩ := isHexDigit_iff.mpr hrow
    have hspelled : ((v = 'V' || v = 'v') && Text.isHexDigit digit) = true := by
      simpa [hdigit] using hv
    simp only [hspelled, if_true, Option.some.injEq]
    exact Fin.ext hx

theorem head?_of_ofToken? {token : Token} {x : Register} (h : ofToken? token = some x) :
    token.head? = some 'V' ∨ token.head? = some 'v' := by
  unfold ofToken? at h
  split at h
  · rename_i v digit hbody
    rw [Text.head?_of_dropFinalNewline hbody]
    split at h
    · rename_i hspelled
      simp only [Bool.and_eq_true, Bool.or_eq_true, decide_eq_true_eq] at hspelled
      simpa using hspelled.1
    · contradiction
  · contradiction

/-- Every register looks like one. -/
theorem starts_of_ofToken? {token : Token} {x : Register} (h : ofToken? token = some x) :
    starts token = true := by
  rcases head?_of_ofToken? h with hhead | hhead <;> simp [starts, hhead]

theorem head?_upper_of_ofToken? {token : Token} {x : Register} (h : ofToken? token = some x) :
    (Text.upper token).head? = some 'V' := by
  rcases head?_of_ofToken? h with hhead | hhead
  · exact Text.head?_upper hhead (by decide)
  · exact Text.head?_upper hhead (by decide)

end Register

namespace Operand

/-- A number starts with a number sign or a digit. -/
theorem head?_of_number {token : Token} {value : Nat} (h : ofToken token = .number value) :
    ∃ c, token.head? = some c ∧ (c = '#' ∨ c.isDigit = true) := by
  unfold ofToken at h
  cases hbody : Text.dropFinalNewline token with
  | nil => simp [hbody, hexadecimal?, Text.isWordText] at h
  | cons c rest =>
      refine ⟨c, Text.head?_of_dropFinalNewline hbody, ?_⟩
      by_cases hsharp : c = '#'
      · exact .inl hsharp
      by_cases hdigit : c.isDigit = true
      · exact .inr hdigit
      -- any other character makes the token a name or nothing
      have hhexadecimal : hexadecimal? (c :: rest) = none := by
        unfold hexadecimal?
        split
        · rename_i heq
          exact absurd (List.cons.inj heq).1 hsharp
        · rfl
      simp only [hbody, hhexadecimal, List.all_cons, hdigit, Bool.false_and, Bool.and_false,
        Bool.false_eq_true, if_false] at h
      split at h <;> contradiction

theorem isAscii_of_number {c : Char} (h : c = '#' ∨ c.isDigit = true) :
    c.toNat < 128 ∧ c.toUpper = c := by
  rcases h with rfl | hdigit
  · decide
  · simp only [Char.isDigit, Bool.and_eq_true, decide_eq_true_eq, ge_iff_le] at hdigit
    have hhigh : c.toNat ≤ 57 := UInt32.le_iff_toNat_le.mp hdigit.2
    refine ⟨by omega, ?_⟩
    unfold Char.toUpper
    rw [dif_neg]
    rintro ⟨hletter, -⟩
    have hletter : 97 ≤ c.toNat := UInt32.le_iff_toNat_le.mp hletter
    omega

theorem head?_upper_of_number {token : Token} {value : Nat} (h : ofToken token = .number value) :
    ∃ c, (Text.upper token).head? = some c ∧ (c = '#' ∨ c.isDigit = true) := by
  obtain ⟨c, hhead, hc⟩ := head?_of_number h
  obtain ⟨hascii, hupper⟩ := isAscii_of_number hc
  exact ⟨c, hupper ▸ Text.head?_upper hhead hascii, hc⟩

/-- No number looks like a register. -/
theorem starts_of_number {token : Token} {value : Nat} (h : ofToken token = .number value) :
    Register.starts token = false := by
  obtain ⟨c, hhead, hc⟩ := head?_of_number h
  have hne (v : Char) (hv : v.isDigit = false) (hv' : v ≠ '#') : c ≠ v := by
    rintro rfl
    simp_all
  simp [Register.starts, hhead, hne 'V' (by decide) (by decide), hne 'v' (by decide) (by decide)]

end Operand

end Chip8
