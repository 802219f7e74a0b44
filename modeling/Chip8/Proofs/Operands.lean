import Chip8.Proofs.InstructionTable
import Chip8.Proofs.Letters
import Chip8.Proofs.Names
import Chip8.Proofs.Numerals
import Mathlib.Data.Nat.Digits.Defs

/-!
# Numbers and names as operands

A token without a line feed is a number, a name or neither, by the grammar below: at most one of
these, although every numeral is made of word characters.  The reader decides the grammar and reads
numbers as they are written.  An instruction that takes a number puts its remainder into the field
that the number is for.
-/

namespace Chip8

/-! ### The grammar -/

/-- The number that digits write, the most significant first: a sum of powers of the base. -/
def Text.written (base : Nat) (digits : Text) : Nat :=
  Nat.ofDigits base (digits.reverse.map Text.digitValue)

namespace Operand

/-- `Numeral token value` holds when the token is a number sign and one or more digits of base
sixteen, or not too many digits of base ten, that write the value. -/
inductive Numeral : Token → Nat → Prop
  | hexadecimal {digits : Text} (hne : digits ≠ []) (h : ∀ c ∈ digits, Text.isHexDigit c = true) :
      Numeral ('#' :: digits) (Text.written 16 digits)
  | decimal {digits : Text} (hne : digits ≠ []) (h : ∀ c ∈ digits, c.isDigit = true)
      (hlength : digits.length ≤ 4300) :
      Numeral digits (Text.written 10 digits)

/-- Holds of the tokens that are made of the letters and numerals of any script and of underscores,
but not of the ten digits alone. -/
structure Name (token : Token) : Prop where
  nonempty : token ≠ []
  word : ∀ c ∈ token, Text.isAlphanumeric c = true ∨ c = '_'
  notDigits : ∃ c ∈ token, c.isDigit = false

/-- Holds when a token is read as the grammar says. -/
structure Decides (token : Token) : Prop where
  number : ∀ value, ofToken token = .number value ↔ Numeral token value
  label : ofToken token = .label ↔ Name token
  malformed : ofToken token = .malformed ↔ (∀ value, ¬ Numeral token value) ∧ ¬ Name token
  tooLong : (∀ c ∈ token, c.isDigit = true) → 4300 < token.length → ofToken token = .malformed

end Operand

/-! ### Digits -/

namespace Text

theorem valueIn_eq_written (base : Nat) (digits : Text) :
    valueIn base digits = written base digits := by
  unfold valueIn written
  rw [Nat.ofDigits_eq_foldr, List.foldr_map, List.foldr_reverse]
  simp only [Nat.cast_id, Nat.add_comm]

theorem isWordText_of_digits {digits : Text} (hne : digits ≠ [])
    (h : ∀ c ∈ digits, c.isDigit = true) : isWordText digits = true := by
  rw [isWordText, Bool.and_eq_true, List.all_eq_true]
  refine ⟨by simpa using hne, fun c hc => ?_⟩
  have halphanum : c.isAlphanum = true := by
    rw [Char.isAlphanum, h c hc, Bool.or_true]
  exact isWord_of_isAlphanum halphanum (Operand.isAscii_of_number (.inr (h c hc))).1

/-- A number is read from its digits whatever zeros stand before them. -/
theorem valueIn_zeros {base : Nat} (hbase : 1 < base)
    (hdigits : ∀ d < base, digitValue (Nat.digitChar d) = d) (zeros value : Nat) :
    valueIn base (List.replicate zeros '0' ++ Nat.toDigits base value) = value := by
  have hread : ∀ d < base, digitValue (id (Nat.digitChar d)) = d := hdigits
  have hvalue := valueIn_map_toDigits hbase hread value
  rw [List.map_id] at hvalue
  rw [valueIn_append, valueIn_replicate_zero]
  exact hvalue

theorem isDigit_of_mem_zeros {base zeros value : Nat} {c : Char} {p : Char → Bool}
    (hbase : 1 < base) (hzero : p '0' = true) (hdigits : ∀ d < base, p (Nat.digitChar d) = true)
    (h : c ∈ List.replicate zeros '0' ++ Nat.toDigits base value) : p c = true := by
  rcases List.mem_append.mp h with hfront | hdigit
  · rw [List.eq_of_mem_replicate hfront]
    exact hzero
  · obtain ⟨d, hd, rfl⟩ := exists_of_mem_toDigits hbase hdigit
    exact hdigits d hd

end Text

/-! ### Reading -/

namespace Operand

variable {token : Token} {value : Nat}

theorem hexadecimal?_eq_some_iff :
    hexadecimal? token = some value ↔
      ∃ digits, token = '#' :: digits ∧ digits ≠ [] ∧
        (∀ c ∈ digits, Text.isHexDigit c = true) ∧ Text.valueIn 16 digits = value := by
  unfold hexadecimal?
  split
  · rename_i digits
    simp [and_assoc]
  · rename_i hsharp
    simp only [reduceCtorEq, false_iff, not_exists, not_and]
    intro digits heq
    exact absurd heq (hsharp digits)

theorem ofToken_of_hexadecimal? (h : hexadecimal? token = some value) :
    ofToken token = .number value := by
  have hnewline : '\n' ∉ token := by
    obtain ⟨digits, rfl, -, hdigits, -⟩ := hexadecimal?_eq_some_iff.mp h
    intro hmem
    rcases List.mem_cons.mp hmem with hsharp | hdigit
    · exact absurd hsharp (by decide)
    · exact absurd (hdigits _ hdigit) (by decide)
  unfold ofToken
  rw [Text.dropFinalNewline_of_not_mem hnewline]
  simp only [h]

theorem ofToken_of_numeral (h : Numeral token value) : ofToken token = .number value := by
  cases h with
  | @hexadecimal digits hne h =>
      rw [← Text.valueIn_eq_written]
      exact ofToken_of_hexadecimal? (hexadecimal?_eq_some_iff.mpr ⟨digits, rfl, hne, h, rfl⟩)
  | decimal hne h hlength =>
      have hnumeral : token.isNumeral = true := List.all_eq_true.mpr h
      have hlimit : token.length ≤ decimalLimit := hlength
      rw [ofToken_of_isWordText (Text.isWordText_of_digits hne h), if_pos hnumeral, if_pos hlimit,
        Text.valueIn_eq_written]

theorem isWordText_of_name (h : Name token) : Text.isWordText token = true := by
  rw [Text.isWordText, Bool.and_eq_true, List.all_eq_true]
  refine ⟨by simpa using h.nonempty, fun c hc => ?_⟩
  rcases h.word c hc with halphanumeric | rfl
  · rw [Text.isWord, halphanumeric, Bool.or_true]
  · rfl

theorem ofToken_of_name (h : Name token) : ofToken token = .label := by
  rw [ofToken_eq_label_iff (isWordText_of_name h), Text.isNumeral, List.all_eq_false]
  simpa using h.notDigits

/-- A word is a name unless it is made of digits alone. -/
theorem name_of_isWordText (h : Text.isWordText token = true) (hnumeral : token.isNumeral = false) :
    Name token := by
  rw [Text.isWordText, Bool.and_eq_true, List.all_eq_true] at h
  refine ⟨by simpa using h.1, fun c hc => ?_, by simpa [Text.isNumeral] using hnumeral⟩
  have hword := h.2 c hc
  rw [Text.isWord, Bool.or_eq_true, beq_iff_eq] at hword
  exact hword.symm

/-- What is not refused is in the grammar. -/
theorem numeral_or_name (hnewline : '\n' ∉ token) (h : ofToken token ≠ .malformed) :
    (∃ value, Numeral token value) ∨ Name token := by
  cases hsharp : hexadecimal? token with
  | some value =>
      obtain ⟨digits, rfl, hne, hdigits, -⟩ := hexadecimal?_eq_some_iff.mp hsharp
      exact .inl ⟨_, .hexadecimal hne hdigits⟩
  | none =>
      by_cases hword : Text.isWordText token = true
      · cases hnumeral : token.isNumeral with
        | false => exact .inr (name_of_isWordText hword hnumeral)
        | true =>
            have hdigits : ∀ c ∈ token, c.isDigit = true := List.all_eq_true.mp hnumeral
            have hne : token ≠ [] := by
              rintro rfl
              contradiction
            rw [ofToken_of_isWordText hword, if_pos hnumeral] at h
            by_cases hlength : token.length ≤ decimalLimit
            · exact .inl ⟨_, .decimal hne hdigits hlength⟩
            · rw [if_neg hlength] at h
              contradiction
      · -- digits alone would have been a word
        have hdigits : (!token.isEmpty && token.all Char.isDigit) = false := by
          rw [Bool.eq_false_iff]
          intro hall
          rw [Bool.and_eq_true, List.all_eq_true] at hall
          exact hword (Text.isWordText_of_digits (by simpa using hall.1) hall.2)
        unfold ofToken at h
        rw [Text.dropFinalNewline_of_not_mem hnewline] at h
        simp [hsharp, hdigits, hword] at h

theorem decides (hnewline : '\n' ∉ token) : Decides token := by
  refine ⟨fun value => ⟨?number, ofToken_of_numeral⟩, ⟨?label, ofToken_of_name⟩,
    ⟨?refused, ?neither⟩, ?tooLong⟩
  case number =>
    intro hread
    rcases numeral_or_name hnewline (by simp [hread]) with ⟨written, hnumeral⟩ | hname
    · rw [ofToken_of_numeral hnumeral] at hread
      exact Operand.number.inj hread ▸ hnumeral
    · rw [ofToken_of_name hname] at hread
      contradiction
  case label =>
    intro hread
    rcases numeral_or_name hnewline (by simp [hread]) with ⟨written, hnumeral⟩ | hname
    · rw [ofToken_of_numeral hnumeral] at hread
      contradiction
    · exact hname
  case refused =>
    intro hread
    constructor
    · intro value hnumeral
      rw [ofToken_of_numeral hnumeral] at hread
      contradiction
    · intro hname
      rw [ofToken_of_name hname] at hread
      contradiction
  case neither =>
    intro hneither
    by_contra hread
    rcases numeral_or_name hnewline hread with ⟨written, hnumeral⟩ | hname
    · exact hneither.1 written hnumeral
    · exact hneither.2 hname
  case tooLong =>
    intro hdigits hlength
    have hne : token ≠ [] := List.ne_nil_of_length_pos (Nat.zero_lt_of_lt hlength)
    have hnumeral : token.isNumeral = true := List.all_eq_true.mpr hdigits
    have hlimit : ¬ token.length ≤ decimalLimit := Nat.not_le.mpr hlength
    rw [ofToken_of_isWordText (Text.isWordText_of_digits hne hdigits), if_pos hnumeral,
      if_neg hlimit]

end Operand

/-! ### Encoding -/

/-- `Takes operand tokens base modulus` holds when the tokens are an instruction that lacks nothing
but the number that `operand` stands for, of which the remainder by `modulus` is added to `base`. -/
inductive Takes (operand : Token) : List Token → Nat → Nat → Prop
  | reference {tokens : List Token} {base modulus : Nat}
      (h : Reference operand tokens base modulus) : Takes operand tokens base modulus
  | byte {token r : Token} {mnemonic : Mnemonic} {opcode : Opcode} {x : Register}
      (h : Mnemonic.ofToken? token = some mnemonic)
      (hform : (mnemonic, opcode) ∈ Form.registerByteForms) (hr : Register.ofToken? r = some x) :
      Takes operand [token, r, operand] (opcode.base + 0x100 * x) 0x100
  | nibble {token r s : Token} {x y : Register} (h : Mnemonic.ofToken? token = some .drw)
      (hr : Register.ofToken? r = some x) (hs : Register.ofToken? s = some y) :
      Takes operand [token, r, s, operand] (0xD000 + 0x100 * x + 0x10 * y) 0x10

namespace Instruction

variable {labels : LabelTable Int} {instruction made : Instruction} {operand : Token}
  {value base modulus : Nat}

theorem encode_of_form {token : Token} {operands : List Token} {mnemonic : Mnemonic}
    {operation : Operation} {number : Int} (htokens : instruction.tokens = token :: operands)
    (hmnemonic : Mnemonic.ofToken? token = some mnemonic)
    (hform : Form labels mnemonic operands operation)
    (hnumber : (operation.encoded : Int) = number) :
    ∃ made, instruction.encode labels = .ok made ∧ made.encoded = some number :=
  ⟨_, encode_eq_ok_iff.mpr ⟨token, operands, mnemonic, operation, htokens, hmnemonic, hform, rfl⟩,
    congrArg some hnumber⟩

/-- A number goes into the field that it is for, as the remainder that the field has place for. -/
theorem encode_of_takes (h : Takes operand instruction.tokens base modulus)
    (hvalue : Operand.ofToken operand = .number value) :
    ∃ made, instruction.encode labels = .ok made ∧
      made.encoded = some (base + (value : Int) % modulus) := by
  generalize htokens : instruction.tokens = tokens at h
  cases h with
  | reference h => exact encode_of_value (htokens ▸ h) (.number hvalue)
  | byte h hform hr =>
      exact encode_of_form htokens h (.registerByte hform hr hvalue)
        (Operation.encoded_registerByte_eq (Form.base_mod_of_mem (List.mem_append_right _ hform))
          _ _)
  | nibble h hr hs =>
      exact encode_of_form htokens h (.sprite hr hs hvalue) (Operation.encoded_sprite_eq _ _ _)

end Instruction

/-! ### No other places -/

theorem Register.ofToken?_of_number {token : Token} {value : Nat}
    (h : Operand.ofToken token = .number value) : Register.ofToken? token = none := by
  rw [Option.eq_none_iff_forall_ne_some]
  intro x hx
  have hstarts := starts_of_ofToken? hx
  rw [Operand.starts_of_number h] at hstarts
  contradiction

/-- The names of the special places start with a letter or a bracket, and no number does. -/
theorem Operand.upper_not_mem_of_number {token : Token} {value : Nat}
    (h : Operand.ofToken token = .number value) :
    Text.upper token ∉ ['I'] :: (Opcode.loadsTo ++ Opcode.loadsFrom).map Prod.fst := by
  obtain ⟨c, hhead, hc⟩ := head?_upper_of_number h
  intro hmem
  have hall : ∀ place ∈ ['I'] :: (Opcode.loadsTo ++ Opcode.loadsFrom).map Prod.fst,
      (place.head?.any fun c => c == '#' || c.isDigit) = false := by decide
  have hplace := hall _ hmem
  rw [hhead, Option.any_some, Bool.or_eq_false_iff, beq_eq_false_iff_ne] at hplace
  rcases hc with rfl | hc
  · exact hplace.1 rfl
  · rw [hc] at hplace
    exact absurd hplace.2 (by decide)

/-- Where an instruction of some form has a number, it takes the number there. -/
theorem Form.exists_takes {labels : LabelTable Int} {token operand : Token} {mnemonic : Mnemonic}
    {operands : List Token} {made : Operation} {value : Nat}
    (h : Form labels mnemonic operands made) (hmnemonic : Mnemonic.ofToken? token = some mnemonic)
    (hmem : operand ∈ operands) (hvalue : Operand.ofToken operand = .number value) :
    ∃ base modulus, Takes operand (token :: operands) base modulus := by
  have hregister {r : Token} {x : Register} (hr : Register.ofToken? r = some x) : operand ≠ r := by
    rintro rfl
    rw [Register.ofToken?_of_number hvalue] at hr
    contradiction
  have hplace {place : Token}
      (h : Text.upper place ∈ ['I'] :: (Opcode.loadsTo ++ Opcode.loadsFrom).map Prod.fst) :
      operand ≠ place := by
    rintro rfl
    exact Operand.upper_not_mem_of_number hvalue h
  have hsecond {a b : Token} (hne : operand ≠ a) (h : operand ∈ [a, b]) : operand = b :=
    List.mem_singleton.mp (List.mem_of_ne_of_mem hne h)
  cases h with
  | bare h => contradiction
  | address h ha =>
      obtain rfl := List.mem_singleton.mp hmem
      obtain ⟨base, modulus, hreference⟩ :=
        Reference.exists_of_mem_addressForms operand hmnemonic h
      exact ⟨base, modulus, .reference hreference⟩
  | jumpFromRegister hr ha =>
      obtain rfl := hsecond (hregister hr) hmem
      exact ⟨_, _, .reference (.jumpFromRegister hmnemonic hr)⟩
  | loadAddress hi ha =>
      obtain rfl := hsecond (hplace (List.mem_cons.mpr (.inl hi))) hmem
      exact ⟨_, _, .reference (.loadAddress hmnemonic hi)⟩
  | register h hr => exact absurd (List.mem_singleton.mp hmem) (hregister hr)
  | loadTo h hr =>
      have hne := hplace (List.mem_cons_of_mem _ (List.mem_map_of_mem (List.mem_append_left _ h)))
      exact absurd (hsecond hne hmem) (hregister hr)
  | loadFrom h hr =>
      have hne := hplace (List.mem_cons_of_mem _ (List.mem_map_of_mem (List.mem_append_right _ h)))
      exact absurd (hsecond (hregister hr) hmem) hne
  | addToAddress hi hr =>
      exact absurd (hsecond (hplace (List.mem_cons.mpr (.inl hi))) hmem) (hregister hr)
  | registerByte h hr hv =>
      obtain rfl := hsecond (hregister hr) hmem
      exact ⟨_, _, .byte hmnemonic h hr⟩
  | registers h hr hs => exact absurd (hsecond (hregister hr) hmem) (hregister hs)
  | shift h hr => exact absurd (List.mem_singleton.mp hmem) (hregister hr)
  | sprite hr hs hv =>
      obtain rfl := hsecond (hregister hs) (List.mem_of_ne_of_mem (hregister hr) hmem)
      exact ⟨_, _, .nibble hmnemonic hr hs⟩
  | word ha =>
      obtain rfl := List.mem_singleton.mp hmem
      exact ⟨_, _, .reference (.word hmnemonic)⟩
  | byte ha =>
      obtain rfl := List.mem_singleton.mp hmem
      exact ⟨_, _, .reference (.byte hmnemonic)⟩

/-- The reader of operands decides the grammar of numbers and names with the right value, whatever
the length of the token and whatever zeros a number starts with.  A number goes into the field that
it is for as the remainder that the field has place for, and an instruction that is encoded has
numbers in such places only. -/
theorem Operand.ofToken_decides :
    (∀ token, '\n' ∉ token → Decides token) ∧
      (∀ value zeros digits,
        Text.small digits = List.replicate zeros '0' ++ Nat.toDigits 16 value →
        ofToken ('#' :: digits) = .number value) ∧
      (∀ value zeros, zeros + (Nat.toDigits 10 value).length ≤ 4300 →
        ofToken (List.replicate zeros '0' ++ Nat.toDigits 10 value) = .number value) ∧
      (∀ (labels : LabelTable Int) (instruction : Instruction) operand value base modulus,
        Takes operand instruction.tokens base modulus → ofToken operand = .number value →
        ∃ made, instruction.encode labels = .ok made ∧
          made.encoded = some (base + (value : Int) % modulus)) ∧
      ∀ (labels : LabelTable Int) (instruction made : Instruction) operand value,
        instruction.encode labels = .ok made → operand ∈ instruction.operands →
        ofToken operand = .number value →
        ∃ base modulus, Takes operand instruction.tokens base modulus := by
  refine ⟨fun _ => decides, ?hexadecimal, ?decimal, ?taken, ?places⟩
  case hexadecimal =>
    intro value zeros digits hdigits
    have hsmall : ofToken ('#' :: Text.small digits) = ofToken ('#' :: digits) :=
      ofToken_small ('#' :: digits)
    rw [← hsmall, hdigits]
    refine ofToken_of_hexadecimal? (hexadecimal?_eq_some_iff.mpr ⟨_, rfl, ?_, ?_, ?_⟩)
    · simp [Nat.toDigits_ne_nil]
    · exact fun c => Text.isDigit_of_mem_zeros (by decide) (by decide) (by decide)
    · exact Text.valueIn_zeros (by decide) (by decide) zeros value
  case decimal =>
    intro value zeros hlength
    have hread := @Text.valueIn_zeros 10 (by decide) (by decide) zeros value
    have hne : List.replicate zeros '0' ++ Nat.toDigits 10 value ≠ [] := by
      simp [Nat.toDigits_ne_nil]
    have hdigits : ∀ c ∈ List.replicate zeros '0' ++ Nat.toDigits 10 value, c.isDigit = true :=
      fun c => Text.isDigit_of_mem_zeros (by decide) (by decide) (by decide)
    have hlimit : (List.replicate zeros '0' ++ Nat.toDigits 10 value).length ≤ 4300 := by
      simpa using hlength
    rw [ofToken_of_numeral (.decimal hne hdigits hlimit), ← Text.valueIn_eq_written, hread]
  case taken =>
    intro labels instruction operand value base modulus htakes hvalue
    exact Instruction.encode_of_takes htakes hvalue
  case places =>
    intro labels instruction made operand value hencode hmem hvalue
    obtain ⟨token, operands, mnemonic, operation, htokens, hmnemonic, hform, -⟩ :=
      Instruction.encode_eq_ok_iff.mp hencode
    rw [Instruction.operands_eq htokens] at hmem
    rw [htokens]
    exact hform.exists_takes hmnemonic hmem hvalue

/-- A number that does not fit loses its high digits, and zeros in front of it do not count. -/
theorem Operand.ofToken_decides_oversized :
    let operand := "#00aBcF".toList
    let instruction : Instruction :=
      { written := [], tokens := ["ld".toList, "v1".toList, operand] }
    ofToken operand = .number 0xABCF ∧ ofToken "0042".toList = .number 42 ∧
      ofToken (List.replicate 4301 '0') = .malformed ∧
      (∃ made, instruction.encode ⟨false, []⟩ = .ok made ∧ made.encoded = some 0x61CF) ∧
      ∃ base modulus, Takes operand instruction.tokens base modulus := by
  intro operand instruction
  obtain ⟨hdecides, hhexadecimal, hdecimal, htaken, hplaces⟩ := ofToken_decides
  have hvalue : ofToken operand = .number 0xABCF :=
    hhexadecimal 0xABCF 2 "00aBcF".toList (by decide +kernel)
  have hzeros : ∀ c ∈ List.replicate 4301 '0', c = '0' := fun _ => List.eq_of_mem_replicate
  have hnewline : '\n' ∉ List.replicate 4301 '0' := by
    intro hmem
    exact absurd (hzeros _ hmem) (by decide)
  have hlong : 4300 < (List.replicate 4301 '0').length := by
    rw [List.length_replicate]
    decide
  have hdigits : ∀ c ∈ List.replicate 4301 '0', c.isDigit = true := by
    intro c hc
    rw [hzeros c hc]
    rfl
  refine ⟨hvalue, hdecimal 42 2 (by decide), (hdecides _ hnewline).tooLong hdigits hlong, ?_⟩
  have hmnemonic : Mnemonic.ofToken? "ld".toList = some .ld := by decide
  have hregister : Register.ofToken? "v1".toList = some 1 := by decide
  have hform : (Mnemonic.ld, Opcode.ldByte) ∈ Form.registerByteForms := by decide
  have htakes : Takes operand instruction.tokens 0x6100 0x100 := .byte hmnemonic hform hregister
  obtain ⟨made, hmade, hnumber⟩ := htaken ⟨false, []⟩ instruction operand 0xABCF _ _ htakes hvalue
  have hmem : operand ∈ instruction.operands := by simp [instruction, Instruction.operands]
  exact ⟨⟨made, hmade, hnumber⟩, hplaces _ instruction made operand 0xABCF hmade hmem hvalue⟩

end Chip8
