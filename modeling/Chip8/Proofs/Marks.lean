import Chip8.Proofs.Failures
import Chip8.Proofs.Words

/-!
# Where reports point

A report names a file, a line and a column.  The instruction of a line keeps the columns of its
words, without that of a label, and its encoder asks for them by position.  The main result is that
the place which a report gives is always the place of the word that it is about, in the text of the
line that it shows.
-/

namespace Chip8

/-! ### What a report is about -/

/-- `cause.Quotes token` holds when the cause is about a token and gives it as it is. -/
inductive Cause.Quotes (token : Token) : Cause → Prop
  | unknownMnemonic : Quotes token (.unknownMnemonic token)
  | undefinedLabel (similar : List Text) : Quotes token (.undefinedLabel token similar)
  | malformedOperand {fault : OperandFault} (expectation : Text)
      (h : fault.description = expectation ++ ", got ".toList ++ token.inApostrophes) :
      Quotes token (.malformedOperand fault)

/-- `token.WrittenAs word` holds when a word of a line writes a token: the word is the token with one
comma after it, or it is the token and does not end in a comma. -/
def Token.WrittenAs (token word : Token) : Prop :=
  word = token ++ [','] ∨ word = token ∧ word.getLast? ≠ some ','

/-- Instructions keep the token that a word writes. -/
theorem Instruction.dropComma_writtenAs (word : Token) :
    Token.WrittenAs (dropComma word) word := by
  unfold dropComma
  split
  · rename_i hcomma
    obtain ⟨front, rfl⟩ := List.getLast?_eq_some_iff.mp hcomma
    exact .inl (by rw [List.dropLast_concat])
  · rename_i hcomma
    exact .inr ⟨rfl, hcomma⟩

/-- `cause.Concerns words word` holds when the cause is about one of the words of a line: a label
that is defined again, a token that it quotes, a label without an instruction, the first operand
too many, or the last word of a line with too few operands. -/
inductive Cause.Concerns (words : List Token) (word : Token) : Cause → Prop
  | duplicateLabel {name : Text} (first : Option Location) (hfirst : words.head? = some word)
      (h : word = name ++ [':']) : Concerns words word (.duplicateLabel name first)
  | quoted {token : Token} {cause : Cause} (hword : Token.WrittenAs token word)
      (h : cause.Quotes token) : Concerns words word cause
  | missing {name : Text} (hname : Text.isWordText name = true) (h : word = name ++ [':'])
      (hwords : words = [word]) : Concerns words word (.unknownMnemonic [])
  | surplus {labels operands : List Token} {first token : Token} {mnemonic : Mnemonic}
      (hwords : words = labels ++ first :: operands)
      (hlabels : labels = [] ∨ ∃ name, Text.isWordText name = true ∧ labels = [name ++ [':']])
      (htoken : Token.WrittenAs token first) (hmnemonic : Mnemonic.ofToken? token = some mnemonic)
      (h : operands[mnemonic.operandCount.most]? = some word) :
      Concerns words word (.malformedOperand (.wrongCount mnemonic operands.length))
  | tooFew {labels operands : List Token} {first token : Token} {mnemonic : Mnemonic}
      (hwords : words = labels ++ first :: operands)
      (hlabels : labels = [] ∨ ∃ name, Text.isWordText name = true ∧ labels = [name ++ [':']])
      (htoken : Token.WrittenAs token first) (hmnemonic : Mnemonic.ofToken? token = some mnemonic)
      (hcount : operands.length < mnemonic.operandCount.least)
      (h : words.getLast? = some word) :
      Concerns words word (.malformedOperand (.wrongCount mnemonic operands.length))

/-- Holds when whatever report `x` fails with satisfies `marks`. -/
def Blames {α : Type} (marks : Diagnostic → Prop) (x : Except Failure α) : Prop :=
  ∀ diagnostic, x = .error (.reported diagnostic) → marks diagnostic

namespace Blames

variable {α β : Type} {marks : Diagnostic → Prop} {x : Except Failure α}

theorem ok (a : α) : Blames marks (.ok a : Except Failure α) := by
  intro diagnostic h
  contradiction

theorem reported {diagnostic : Diagnostic} (h : marks diagnostic) :
    Blames marks (.error (.reported diagnostic) : Except Failure α) := by
  intro other hother
  cases hother
  exact h

theorem outOfRange : Blames marks (.error .outOfRange : Except Failure α) := by
  intro diagnostic h
  cases h

theorem bind {f : α → Except Failure β} (hx : Blames marks x)
    (hf : ∀ a, x = .ok a → Blames marks (f a)) : Blames marks (x >>= f) := by
  cases x with
  | ok a => exact hf a rfl
  | error failure =>
      intro diagnostic h
      obtain rfl : failure = .reported diagnostic := Except.error.inj h
      exact hx diagnostic rfl

theorem map {f : α → β} (hx : Blames marks x) : Blames marks (f <$> x) := by
  cases x with
  | ok a => exact ok (f a)
  | error failure =>
      intro diagnostic h
      obtain rfl : failure = .reported diagnostic := Except.error.inj h
      exact hx diagnostic rfl

theorem mono {others : Diagnostic → Prop} (hx : Blames marks x)
    (h : ∀ diagnostic, marks diagnostic → others diagnostic) : Blames others x :=
  fun diagnostic hdiagnostic => h diagnostic (hx diagnostic hdiagnostic)

end Blames

/-! ### Instructions -/

namespace Instruction

/-- A diagnostic of an instruction. -/
def diagnostic (instruction : Instruction) (location : Location) (cause : Cause) : Diagnostic :=
  ⟨cause, some location, instruction.sourceLine, some instruction.index⟩

/-- The diagnostics of an instruction that point where they should: at the start of the line if
there is no mnemonic, at the token that they quote, or past the operands that are expected. -/
inductive AtFault (instruction : Instruction) : Diagnostic → Prop
  | missing (h : instruction.tokens = []) :
      AtFault instruction (instruction.diagnostic instruction.location (.unknownMnemonic []))
  | quoted {position : Nat} {token : Token} {cause : Cause}
      (h : instruction.tokens[position]? = some token) (hcause : cause.Quotes token) :
      AtFault instruction (instruction.diagnostic (instruction.locationOf position) cause)
  | wrongCount {token : Token} {operands : List Token} {mnemonic : Mnemonic}
      (h : instruction.tokens = token :: operands)
      (hmnemonic : Mnemonic.ofToken? token = some mnemonic)
      (hcount : mnemonic.operandCount.admits operands.length = false) :
      AtFault instruction (instruction.diagnostic
        (instruction.locationOf (min operands.length (mnemonic.operandCount.most + 1) : Nat))
        (.malformedOperand (.wrongCount mnemonic operands.length)))

/-- What an instruction is reported for: it has no mnemonic or an unknown one, names a label that
does not exist, has an operand of the wrong kind, or a wrong number of operands. -/
inductive Fault (labels : LabelTable Int) (instruction : Instruction) : Diagnostic → Prop
  | missing (h : instruction.tokens = []) :
      Fault labels instruction (instruction.diagnostic instruction.location (.unknownMnemonic []))
  | unknown {token : Token} {operands : List Token} (h : instruction.tokens = token :: operands)
      (hmnemonic : Mnemonic.ofToken? token = none) :
      Fault labels instruction
        (instruction.diagnostic (instruction.locationOf 0) (.unknownMnemonic token))
  | undefined {position : Nat} {token : Token} (h : instruction.tokens[position]? = some token)
      (hkind : Operand.ofToken token = .label) (hfind : labels.find? token = none) :
      Fault labels instruction (instruction.diagnostic (instruction.locationOf position)
        (.undefinedLabel token (labels.similar token)))
  | malformed {position : Nat} {token : Token} {fault : OperandFault}
      (h : instruction.tokens[position]? = some token)
      (hfault : (Cause.malformedOperand fault).Quotes token) :
      Fault labels instruction
        (instruction.diagnostic (instruction.locationOf position) (.malformedOperand fault))
  | wrongCount {token : Token} {operands : List Token} {mnemonic : Mnemonic}
      (h : instruction.tokens = token :: operands)
      (hmnemonic : Mnemonic.ofToken? token = some mnemonic)
      (hcount : mnemonic.operandCount.admits operands.length = false) :
      Fault labels instruction (instruction.diagnostic
        (instruction.locationOf (min operands.length (mnemonic.operandCount.most + 1) : Nat))
        (.malformedOperand (.wrongCount mnemonic operands.length)))

variable {labels : LabelTable Int} {instruction : Instruction} {opcode byteOpcode : Opcode}
  {position : Nat} {token : Token}

/-- Whatever the fault is, it is reported at the token that shows it. -/
theorem Fault.atFault {diagnostic : Diagnostic} (h : Fault labels instruction diagnostic) :
    instruction.AtFault diagnostic := by
  cases h with
  | missing h => exact .missing h
  | @unknown token _ h _ =>
      have htoken : instruction.tokens[0]? = some token := by simp [h]
      exact .quoted htoken .unknownMnemonic
  | undefined h _ _ => exact .quoted h (.undefinedLabel _)
  | malformed h hfault => exact .quoted h hfault
  | wrongCount h hmnemonic hcount => exact .wrongCount h hmnemonic hcount

theorem getElem?_of_tokenAt (h : instruction.tokenAt position = .ok token) :
    instruction.tokens[position]? = some token := by
  unfold tokenAt at h
  split at h
  · rename_i found hfound
    rw [hfound, Except.ok.inj h]
  · contradiction

theorem tokenAt_faults (instruction : Instruction) (position : Nat) :
    Blames (Fault labels instruction) (instruction.tokenAt position) := by
  unfold tokenAt
  split
  · exact .ok _
  · exact .outOfRange

/-- A report at a position quotes the token there. -/
theorem malformed_faults {α : Type} {fault : OperandFault}
    (htoken : instruction.tokenAt position = .ok token)
    (hfault : (Cause.malformedOperand fault).Quotes token) :
    Blames (Fault labels instruction) (.error (instruction.malformed position fault) :
      Except Failure α) :=
  .reported (.malformed (getElem?_of_tokenAt htoken) hfault)

theorem registerAt_faults (instruction : Instruction) (position : Nat) :
    Blames (Fault labels instruction) (instruction.registerAt position) := by
  apply (tokenAt_faults instruction position).bind
  intro token htoken
  cases Register.ofToken? token with
  | some x => exact .ok x
  | none =>
      exact malformed_faults htoken
        (.malformedOperand "expected a V register (V0-VF)".toList rfl)

theorem numberAt_faults (instruction : Instruction) (position : Nat) :
    Blames (Fault labels instruction) (instruction.numberAt position) := by
  apply (tokenAt_faults instruction position).bind
  intro token htoken
  have hquotes : (Cause.malformedOperand (.notNumber token)).Quotes token :=
    .malformedOperand "expected a numeric value".toList rfl
  cases Operand.ofToken token with
  | number value => exact .ok value
  | label => exact malformed_faults htoken hquotes
  | malformed => exact malformed_faults htoken hquotes

theorem valueAt_faults (labels : LabelTable Int) (instruction : Instruction) (position : Nat) :
    Blames (Fault labels instruction) (valueAt labels instruction position) := by
  apply (tokenAt_faults instruction position).bind
  intro token htoken
  cases hkind : Operand.ofToken token with
  | number value => exact .ok _
  | label =>
      cases hfind : labels.find? token with
      | some address => exact .ok address
      | none => exact .reported (.undefined (getElem?_of_tokenAt htoken) hkind hfind)
  | malformed =>
      exact malformed_faults htoken
        (.malformedOperand "expected an address or label".toList rfl)

theorem addressForm_faults (labels : LabelTable Int) (instruction : Instruction)
    (opcode : Opcode) (position : Nat) :
    Blames (Fault labels instruction) (addressForm labels instruction opcode position) :=
  (valueAt_faults labels instruction position).bind fun _ _ => .ok _

theorem registerForm_faults (instruction : Instruction) (opcode : Opcode) (position : Nat) :
    Blames (Fault labels instruction) (instruction.registerForm opcode position) :=
  (registerAt_faults instruction position).bind fun _ _ => .ok _

theorem registerByteForm_faults (instruction : Instruction) (opcode : Opcode) :
    Blames (Fault labels instruction) (instruction.registerByteForm opcode) := by
  apply (registerAt_faults instruction 1).bind
  intro x _
  exact (numberAt_faults instruction 2).bind fun _ _ => .ok _

theorem registersForm_faults (instruction : Instruction) (opcode : Opcode) (second : Nat) :
    Blames (Fault labels instruction) (instruction.registersForm opcode second) := by
  apply (registerAt_faults instruction 1).bind
  intro x _
  exact (registerAt_faults instruction second).bind fun _ _ => .ok _

theorem registerOrByteForm_faults (instruction : Instruction)
    (byteOpcode registerOpcode : Opcode) :
    Blames (Fault labels instruction)
      (instruction.registerOrByteForm byteOpcode registerOpcode) := by
  apply (tokenAt_faults instruction 2).bind
  intro second _
  split
  · exact registersForm_faults instruction registerOpcode 2
  · exact registerByteForm_faults instruction byteOpcode

theorem jump_faults (labels : LabelTable Int) (instruction : Instruction) :
    Blames (Fault labels instruction) (jump labels instruction) := by
  unfold jump
  split
  · exact addressForm_faults labels instruction .jp 1
  · apply (registerAt_faults instruction 1).bind
    intro offset _
    split
    · exact addressForm_faults labels instruction .jpV0 2
    · -- the token that is no zero register is asked for again to be quoted
      apply (tokenAt_faults instruction 1).bind
      intro token htoken
      exact malformed_faults htoken
        (.malformedOperand "JP with an offset register requires V0".toList rfl)

theorem load_faults (labels : LabelTable Int) (instruction : Instruction) :
    Blames (Fault labels instruction) (load labels instruction) := by
  apply (tokenAt_faults instruction 1).map.bind
  intro first _
  apply (tokenAt_faults instruction 2).map.bind
  intro second _
  split
  · exact addressForm_faults labels instruction .ldI 2
  · split
    · exact registerForm_faults instruction _ 2
    · exact registerForm_faults instruction _ 1
    · exact registerOrByteForm_faults instruction .ldByte .ldReg

theorem addition_faults (instruction : Instruction) :
    Blames (Fault labels instruction) instruction.addition := by
  apply (tokenAt_faults instruction 1).map.bind
  intro first _
  split
  · exact registerForm_faults instruction .addIVx 2
  · exact registerOrByteForm_faults instruction .addByte .addReg

theorem sprite_faults (instruction : Instruction) :
    Blames (Fault labels instruction) instruction.sprite := by
  apply (numberAt_faults instruction 3).bind
  intro height _
  apply (registerAt_faults instruction 1).bind
  intro x _
  exact (registerAt_faults instruction 2).bind fun _ _ => .ok _

theorem operation_faults (labels : LabelTable Int) (instruction : Instruction)
    (mnemonic : Mnemonic) :
    Blames (Fault labels instruction) (operation labels instruction mnemonic) := by
  cases mnemonic with
  | cls | ret => exact .ok _
  | sys | call => exact addressForm_faults labels instruction _ 1
  | jp => exact jump_faults labels instruction
  | se | sne => exact registerOrByteForm_faults instruction _ _
  | ld => exact load_faults labels instruction
  | add => exact addition_faults instruction
  | or | and | xor | sub | subn => exact registersForm_faults instruction _ 2
  | shr | shl => exact registersForm_faults instruction _ _
  | rnd => exact registerByteForm_faults instruction _
  | drw => exact sprite_faults instruction
  | skp | sknp => exact registerForm_faults instruction _ 1
  | dw | db => exact (valueAt_faults labels instruction 1).bind fun _ _ => .ok _

/-- An instruction that cannot be encoded is reported for one of its faults. -/
theorem encode_faults (labels : LabelTable Int) (instruction : Instruction) :
    Blames (Fault labels instruction) (instruction.encode labels) := by
  unfold encode
  cases htokens : instruction.tokens with
  | nil => exact .reported (.missing htokens)
  | cons token operands =>
      cases hmnemonic : Mnemonic.ofToken? token with
      | none =>
          simp only [hmnemonic]
          exact .reported (.unknown htokens hmnemonic)
      | some mnemonic =>
          simp only [hmnemonic]
          split
          · exact (operation_faults labels instruction mnemonic).bind fun _ _ => .ok _
          · rename_i hcount
            exact .reported (.wrongCount htokens hmnemonic (by simpa using hcount))

theorem encode_blames (labels : LabelTable Int) (instruction : Instruction) :
    Blames instruction.AtFault (instruction.encode labels) :=
  (encode_faults labels instruction).mono fun _ => Fault.atFault

end Instruction

/-! ### Definitions of labels -/

namespace Program

variable {program defined : Program} {name : Text} {position : Nat}

/-- Holds of the diagnostics of an instruction whose label is defined again. -/
def Redefined (program : Program) (definitions : List (Text × Nat)) (diagnostic : Diagnostic) :
    Prop :=
  ∃ definition ∈ definitions, ∃ instruction first,
    program.instructions[definition.2]? = some instruction ∧
      diagnostic =
        instruction.diagnostic instruction.location (.duplicateLabel definition.1 first)

theorem define_blames (program : Program) (name : Text) (position : Nat) :
    Blames (program.Redefined [(name, position)]) (program.define name position) := by
  unfold define
  split
  · rename_i hposition
    split
    · exact .ok _
    · exact .reported ⟨_, List.mem_singleton_self _, _, _, List.getElem?_eq_getElem hposition, rfl⟩
  · exact .outOfRange

theorem defineAll_blames (program : Program) (definitions : List (Text × Nat)) :
    Blames (program.Redefined definitions) (program.defineAll definitions) := by
  induction definitions generalizing program with
  | nil => exact .ok program
  | cons definition rest ih =>
      obtain ⟨name, position⟩ := definition
      intro diagnostic h
      unfold defineAll at h
      cases hdefine : program.define name position with
      | error failure =>
          rw [hdefine] at h
          obtain rfl : failure = .reported diagnostic := Except.error.inj h
          obtain ⟨definition, hmem, hfault⟩ := define_blames program name position _ hdefine
          obtain rfl := List.mem_singleton.mp hmem
          exact ⟨_, List.mem_cons_self, hfault⟩
      | ok defined =>
          rw [hdefine] at h
          obtain ⟨definition, hmem, instruction, first, hget, hfault⟩ := ih defined diagnostic h
          rw [define_instructions hdefine] at hget
          exact ⟨definition, List.mem_cons_of_mem _ hmem, instruction, first, hget, hfault⟩

end Program

/-! ### Lines -/

/-- Holds of a diagnostic that shows the text of a line and points at a word of it, the one that the
diagnostic is about. -/
structure Diagnostic.PointsAt (diagnostic : Diagnostic) (file : Text) (number index : Nat)
    (text : Text) (words : List Word) (word : Word) : Prop where
  location : diagnostic.location = some ⟨file, number, word.column⟩
  sourceLine : diagnostic.sourceLine = some text
  index : diagnostic.index = some (index : Int)
  mem : word ∈ words
  concerns : diagnostic.cause.Concerns (words.map (·.text)) word.text

namespace Instruction

/-- The columns of a line's words after a label are those of its instruction. -/
structure OfWords (instruction : Instruction) (file : Text) (number index : Nat) (text : Text)
    (labels rest : List Word) : Prop where
  location : instruction.location =
    ⟨file, number, ((labels ++ rest).map fun word => (word.column : Int)).headD 0⟩
  sourceLine : instruction.sourceLine = some text
  index : instruction.index = index
  tokens : instruction.tokens = rest.map fun word => dropComma word.text
  columns : instruction.columns = rest.map fun word => (word.column : Int)
  label : labels.map (·.text) = (instruction.label.map (· ++ [':'])).toList
  named : ∀ name, instruction.label = some name → Text.isWordText name = true

variable {instruction : Instruction} {file text : Text} {number index position : Nat}
  {labels rest : List Word} {word : Word} {diagnostic : Diagnostic}

/-- The instruction of a line has the words of the line but a label at the start. -/
theorem exists_ofWords (step : AddressStep) (address : Int) (index : Nat) (file : Text)
    (number : Nat) (raw : Text) :
    ∃ labels rest, Line.words (Text.trimRight (· == '\r') raw) = labels ++ rest ∧
      (ofLine step address index (Line.read file number raw)).OfWords file number index
        (Text.trimRight (· == '\r') raw) labels rest := by
  let line := Line.read file number raw
  let words := Line.words (Text.trimRight (· == '\r') raw)
  have htokens : line.tokens = words.map (·.text) := rfl
  have hcolumns : line.columns = words.map fun word => (word.column : Int) := rfl
  have hunbroken : ∀ token ∈ line.tokens, Token.Unbroken token :=
    fun token hmem => (Line.read_solid file number raw token hmem).2
  unfold ofLine
  cases hlabel : line.tokens.head?.bind definedLabel? with
  | none =>
      exact ⟨[], words, rfl, rfl, rfl, rfl, by simp [line, htokens], by simp [line, hcolumns],
        rfl, fun _ hname => nomatch hname⟩
  | some name =>
      -- the label is the first word, and both tokens and columns drop it
      obtain ⟨hname, hhead⟩ : line.Defines name :=
        (ofLine_label_eq_some_iff hunbroken step address index).mp hlabel
      rw [htokens, List.head?_map] at hhead
      obtain ⟨first, hfirst, htext⟩ := Option.map_eq_some_iff.mp hhead
      obtain ⟨rest, hwords⟩ := List.head?_eq_some_iff.mp hfirst
      refine ⟨[first], rest, hwords, ?_, rfl, rfl, ?_, ?_, ?_, ?_⟩
      · show line.location = _
        rw [Line.location, hcolumns, hwords]
        rfl
      · simp [line, htokens, hwords]
      · simp [line, hcolumns, hwords]
      · rw [List.map_singleton, htext]
        rfl
      · rintro _ ⟨⟩
        exact hname

namespace OfWords

theorem label_cases (h : instruction.OfWords file number index text labels rest) :
    labels.map (·.text) = [] ∨
      ∃ name, Text.isWordText name = true ∧ labels.map (·.text) = [name ++ [':']] := by
  have hwords := h.label
  cases hlabel : instruction.label with
  | none =>
      rw [hlabel] at hwords
      exact .inl hwords
  | some name =>
      rw [hlabel] at hwords
      exact .inr ⟨name, h.named name hlabel, hwords⟩

/-- The place of a token is the one of its word. -/
theorem locationOf_eq (h : instruction.OfWords file number index text labels rest)
    (hget : rest[position]? = some word) :
    instruction.locationOf position = ⟨file, number, word.column⟩ := by
  have hcolumn : instruction.columns[position]? = some (word.column : Int) := by
    rw [h.columns, List.getElem?_map, hget, Option.map_some]
  unfold locationOf
  rw [if_neg (by omega), Int.toNat_natCast, hcolumn, h.location]

/-- The place of the instruction is the one of the first word. -/
theorem location_eq (h : instruction.OfWords file number index text labels rest)
    (hfirst : (labels ++ rest).head? = some word) :
    instruction.location = ⟨file, number, word.column⟩ := by
  obtain ⟨others, hwords⟩ := List.head?_eq_some_iff.mp hfirst
  rw [h.location, hwords]
  rfl

/-- A line without a mnemonic is a label alone. -/
theorem label_of_tokens_eq_nil (h : instruction.OfWords file number index text labels rest)
    (hwords : labels ++ rest ≠ []) (htokens : instruction.tokens = []) :
    ∃ word name, Text.isWordText name = true ∧ word.text = name ++ [':'] ∧
      labels ++ rest = [word] := by
  rw [h.tokens, List.map_eq_nil_iff] at htokens
  subst htokens
  rcases h.label_cases with hnone | ⟨name, hname, hlabel⟩
  · exact absurd (List.map_eq_nil_iff.mp hnone) (by simpa using hwords)
  · obtain ⟨word, rfl, htext⟩ := List.map_eq_singleton_iff.mp hlabel
    exact ⟨word, name, hname, htext, List.append_nil _⟩

/-- Too many operands are reported at the first one too many, which stands behind as many as the
mnemonic takes. -/
theorem pointsAt_of_surplus {first : Word} {others : List Word} {mnemonic : Mnemonic}
    (h : instruction.OfWords file number index text labels (first :: others))
    (hmnemonic : Mnemonic.ofToken? (dropComma first.text) = some mnemonic)
    (hmost : mnemonic.operandCount.most < others.length) :
    ∃ word, (instruction.diagnostic
        (instruction.locationOf (mnemonic.operandCount.most + 1 : Nat))
        (.malformedOperand (.wrongCount mnemonic others.length))).PointsAt
      file number index text (labels ++ first :: others) word := by
  have hget := List.getElem?_eq_getElem hmost
  have hplace : (first :: others)[mnemonic.operandCount.most + 1]? =
      some others[mnemonic.operandCount.most] := by
    rw [List.getElem?_cons_succ, hget]
  have hoperand : (others.map (·.text))[mnemonic.operandCount.most]? =
      some others[mnemonic.operandCount.most].text := by
    rw [List.getElem?_map, hget, Option.map_some]
  refine ⟨_, congrArg some (h.locationOf_eq hplace), h.sourceLine, congrArg some h.index,
    List.mem_append_right _ (List.mem_of_getElem? hplace), ?_⟩
  have hlength : others.length = (others.map (·.text)).length := by rw [List.length_map]
  show (Cause.malformedOperand (.wrongCount mnemonic others.length)).Concerns _ _
  rw [hlength]
  exact .surplus (by rw [List.map_append, List.map_cons]) h.label_cases
    (dropComma_writtenAs first.text) hmnemonic hoperand

/-- Too few operands are reported at the last word: the operands all stand there, and the place
after them is the one of the last of them in the row of tokens. -/
theorem pointsAt_of_tooFew {first : Word} {others : List Word} {mnemonic : Mnemonic}
    (h : instruction.OfWords file number index text labels (first :: others))
    (hmnemonic : Mnemonic.ofToken? (dropComma first.text) = some mnemonic)
    (hleast : others.length < mnemonic.operandCount.least) :
    ∃ word, (instruction.diagnostic (instruction.locationOf (others.length : Nat))
        (.malformedOperand (.wrongCount mnemonic others.length))).PointsAt
      file number index text (labels ++ first :: others) word := by
  have hlast : (first :: others)[others.length]? =
      some ((first :: others).getLast (List.cons_ne_nil _ _)) := by
    rw [← List.getLast?_eq_some_getLast, List.getLast?_eq_getElem?, List.length_cons,
      Nat.add_sub_cancel]
  refine ⟨_, congrArg some (h.locationOf_eq hlast), h.sourceLine, congrArg some h.index,
    List.mem_append_right _ (List.mem_of_getElem? hlast), ?_⟩
  have hlength : others.length = (others.map (·.text)).length := by rw [List.length_map]
  show (Cause.malformedOperand (.wrongCount mnemonic others.length)).Concerns _ _
  rw [hlength]
  refine .tooFew (by rw [List.map_append, List.map_cons]) h.label_cases
    (dropComma_writtenAs first.text) hmnemonic (hlength ▸ hleast) ?_
  rw [List.getLast?_map, List.getLast?_append,
    List.getLast?_eq_some_getLast (List.cons_ne_nil _ _)]
  rfl

/-- A wrong number of operands is reported at the first one too many or at the last word. -/
theorem pointsAt_of_wrongCount (h : instruction.OfWords file number index text labels rest)
    {token : Token} {operands : List Token} {mnemonic : Mnemonic}
    (htokens : instruction.tokens = token :: operands)
    (hmnemonic : Mnemonic.ofToken? token = some mnemonic)
    (hcount : mnemonic.operandCount.admits operands.length = false) :
    ∃ word, (instruction.diagnostic
        (instruction.locationOf (min operands.length (mnemonic.operandCount.most + 1) : Nat))
        (.malformedOperand (.wrongCount mnemonic operands.length))).PointsAt
      file number index text (labels ++ rest) word := by
  rw [h.tokens] at htokens
  obtain ⟨first, others, rfl, rfl, rfl⟩ := List.map_eq_cons_iff.mp htokens
  rw [List.length_map] at hcount ⊢
  rw [OperandCount.admits, Bool.and_eq_false_iff, decide_eq_false_iff_not,
    decide_eq_false_iff_not] at hcount
  by_cases hmost : mnemonic.operandCount.most < others.length
  · rw [Nat.min_eq_right hmost]
    exact h.pointsAt_of_surplus hmnemonic hmost
  · have hle : mnemonic.operandCount.least ≤ mnemonic.operandCount.most := by
      cases mnemonic <;> decide
    rw [Nat.min_eq_left (by omega)]
    exact h.pointsAt_of_tooFew hmnemonic (by omega)

/-- The report of an instruction points at the word of its line that it is about. -/
theorem pointsAt (h : instruction.OfWords file number index text labels rest)
    (hwords : labels ++ rest ≠ []) (hfault : instruction.AtFault diagnostic) :
    ∃ word, diagnostic.PointsAt file number index text (labels ++ rest) word := by
  cases hfault with
  | missing htokens =>
      obtain ⟨word, name, hname, htext, hsingle⟩ := h.label_of_tokens_eq_nil hwords htokens
      have hlocation := h.location_eq (by rw [hsingle]; rfl)
      refine ⟨word, congrArg some hlocation, h.sourceLine, congrArg some h.index, ?_, ?_⟩
      · rw [hsingle]
        exact List.mem_singleton_self _
      · exact .missing hname htext (by rw [hsingle]; rfl)
  | @quoted position token cause htoken hcause =>
      rw [h.tokens, List.getElem?_map] at htoken
      obtain ⟨word, hget, rfl⟩ := Option.map_eq_some_iff.mp htoken
      exact ⟨word, congrArg some (h.locationOf_eq hget), h.sourceLine, congrArg some h.index,
        List.mem_append_right _ (List.mem_of_getElem? hget),
        .quoted (dropComma_writtenAs word.text) hcause⟩
  | wrongCount htokens hmnemonic hcount =>
      exact h.pointsAt_of_wrongCount htokens hmnemonic hcount

end OfWords

end Instruction

/-! ### Sources -/

section Sources

variable {options : Options} {file source : Text} {failure : Failure} {diagnostic : Diagnostic}

/-- Holds of the diagnostics that point at a word of a line of a source.  Lines and the instructions
before them are counted in the text of the source, and so are the characters before the word. -/
def Diagnostic.PointsInto (diagnostic : Diagnostic) (file source : Text) : Prop :=
  ∃ number text words word,
    (Source.texts source)[number]? = some text ∧ Line.IsSplit text words ∧
    diagnostic.PointsAt file (number + 1)
      (((Source.texts source).take number).countP Line.hasWord) text words word ∧
    1 ≤ word.column ∧ word.text <+: text.drop (word.column - 1)

theorem Diagnostic.PointsAt.pointsInto {number : Nat} {text : Text} {words : List Word}
    {word : Word}
    (h : diagnostic.PointsAt file (number + 1)
      (((Source.texts source).take number).countP Line.hasWord) text words word)
    (htext : (Source.texts source)[number]? = some text) (hsplit : Line.IsSplit text words) :
    diagnostic.PointsInto file source :=
  ⟨number, text, words, word, htext, hsplit, h, hsplit.starts h.mem⟩

/-- Each instruction of a source has the words of a line that has one. -/
theorem Program.exists_ofWords {step : AddressStep} {position : Nat} {instruction : Instruction}
    (h : (place step programStart 0 (Source.lines file source))[position]? =
      some instruction) :
    ∃ number text labels rest, (Source.texts source)[number]? = some text ∧
      Line.IsSplit text (labels ++ rest) ∧ labels ++ rest ≠ [] ∧
      instruction.OfWords file (number + 1)
        (((Source.texts source).take number).countP Line.hasWord) text labels rest := by
  rw [getElem?_place] at h
  obtain ⟨line, hline, rfl⟩ := Option.map_eq_some_iff.mp h
  obtain ⟨number, raw, rfl, htext, hindex⟩ := Source.exists_text_of_lines hline
  have htokens := Source.tokens_ne_nil (List.mem_of_getElem? hline)
  obtain ⟨labels, rest, hwords, hof⟩ := Instruction.exists_ofWords step
    (programStart + Instruction.extent
      ((place step programStart 0 (Source.lines file source)).take position))
    (0 + position) file (number + 1) raw
  rw [Nat.zero_add, hindex] at hof
  refine ⟨number, _, labels, rest, htext, hwords ▸ Line.isSplit_words _, ?_, ?_⟩
  · intro hnil
    have htokens' : (Line.read file (number + 1) raw).tokens = [] :=
      List.map_eq_nil_iff.mpr (hwords.trans hnil)
    exact htokens htokens'
  · rw [Nat.zero_add, hindex]
    exact hof

/-- A label that is defined again is the first word of its line. -/
theorem Program.pointsInto_of_redefined {step : AddressStep} {program : Program}
    (hplaced : program.instructions = place step programStart 0 (Source.lines file source))
    (h : program.Redefined (definitions program.instructions) diagnostic) :
    diagnostic.PointsInto file source := by
  obtain ⟨⟨name, position⟩, hmem, instruction, first, hget, rfl⟩ := h
  obtain ⟨found, hfound, hlabel⟩ := mem_definitions_iff.mp hmem
  obtain rfl : found = instruction := Option.some.inj (hfound.symm.trans hget)
  rw [hplaced] at hget
  obtain ⟨number, text, labels, rest, htext, hsplit, -, hof⟩ := exists_ofWords hget
  have hlabels : labels.map (·.text) = [name ++ [':']] := by
    rw [hof.label, hlabel]
    rfl
  obtain ⟨word, rfl, hword⟩ := List.map_eq_singleton_iff.mp hlabels
  have hfirst : ([word] ++ rest).head? = some word := rfl
  have hlocation := hof.location_eq hfirst
  have hconcerns : (Cause.duplicateLabel name first).Concerns
      (([word] ++ rest).map (·.text)) word.text := .duplicateLabel first rfl hword
  have hpoints : Diagnostic.PointsAt (found.diagnostic found.location _) file _ _ text _ word :=
    ⟨congrArg some hlocation, hof.sourceLine, congrArg some hof.index, List.mem_cons_self,
      hconcerns⟩
  exact hpoints.pointsInto htext hsplit

/-- Whatever a source cannot be assembled for, the report shows the text of a line and points at the
word in it that is at fault. -/
theorem assemble_pointsInto (h : assemble options file source = .error failure) :
    ∃ diagnostic, failure = .reported diagnostic ∧ diagnostic.PointsInto file source := by
  rcases assemble_eq_error_iff.mp h with hparse | ⟨parsed, hparse, hencode⟩
  · have hreports := Program.ofSource_reports options file source
    rw [hparse] at hreports
    cases hreports with
    | @reported diagnostic _ =>
        rw [Program.ofSource_eq_defineAll] at hparse
        have hredefined := Program.defineAll_blames _ _ diagnostic hparse
        exact ⟨diagnostic, rfl, Program.pointsInto_of_redefined
          (Program.unlabelled_instructions options file source) hredefined⟩
  · obtain ⟨before, -, instruction, after, hinstructions, -, hfails⟩ :=
      Program.encoded_eq_error_iff.mp hencode
    have hreports := Instruction.encode_reports parsed.addresses instruction
    rw [hfails] at hreports
    cases hreports with
    | @reported diagnostic _ =>
        have hfault := Instruction.encode_blames _ _ diagnostic hfails
        have hget : (Program.place options.addressStep programStart 0
            (Source.lines file source))[before.length]? = some instruction := by
          rw [← Program.instructions_of_ofSource hparse, hinstructions]
          simp
        obtain ⟨number, text, labels, rest, htext, hsplit, hwords, hof⟩ :=
          Program.exists_ofWords hget
        obtain ⟨word, hword⟩ := hof.pointsAt hwords hfault
        exact ⟨diagnostic, rfl, hword.pointsInto htext hsplit⟩

/-- The third operand of a jump is one too many, wherever the line is indented, labelled and
commented.  A register that does not exist is quoted without the comma that stands after it. -/
theorem assemble_pointsInto_words :
    let surplus := "; note\nA: CLS\n\tB: JP V0, A, A ; far\r\n".toList
    let tooMany : Diagnostic :=
      ⟨.malformedOperand (.wrongCount .jp 3), some ⟨[], 3, 15⟩,
        some "\tB: JP V0, A, A ; far".toList, some 1⟩
    let mistyped := "CLS\nA: LD V9x, 5".toList
    let noRegister : Diagnostic :=
      ⟨.malformedOperand (.notRegister "V9x".toList), some ⟨[], 2, 7⟩,
        some "A: LD V9x, 5".toList, some 1⟩
    (assemble {} [] surplus = .error (.reported tooMany) ∧ tooMany.PointsInto [] surplus) ∧
      assemble {} [] mistyped = .error (.reported noRegister) ∧
      noRegister.PointsInto [] mistyped ∧ Token.WrittenAs "V9x".toList "V9x,".toList := by
  intro surplus tooMany mistyped noRegister
  have hsurplus : assemble {} [] surplus = .error (.reported tooMany) := by decide +kernel
  have hmistyped : assemble {} [] mistyped = .error (.reported noRegister) := by decide +kernel
  obtain ⟨found, hfound, hpoints⟩ := assemble_pointsInto hsurplus
  obtain rfl : tooMany = found := Failure.reported.inj hfound
  obtain ⟨other, hother, hcomma⟩ := assemble_pointsInto hmistyped
  obtain rfl : noRegister = other := Failure.reported.inj hother
  exact ⟨⟨hsurplus, hpoints⟩, hmistyped, hcomma, .inl rfl⟩

end Sources

end Chip8
