import Chip8.Proofs.Definitions
import Chip8.Proofs.Encoding

/-!
# Failures

Encoding asks for tokens by position and emitting asks for numbers that have to be there.  Neither
can fail: the count of operands has been checked before a token is asked for, and what is emitted
has been encoded.  All that an assembly fails with is a report that its text is at fault.
-/

namespace Chip8

/-! ### Computations that fail with a report -/

/-- The causes of an instruction that cannot be encoded. -/
inductive Cause.OfEncoding : Cause → Prop
  | unknownMnemonic (token : Token) : OfEncoding (.unknownMnemonic token)
  | undefinedLabel (label : Text) (similar : List Text) :
      OfEncoding (.undefinedLabel label similar)
  | malformedOperand (fault : OperandFault) : OfEncoding (.malformedOperand fault)

/-- The causes of a source that cannot be assembled. -/
inductive Cause.OfAssembly (options : Options) : Cause → Prop
  | encoding {cause : Cause} (h : cause.OfEncoding) : OfAssembly options cause
  | duplicateLabel (label : Text) (first : Option Location)
      (h : options.strictLabels = true) : OfAssembly options (.duplicateLabel label first)

/-- `Reports causes x` holds when `x` has a result, or fails with the report of such a cause. -/
inductive Reports {α : Type} (causes : Cause → Prop) : Except Failure α → Prop
  | ok (a : α) : Reports causes (.ok a)
  | reported {diagnostic : Diagnostic} (h : causes diagnostic.cause) :
      Reports causes (.error (.reported diagnostic))

namespace Reports

variable {α β : Type} {causes others : Cause → Prop} {x : Except Failure α}

theorem bind {f : α → Except Failure β} (hx : Reports causes x)
    (hf : ∀ a, x = .ok a → Reports causes (f a)) : Reports causes (x >>= f) := by
  cases hx with
  | ok a => exact hf a rfl
  | reported h => exact .reported h

theorem map {f : α → β} (hx : Reports causes x) : Reports causes (f <$> x) := by
  cases hx with
  | ok a => exact .ok (f a)
  | reported h => exact .reported h

theorem mono (hx : Reports causes x) (h : ∀ cause, causes cause → others cause) :
    Reports others x := by
  cases hx with
  | ok a => exact .ok a
  | reported hcause => exact .reported (h _ hcause)

end Reports

/-! ### Encoding -/

namespace Instruction

variable {causes : Cause → Prop} {labels : LabelTable Int} {instruction : Instruction}
  {opcode byteOpcode : Opcode} {position : Nat}

theorem tokenAt_reports (h : position < instruction.tokens.length) :
    Reports causes (instruction.tokenAt position) := by
  unfold tokenAt
  rw [List.getElem?_eq_getElem h]
  exact .ok _

theorem malformed_reports {α : Type} (instruction : Instruction) (position : Nat)
    (fault : OperandFault) :
    Reports Cause.OfEncoding
      (.error (instruction.malformed position fault) : Except Failure α) :=
  .reported (.malformedOperand fault)

theorem registerAt_reports (h : position < instruction.tokens.length) :
    Reports Cause.OfEncoding (instruction.registerAt position) := by
  apply (tokenAt_reports h).bind
  intro token _
  cases hregister : Register.ofToken? token with
  | some x => exact .ok x
  | none => exact malformed_reports _ _ _

theorem numberAt_reports (h : position < instruction.tokens.length) :
    Reports Cause.OfEncoding (instruction.numberAt position) := by
  apply (tokenAt_reports h).bind
  intro token _
  cases Operand.ofToken token with
  | number value => exact .ok value
  | label => exact malformed_reports _ _ _
  | malformed => exact malformed_reports _ _ _

theorem valueAt_reports (h : position < instruction.tokens.length) :
    Reports Cause.OfEncoding (valueAt labels instruction position) := by
  apply (tokenAt_reports h).bind
  intro token _
  cases Operand.ofToken token with
  | number value => exact .ok _
  | label =>
      cases labels.find? token with
      | some address => exact .ok address
      | none => exact .reported (.undefinedLabel _ _)
  | malformed => exact malformed_reports _ _ _

theorem addressForm_reports (h : position < instruction.tokens.length) :
    Reports Cause.OfEncoding (addressForm labels instruction opcode position) :=
  (valueAt_reports h).bind fun _ _ => .ok _

theorem registerForm_reports (h : position < instruction.tokens.length) :
    Reports Cause.OfEncoding (instruction.registerForm opcode position) :=
  (registerAt_reports h).bind fun _ _ => .ok _

theorem registerByteForm_reports (h : 2 < instruction.tokens.length) :
    Reports Cause.OfEncoding (instruction.registerByteForm opcode) := by
  apply (registerAt_reports (by omega)).bind
  intro x _
  exact (numberAt_reports h).bind fun _ _ => .ok _

theorem registersForm_reports (hfirst : 1 < instruction.tokens.length)
    (hsecond : position < instruction.tokens.length) :
    Reports Cause.OfEncoding (instruction.registersForm opcode position) := by
  apply (registerAt_reports hfirst).bind
  intro x _
  exact (registerAt_reports hsecond).bind fun _ _ => .ok _

theorem registerOrByteForm_reports (h : 2 < instruction.tokens.length) :
    Reports Cause.OfEncoding (instruction.registerOrByteForm byteOpcode opcode) := by
  apply (tokenAt_reports h).bind
  intro second _
  split
  · exact registersForm_reports (by omega) h
  · exact registerByteForm_reports h

/-- A jump has one operand or two, and asks for the second only if it has two. -/
theorem jump_reports (h : 1 < instruction.tokens.length) :
    Reports Cause.OfEncoding (jump labels instruction) := by
  have hoperands : instruction.operands.length = instruction.tokens.length - 1 :=
    List.length_drop
  unfold jump
  split
  · exact addressForm_reports h
  · -- there is more than one operand, so the second can be asked for
    rename_i hcount
    apply (registerAt_reports h).bind
    intro offset _
    split
    · exact addressForm_reports (by omega)
    · apply (tokenAt_reports h).bind
      intro token _
      exact malformed_reports _ _ _

theorem load_reports (h : 2 < instruction.tokens.length) :
    Reports Cause.OfEncoding (load labels instruction) := by
  have hfirst : 1 < instruction.tokens.length := by omega
  apply (tokenAt_reports hfirst).map.bind
  intro first _
  apply (tokenAt_reports h).map.bind
  intro second _
  split
  · exact addressForm_reports h
  · split
    · exact registerForm_reports h
    · exact registerForm_reports hfirst
    · exact registerOrByteForm_reports h

theorem addition_reports (h : 2 < instruction.tokens.length) :
    Reports Cause.OfEncoding instruction.addition := by
  have hfirst : 1 < instruction.tokens.length := by omega
  apply (tokenAt_reports hfirst).map.bind
  intro first _
  split
  · exact registerForm_reports h
  · exact registerOrByteForm_reports h

theorem shift_reports (h : 1 < instruction.tokens.length) :
    Reports Cause.OfEncoding (instruction.shift opcode) := by
  have hoperands : instruction.operands.length = instruction.tokens.length - 1 :=
    List.length_drop
  apply registersForm_reports h
  split <;> omega

theorem sprite_reports (h : 3 < instruction.tokens.length) :
    Reports Cause.OfEncoding instruction.sprite := by
  apply (numberAt_reports h).bind
  intro height _
  apply (registerAt_reports (by omega)).bind
  intro x _
  exact (registerAt_reports (by omega)).bind fun _ _ => .ok _

/-- With as many operands as the mnemonic takes, no token is asked for that is not there. -/
theorem operation_reports {mnemonic : Mnemonic}
    (h : mnemonic.operandCount.least < instruction.tokens.length) :
    Reports Cause.OfEncoding (operation labels instruction mnemonic) := by
  cases mnemonic with
  | cls | ret => exact .ok _
  | sys | call => exact addressForm_reports h
  | jp => exact jump_reports h
  | se | sne => exact registerOrByteForm_reports h
  | ld => exact load_reports h
  | add => exact addition_reports h
  | or | and | xor | sub | subn => exact registersForm_reports (Nat.lt_of_succ_lt h) h
  | shr | shl => exact shift_reports h
  | rnd => exact registerByteForm_reports h
  | drw => exact sprite_reports h
  | skp | sknp => exact registerForm_reports h
  | dw | db => exact (valueAt_reports h).bind fun _ _ => .ok _

/-- Whatever its tokens, an instruction that cannot be encoded is reported. -/
theorem encode_reports (labels : LabelTable Int) (instruction : Instruction) :
    Reports Cause.OfEncoding (instruction.encode labels) := by
  unfold encode
  cases htokens : instruction.tokens with
  | nil => exact .reported (.unknownMnemonic [])
  | cons token operands =>
      cases hmnemonic : Mnemonic.ofToken? token with
      | none =>
          simp only [hmnemonic]
          exact .reported (.unknownMnemonic token)
      | some mnemonic =>
          simp only [hmnemonic]
          split
          · rename_i hcount
            have hleast : mnemonic.operandCount.least < instruction.tokens.length := by
              rw [OperandCount.admits, Bool.and_eq_true, decide_eq_true_eq] at hcount
              rw [htokens, List.length_cons]
              omega
            exact (operation_reports hleast).bind fun _ _ => .ok _
          · exact malformed_reports _ _ _

theorem encodeAll_reports {instructions made : List Instruction} {failure : Failure}
    (h : encodeAll labels instructions = (made, some failure)) :
    Reports Cause.OfEncoding (.error failure : Except Failure Program) := by
  induction instructions generalizing made with
  | nil => simp [encodeAll] at h
  | cons instruction rest ih =>
      have hfirst := encode_reports labels instruction
      cases hencode : instruction.encode labels with
      | error first =>
          simp only [encodeAll, hencode, Prod.mk.injEq, Option.some.injEq] at h
          obtain ⟨-, rfl⟩ := h
          rw [hencode] at hfirst
          cases hfirst with
          | reported hcause => exact .reported hcause
      | ok encoded =>
          simp only [encodeAll, hencode, Prod.mk.injEq] at h
          exact ih (Prod.ext rfl h.2)

end Instruction

namespace Program

variable {program : Program} {name : Text} {position : Nat}

theorem encoded_reports (program : Program) :
    Reports Cause.OfEncoding program.encoded := by
  have hall : (Instruction.encodeAll program.addresses program.instructions).2 =
      program.encode.2 := rfl
  unfold encoded
  generalize program.encode = run at hall
  obtain ⟨made, failure⟩ := run
  cases failure with
  | none => exact .ok _
  | some failure => exact Instruction.encodeAll_reports (Prod.ext rfl hall)

/-! ### Definitions of labels -/

/-- Only a strict table refuses a definition. -/
theorem define_reports {options : Options} (hstrict : program.labels.strict = options.strictLabels)
    (h : position < program.instructions.length) :
    Reports (Cause.OfAssembly options) (program.define name position) := by
  unfold define
  rw [dif_pos h]
  cases hrefusal : program.labels.refusal? name with
  | none => exact .ok _
  | some earlier =>
      have htrue := LabelTable.strict_of_refusal? hrefusal
      exact .reported (.duplicateLabel _ _ (hstrict ▸ htrue))

theorem defineAll_reports {options : Options} {definitions : List (Text × Nat)}
    (hstrict : program.labels.strict = options.strictLabels)
    (hrange : ∀ definition ∈ definitions, definition.2 < program.instructions.length) :
    Reports (Cause.OfAssembly options) (program.defineAll definitions) := by
  induction definitions generalizing program with
  | nil => exact .ok program
  | cons definition rest ih =>
      obtain ⟨name, position⟩ := definition
      obtain ⟨hfirst, hrest⟩ := List.forall_mem_cons.mp hrange
      have hdefine : Reports (Cause.OfAssembly options) (program.define name position) :=
        define_reports hstrict hfirst
      unfold defineAll
      cases hmade : program.define name position with
      | error failure =>
          rw [hmade] at hdefine
          exact hdefine
      | ok defined =>
          obtain ⟨-, rfl⟩ := (define_eq_ok_iff hfirst).mp hmade
          exact ih hstrict hrest

theorem ofSource_reports (options : Options) (file source : Text) :
    Reports (Cause.OfAssembly options) (ofSource options file source) := by
  rw [ofSource_eq_defineAll]
  exact defineAll_reports rfl (definitions_in_range _)

end Program

/-! ### Assembling -/

theorem exists_diagnostic_of_assemble {options : Options} {file source : Text} {failure : Failure}
    (h : assemble options file source = .error failure) :
    ∃ diagnostic, failure = .reported diagnostic := by
  obtain hparsed | ⟨parsed, -, hencoded⟩ := assemble_eq_error_iff.mp h
  · have hreports := Program.ofSource_reports options file source
    rw [hparsed] at hreports
    cases hreports with
    | reported _ => exact ⟨_, rfl⟩
  · have hreports := Program.encoded_reports parsed
    rw [hencoded] at hreports
    cases hreports with
    | reported _ => exact ⟨_, rfl⟩

/-- Assembling a source fails with nothing but a report of its text, and so does encoding any
instructions with any labels. -/
theorem assemble_reports (options : Options) (file source : Text) :
    Reports (Cause.OfAssembly options) (assemble options file source) ∧
      (∀ program : Program, Reports Cause.OfEncoding program.encoded) ∧
      ∀ labels (instruction : Instruction),
        Reports Cause.OfEncoding (instruction.encode labels) := by
  refine ⟨?_, Program.encoded_reports, Instruction.encode_reports⟩
  apply (Program.ofSource_reports options file source).bind
  intro parsed _
  apply ((Program.encoded_reports parsed).mono fun _ => .encoding).bind
  intro program hprogram
  have himage := image_of_encoded fun instruction hmem =>
    (Program.fits_of_encoded hprogram instruction hmem).isSome
  rw [himage]
  exact .ok _

end Chip8
