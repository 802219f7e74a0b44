import Chip8.Assembly
import Chip8.Proofs.Forms
import Mathlib.Algebra.Ring.Nat
import Mathlib.Data.List.Forall2

/-!
# Encoded programs

Encoding an instruction sets its number and its width, the number fits into as many bytes as the
width says, and nothing else changes.  A program is encoded exactly if each of its instructions is.
An encoded program always has an image, the bytes of its instructions in a row.
-/

namespace Chip8

/-- The number that bytes write, the most significant first. -/
def bigEndian (bytes : List UInt8) : Nat :=
  bytes.foldl (fun number byte => 0x100 * number + byte.toNat) 0

theorem toNat_lowByte (value : Int) : ((lowByte value).toNat : Int) = value % 0x100 := by
  have hlow : 0 ≤ value % 0x100 := Int.emod_nonneg value (by decide)
  have hhigh : value % 0x100 < 0x100 := Int.emod_lt_of_pos value (by decide)
  unfold lowByte
  rw [UInt8.toNat_ofNat']
  omega

/-! ### One instruction -/

theorem Mnemonic.width_of_ne_db {mnemonic : Mnemonic} (h : mnemonic ≠ .db) :
    mnemonic.width = 2 := by
  cases mnemonic with
  | db => contradiction
  | _ => rfl

/-- The only mnemonic whose instructions make one byte makes nothing but bytes. -/
theorem Form.byte_of_db {labels : LabelTable Int} {operands : List Token} {made : Operation}
    (h : Form labels .db operands made) : ∃ value, made = .byte value := by
  cases h with
  | bare h => simp [bareForms] at h
  | address h _ => simp [addressForms] at h
  | register h _ => simp [registerForms] at h
  | registerByte h _ _ => simp [registerByteForms] at h
  | registers h _ _ => simp [registersForms] at h
  | shift h _ => simp [shiftForms] at h
  | byte _ => exact ⟨_, rfl⟩

/-- The number of a form fits into the bytes that its mnemonic makes. -/
theorem Form.encoded_lt {labels : LabelTable Int} {mnemonic : Mnemonic} {operands : List Token}
    {made : Operation} (h : Form labels mnemonic operands made) :
    made.encoded < 0x100 ^ mnemonic.width := by
  by_cases hdb : mnemonic = .db
  · subst hdb
    obtain ⟨value, rfl⟩ := h.byte_of_db
    exact value.isLt
  · rw [Mnemonic.width_of_ne_db hdb]
    exact made.encoded_lt

namespace Instruction

variable {labels : LabelTable Int} {instruction encoded : Instruction}

/-- The bytes of an instruction, none if it has not been encoded. -/
def content (instruction : Instruction) : List UInt8 :=
  instruction.bytes?.getD []

/-- Holds of the instructions whose number fits into the bytes of their width. -/
def Fits (instruction : Instruction) : Prop :=
  ∃ number : Nat, instruction.encoded = some (number : Int) ∧
    (instruction.width = 1 ∧ number < 0x100 ∨ instruction.width = 2 ∧ number < 0x10000)

/-- The bytes of an instruction are as many as its width says, and write its number. -/
theorem Fits.content {instruction : Instruction} (h : instruction.Fits) :
    ∃ number : Nat, instruction.encoded = some (number : Int) ∧
      (instruction.content.length : Int) = instruction.width ∧
      bigEndian instruction.content = number := by
  obtain ⟨number, hnumber, ⟨hwidth, hlt⟩ | ⟨hwidth, hlt⟩⟩ := h
  · have hbytes : instruction.content = [lowByte number] := by
      simp [Instruction.content, bytes?, hnumber, hwidth]
    have hlow := toNat_lowByte number
    refine ⟨number, hnumber, by simp [hbytes, hwidth], ?_⟩
    simp only [hbytes, bigEndian, List.foldl_cons, List.foldl_nil]
    omega
  · have hbytes : instruction.content = [lowByte (number / 0x100), lowByte number] := by
      simp [Instruction.content, bytes?, hnumber, hwidth]
    have hlow := toNat_lowByte number
    have hhigh := toNat_lowByte (number / 0x100)
    refine ⟨number, hnumber, by simp [hbytes, hwidth], ?_⟩
    simp only [hbytes, bigEndian, List.foldl_cons, List.foldl_nil]
    omega

theorem Fits.length_content {instruction : Instruction} (h : instruction.Fits) :
    (instruction.content.length : Int) = instruction.width := by
  obtain ⟨number, -, hlength, -⟩ := h.content
  exact hlength

theorem Fits.width {instruction : Instruction} (h : instruction.Fits) :
    instruction.width = 1 ∨ instruction.width = 2 := by
  obtain ⟨number, -, hfits⟩ := h
  exact hfits.imp And.left And.left

theorem Fits.isSome {instruction : Instruction} (h : instruction.Fits) :
    instruction.encoded.isSome = true := by
  obtain ⟨number, hnumber, -⟩ := h
  simp [hnumber]

/-- Encoding sets the number and the width, the one that the mnemonic is known to have. -/
theorem encode_eq_with (h : instruction.encode labels = .ok encoded) :
    encoded = { instruction with
      encoded := encoded.encoded
      width := plannedWidth .byWidth instruction.tokens } := by
  obtain ⟨token, operands, mnemonic, made, htokens, hmnemonic, -, rfl⟩ := encode_eq_ok_iff.mp h
  simp [plannedWidth, htokens, hmnemonic]

theorem encode_fits (h : instruction.encode labels = .ok encoded) : encoded.Fits := by
  obtain ⟨token, operands, mnemonic, made, htokens, hmnemonic, hform, rfl⟩ :=
    encode_eq_ok_iff.mp h
  have hlt := hform.encoded_lt
  refine ⟨made.encoded, rfl, ?_⟩
  by_cases hdb : mnemonic = .db
  · subst hdb
    exact .inl ⟨rfl, hlt⟩
  · rw [Mnemonic.width_of_ne_db hdb] at hlt ⊢
    exact .inr ⟨rfl, hlt⟩

/-! ### All instructions -/

/-- What encoding an instruction makes of it, as far as `f` looks, it makes of each of several. -/
theorem map_eq_of_encodeEach {β : Type} {f g : Instruction → β}
    (hstep : ∀ instruction encoded : Instruction, instruction.encode labels = .ok encoded →
      f encoded = g instruction)
    {instructions made : List Instruction}
    (h : List.Forall₂ (fun instruction encoded => instruction.encode labels = .ok encoded)
      instructions made) : made.map f = instructions.map g := by
  induction h with
  | nil => rfl
  | cons hfirst _ ih => rw [List.map_cons, List.map_cons, ih, hstep _ _ hfirst]

/-- What does not look at the number and the width is the same of encoded instructions. -/
theorem map_encodeEach {β : Type} (f : Instruction → β)
    (hf : ∀ (instruction : Instruction) number width,
      f { instruction with encoded := number, width := width } = f instruction)
    {instructions made : List Instruction}
    (h : List.Forall₂ (fun instruction encoded => instruction.encode labels = .ok encoded)
      instructions made) : made.map f = instructions.map f := by
  refine map_eq_of_encodeEach (fun instruction encoded hencode => ?_) h
  rw [encode_eq_with hencode, hf]

/-- What holds of every instruction that has been encoded holds of several. -/
theorem forall_encodeEach {P : Instruction → Prop}
    (hP : ∀ instruction encoded : Instruction, instruction.encode labels = .ok encoded → P encoded)
    {instructions made : List Instruction}
    (h : List.Forall₂ (fun instruction encoded => instruction.encode labels = .ok encoded)
      instructions made) :
    ∀ encoded ∈ made, P encoded := by
  induction h with
  | nil => simp
  | cons hfirst _ ih => exact List.forall_mem_cons.mpr ⟨hP _ _ hfirst, ih⟩

/-- Encoding each of several instructions makes as many, and all of them fit. -/
theorem encodeEach_fits {instructions made : List Instruction}
    (h : List.Forall₂ (fun instruction encoded => instruction.encode labels = .ok encoded)
      instructions made) :
    ∀ encoded ∈ made, encoded.Fits :=
  forall_encodeEach (fun _ _ hencode => encode_fits hencode) h

/-- A run over all instructions meets no failure exactly if no instruction fails on its own. -/
theorem encodeAll_eq_none_iff {instructions made : List Instruction} :
    encodeAll labels instructions = (made, none) ↔
      List.Forall₂ (fun instruction encoded => instruction.encode labels = .ok encoded)
        instructions made := by
  induction instructions generalizing made with
  | nil => simp [encodeAll, eq_comm]
  | cons instruction rest ih =>
      cases hencode : instruction.encode labels with
      | error failure =>
          simp only [encodeAll, hencode, Prod.mk.injEq, reduceCtorEq, and_false, false_iff]
          intro hall
          cases hall with
          | cons hfirst _ =>
              rw [hencode] at hfirst
              contradiction
      | ok encoded =>
          simp only [encodeAll, hencode, Prod.mk.injEq]
          constructor
          · rintro ⟨rfl, hrest⟩
            exact .cons hencode (ih.mp (Prod.ext rfl hrest))
          · intro hall
            cases hall with
            | cons hfirst hrest =>
                obtain rfl := Except.ok.inj (hencode.symm.trans hfirst)
                rw [ih.mpr hrest]
                exact ⟨rfl, rfl⟩

/-- A run over all instructions meets a failure exactly if an instruction fails on its own.  It is the
failure of the first such instruction, and from there on all are left as they were. -/
theorem encodeAll_eq_some_iff {instructions made : List Instruction} {failure : Failure} :
    encodeAll labels instructions = (made, some failure) ↔
      ∃ before encodedBefore instruction after,
        instructions = before ++ instruction :: after ∧
        List.Forall₂ (fun instruction encoded => instruction.encode labels = .ok encoded)
          before encodedBefore ∧
        instruction.encode labels = .error failure ∧
        made = encodedBefore ++ instruction :: after := by
  induction instructions generalizing made with
  | nil => simp [encodeAll]
  | cons first rest ih =>
      cases hencode : first.encode labels with
      | error failure' =>
          simp only [encodeAll, hencode, Prod.mk.injEq, Option.some.injEq]
          constructor
          · rintro ⟨rfl, rfl⟩
            exact ⟨[], [], first, rest, rfl, .nil, hencode, rfl⟩
          · -- the first instruction fails, so none comes before the one that does
            rintro ⟨before, encodedBefore, instruction, after, heq, hbefore, hfails, rfl⟩
            cases hbefore with
            | nil =>
                obtain ⟨rfl, rfl⟩ := List.cons.inj heq
                exact ⟨rfl, Except.error.inj (hencode.symm.trans hfails)⟩
            | cons hfirst _ =>
                obtain ⟨rfl, -⟩ := List.cons.inj heq
                rw [hencode] at hfirst
                contradiction
      | ok encoded =>
          simp only [encodeAll, hencode, Prod.mk.injEq]
          constructor
          · rintro ⟨rfl, hrest⟩
            obtain ⟨before, encodedBefore, instruction, after, rfl, hbefore, hfails, hmade⟩ :=
              ih.mp (Prod.ext rfl hrest)
            exact ⟨first :: before, encoded :: encodedBefore, instruction, after, rfl,
              .cons hencode hbefore, hfails, congrArg _ hmade⟩
          · rintro ⟨before, encodedBefore, instruction, after, heq, hbefore, hfails, rfl⟩
            cases hbefore with
            | nil =>
                obtain ⟨rfl, rfl⟩ := List.cons.inj heq
                rw [hencode] at hfails
                contradiction
            | cons hfirst hbefore =>
                obtain ⟨rfl, rfl⟩ := List.cons.inj heq
                obtain rfl := Except.ok.inj (hencode.symm.trans hfirst)
                rw [ih.mpr ⟨_, _, _, _, rfl, hbefore, hfails, rfl⟩]
                exact ⟨rfl, rfl⟩

end Instruction

namespace Program

theorem encoded_eq_error_iff {program : Program} {failure : Failure} :
    program.encoded = .error failure ↔
      ∃ before encodedBefore instruction after,
        program.instructions = before ++ instruction :: after ∧
        List.Forall₂
          (fun instruction encoded => instruction.encode program.addresses = .ok encoded)
          before encodedBefore ∧
        instruction.encode program.addresses = .error failure := by
  have hall : (program.encode.1.instructions, program.encode.2) =
      Instruction.encodeAll program.addresses program.instructions := rfl
  unfold encoded
  generalize program.encode = run at hall
  obtain ⟨encoded, first⟩ := run
  constructor
  · intro h
    cases first with
    | none => contradiction
    | some first =>
        obtain rfl := Except.error.inj h
        obtain ⟨before, encodedBefore, instruction, after, heq, hbefore, hfails, -⟩ :=
          Instruction.encodeAll_eq_some_iff.mp hall.symm
        exact ⟨before, encodedBefore, instruction, after, heq, hbefore, hfails⟩
  · rintro ⟨before, encodedBefore, instruction, after, heq, hbefore, hfails⟩
    rw [Instruction.encodeAll_eq_some_iff.mpr ⟨_, _, _, _, heq, hbefore, hfails, rfl⟩] at hall
    obtain ⟨-, rfl⟩ := Prod.mk.inj hall
    rfl

theorem encoded_eq_ok_iff {program made : Program} :
    program.encoded = .ok made ↔
      List.Forall₂ (fun instruction encoded => instruction.encode program.addresses = .ok encoded)
          program.instructions made.instructions ∧
        made.labels = program.labels := by
  have hall : (program.encode.1.instructions, program.encode.2) =
      Instruction.encodeAll program.addresses program.instructions := rfl
  have hlabels : program.encode.1.labels = program.labels := rfl
  unfold encoded
  generalize program.encode = run at hall hlabels
  obtain ⟨encoded, failure⟩ := run
  cases failure with
  | none =>
      constructor
      · intro h
        obtain rfl : encoded = made := Except.ok.inj h
        exact ⟨Instruction.encodeAll_eq_none_iff.mp hall.symm, hlabels⟩
      · rintro ⟨hothers, hmade⟩
        have heq := hall.trans (Instruction.encodeAll_eq_none_iff.mpr hothers)
        exact congrArg Except.ok (Program.ext (congrArg Prod.fst heq) (hlabels.trans hmade.symm))
  | some failure =>
      simp only [reduceCtorEq, false_iff, not_and]
      intro hothers
      rw [Instruction.encodeAll_eq_none_iff.mpr hothers] at hall
      simp at hall

theorem labels_of_encoded {program made : Program} (h : program.encoded = .ok made) :
    made.labels = program.labels :=
  (encoded_eq_ok_iff.mp h).2

end Program

/-! ### Images -/

namespace Emitter

/-- Writing instructions that are encoded adds their bytes, and writing goes on with the rest. -/
theorem write_append (emitter : Emitter) {before : List Instruction}
    (h : ∀ instruction ∈ before, instruction.encoded.isSome = true) (rest : List Instruction) :
    emitter.write (before ++ rest) =
      Emitter.write
        { buffer := emitter.buffer ++ (before.flatMap Instruction.content).toArray } rest := by
  -- the buffer that the others are written to holds the bytes of the first instruction
  induction before generalizing emitter with
  | nil => simp
  | cons instruction others ih =>
      rw [List.forall_mem_cons] at h
      obtain ⟨number, hnumber⟩ := Option.isSome_iff_exists.mp h.1
      have hbytes : instruction.bytes? = some instruction.content := by
        simp [Instruction.content, Instruction.bytes?, hnumber]
      have hbuffer : emitter.buffer ++ instruction.content
            ++ (others.flatMap Instruction.content).toArray =
          emitter.buffer ++ ((instruction :: others).flatMap Instruction.content).toArray := by
        rw [← Array.toList_inj]
        simp
      simp only [List.cons_append, write, hbytes]
      rw [ih _ h.2, hbuffer]

theorem write_of_encoded (emitter : Emitter) {instructions : List Instruction}
    (h : ∀ instruction ∈ instructions, instruction.encoded.isSome = true) :
    emitter.write instructions =
      ({ buffer := emitter.buffer ++ (instructions.flatMap Instruction.content).toArray },
        none) := by
  have hwrite := emitter.write_append h []
  rwa [List.append_nil] at hwrite

/-- An emitter that is given encoded instructions returns their bytes, whatever it held. -/
theorem emit_of_encoded (emitter : Emitter) {instructions : List Instruction}
    (h : ∀ instruction ∈ instructions, instruction.encoded.isSome = true) :
    emitter.emit instructions =
      ({ buffer := (instructions.flatMap Instruction.content).toArray },
        .ok (instructions.flatMap Instruction.content)) := by
  unfold emit
  rw [write_of_encoded _ h]
  simp [clear]

end Emitter

theorem image_of_encoded {instructions : List Instruction}
    (h : ∀ instruction ∈ instructions, instruction.encoded.isSome = true) :
    image instructions = .ok (instructions.flatMap Instruction.content) := by
  unfold image
  rw [Emitter.emit_of_encoded _ h]

/-- Every instruction of a program that has been encoded fits. -/
theorem Program.fits_of_encoded {program made : Program} (h : program.encoded = .ok made) :
    ∀ instruction ∈ made.instructions, instruction.Fits := by
  exact Instruction.encodeEach_fits (Program.encoded_eq_ok_iff.mp h).1

theorem Program.image_of_encoded {program made : Program} (h : program.encoded = .ok made) :
    image made.instructions = .ok (made.instructions.flatMap Instruction.content) :=
  Chip8.image_of_encoded fun instruction hmem => (fits_of_encoded h instruction hmem).isSome

/-- An assembly is what comes out when the lines make a program whose instructions are all
encoded; its image then exists. -/
theorem assemble_eq_ok_iff {options : Options} {file source : Text} {assembly : Assembly} :
    assemble options file source = .ok assembly ↔
      ∃ parsed, Program.ofSource options file source = .ok parsed ∧
        parsed.encoded = .ok assembly.program ∧
        assembly.image = assembly.program.instructions.flatMap Instruction.content := by
  unfold assemble
  simp only [bind_eq_ok_iff, pure_eq_ok_iff]
  constructor
  · rintro ⟨parsed, hparsed, program, hprogram, bytes, hbytes, rfl⟩
    have hencoded : ∀ instruction ∈ program.instructions, instruction.encoded.isSome = true :=
      fun instruction hmem => (Program.fits_of_encoded hprogram instruction hmem).isSome
    rw [image_of_encoded hencoded] at hbytes
    exact ⟨parsed, hparsed, hprogram, (Except.ok.inj hbytes).symm⟩
  · rintro ⟨parsed, hparsed, hprogram, himage⟩
    have hencoded : ∀ instruction ∈ assembly.program.instructions,
        instruction.encoded.isSome = true :=
      fun instruction hmem => (Program.fits_of_encoded hprogram instruction hmem).isSome
    exact ⟨parsed, hparsed, assembly.program, hprogram, _, image_of_encoded hencoded,
      himage ▸ rfl⟩

/-- An assembly fails as the lines do, or as the first instruction that cannot be encoded. -/
theorem assemble_eq_error_iff {options : Options} {file source : Text} {failure : Failure} :
    assemble options file source = .error failure ↔
      Program.ofSource options file source = .error failure ∨
        ∃ parsed, Program.ofSource options file source = .ok parsed ∧
          parsed.encoded = .error failure := by
  unfold assemble
  cases hparsed : Program.ofSource options file source with
  | error first => simp [bind, Except.bind]
  | ok parsed =>
      cases hprogram : parsed.encoded with
      | error first => simp [bind, Except.bind, hprogram]
      | ok program =>
          have himage := Program.image_of_encoded hprogram
          simp [bind, Except.bind, pure, Except.pure, hprogram, himage]

end Chip8
