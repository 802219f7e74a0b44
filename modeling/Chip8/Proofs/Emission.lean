import Chip8.Proofs.AddressStep
import Chip8.Proofs.SharedProgram
import Mathlib.Data.List.SplitLengths

/-!
# Emission

An emitter writes the number of each instruction in as many bytes as its width says, and stops at
the first instruction without a number.  After encoding no number is too large for its bytes, so an
image that is cut by the widths of its instructions gives every number back.  An emitter may be used
again: a call that failed leaves bytes behind, and no later call sees them.
-/

namespace Chip8

namespace Instruction

variable {labels : LabelTable Int} {instruction encoded first : Instruction}
  {instructions before : List Instruction}

/-! ### Reading an image back -/

/-- The pieces that bytes are cut into from the start, each as long as the width of its
instruction says. -/
def pieces (instructions : List Instruction) (bytes : List UInt8) : List (List UInt8) :=
  (instructions.map (·.width.toNat)).splitLengths bytes

/-- Holds of bytes that can be cut by the widths of instructions, with none left over, and that
give back the number of each instruction when the pieces are read. -/
structure ReadBack (instructions : List Instruction) (bytes : List UInt8) : Prop where
  length : (bytes.length : Int) = extent instructions
  widths : (pieces instructions bytes).map (fun piece => (piece.length : Int)) =
    instructions.map (·.width)
  whole : (pieces instructions bytes).flatten = bytes
  numbers : (pieces instructions bytes).map (fun piece => some (bigEndian piece : Int)) =
    instructions.map (·.encoded)

/-- Cutting the bytes of instructions that fit gives the bytes of each. -/
theorem pieces_contents (h : ∀ instruction ∈ instructions, instruction.Fits) :
    pieces instructions (instructions.flatMap content) = instructions.map content := by
  induction instructions with
  | nil => rfl
  | cons first rest ih =>
      obtain ⟨hfirst, hrest⟩ := List.forall_mem_cons.mp h
      -- the first cut falls where the bytes of the first instruction end
      have hwidth : first.width.toNat = first.content.length := by
        have hlength := hfirst.length_content
        omega
      unfold pieces at ih ⊢
      rw [List.map_cons, List.flatMap_cons, List.splitLengths_cons, hwidth, List.take_left,
        List.drop_left, ih hrest, List.map_cons]

theorem readBack_contents (h : ∀ instruction ∈ instructions, instruction.Fits) :
    ReadBack instructions (instructions.flatMap content) := by
  have hpieces := pieces_contents h
  refine ⟨length_contents h, ?widths, ?whole, ?numbers⟩
  case widths =>
    rw [hpieces, List.map_map]
    exact List.map_congr_left fun instruction hmem => (h instruction hmem).length_content
  case whole => rw [hpieces, List.flatMap_def]
  case numbers =>
    rw [hpieces, List.map_map]
    refine List.map_congr_left fun instruction hmem => ?_
    obtain ⟨number, hnumber, -, hvalue⟩ := (h instruction hmem).content
    rw [Function.comp_apply, hvalue, hnumber]

/-! ### Widths of encoded instructions -/

theorem plannedWidth_eq_one_iff {tokens : List Token} :
    plannedWidth .byWidth tokens = 1 ↔ tokens.head?.bind Mnemonic.ofToken? = some .db := by
  unfold plannedWidth
  cases tokens.head?.bind Mnemonic.ofToken? with
  | none => simp
  | some mnemonic => cases mnemonic <;> simp [Mnemonic.width]

/-- An encoded instruction takes up a single byte exactly if it is `DB`, whatever width it had. -/
theorem width_eq_one_iff_of_encode (h : instruction.encode labels = .ok encoded) :
    encoded.width = 1 ↔ encoded.mnemonic? = some .db := by
  rw [encode_eq_with h]
  exact plannedWidth_eq_one_iff

/-! ### The first instruction without a number -/

/-- Holds of the first of several instructions that has no number, and of those before it. -/
structure FirstUnencoded (instructions before : List Instruction) (first : Instruction) :
    Prop where
  split : ∃ after, instructions = before ++ first :: after
  encoded : ∀ instruction ∈ before, instruction.encoded.isSome = true
  missing : first.encoded = none

/-- Either every instruction has a number, or there is a first one without. -/
theorem encoded_or_firstUnencoded (instructions : List Instruction) :
    (∀ instruction ∈ instructions, instruction.encoded.isSome = true) ∨
      ∃ before first, FirstUnencoded instructions before first := by
  cases hfind : instructions.find? (·.encoded.isNone) with
  | none =>
      refine .inl fun instruction hmem => Option.isSome_iff_ne_none.mpr ?_
      simpa using List.find?_eq_none.mp hfind instruction hmem
  | some first =>
      obtain ⟨hnone, before, after, hsplit, hbefore⟩ := List.find?_eq_some_iff_append.mp hfind
      refine .inr ⟨before, first, ⟨after, hsplit⟩, fun instruction hmem => ?_, ?_⟩
      · simpa using hbefore instruction hmem
      · simpa using hnone

theorem FirstUnencoded.mem (h : FirstUnencoded instructions before first) :
    first ∈ instructions := by
  obtain ⟨after, rfl⟩ := h.split
  exact List.mem_append_right _ List.mem_cons_self

end Instruction

namespace Emitter

open Instruction (FirstUnencoded content)

variable {emitter : Emitter} {first : Instruction} {instructions before : List Instruction}
  {failure : Failure}

/-! ### One call -/

/-- An emitter fails at the first instruction without a number, and keeps the bytes of those
before it. -/
theorem emit_of_firstUnencoded (emitter : Emitter)
    (h : FirstUnencoded instructions before first) :
    emitter.emit instructions =
      ({ buffer := (before.flatMap content).toArray },
        .error (.notEncoded first.index first.location.line)) := by
  obtain ⟨⟨after, rfl⟩, hbefore, hnone⟩ := h
  have hbytes : first.bytes? = none := by
    unfold Instruction.bytes?
    rw [hnone, Option.map_none]
  unfold emit
  rw [write_append _ hbefore]
  simp [write, hbytes, clear]

/-- A call fails exactly if there is a first instruction without a number, and names it. -/
theorem emit_eq_error_iff :
    (emitter.emit instructions).2 = .error failure ↔
      ∃ before first, FirstUnencoded instructions before first ∧
        failure = .notEncoded first.index first.location.line := by
  constructor
  · intro h
    rcases Instruction.encoded_or_firstUnencoded instructions with hall | ⟨before, first, hfirst⟩
    · rw [emit_of_encoded emitter hall] at h
      contradiction
    · rw [emit_of_firstUnencoded emitter hfirst] at h
      exact ⟨before, first, hfirst, (Except.error.inj h).symm⟩
  · rintro ⟨before, first, hfirst, rfl⟩
    rw [emit_of_firstUnencoded emitter hfirst]

/-- A call fails exactly if some instruction has no number. -/
theorem emit_fails_iff :
    (∃ failure, (emitter.emit instructions).2 = .error failure) ↔
      ∃ instruction ∈ instructions, instruction.encoded = none := by
  constructor
  · rintro ⟨failure, h⟩
    obtain ⟨before, first, hfirst, -⟩ := emit_eq_error_iff.mp h
    exact ⟨first, hfirst.mem, hfirst.missing⟩
  · rintro ⟨instruction, hmem, hnone⟩
    rcases Instruction.encoded_or_firstUnencoded instructions with hall | ⟨before, first, hfirst⟩
    · have hsome := hall instruction hmem
      rw [hnone] at hsome
      contradiction
    · exact ⟨_, emit_eq_error_iff.mpr ⟨before, first, hfirst, rfl⟩⟩

/-! ### Many calls -/

/-- What calls leave of an emitter, made one after the other whether or not they fail, and what
comes of each. -/
def emitEach (emitter : Emitter) :
    List (List Instruction) → Emitter × List (Except Failure (List UInt8))
  | [] => (emitter, [])
  | instructions :: rest =>
      let (used, outcome) := emitter.emit instructions
      let (last, outcomes) := used.emitEach rest
      (last, outcome :: outcomes)

/-- A call clears the buffer first, so it ends as it does on an emitter that was never used. -/
theorem emit_eq (emitter : Emitter) (instructions : List Instruction) :
    emitter.emit instructions = emit {} instructions := rfl

/-- Calls made one after the other have the outcomes of calls on emitters that were never used. -/
theorem emitEach_snd (emitter : Emitter) (calls : List (List Instruction)) :
    (emitter.emitEach calls).2 =
      calls.map fun instructions => (emit {} instructions).2 := by
  -- the emitter that a call leaves is another one, so the induction is for all of them
  induction calls generalizing emitter with
  | nil => rfl
  | cons instructions rest ih =>
      calc (emitter.emitEach (instructions :: rest)).2
          = (emitter.emit instructions).2 :: ((emitter.emit instructions).1.emitEach rest).2 := rfl
        _ = _ := by rw [ih, emit_eq, List.map_cons]

end Emitter

/-! ### Encoded programs -/

/-- Holds of instructions whose numbers fit into their bytes, one for `DB` and two for any other,
and of which every emitter, used or not, makes an image that gives the numbers back. -/
structure Instruction.Recoverable (instructions : List Instruction) : Prop where
  fits : ∀ instruction ∈ instructions, instruction.Fits
  width : ∀ instruction ∈ instructions,
    instruction.width = 1 ↔ instruction.mnemonic? = some .db
  image : ∀ emitter : Emitter, ∃ bytes,
    (emitter.emit instructions).2 = .ok bytes ∧ ReadBack instructions bytes

namespace Instruction

variable {labels : LabelTable Int} {instructions made : List Instruction}

theorem recoverable_of_fits (hfits : ∀ instruction ∈ instructions, instruction.Fits)
    (hwidth : ∀ instruction ∈ instructions,
      instruction.width = 1 ↔ instruction.mnemonic? = some .db) :
    Recoverable instructions := by
  refine ⟨hfits, hwidth, fun emitter => ⟨instructions.flatMap content, ?_,
    readBack_contents hfits⟩⟩
  rw [emitter.emit_of_encoded fun instruction hmem => (hfits instruction hmem).isSome]

/-- After a run over all instructions that met no failure, their numbers can be recovered. -/
theorem recoverable_of_encodeAll (h : encodeAll labels instructions = (made, none)) :
    Recoverable made := by
  have heach := encodeAll_eq_none_iff.mp h
  refine recoverable_of_fits (encodeEach_fits heach) ?width
  case width => exact forall_encodeEach (fun _ _ => width_eq_one_iff_of_encode) heach

end Instruction

/-- The same holds where instructions are listed several times and labels are on others. -/
theorem SharedProgram.recoverable_of_encode {ι : Type} [DecidableEq ι]
    {program made : SharedProgram ι} (h : program.encode = (made, none)) :
    Instruction.Recoverable made.instructions := by
  have hstops := program.encode_stopsAt
  rw [h] at hstops
  have heach : ∀ instruction ∈ made.instructions, ∃ object,
      (program.objects object).encode program.addresses = .ok instruction := by
    intro instruction hmem
    obtain ⟨object, hlisted, rfl⟩ := List.mem_map.mp hmem
    exact ⟨object, (hstops.all rfl).1 object (hstops.listed ▸ hlisted)⟩
  refine Instruction.recoverable_of_fits (fun instruction hmem => ?_) fun instruction hmem => ?_
  · obtain ⟨object, hencode⟩ := heach instruction hmem
    exact Instruction.encode_fits hencode
  · obtain ⟨object, hencode⟩ := heach instruction hmem
    exact Instruction.width_eq_one_iff_of_encode hencode

/-- After encoding, whatever labels stand for and whatever was encoded before, numbers can be read
back from the image by the widths of the instructions.  An emitter carries nothing over from one
call to the next.  A call fails exactly if some instruction has no number, and names the first
one. -/
theorem emit_decodable :
    (∀ labels instructions made, Instruction.encodeAll labels instructions = (made, none) →
      Instruction.Recoverable made) ∧
    (∀ program made : Program, program.encode = (made, none) →
      Instruction.Recoverable made.instructions) ∧
    (∀ (ι : Type) [DecidableEq ι] (program made : SharedProgram ι),
      program.encode = (made, none) → Instruction.Recoverable made.instructions) ∧
    (∀ (emitter : Emitter) calls, (emitter.emitEach calls).2 =
      calls.map fun instructions => (Emitter.emit {} instructions).2) ∧
    ∀ (emitter : Emitter) instructions,
      ((∃ failure, (emitter.emit instructions).2 = .error failure) ↔
        ∃ instruction ∈ instructions, instruction.encoded = none) ∧
      ∀ failure, (emitter.emit instructions).2 = .error failure →
        ∃ before first, Instruction.FirstUnencoded instructions before first ∧
          failure = .notEncoded first.index first.location.line ∧
          failure.message = "instruction ".toList ++ Text.decimal first.index ++
            " at line ".toList ++ Text.decimal first.location.line ++
            " has not been compiled".toList := by
  refine ⟨?instructions, ?program, ?shared, Emitter.emitEach_snd,
    fun emitter instructions => ?failures⟩
  case instructions =>
    intro labels instructions made h
    exact Instruction.recoverable_of_encodeAll h
  case program =>
    intro program made h
    obtain ⟨hmade, hnone⟩ := Prod.mk.inj h
    obtain rfl := hmade
    exact Instruction.recoverable_of_encodeAll (Prod.ext rfl hnone)
  case shared => exact fun _ _ _ _ h => SharedProgram.recoverable_of_encode h
  case failures =>
    refine ⟨Emitter.emit_fails_iff, ?_⟩
    intro failure h
    obtain ⟨before, first, hfirst, rfl⟩ := Emitter.emit_eq_error_iff.mp h
    exact ⟨before, first, hfirst, rfl, rfl⟩

/-- Labels below zero and above sixteen bits are cut off to numbers that can be read back, also by
way of an emitter that an earlier call left with the first byte of its instructions. -/
theorem emit_decodable_reused :
    let low : Instruction :=
      { written := [], tokens := ["DB".toList, "LOW".toList], address := -1, width := 7,
        encoded := some 99999 }
    let high : Instruction :=
      { written := [], tokens := ["DW".toList, "HIGH".toList], address := 70000 }
    let jump : Instruction :=
      { written := [], tokens := ["JP".toList, "LOW".toList], location := ⟨[], 3, 1⟩, index := 2 }
    let labels : LabelTable Nat := ⟨false, [⟨"LOW".toList, 0⟩, ⟨"HIGH".toList, 1⟩]⟩
    let byte : Instruction := { low with encoded := some 0xFF, width := 1 }
    let made : List Instruction :=
      [byte, { high with encoded := some 0x1170 }, { jump with encoded := some 0x1FFF }]
    let used : Emitter := (Emitter.emit {} [byte, jump]).1
    let program : Program :=
      { instructions := [low, high, jump], labels := labels, bound := by decide }
    let encoded : Program := { instructions := made, labels := labels, bound := by decide }
    program.encode = (encoded, none) ∧
      used.buffer = #[0xFF] ∧
      (∃ bytes, (used.emit made).2 = .ok bytes ∧ bytes = [0xFF, 0x11, 0x70, 0x1F, 0xFF] ∧
        Instruction.ReadBack made bytes) ∧
      (Emitter.emitEach {} [made, [byte, jump], made]).2 =
        [.ok [0xFF, 0x11, 0x70, 0x1F, 0xFF], .error (.notEncoded 2 3),
          .ok [0xFF, 0x11, 0x70, 0x1F, 0xFF]] := by
  intro low high jump labels byte made used program encoded
  have hencode : program.encode = (encoded, none) := by
    decide +kernel
  have hbytes : (used.emit made).2 = .ok [0xFF, 0x11, 0x70, 0x1F, 0xFF] := by
    decide +kernel
  refine ⟨hencode, by decide +kernel, ?image, ?calls⟩
  case image =>
    obtain ⟨bytes, himage, hread⟩ := (emit_decodable.2.1 _ _ hencode).image used
    exact ⟨bytes, himage, Except.ok.inj (himage.symm.trans hbytes), hread⟩
  case calls =>
    rw [emit_decodable.2.2.2.1]
    decide +kernel

end Chip8
