import Chip8.Proofs.Definitions
import Chip8.Proofs.Encoding

/-!
# Outcomes

Where instructions stand decides what labels stand for, but not whether a program can be assembled.
No address and no width is looked at before an instruction is encoded, and then an address is a
number that goes into a word.  So assembling a source ends the same way whatever the step of
addresses: with a result, or with one failure, the same text and place and hints in it.
-/

namespace Chip8

/-- Holds when both computations have a result, or both fail with the same failure. -/
inductive Alike {α β : Type} : Except Failure α → Except Failure β → Prop
  | ok (a : α) (b : β) : Alike (.ok a) (.ok b)
  | error (failure : Failure) : Alike (.error failure) (.error failure)

namespace Alike

variable {α β γ δ : Type} {x : Except Failure α} {y : Except Failure β} {failure : Failure}

theorem refl (x : Except Failure α) : Alike x x := by
  cases x with
  | ok a => exact .ok a a
  | error failure => exact .error failure

theorem bind {f : α → Except Failure γ} {g : β → Except Failure δ} (h : Alike x y)
    (hf : ∀ a b, x = .ok a → y = .ok b → Alike (f a) (g b)) : Alike (x >>= f) (y >>= g) := by
  cases h with
  | ok a b => exact hf a b rfl rfl
  | error failure => exact .error failure

/-- What follows one and the same computation. -/
theorem bind_same {f : α → Except Failure γ} {g : α → Except Failure δ}
    (hf : ∀ a, Alike (f a) (g a)) : Alike (x >>= f) (x >>= g) := by
  apply (refl x).bind
  intro a b ha hb
  obtain rfl := Except.ok.inj (ha.symm.trans hb)
  exact hf a

theorem of_map_eq {f : α → γ} {g : β → γ} (h : x.map f = y.map g) : Alike x y := by
  cases x with
  | ok a =>
      cases y with
      | ok b => exact .ok a b
      | error failure => contradiction
  | error failure =>
      cases y with
      | ok b => contradiction
      | error other =>
          obtain rfl := Except.error.inj h
          exact .error failure

theorem error_iff (h : Alike x y) : x = .error failure ↔ y = .error failure := by
  cases h with
  | ok a b => simp
  | error other => simp

end Alike

theorem LabelTable.similar_map {α β : Type} (f : α → β) (table : LabelTable α) (name : Text) :
    (table.map f).similar name = table.similar name := by
  unfold similar
  rw [names_map]

/-! ### Encoding -/

namespace Instruction

/-- An instruction without what depends on the step of addresses. -/
def unplaced (instruction : Instruction) : Instruction :=
  { instruction with address := 0, width := 0 }

variable {table : LabelTable Nat} {instruction other : Instruction} {f g : Nat → Int}

theorem valueAt_alike (f g : Nat → Int) (instruction : Instruction) (position : Nat) :
    Alike (valueAt (table.map f) instruction position)
      (valueAt (table.map g) instruction position) := by
  apply Alike.bind_same
  intro token
  cases Operand.ofToken token with
  | number value => exact .ok _ _
  | malformed => exact .error _
  | label =>
      simp only [LabelTable.find?_map, LabelTable.similar_map]
      cases table.find? token with
      | some position => exact .ok _ _
      | none => exact .error _

theorem addressForm_alike (f g : Nat → Int) (instruction : Instruction) (opcode : Opcode)
    (position : Nat) :
    Alike (addressForm (table.map f) instruction opcode position)
      (addressForm (table.map g) instruction opcode position) :=
  (valueAt_alike f g instruction position).bind fun _ _ _ _ => .ok _ _

theorem jump_alike (f g : Nat → Int) (instruction : Instruction) :
    Alike (jump (table.map f) instruction) (jump (table.map g) instruction) := by
  unfold jump
  split
  · exact addressForm_alike f g instruction .jp 1
  · apply Alike.bind_same
    intro offset
    split
    · exact addressForm_alike f g instruction .jpV0 2
    · exact .refl _

theorem load_alike (f g : Nat → Int) (instruction : Instruction) :
    Alike (load (table.map f) instruction) (load (table.map g) instruction) := by
  apply Alike.bind_same
  intro first
  apply Alike.bind_same
  intro second
  split
  · exact addressForm_alike f g instruction .ldI 2
  · exact .refl _

theorem operation_alike (f g : Nat → Int) (instruction : Instruction) (mnemonic : Mnemonic) :
    Alike (operation (table.map f) instruction mnemonic)
      (operation (table.map g) instruction mnemonic) := by
  cases mnemonic with
  | sys => exact addressForm_alike f g instruction .sys 1
  | jp => exact jump_alike f g instruction
  | call => exact addressForm_alike f g instruction .call 1
  | ld => exact load_alike f g instruction
  | dw | db => exact (valueAt_alike f g instruction 1).bind fun _ _ _ _ => .ok _ _
  | _ => exact .refl _

/-- No address and no width is read by an operation. -/
theorem operation_unplaced (labels : LabelTable Int) (instruction : Instruction)
    (mnemonic : Mnemonic) :
    operation labels instruction.unplaced mnemonic = operation labels instruction mnemonic := by
  cases mnemonic <;> rfl

/-- Encoding fails alike wherever the instruction and the labels stand. -/
theorem encode_alike (f g : Nat → Int) (h : instruction.unplaced = other.unplaced) :
    Alike (instruction.encode (table.map f)) (other.encode (table.map g)) := by
  have htokens : instruction.tokens = other.tokens := by
    show instruction.unplaced.tokens = other.unplaced.tokens
    rw [h]
  have hlocation : instruction.location = other.location := by
    show instruction.unplaced.location = other.unplaced.location
    rw [h]
  have hplace (position : Int) : instruction.locationOf position = other.locationOf position := by
    show instruction.unplaced.locationOf position = other.unplaced.locationOf position
    rw [h]
  have hreport (location : Location) (cause : Cause) :
      instruction.report location cause = other.report location cause := by
    show instruction.unplaced.report location cause = other.unplaced.report location cause
    rw [h]
  have hoperation (mnemonic : Mnemonic) :
      operation (table.map g) other mnemonic = operation (table.map g) instruction mnemonic := by
    rw [← operation_unplaced, ← h, operation_unplaced]
  -- what is left of the two instructions in their reports is the same
  unfold encode
  rw [← htokens]
  cases instruction.tokens with
  | nil =>
      rw [hreport, hlocation]
      exact .error _
  | cons token operands =>
      cases hmnemonic : Mnemonic.ofToken? token with
      | none =>
          simp only [hmnemonic, hreport, hplace]
          exact .error _
      | some mnemonic =>
          simp only [hmnemonic, hoperation, malformed, hreport, hplace]
          split
          · exact (operation_alike f g instruction mnemonic).bind fun _ _ _ _ => .ok _ _
          · exact .error _

/-- A run over instructions meets one failure wherever they and the labels stand. -/
theorem encodeAll_alike (f g : Nat → Int) {instructions others : List Instruction}
    (h : instructions.map unplaced = others.map unplaced) :
    (encodeAll (table.map f) instructions).2 = (encodeAll (table.map g) others).2 := by
  induction instructions generalizing others with
  | nil =>
      obtain rfl := List.map_eq_nil_iff.mp h.symm
      rfl
  | cons instruction rest ih =>
      obtain ⟨other, others, rfl, hother, hrest⟩ := List.map_eq_cons_iff.mp h.symm
      -- either both runs stop at this instruction or both go on with the rest
      have halike : Alike (instruction.encode (table.map f)) (other.encode (table.map g)) :=
        encode_alike f g hother.symm
      unfold encodeAll
      generalize instruction.encode (table.map f) = first at halike
      generalize other.encode (table.map g) = second at halike
      cases halike with
      | ok _ _ => exact ih hrest.symm
      | error failure => rfl

end Instruction

namespace Program

variable {program other : Program}

/-- A program without what depends on the step of addresses. -/
def unplaced (program : Program) : Program :=
  program.withInstructions (program.instructions.map Instruction.unplaced)
    (List.length_map _)

theorem encoded_alike (h : program.unplaced = other.unplaced) :
    Alike program.encoded other.encoded := by
  have hlabels : program.labels = other.labels := by
    show program.unplaced.labels = other.unplaced.labels
    rw [h]
  have hinstructions : program.instructions.map Instruction.unplaced =
      other.instructions.map Instruction.unplaced := by
    show program.unplaced.instructions = other.unplaced.instructions
    rw [h]
  have hfailure : program.encode.2 = other.encode.2 := by
    obtain ⟨_, -, haddresses⟩ := exists_address program
    obtain ⟨_, -, haddresses'⟩ := exists_address other
    show (Instruction.encodeAll program.addresses _).2 = (Instruction.encodeAll other.addresses _).2
    rw [haddresses, haddresses', ← hlabels]
    exact Instruction.encodeAll_alike _ _ hinstructions
  unfold encoded
  generalize program.encode = run at hfailure
  generalize other.encode = otherRun at hfailure
  obtain ⟨made, failure⟩ := run
  obtain ⟨otherMade, otherFailure⟩ := otherRun
  obtain rfl : failure = otherFailure := hfailure
  cases failure with
  | none => exact .ok _ _
  | some failure => exact .error failure

/-! ### Definitions of labels -/

theorem define_unplaced (program : Program) (name : Text) (position : Nat) :
    program.unplaced.define name position =
      (program.define name position).map unplaced := by
  have hlength : program.unplaced.instructions.length = program.instructions.length :=
    List.length_map _
  have hfirst (earlier : Nat) :
      program.unplaced.instructions[earlier]?.map (·.location) =
        program.instructions[earlier]?.map (·.location) := by
    show (List.map _ _)[earlier]?.map _ = _
    rw [List.getElem?_map, Option.map_map]
    rfl
  have hrefusal : program.unplaced.labels.refusal? name = program.labels.refusal? name := rfl
  unfold define
  by_cases h : position < program.instructions.length
  · have hbound : position < program.unplaced.instructions.length := hlength ▸ h
    have hinstruction : program.unplaced.instructions[position] =
        program.instructions[position].unplaced := List.getElem_map _
    rw [dif_pos h, dif_pos hbound, hrefusal]
    cases program.labels.refusal? name with
    | none => rfl
    | some earlier =>
        simp only [hinstruction, hfirst]
        rfl
  · rw [dif_neg h, dif_neg (hlength ▸ h)]
    rfl

theorem defineAll_unplaced (program : Program) (definitions : List (Text × Nat)) :
    program.unplaced.defineAll definitions =
      (program.defineAll definitions).map unplaced := by
  induction definitions generalizing program with
  | nil => rfl
  | cons definition rest ih =>
      obtain ⟨name, position⟩ := definition
      unfold defineAll
      rw [define_unplaced]
      cases program.define name position with
      | ok defined => exact ih defined
      | error failure => rfl

theorem definitions_unplaced (instructions : List Instruction) :
    definitions (instructions.map Instruction.unplaced) = definitions instructions :=
  definitions_map Instruction.unplaced (fun _ => rfl) instructions

theorem map_unplaced_place (step step' : AddressStep) (address address' : Int) (index : Nat)
    (lines : List Line) :
    (place step address index lines).map Instruction.unplaced =
      (place step' address' index lines).map Instruction.unplaced := by
  induction lines generalizing address address' index with
  | nil => rfl
  | cons line rest ih => exact List.cons_eq_cons.mpr ⟨rfl, ih _ _ _⟩

/-! ### Sources -/

section Sources

variable {step step' : AddressStep} {strict : Bool} {file source : Text}

theorem unlabelled_unplaced (step step' : AddressStep) (strict : Bool) (lines : List Line) :
    (unlabelled ⟨step, strict⟩ lines).unplaced = (unlabelled ⟨step', strict⟩ lines).unplaced := by
  exact Program.ext (map_unplaced_place step step' programStart programStart 0 (usable lines)) rfl

theorem ofSource_alike (step step' : AddressStep) (strict : Bool) (file source : Text) :
    Alike (ofSource ⟨step, strict⟩ file source) (ofSource ⟨step', strict⟩ file source) := by
  have hplaced := unlabelled_unplaced step step' strict (Source.lines file source)
  have hdefinitions (options : Options) :
      definitions (unlabelled options (Source.lines file source)).instructions =
        definitions (unlabelled options (Source.lines file source)).unplaced.instructions :=
    (definitions_unplaced _).symm
  rw [ofSource_eq_defineAll, ofSource_eq_defineAll]
  apply Alike.of_map_eq (f := unplaced) (g := unplaced)
  rw [← defineAll_unplaced, ← defineAll_unplaced, hdefinitions, hdefinitions, hplaced]

theorem labelled_unplaced (step step' : AddressStep) (strict : Bool) (lines : List Line) :
    (labelled ⟨step, strict⟩ lines).unplaced = (labelled ⟨step', strict⟩ lines).unplaced := by
  have hplaced := map_unplaced_place step step' programStart programStart 0 lines
  have hdefinitions : definitions (place step programStart 0 lines) =
      definitions (place step' programStart 0 lines) := by
    rw [← definitions_unplaced, map_unplaced_place step step' programStart programStart,
      definitions_unplaced]
  refine Program.ext hplaced ?_
  show LabelTable.mk strict _ = LabelTable.mk strict _
  rw [hdefinitions]

end Sources

end Program

/-- Assembling a source has a result, or fails with the same failure, whatever the step. -/
theorem assemble_alike (step step' : AddressStep) (strict : Bool) (file source : Text) :
    Alike (assemble ⟨step, strict⟩ file source) (assemble ⟨step', strict⟩ file source) := by
  apply (Program.ofSource_alike step step' strict file source).bind
  intro parsed other hparsed hother
  obtain ⟨-, rfl⟩ := Program.ofSource_eq_ok_iff.mp hparsed
  obtain ⟨-, rfl⟩ := Program.ofSource_eq_ok_iff.mp hother
  apply (Program.encoded_alike (Program.labelled_unplaced step step' strict _)).bind
  intro program other hprogram hother
  -- both programs have an image, since both have been encoded
  rw [Program.image_of_encoded hprogram, Program.image_of_encoded hother]
  exact .ok _ _

end Chip8
