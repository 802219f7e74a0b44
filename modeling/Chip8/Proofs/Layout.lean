import Chip8.Proofs.Definitions
import Chip8.Proofs.Encoding

/-!
# Layout

Three passes count bytes: lines are placed with the widths that their mnemonics promise, encoding
sets the final widths, and the emitter puts bytes in a row.  Where addresses step by width they
agree.  Each instruction then stands at the place of its own bytes in the image, and each label
stands for the place of the last line that defines it.
-/

namespace Chip8

namespace Instruction

variable {labels : LabelTable Int} {instruction encoded : Instruction}
  {instructions made : List Instruction}

/-- Holds when the width of an instruction is the one that its mnemonic promises. -/
def Planned (instruction : Instruction) : Prop :=
  instruction.width = plannedWidth .byWidth instruction.tokens

/-- Encoding an instruction of planned width sets nothing but its number. -/
theorem Planned.encode_eq_with (hplanned : instruction.Planned)
    (h : instruction.encode labels = .ok encoded) :
    encoded = { instruction with encoded := encoded.encoded } := by
  have hframe := Instruction.encode_eq_with h
  rw [← hplanned] at hframe
  exact hframe

/-- What does not depend on the numbers is the same before and after encoding. -/
theorem map_eq_of_encoded {β : Type} (f : Instruction → β)
    (hf : ∀ (instruction : Instruction) number,
      f { instruction with encoded := number } = f instruction)
    (hplanned : ∀ instruction ∈ instructions, instruction.Planned)
    (h : List.Forall₂ (fun instruction encoded => instruction.encode labels = .ok encoded)
      instructions made) :
    made.map f = instructions.map f := by
  induction h with
  | nil => rfl
  | @cons instruction encoded _ _ hencode _ ih =>
      obtain ⟨hfirst, hrest⟩ := List.forall_mem_cons.mp hplanned
      have hsame : f encoded = f instruction := by
        rw [hfirst.encode_eq_with hencode, hf]
      rw [List.map_cons, List.map_cons, hsame, ih hrest]

/-- Instructions take up as much as others of the same widths. -/
theorem extent_congr (h : made.map (·.width) = instructions.map (·.width)) :
    extent made = extent instructions := by
  induction made generalizing instructions with
  | nil =>
      cases instructions with
      | nil => rfl
      | cons other others => contradiction
  | cons first rest ih =>
      cases instructions with
      | nil => contradiction
      | cons other others =>
          obtain ⟨hfirst, hrest⟩ := List.cons.inj h
          have hwidth : first.width = other.width := hfirst
          rw [extent, extent, ih hrest, hwidth]

theorem extent_take_congr (h : made.map (·.width) = instructions.map (·.width))
    (count : Nat) : extent (made.take count) = extent (instructions.take count) := by
  apply extent_congr
  rw [List.map_take, List.map_take, h]

/-- Instructions that fit take up as many bytes as they make. -/
theorem length_contents (h : ∀ instruction ∈ instructions, instruction.Fits) :
    ((instructions.flatMap content).length : Int) = extent instructions := by
  induction instructions with
  | nil => rfl
  | cons first rest ih =>
      obtain ⟨hfirst, hrest⟩ := List.forall_mem_cons.mp h
      rw [List.flatMap_cons, List.length_append, Int.natCast_add, hfirst.length_content,
        ih hrest, extent]

/-! ### Instructions in an image -/

/-- The bytes that an image has at the address of an instruction, as many as its width says. -/
def slice (instruction : Instruction) (image : List UInt8) : List UInt8 :=
  (image.drop (instruction.address - programStart).toNat).take instruction.width.toNat

/-- After the bytes of the instructions before it come those of the instruction. -/
theorem drop_contents {position : Nat} (h : instructions[position]? = some instruction) :
    (instructions.flatMap content).drop
        ((instructions.take position).flatMap content).length =
      instruction.content ++ (instructions.drop (position + 1)).flatMap content := by
  obtain ⟨hbound, rfl⟩ := List.getElem?_eq_some_iff.mp h
  have hsplit : instructions =
      instructions.take position ++ instructions[position] :: instructions.drop (position + 1) := by
    rw [List.getElem_cons_drop, List.take_append_drop]
  have hbytes := congrArg (List.flatMap content) hsplit
  rw [List.flatMap_append, List.flatMap_cons] at hbytes
  rw [hbytes, List.drop_left]

/-- Each byte belongs to an instruction. -/
theorem exists_owner {place : Nat} (h : place < (instructions.flatMap content).length) :
    ∃ position instruction, instructions[position]? = some instruction ∧
      ((instructions.take position).flatMap content).length ≤ place ∧
      place < ((instructions.take position).flatMap content).length +
        instruction.content.length := by
  induction instructions generalizing place with
  | nil => contradiction
  | cons first rest ih =>
      by_cases hfirst : place < first.content.length
      · exact ⟨0, first, rfl, Nat.zero_le _, by simpa using hfirst⟩
      · -- the byte belongs to the rest, where it is counted from the end of the first instruction
        rw [List.flatMap_cons, List.length_append] at h
        have hlater : place - first.content.length < (rest.flatMap content).length := by omega
        obtain ⟨position, instruction, hget, hlow, hhigh⟩ := ih hlater
        refine ⟨position + 1, instruction, hget, ?_, ?_⟩ <;>
        · rw [List.take_succ_cons, List.flatMap_cons, List.length_append]
          omega

/-- The bytes of an instruction end before those of any later one. -/
theorem end_le_start {earlier later : Nat} (h : instructions[earlier]? = some instruction)
    (hlt : earlier < later) :
    ((instructions.take earlier).flatMap content).length + instruction.content.length ≤
      ((instructions.take later).flatMap content).length := by
  have htake : (instructions.take (earlier + 1)).flatMap content =
      (instructions.take earlier).flatMap content ++ instruction.content := by
    obtain ⟨hbound, rfl⟩ := List.getElem?_eq_some_iff.mp h
    rw [List.take_succ_eq_append_getElem hbound, List.flatMap_append, List.flatMap_singleton]
  have hpre : instructions.take (earlier + 1) <+: instructions.take later :=
    List.take_prefix_take_left hlt
  obtain ⟨rest, hrest⟩ := hpre
  rw [← hrest, List.flatMap_append, htake, List.length_append, List.length_append]
  omega

end Instruction

/-! ### Placed lines -/

namespace Program

/-- Where addresses step by width, placed instructions have the widths their mnemonics promise. -/
theorem place_planned (address : Int) (index : Nat) (lines : List Line) :
    ∀ instruction ∈ place .byWidth address index lines, instruction.Planned := by
  induction lines generalizing address index with
  | nil => simp [place]
  | cons line rest ih => exact List.forall_mem_cons.mpr ⟨rfl, ih _ _⟩

theorem place_written (step : AddressStep) (address : Int) (index : Nat) (lines : List Line) :
    (place step address index lines).map (·.written) = lines.map (·.tokens) := by
  induction lines generalizing address index with
  | nil => rfl
  | cons line rest ih => exact congrArg (line.tokens :: ·) (ih _ _)

/-- An address is the start of the program plus what the instructions before take up. -/
theorem place_address {step : AddressStep} {lines : List Line} {position : Nat} {address : Int}
    (h : ((place step programStart 0 lines).map (·.address))[position]? = some address) :
    address =
      programStart + Instruction.extent ((place step programStart 0 lines).take position) := by
  rw [List.getElem?_map, getElem?_place] at h
  obtain ⟨instruction, hinstruction, rfl⟩ := Option.map_eq_some_iff.mp h
  obtain ⟨line, -, rfl⟩ := Option.map_eq_some_iff.mp hinstruction
  rfl

end Program

/-! ### Instructions that stand in a row -/

namespace Instruction

variable {instruction : Instruction} {instructions : List Instruction}

/-- Holds when the address of each instruction is where the bytes of those before it end. -/
def Contiguous (instructions : List Instruction) : Prop :=
  ∀ position instruction, instructions[position]? = some instruction →
    instruction.address =
      programStart + ((instructions.take position).flatMap content).length

/-- Holds when a byte of an image lies in the instruction at a position, going by its address and
its width. -/
def Owns (instructions : List Instruction) (place position : Nat) : Prop :=
  ∃ instruction : Instruction, instructions[position]? = some instruction ∧
    instruction.address ≤ programStart + place ∧
    programStart + place < instruction.address + instruction.width

theorem Contiguous.slice_eq (hrow : Contiguous instructions)
    (hfits : ∀ instruction ∈ instructions, instruction.Fits)
    (h : instruction ∈ instructions) :
    instruction.slice (instructions.flatMap content) = instruction.content := by
  obtain ⟨position, hget⟩ := List.mem_iff_getElem?.mp h
  have hlength := (hfits instruction h).length_content
  have hstart : (instruction.address - programStart).toNat =
      ((instructions.take position).flatMap content).length := by
    rw [hrow position instruction hget]
    omega
  have hwidth : instruction.width.toNat = instruction.content.length := by omega
  unfold slice
  rw [hstart, hwidth, drop_contents hget, List.take_left]

/-- An instruction ends before any later one starts. -/
theorem Contiguous.end_le_address (hrow : Contiguous instructions)
    (hfits : ∀ instruction ∈ instructions, instruction.Fits) {earlier later : Nat}
    {other : Instruction} (h : instructions[earlier]? = some instruction)
    (hother : instructions[later]? = some other) (hlt : earlier < later) :
    instruction.address + instruction.width ≤ other.address := by
  have hlength := (hfits instruction (List.mem_of_getElem? h)).length_content
  have hle := end_le_start h hlt
  rw [hrow earlier instruction h, hrow later other hother]
  omega

/-- Two instructions that own one byte stand at one position. -/
theorem Contiguous.owner_unique (hrow : Contiguous instructions)
    (hfits : ∀ instruction ∈ instructions, instruction.Fits) {place position other : Nat}
    (h : Owns instructions place position) (hother : Owns instructions place other) :
    other = position := by
  obtain ⟨instruction, hget, hstart, hend⟩ := h
  obtain ⟨found, hfound, hfoundStart, hfoundEnd⟩ := hother
  rcases Nat.lt_trichotomy other position with hlt | heq | hgt
  · have hle := hrow.end_le_address hfits hfound hget hlt
    omega
  · exact heq
  · have hle := hrow.end_le_address hfits hget hfound hgt
    omega

theorem Contiguous.owner (hrow : Contiguous instructions)
    (hfits : ∀ instruction ∈ instructions, instruction.Fits) {place : Nat}
    (h : place < (instructions.flatMap content).length) :
    ∃! position, Owns instructions place position := by
  obtain ⟨position, instruction, hget, hlow, hhigh⟩ := exists_owner h
  have hlength := (hfits instruction (List.mem_of_getElem? hget)).length_content
  have haddress := hrow position instruction hget
  have howns : Owns instructions place position :=
    ⟨instruction, hget, by omega, by omega⟩
  exact ⟨position, howns, fun other hother => hrow.owner_unique hfits howns hother⟩

end Instruction

/-! ### Assemblies -/

/-- Holds when the instructions of an assembly are those of the lines, each stands at the place of
its own bytes in the image, every byte belongs to one instruction, and each label stands for the
place of the last line that defines it.  The labels are the names that lines define, each as it is
spelled last. -/
structure LaidOut (lines : List Line) (assembly : Assembly) : Prop where
  written : assembly.program.instructions.map (·.written) = lines.map (·.tokens)
  address : ∀ position instruction,
    assembly.program.instructions[position]? = some instruction →
      ∃ before, image (assembly.program.instructions.take position) = .ok before ∧
        instruction.address = programStart + before.length
  slice : ∀ instruction ∈ assembly.program.instructions, ∃ number : Nat,
    instruction.encoded = some (number : Int) ∧
      (instruction.width = 1 ∨ instruction.width = 2) ∧
      ((instruction.slice assembly.image).length : Int) = instruction.width ∧
      bigEndian (instruction.slice assembly.image) = number
  owner : ∀ place : Nat, place < assembly.image.length →
    ∃! position, Instruction.Owns assembly.program.instructions place position
  label : ∀ name address, (name, address) ∈ assembly.labels →
    ∃ position before, Source.LastDefinition lines name position ∧
      position < assembly.program.instructions.length ∧
      image (assembly.program.instructions.take position) = .ok before ∧
      address = programStart + before.length
  named : ∀ name position, Source.DefinedAt lines name position →
    ∃ spelled last address, Source.LastDefinition lines spelled last ∧
      Text.upper spelled = Text.upper name ∧ (spelled, address) ∈ assembly.labels

section Assemblies

variable {strict : Bool} {file source : Text} {program : Program} {assembly : Assembly}

/-- Encoding the program of a source changes the numbers of its instructions and nothing else. -/
theorem map_instructions_of_encoded {β : Type} (f : Instruction → β)
    (hf : ∀ (instruction : Instruction) number,
      f { instruction with encoded := number } = f instruction)
    (h : (Program.labelled ⟨.byWidth, strict⟩ (Source.lines file source)).encoded =
      .ok program) :
    program.instructions.map f =
      (Program.place .byWidth programStart 0 (Source.lines file source)).map f := by
  obtain ⟨hall, -⟩ := Program.encoded_eq_ok_iff.mp h
  rw [Program.labelled_instructions] at hall
  exact Instruction.map_eq_of_encoded f hf (Program.place_planned _ _ _) hall

theorem contiguous_of_encoded
    (h : (Program.labelled ⟨.byWidth, strict⟩ (Source.lines file source)).encoded =
      .ok program) :
    Instruction.Contiguous program.instructions := by
  intro position instruction hget
  have hfits := Program.fits_of_encoded h
  have haddresses := map_instructions_of_encoded (·.address) (fun _ _ => rfl) h
  have hwidths := map_instructions_of_encoded (·.width) (fun _ _ => rfl) h
  have hplaced : ((Program.place .byWidth programStart 0 (Source.lines file source)).map
      (·.address))[position]? = some instruction.address := by
    rw [← haddresses, List.getElem?_map, hget, Option.map_some]
  -- the placed address counts planned widths, and those are the widths of the encoded instructions
  have hbefore : ∀ earlier ∈ program.instructions.take position, earlier.Fits :=
    fun earlier hmem => hfits earlier (List.mem_of_mem_take hmem)
  rw [Program.place_address hplaced, Instruction.length_contents hbefore,
    Instruction.extent_take_congr hwidths]

theorem image_take (h : ∀ instruction ∈ program.instructions, instruction.Fits)
    (position : Nat) :
    image (program.instructions.take position) =
      .ok ((program.instructions.take position).flatMap Instruction.content) :=
  image_of_encoded fun instruction hmem =>
    (h instruction (List.mem_of_mem_take hmem)).isSome

/-- The labels of an encoded program are the names as they are defined last, and each stands for the
address of the line that does. -/
theorem mem_labels_of_encoded_iff {options : Options}
    (h : (Program.labelled options (Source.lines file source)).encoded = .ok program)
    {name : Text} {address : Int} :
    (name, address) ∈ program.addresses.toList ↔
      ∃ position instruction, Source.LastDefinition (Source.lines file source) name position ∧
        program.instructions[position]? = some instruction ∧ instruction.address = address := by
  have hsolid := Source.lines_unbroken file source
  rw [Program.mem_toList_addresses_iff, Program.labels_of_encoded h]
  constructor
  · rintro ⟨binding, instruction, hbinding, hget, rfl, rfl⟩
    exact ⟨_, instruction, (Program.mem_labelled_iff hsolid).mp hbinding, hget, rfl⟩
  · rintro ⟨position, instruction, hlast, hget, rfl⟩
    exact ⟨⟨name, position⟩, instruction, (Program.mem_labelled_iff hsolid).mpr hlast, hget, rfl, rfl⟩

/-- Every name that a line defines is a label, as it is spelled last. -/
theorem exists_label_of_encoded {options : Options}
    (h : (Program.labelled options (Source.lines file source)).encoded = .ok program)
    {name : Text} {position : Nat}
    (hdefined : Source.DefinedAt (Source.lines file source) name position) :
    ∃ spelled last address, Source.LastDefinition (Source.lines file source) spelled last ∧
      Text.upper spelled = Text.upper name ∧ (spelled, address) ∈ program.addresses.toList := by
  obtain ⟨spelled, last, hlast, hkey⟩ :=
    Program.exists_lastDefinition (Source.lines_unbroken file source) hdefined
  have hlength : last < program.instructions.length := by
    obtain ⟨line, hline, -⟩ := hlast.1
    rw [← (Program.encoded_eq_ok_iff.mp h).1.length_eq, Program.labelled_instructions,
      Program.length_place]
    exact (List.getElem?_eq_some_iff.mp hline).1
  have hget := List.getElem?_eq_getElem hlength
  exact ⟨spelled, last, _, hlast, hkey,
    (mem_labels_of_encoded_iff h).mpr ⟨last, _, hlast, hget, rfl⟩⟩

/-- An assembly whose addresses step by width is laid out, and the widths that its lines are placed
with are those that its instructions end up with. -/
theorem assemble_byWidth_laidOut
    (h : assemble ⟨.byWidth, strict⟩ file source = .ok assembly) :
    LaidOut (Source.lines file source) assembly ∧
      ∃ parsed, Program.ofSource ⟨.byWidth, strict⟩ file source = .ok parsed ∧
        parsed.instructions.map (·.width) = assembly.program.instructions.map (·.width) := by
  obtain ⟨parsed, hparsed, hencoded, himage⟩ := assemble_eq_ok_iff.mp h
  obtain ⟨-, rfl⟩ := Program.ofSource_eq_ok_iff.mp hparsed
  have hfits := Program.fits_of_encoded hencoded
  have hrow := contiguous_of_encoded hencoded
  have hwritten := map_instructions_of_encoded (·.written) (fun _ _ => rfl) hencoded
  have hwidths := map_instructions_of_encoded (·.width) (fun _ _ => rfl) hencoded
  refine ⟨⟨?written, ?address, ?slice, ?owner, ?label, ?named⟩, _, hparsed, ?widths⟩
  case written => rw [hwritten, Program.place_written]
  case address =>
    intro position instruction hget
    exact ⟨_, image_take hfits position, hrow position instruction hget⟩
  case slice =>
    intro instruction hmem
    have hbytes : instruction.slice assembly.image = instruction.content := by
      rw [himage]
      exact hrow.slice_eq hfits hmem
    obtain ⟨number, hnumber, hlength, hvalue⟩ := (hfits instruction hmem).content
    rw [hbytes]
    exact ⟨number, hnumber, (hfits instruction hmem).width, hlength, hvalue⟩
  case owner =>
    intro place hplace
    rw [himage] at hplace
    exact hrow.owner hfits hplace
  case label =>
    intro name address hmem
    obtain ⟨position, instruction, hlast, hget, rfl⟩ :=
      (mem_labels_of_encoded_iff hencoded).mp hmem
    exact ⟨position, _, hlast, (List.getElem?_eq_some_iff.mp hget).1,
      image_take hfits position, hrow position instruction hget⟩
  case named => exact fun _ _ hdefined => exists_label_of_encoded hencoded hdefined
  case widths => rw [Program.labelled_instructions, hwidths]

/-- A label that is defined again behind a single byte stands for an odd address. -/
theorem assemble_byte_laidOut :
    ∃ assembly, assemble ⟨.byWidth, false⟩ [] "A: DB 7\na: JP A".toList = .ok assembly ∧
      assembly.image = [0x07, 0x12, 0x01] ∧
      LaidOut (Source.lines [] "A: DB 7\na: JP A".toList) assembly := by
  have himage : (assemble ⟨.byWidth, false⟩ [] "A: DB 7\na: JP A".toList).map (·.image) =
      .ok [0x07, 0x12, 0x01] := by
    decide +kernel
  cases h : assemble ⟨.byWidth, false⟩ [] "A: DB 7\na: JP A".toList with
  | error failure =>
      rw [h] at himage
      contradiction
  | ok assembly =>
      rw [h] at himage
      exact ⟨assembly, rfl, Except.ok.inj himage, (assemble_byWidth_laidOut h).1⟩

end Assemblies

end Chip8
