import Chip8.Proofs.Forms
import Chip8.Proofs.Packing

/-!
# The instruction table

The table gives each form of an instruction a number: the base of the form, with a register as the
third digit of base sixteen from the right, a second register as the second digit, and an address
or a value of its number of bits as the rest.  An instruction whose operands hold no blank is
encoded exactly if it is in the table, and then as the number that the table gives.
-/

namespace Chip8

namespace InstructionTable

/-- The numbers of the mnemonics without operands. -/
def bareRows : List (Text × Int) :=
  [("CLS".toList, 0x00E0), ("RET".toList, 0x00EE)]

/-- The bases of the mnemonics with an address alone. -/
def addressRows : List (Text × Int) :=
  [("SYS".toList, 0x0000), ("JP".toList, 0x1000), ("CALL".toList, 0x2000)]

/-- The bases of the mnemonics with a register alone. -/
def registerRows : List (Text × Int) :=
  [("SKP".toList, 0xE09E), ("SKNP".toList, 0xE0A1)]

/-- The bases of the loads from a register, by the place that is loaded. -/
def loadToRows : List (Text × Int) :=
  [("DT".toList, 0xF015), ("ST".toList, 0xF018), ("F".toList, 0xF029), ("B".toList, 0xF033),
   ("[I]".toList, 0xF055)]

/-- The bases of the loads to a register, by the place that it is loaded from. -/
def loadFromRows : List (Text × Int) :=
  [("DT".toList, 0xF007), ("K".toList, 0xF00A), ("[I]".toList, 0xF065)]

/-- The bases of the mnemonics with a register and a number. -/
def registerByteRows : List (Text × Int) :=
  [("SE".toList, 0x3000), ("SNE".toList, 0x4000), ("LD".toList, 0x6000), ("ADD".toList, 0x7000),
   ("RND".toList, 0xC000)]

/-- The bases of the mnemonics with two registers. -/
def registersRows : List (Text × Int) :=
  [("SE".toList, 0x5000), ("SNE".toList, 0x9000), ("LD".toList, 0x8000), ("ADD".toList, 0x8004),
   ("OR".toList, 0x8001), ("AND".toList, 0x8002), ("XOR".toList, 0x8003), ("SUB".toList, 0x8005),
   ("SHR".toList, 0x8006), ("SUBN".toList, 0x8007), ("SHL".toList, 0x800E)]

/-- The bases of the mnemonics that take one register for two. -/
def shiftRows : List (Text × Int) :=
  [("SHR".toList, 0x8006), ("SHL".toList, 0x800E)]

end InstructionTable

open InstructionTable in
/-- `Listed labels name operands number` holds when the table gives the number to the mnemonic and
the operands.  The mnemonic is in upper case. -/
inductive Listed (labels : LabelTable Int) : Text → List Token → Int → Prop
  | bare {name : Text} {base : Int} (h : (name, base) ∈ bareRows) : Listed labels name [] base
  | address {name : Text} {base : Int} {a : Token} {target : Int}
      (h : (name, base) ∈ addressRows) (ha : labels.Resolves a target) :
      Listed labels name [a] (base + target % 0x1000)
  | jumpFromRegister {r a : Token} {target : Int} (hr : Register.Spelled r 0)
      (ha : labels.Resolves a target) :
      Listed labels "JP".toList [r, a] (0xB000 + target % 0x1000)
  | loadAddress {i a : Token} {target : Int} (hi : Text.upper i = "I".toList)
      (ha : labels.Resolves a target) :
      Listed labels "LD".toList [i, a] (0xA000 + target % 0x1000)
  | register {name : Text} {base : Int} {r : Token} {x : Register}
      (h : (name, base) ∈ registerRows) (hr : Register.Spelled r x) :
      Listed labels name [r] (base + 0x100 * x)
  | loadTo {base : Int} {place r : Token} {x : Register}
      (h : (Text.upper place, base) ∈ loadToRows) (hr : Register.Spelled r x) :
      Listed labels "LD".toList [place, r] (base + 0x100 * x)
  | loadFrom {base : Int} {place r : Token} {x : Register}
      (h : (Text.upper place, base) ∈ loadFromRows) (hr : Register.Spelled r x) :
      Listed labels "LD".toList [r, place] (base + 0x100 * x)
  | addToAddress {i r : Token} {x : Register} (hi : Text.upper i = "I".toList)
      (hr : Register.Spelled r x) :
      Listed labels "ADD".toList [i, r] (0xF01E + 0x100 * x)
  | registerByte {name : Text} {base : Int} {r v : Token} {x : Register} {value : Nat}
      (h : (name, base) ∈ registerByteRows) (hr : Register.Spelled r x)
      (hv : Operand.ofToken v = .number value) :
      Listed labels name [r, v] (base + 0x100 * x + value % 0x100)
  | registers {name : Text} {base : Int} {r s : Token} {x y : Register}
      (h : (name, base) ∈ registersRows) (hr : Register.Spelled r x)
      (hs : Register.Spelled s y) :
      Listed labels name [r, s] (base + 0x100 * x + 0x10 * y)
  | shift {name : Text} {base : Int} {r : Token} {x : Register}
      (h : (name, base) ∈ shiftRows) (hr : Register.Spelled r x) :
      Listed labels name [r] (base + 0x100 * x + 0x10 * x)
  | sprite {r s v : Token} {x y : Register} {height : Nat} (hr : Register.Spelled r x)
      (hs : Register.Spelled s y) (hv : Operand.ofToken v = .number height) :
      Listed labels "DRW".toList [r, s, v] (0xD000 + 0x100 * x + 0x10 * y + height % 0x10)
  | word {a : Token} {value : Int} (ha : labels.Resolves a value) :
      Listed labels "DW".toList [a] (value % 0x10000)
  | byte {a : Token} {value : Int} (ha : labels.Resolves a value) :
      Listed labels "DB".toList [a] (value % 0x100)

namespace InstructionTable

/-- The row of a mnemonic's form: the spelling and the base. -/
def rowOf (form : Mnemonic × Opcode) : Text × Int :=
  (form.1.spelling, form.2.base)

/-- The row of a place that registers are loaded to or from: its name and the base. -/
def placeRowOf (place : Text × Opcode) : Text × Int :=
  (place.1, place.2.base)

theorem bareRows_eq : bareRows = Form.bareForms.map rowOf := by decide

theorem addressRows_eq : addressRows = Form.addressForms.map rowOf := by decide

theorem registerRows_eq : registerRows = Form.registerForms.map rowOf := by decide

theorem registerByteRows_eq : registerByteRows = Form.registerByteForms.map rowOf := by decide

theorem registersRows_eq : registersRows = Form.registersForms.map rowOf := by decide

theorem shiftRows_eq : shiftRows = Form.shiftForms.map rowOf := by decide

theorem loadToRows_eq : loadToRows = Opcode.loadsTo.map placeRowOf := by decide

theorem loadFromRows_eq : loadFromRows = Opcode.loadsFrom.map placeRowOf := by decide

theorem exists_form_of_mem {rows : List (Text × Int)} {forms : List (Mnemonic × Opcode)}
    (hrows : rows = forms.map rowOf) {name : Text} {base : Int} (h : (name, base) ∈ rows) :
    ∃ mnemonic opcode, (mnemonic, opcode) ∈ forms ∧ mnemonic.spelling = name ∧
      (opcode.base : Int) = base := by
  rw [hrows] at h
  obtain ⟨⟨mnemonic, opcode⟩, hform, hrow⟩ := List.mem_map.mp h
  exact ⟨mnemonic, opcode, hform, congrArg Prod.fst hrow, congrArg Prod.snd hrow⟩

theorem exists_place_of_mem {rows : List (Text × Int)} {places : List (Text × Opcode)}
    (hrows : rows = places.map placeRowOf) {name : Text} {base : Int} (h : (name, base) ∈ rows) :
    ∃ opcode, (name, opcode) ∈ places ∧ (opcode.base : Int) = base := by
  rw [hrows] at h
  obtain ⟨⟨place, opcode⟩, hplace, hrow⟩ := List.mem_map.mp h
  obtain rfl : place = name := congrArg Prod.fst hrow
  exact ⟨opcode, hplace, congrArg Prod.snd hrow⟩

end InstructionTable

/-! ### Forms and rows -/

namespace Form

open InstructionTable

variable {labels : LabelTable Int} {mnemonic : Mnemonic} {opcode : Opcode} {made : Operation}
  {operands : List Token}

/-- The bits for an address or for a register and a number are zero in the bases of such forms. -/
theorem base_mod_of_mem (h : (mnemonic, opcode) ∈ addressForms ++ registerByteForms) :
    opcode.base % 0x1000 = 0 := by
  have hall : ∀ form ∈ addressForms ++ registerByteForms, form.2.base % 0x1000 = 0 := by decide
  exact hall _ h

/-- The bits for two registers are zero in the bases of such forms. -/
theorem base_div_mod_of_mem (h : (mnemonic, opcode) ∈ registersForms ++ shiftForms) :
    opcode.base / 0x10 % 0x100 = 0 := by
  have hall : ∀ form ∈ registersForms ++ shiftForms, form.2.base / 0x10 % 0x100 = 0 := by decide
  exact hall _ h

/-- The table holds the forms of operands without a blank. -/
theorem listed (h : Form labels mnemonic operands made)
    (hunbroken : ∀ operand ∈ operands, Token.Unbroken operand) :
    Listed labels mnemonic.spelling operands made.encoded := by
  have hspelled {r : Token} {x : Register} (hmem : r ∈ operands)
      (hr : Register.ofToken? r = some x) : Register.Spelled r x :=
    (Register.ofToken?_eq_some_iff (hunbroken r hmem)).mp hr
  cases h with
  | bare h => exact .bare (bareRows_eq ▸ List.mem_map_of_mem h)
  | address h ha =>
      rw [Operation.encoded_address_eq (base_mod_of_mem (List.mem_append_left _ h))]
      exact .address (addressRows_eq ▸ List.mem_map_of_mem h) ha
  | jumpFromRegister hr ha =>
      rw [Operation.encoded_address_eq (by decide)]
      exact .jumpFromRegister (hspelled (by simp) hr) ha
  | loadAddress hi ha =>
      rw [Operation.encoded_address_eq (by decide)]
      exact .loadAddress hi ha
  | register h hr =>
      rw [Operation.encoded_register_eq]
      exact .register (registerRows_eq ▸ List.mem_map_of_mem h) (hspelled (by simp) hr)
  | @loadTo opcode place _ _ h hr =>
      rw [Operation.encoded_register_eq]
      have hrow : (Text.upper place, (opcode.base : Int)) ∈ loadToRows :=
        loadToRows_eq ▸ List.mem_map_of_mem h
      exact .loadTo hrow (hspelled (by simp) hr)
  | @loadFrom opcode place _ _ h hr =>
      rw [Operation.encoded_register_eq]
      have hrow : (Text.upper place, (opcode.base : Int)) ∈ loadFromRows :=
        loadFromRows_eq ▸ List.mem_map_of_mem h
      exact .loadFrom hrow (hspelled (by simp) hr)
  | addToAddress hi hr =>
      rw [Operation.encoded_register_eq]
      exact .addToAddress hi (hspelled (by simp) hr)
  | registerByte h hr hv =>
      rw [Operation.encoded_registerByte_eq (base_mod_of_mem (List.mem_append_right _ h))]
      exact .registerByte (registerByteRows_eq ▸ List.mem_map_of_mem h) (hspelled (by simp) hr) hv
  | registers h hr hs =>
      rw [Operation.encoded_registers_eq (base_div_mod_of_mem (List.mem_append_left _ h))]
      exact .registers (registersRows_eq ▸ List.mem_map_of_mem h) (hspelled (by simp) hr)
        (hspelled (by simp) hs)
  | shift h hr =>
      rw [Operation.encoded_registers_eq (base_div_mod_of_mem (List.mem_append_right _ h))]
      exact .shift (shiftRows_eq ▸ List.mem_map_of_mem h) (hspelled (by simp) hr)
  | sprite hr hs hv =>
      rw [Operation.encoded_sprite_eq]
      exact .sprite (hspelled (by simp) hr) (hspelled (by simp) hs) hv
  | word ha =>
      show Listed labels _ _ ((truncate 0x10000 _ : Fin 0x10000) : Int)
      rw [truncate_eq_emod]
      exact .word ha
  | byte ha =>
      show Listed labels _ _ ((truncate 0x100 _ : Fin 0x100) : Int)
      rw [truncate_eq_emod]
      exact .byte ha

end Form

namespace Listed

open InstructionTable

variable {labels : LabelTable Int} {name : Text} {operands : List Token} {number : Int}

/-- Every row of the table is a form that makes the row's number. -/
theorem exists_form (h : Listed labels name operands number)
    (hunbroken : ∀ operand ∈ operands, Token.Unbroken operand) :
    ∃ mnemonic made, mnemonic.spelling = name ∧ Form labels mnemonic operands made ∧
      (made.encoded : Int) = number := by
  have hregister {r : Token} {x : Register} (hmem : r ∈ operands)
      (hr : Register.Spelled r x) : Register.ofToken? r = some x :=
    (Register.ofToken?_eq_some_iff (hunbroken r hmem)).mpr hr
  cases h with
  | bare h =>
      obtain ⟨mnemonic, opcode, hform, rfl, rfl⟩ := exists_form_of_mem bareRows_eq h
      exact ⟨mnemonic, _, rfl, .bare hform, rfl⟩
  | address h ha =>
      obtain ⟨mnemonic, opcode, hform, rfl, rfl⟩ := exists_form_of_mem addressRows_eq h
      exact ⟨mnemonic, _, rfl, .address hform ha,
        Operation.encoded_address_eq (Form.base_mod_of_mem (List.mem_append_left _ hform)) _⟩
  | jumpFromRegister hr ha =>
      exact ⟨.jp, _, rfl, .jumpFromRegister (hregister (by simp) hr) ha,
        Operation.encoded_address_eq (by decide) _⟩
  | loadAddress hi ha =>
      exact ⟨.ld, _, rfl, .loadAddress hi ha, Operation.encoded_address_eq (by decide) _⟩
  | register h hr =>
      obtain ⟨mnemonic, opcode, hform, rfl, rfl⟩ := exists_form_of_mem registerRows_eq h
      exact ⟨mnemonic, _, rfl, .register hform (hregister (by simp) hr),
        Operation.encoded_register_eq _ _⟩
  | loadTo h hr =>
      obtain ⟨opcode, hplace, rfl⟩ := exists_place_of_mem loadToRows_eq h
      exact ⟨.ld, _, rfl, .loadTo hplace (hregister (by simp) hr),
        Operation.encoded_register_eq _ _⟩
  | loadFrom h hr =>
      obtain ⟨opcode, hplace, rfl⟩ := exists_place_of_mem loadFromRows_eq h
      exact ⟨.ld, _, rfl, .loadFrom hplace (hregister (by simp) hr),
        Operation.encoded_register_eq _ _⟩
  | addToAddress hi hr =>
      exact ⟨.add, _, rfl, .addToAddress hi (hregister (by simp) hr),
        Operation.encoded_register_eq _ _⟩
  | registerByte h hr hv =>
      obtain ⟨mnemonic, opcode, hform, rfl, rfl⟩ := exists_form_of_mem registerByteRows_eq h
      exact ⟨mnemonic, _, rfl, .registerByte hform (hregister (by simp) hr) hv,
        Operation.encoded_registerByte_eq (Form.base_mod_of_mem (List.mem_append_right _ hform))
          _ _⟩
  | registers h hr hs =>
      obtain ⟨mnemonic, opcode, hform, rfl, rfl⟩ := exists_form_of_mem registersRows_eq h
      exact ⟨mnemonic, _, rfl,
        .registers hform (hregister (by simp) hr) (hregister (by simp) hs),
        Operation.encoded_registers_eq (Form.base_div_mod_of_mem (List.mem_append_left _ hform))
          _ _⟩
  | shift h hr =>
      obtain ⟨mnemonic, opcode, hform, rfl, rfl⟩ := exists_form_of_mem shiftRows_eq h
      exact ⟨mnemonic, _, rfl, .shift hform (hregister (by simp) hr),
        Operation.encoded_registers_eq (Form.base_div_mod_of_mem (List.mem_append_right _ hform))
          _ _⟩
  | sprite hr hs hv =>
      exact ⟨.drw, _, rfl, .sprite (hregister (by simp) hr) (hregister (by simp) hs) hv,
        Operation.encoded_sprite_eq _ _ _⟩
  | word ha => exact ⟨.dw, _, rfl, .word ha, truncate_eq_emod _ _⟩
  | byte ha => exact ⟨.db, _, rfl, .byte ha, truncate_eq_emod _ _⟩

end Listed

namespace Mnemonic

/-- Only `DB` makes one byte. -/
theorem width_eq (mnemonic : Mnemonic) :
    (mnemonic.width : Int) = if mnemonic.spelling = "DB".toList then 1 else 2 := by
  cases mnemonic <;> rfl

end Mnemonic

namespace Instruction

/-- The encoder accepts exactly the instructions of the table and gives them the table's number.
Besides the number only the width is set. -/
theorem encode_eq_ok_iff_listed (labels : LabelTable Int) (instruction encoded : Instruction)
    (hunbroken : ∀ operand ∈ instruction.operands, Token.Unbroken operand) :
    instruction.encode labels = .ok encoded ↔
      ∃ token operands number, instruction.tokens = token :: operands ∧
        Listed labels (Text.upper token) operands number ∧
        encoded = { instruction with
          encoded := some number
          width := if Text.upper token = "DB".toList then 1 else 2 } := by
  rw [encode_eq_ok_iff]
  constructor
  · rintro ⟨token, operands, mnemonic, made, htokens, hmnemonic, hform, rfl⟩
    rw [operands_eq htokens] at hunbroken
    have hspelling := Mnemonic.ofToken?_eq_some_iff.mp hmnemonic
    refine ⟨token, operands, made.encoded, htokens, ?_, ?_⟩
    · exact hspelling ▸ hform.listed hunbroken
    · rw [hspelling, ← Mnemonic.width_eq]
  · rintro ⟨token, operands, number, htokens, hlisted, rfl⟩
    rw [operands_eq htokens] at hunbroken
    obtain ⟨mnemonic, made, hspelling, hform, rfl⟩ := hlisted.exists_form hunbroken
    refine ⟨token, operands, mnemonic, made, htokens, ?_, hform, ?_⟩
    · exact Mnemonic.ofToken?_eq_some_iff.mpr hspelling.symm
    · rw [← hspelling, ← Mnemonic.width_eq]

/-- An address of more than twelve bits loses the highest ones. -/
theorem encode_listed_loadAddress :
    let labels : LabelTable Int := { bindings := [⟨"LOOP".toList, 0x1234⟩] }
    let instruction : Instruction :=
      { written := [], tokens := ["ld".toList, "i".toList, "Loop".toList] }
    (∀ operand ∈ instruction.operands, Token.Unbroken operand) ∧
      instruction.encode labels = .ok { instruction with encoded := some 0xA234 } := by
  intro labels instruction
  have hunbroken : ∀ operand ∈ instruction.operands, Token.Unbroken operand := by decide
  have hresolves : labels.Resolves "Loop".toList 0x1234 := .label (by decide) (by decide)
  refine ⟨hunbroken, (encode_eq_ok_iff_listed labels instruction _ hunbroken).mpr ?_⟩
  exact ⟨"ld".toList, ["i".toList, "Loop".toList], 0xA234, rfl,
    .loadAddress (by decide) hresolves, by decide⟩

end Instruction

end Chip8
