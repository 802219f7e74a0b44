import Chip8.Proofs.Forms
import Chip8.Proofs.Packing

/-!
# Decoding words

The bits of a word that belong to no operand field tell the forms of the instructions apart, and
no field reaches into them.  So a word can be read back: the form is the one whose base word the
word has in these bits, and the fields are what stands at their places.  `SYS` is left out, since
its words are all those below 0x1000 and `CLS` and `RET` have theirs among them, and so is data,
which may be any word.
-/

namespace Chip8

/-- How the operand fields lie in the words of a form. -/
inductive Layout
  | bare | address | register | registerByte | registers | registersNibble
  deriving DecidableEq, Repr

/-- The bits of a word that are in no operand field. -/
def Layout.fixedBits : Layout → Nat
  | .bare => 0xFFFF
  | .address | .registerByte | .registersNibble => 0xF000
  | .register => 0xF0FF
  | .registers => 0xF00F

namespace Opcode

/-- The operand fields of a form. -/
def layout : Opcode → Layout
  | .cls | .ret => .bare
  | .sys | .jp | .call | .ldI | .jpV0 => .address
  | .skp | .sknp | .ldVxDt | .ldVxK | .ldDtVx | .ldStVx | .addIVx | .ldFVx | .ldBVx | .ldMemVx
  | .ldVxMem => .register
  | .seByte | .sneByte | .ldByte | .addByte | .rnd => .registerByte
  | .seReg | .sneReg | .ldReg | .addReg | .or | .and | .xor | .sub | .shr | .subn | .shl =>
      .registers
  | .drw => .registersNibble

/-- The mnemonic of a form. -/
def mnemonic : Opcode → Mnemonic
  | .sys => .sys
  | .cls => .cls
  | .ret => .ret
  | .jp | .jpV0 => .jp
  | .call => .call
  | .seByte | .seReg => .se
  | .sneByte | .sneReg => .sne
  | .ldByte | .ldReg | .ldI | .ldVxDt | .ldVxK | .ldDtVx | .ldStVx | .ldFVx | .ldBVx | .ldMemVx
  | .ldVxMem => .ld
  | .addByte | .addReg | .addIVx => .add
  | .or => .or
  | .and => .and
  | .xor => .xor
  | .sub => .sub
  | .shr => .shr
  | .subn => .subn
  | .shl => .shl
  | .rnd => .rnd
  | .drw => .drw
  | .skp => .skp
  | .sknp => .sknp

/-- Holds when a word has the base word of a form outside the operand fields. -/
def matchesWord (opcode : Opcode) (word : Nat) : Bool :=
  word &&& opcode.layout.fixedBits == opcode.base

end Opcode

namespace Operation

/-- The operation of a form whose fields are what stands at their places in a word. -/
def read (opcode : Opcode) (word : Nat) : Operation :=
  let x : Register := ⟨word / 0x100 % 0x10, by omega⟩
  let y : Register := ⟨word / 0x10 % 0x10, by omega⟩
  match opcode.layout with
  | .bare => .bare opcode
  | .address => .address opcode ⟨word % 0x1000, by omega⟩
  | .register => .register opcode x
  | .registerByte => .registerByte opcode x ⟨word % 0x100, by omega⟩
  | .registers => .registers opcode x y
  | .registersNibble => .registersNibble opcode x y ⟨word % 0x10, by omega⟩

/-- The mnemonic that an operation is written with. -/
def mnemonic : Operation → Mnemonic
  | bare opcode | address opcode _ | register opcode _ | registerByte opcode _ _
  | registers opcode _ _ | registersNibble opcode _ _ _ => opcode.mnemonic
  | word _ => .dw
  | byte _ => .db

/-- `OfForm opcode operation` holds when the operation has the form and the form's fields. -/
inductive OfForm (opcode : Opcode) : Operation → Prop
  | bare (h : opcode.layout = .bare) : OfForm opcode (.bare opcode)
  | address (h : opcode.layout = .address) (target : Fin 0x1000) :
      OfForm opcode (.address opcode target)
  | register (h : opcode.layout = .register) (x : Register) :
      OfForm opcode (.register opcode x)
  | registerByte (h : opcode.layout = .registerByte) (x : Register) (value : Fin 0x100) :
      OfForm opcode (.registerByte opcode x value)
  | registers (h : opcode.layout = .registers) (x y : Register) :
      OfForm opcode (.registers opcode x y)
  | registersNibble (h : opcode.layout = .registersNibble) (x y : Register)
      (value : Fin 0x10) : OfForm opcode (.registersNibble opcode x y value)

end Operation

/-! ### Bits of their own -/

/-- A field has no bit in common with a mask that is zero at its place. -/
theorem shiftLeft_and_eq_zero (mask : Nat) {k w x : Nat} (hzero : mask / 2 ^ k % 2 ^ w = 0)
    (hx : x < 2 ^ w) : x <<< k &&& mask = 0 := by
  apply Nat.eq_of_testBit_eq
  intro i
  rw [Nat.testBit_and, Nat.testBit_shiftLeft, Nat.zero_testBit]
  by_cases hlow : k ≤ i
  · -- bit `i` of the mask is bit `i - k` above the field's place
    have hmask : (mask / 2 ^ k % 2 ^ w).testBit (i - k) = false := by
      rw [hzero, Nat.zero_testBit]
    rw [Nat.testBit_mod_two_pow, Nat.testBit_div_two_pow, Nat.sub_add_cancel hlow] at hmask
    by_cases hhigh : i - k < w
    · have hbit : mask.testBit i = false := by simpa [hhigh] using hmask
      rw [hbit, Bool.and_false]
    · have hbit : x.testBit (i - k) = false :=
        Nat.testBit_lt_two_pow
          (Nat.lt_of_lt_of_le hx (Nat.pow_le_pow_right (by decide) (Nat.le_of_not_lt hhigh)))
      rw [hbit, Bool.and_false, Bool.false_and]
  · simp [hlow]

namespace Opcode

theorem base_and_fixedBits (opcode : Opcode) :
    opcode.base &&& opcode.layout.fixedBits = opcode.base := by
  cases opcode <;> rfl

/-- A word has the fixed bits of one form only, `SYS` aside. -/
theorem eq_of_matchesWord {f g : Opcode} {word : Nat} (hf : f ≠ .sys) (hg : g ≠ .sys)
    (hword : f.matchesWord word = true) (hword' : g.matchesWord word = true) : f = g := by
  have hdisjoint : ∀ f ∈ all, ∀ g ∈ all, f ≠ .sys → g ≠ .sys →
      f.base &&& g.layout.fixedBits = g.base &&& f.layout.fixedBits → f = g := by
    decide +kernel
  refine hdisjoint f (mem_all f) g (mem_all g) hf hg ?_
  -- both sides are the bits of the word that are fixed in both forms
  rw [← beq_iff_eq.mp hword, ← beq_iff_eq.mp hword', Nat.and_assoc, Nat.and_assoc,
    Nat.and_comm f.layout.fixedBits]

end Opcode

/-! ### Words of operations -/

namespace Operation.OfForm

variable {opcode : Opcode} {made : Operation}

/-- The fields of an operation leave the fixed bits of its form alone. -/
theorem encoded_and_fixedBits (h : OfForm opcode made) :
    made.encoded &&& opcode.layout.fixedBits = opcode.base := by
  have hbase := opcode.base_and_fixedBits
  have hx (x : Register) {mask : Nat} (hzero : mask / 2 ^ 8 % 2 ^ 4 = 0) :
      x.val <<< 8 &&& mask = 0 := shiftLeft_and_eq_zero mask hzero x.isLt
  have hy (y : Register) {mask : Nat} (hzero : mask / 2 ^ 4 % 2 ^ 4 = 0) :
      y.val <<< 4 &&& mask = 0 := shiftLeft_and_eq_zero mask hzero y.isLt
  have hlow {w value mask : Nat} (hvalue : value < 2 ^ w) (hzero : mask / 2 ^ 0 % 2 ^ w = 0) :
      value &&& mask = 0 := by
    simpa using shiftLeft_and_eq_zero mask hzero hvalue
  cases h with
  | bare _ => exact hbase
  | address hlayout target =>
      rw [hlayout] at hbase ⊢
      rw [encoded, Nat.and_or_distrib_right, hbase, hlow (w := 12) target.isLt (by decide),
        Nat.or_zero]
  | register hlayout x =>
      rw [hlayout] at hbase ⊢
      rw [encoded, Nat.and_or_distrib_right, hbase, hx x (by decide), Nat.or_zero]
  | registerByte hlayout x value =>
      rw [hlayout] at hbase ⊢
      rw [encoded, Nat.and_or_distrib_right, Nat.and_or_distrib_right, hbase,
        hx x (by decide), hlow (w := 8) value.isLt (by decide), Nat.or_zero, Nat.or_zero]
  | registers hlayout x y =>
      rw [hlayout] at hbase ⊢
      rw [encoded, Nat.and_or_distrib_right, Nat.and_or_distrib_right, hbase,
        hx x (by decide), hy y (by decide), Nat.or_zero, Nat.or_zero]
  | registersNibble hlayout x y value =>
      rw [hlayout] at hbase ⊢
      rw [encoded, Nat.and_or_distrib_right, Nat.and_or_distrib_right,
        Nat.and_or_distrib_right, hbase, hx x (by decide), hy y (by decide),
        hlow (w := 4) value.isLt (by decide), Nat.or_zero, Nat.or_zero, Nat.or_zero]

end Operation.OfForm

/-! ### Words of instructions -/

/-- Holds of the mnemonics whose words can be read back: all but `SYS` and those of data. -/
def Mnemonic.Decodable (mnemonic : Mnemonic) : Prop :=
  mnemonic ∉ [Mnemonic.sys, .dw, .db]

instance (mnemonic : Mnemonic) : Decidable mnemonic.Decodable :=
  inferInstanceAs (Decidable (mnemonic ∉ [Mnemonic.sys, .dw, .db]))

namespace Form

variable {labels : LabelTable Int} {mnemonic : Mnemonic} {operands : List Token}
  {made : Operation}

/-- Every form but those of data has an opcode, which belongs to the mnemonic. -/
theorem exists_ofForm (h : Form labels mnemonic operands made)
    (hcode : mnemonic ∉ [Mnemonic.dw, .db]) :
    ∃ opcode, Operation.OfForm opcode made ∧ opcode.mnemonic = mnemonic := by
  have hrow (layout : Layout) {table : List (Mnemonic × Opcode)} {opcode : Opcode}
      (htable : ∀ form ∈ table, form.2.layout = layout ∧ form.2.mnemonic = form.1)
      (hmem : (mnemonic, opcode) ∈ table) :
      opcode.layout = layout ∧ opcode.mnemonic = mnemonic := htable _ hmem
  have hplace {table : List (Text × Opcode)} {place : Text} {opcode : Opcode}
      (htable : ∀ form ∈ table, form.2.layout = .register ∧ form.2.mnemonic = .ld)
      (hmem : (place, opcode) ∈ table) :
      opcode.layout = .register ∧ opcode.mnemonic = .ld := htable _ hmem
  cases h with
  | bare h =>
      obtain ⟨hlayout, hmnemonic⟩ := hrow .bare (by decide) h
      exact ⟨_, .bare hlayout, hmnemonic⟩
  | address h _ =>
      obtain ⟨hlayout, hmnemonic⟩ := hrow .address (by decide) h
      exact ⟨_, .address hlayout _, hmnemonic⟩
  | jumpFromRegister _ _ => exact ⟨.jpV0, .address rfl _, rfl⟩
  | loadAddress _ _ => exact ⟨.ldI, .address rfl _, rfl⟩
  | register h _ =>
      obtain ⟨hlayout, hmnemonic⟩ := hrow .register (by decide) h
      exact ⟨_, .register hlayout _, hmnemonic⟩
  | loadTo h _ =>
      obtain ⟨hlayout, hmnemonic⟩ := hplace (by decide) h
      exact ⟨_, .register hlayout _, hmnemonic⟩
  | loadFrom h _ =>
      obtain ⟨hlayout, hmnemonic⟩ := hplace (by decide) h
      exact ⟨_, .register hlayout _, hmnemonic⟩
  | addToAddress _ _ => exact ⟨.addIVx, .register rfl _, rfl⟩
  | registerByte h _ _ =>
      obtain ⟨hlayout, hmnemonic⟩ := hrow .registerByte (by decide) h
      exact ⟨_, .registerByte hlayout _ _, hmnemonic⟩
  | registers h _ _ =>
      obtain ⟨hlayout, hmnemonic⟩ := hrow .registers (by decide) h
      exact ⟨_, .registers hlayout _ _, hmnemonic⟩
  | shift h _ =>
      obtain ⟨hlayout, hmnemonic⟩ := hrow .registers (by decide) h
      exact ⟨_, .registers hlayout _ _, hmnemonic⟩
  | sprite _ _ _ => exact ⟨.drw, .registersNibble rfl _ _ _, rfl⟩
  | word _ => simp at hcode
  | byte _ => simp at hcode

end Form

namespace Instruction

end Instruction

end Chip8
