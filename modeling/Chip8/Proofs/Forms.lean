import Chip8.Encoding
import Chip8.Proofs.Spelling
import Mathlib.Data.List.Basic

/-!
# The forms of the instructions

The encoder tries the readings of an instruction one after the other.  `Form` lists what can come
out of that: the forms of the instructions, each with the operation that it makes.  The main result
is that an instruction is encoded exactly if its mnemonic and operands have one of the forms, and
that the number made is then the one of the form's operation.
-/

namespace Chip8

/-! ### Computations that may fail -/

theorem bind_eq_ok_iff {ε α β : Type} {x : Except ε α} {f : α → Except ε β} {b : β} :
    (x >>= f) = .ok b ↔ ∃ a, x = .ok a ∧ f a = .ok b := by
  cases x <;> simp [bind, Except.bind]

theorem pure_eq_ok_iff {ε α : Type} {a b : α} :
    (pure a : Except ε α) = .ok b ↔ a = b := by
  simp [pure, Except.pure]

theorem bind_pure_eq_map {ε α β : Type} (x : Except ε α) (f : α → β) :
    (x >>= fun a => pure (f a)) = x.map f := by
  cases x <;> rfl

theorem map_eq_ok_iff {ε α β : Type} {x : Except ε α} {f : α → β} {b : β} :
    x.map f = .ok b ↔ ∃ a, x = .ok a ∧ f a = b := by
  cases x <;> simp [Except.map]

theorem mapError_eq_ok_iff {ε δ α : Type} {x : Except ε α} {f : ε → δ} {a : α} :
    x.mapError f = .ok a ↔ x = .ok a := by
  cases x with
  | error e => exact iff_of_false (fun h => by contradiction) (fun h => by contradiction)
  | ok b =>
      exact ⟨fun h => congrArg Except.ok (Except.ok.inj h),
        fun h => congrArg Except.ok (Except.ok.inj h)⟩

/-! ### Values -/

/-- `labels.Resolves token value` holds when the token is a number of that value, or a name that is
bound to it. -/
inductive LabelTable.Resolves (labels : LabelTable Int) (token : Token) : Int → Prop
  | number {value : Nat} (h : Operand.ofToken token = .number value) :
      Resolves labels token value
  | label {address : Int} (h : Operand.ofToken token = .label)
      (hbound : labels.find? token = some address) : Resolves labels token address

namespace Instruction

variable {labels : LabelTable Int} {instruction : Instruction} {position : Nat}
  {opcode : Opcode} {made : Operation} {token r s v : Token}

theorem tokenAt_eq (h : instruction.tokens[position]? = some token) :
    instruction.tokenAt position = .ok token := by
  unfold tokenAt
  rw [h]

theorem registerAt_eq_ok_iff {x : Register} (h : instruction.tokens[position]? = some token) :
    instruction.registerAt position = .ok x ↔ Register.ofToken? token = some x := by
  simp only [registerAt, bind_eq_ok_iff, tokenAt_eq h, Except.ok.injEq, exists_eq_left']
  cases Register.ofToken? token <;> simp

theorem numberAt_eq_ok_iff {value : Nat} (h : instruction.tokens[position]? = some token) :
    instruction.numberAt position = .ok value ↔ Operand.ofToken token = .number value := by
  simp only [numberAt, bind_eq_ok_iff, tokenAt_eq h, Except.ok.injEq, exists_eq_left']
  cases Operand.ofToken token <;> simp

theorem valueAt_eq_ok_iff {value : Int} (h : instruction.tokens[position]? = some token) :
    valueAt labels instruction position = .ok value ↔ labels.Resolves token value := by
  simp only [valueAt, bind_eq_ok_iff, tokenAt_eq h, Except.ok.injEq, exists_eq_left']
  constructor
  · intro hvalue
    cases hkind : Operand.ofToken token with
    | number n =>
        simp only [hkind, Except.ok.injEq] at hvalue
        exact hvalue ▸ .number hkind
    | label =>
        cases hbound : labels.find? token with
        | none => simp [hkind, hbound] at hvalue
        | some address =>
            simp only [hkind, hbound, Except.ok.injEq] at hvalue
            exact hvalue ▸ .label hkind hbound
    | malformed => simp [hkind] at hvalue
  · intro hresolved
    cases hresolved with
    | number hkind => simp [hkind]
    | label hkind hbound => simp [hkind, hbound]

/-! ### Operations from their operands -/

theorem addressForm_eq_ok_iff (h : instruction.tokens[position]? = some token) :
    addressForm labels instruction opcode position = .ok made ↔
      ∃ target, labels.Resolves token target ∧ .address opcode (truncate _ target) = made := by
  simp only [addressForm, bind_eq_ok_iff, pure_eq_ok_iff, valueAt_eq_ok_iff h]

theorem registerForm_eq_ok_iff (h : instruction.tokens[position]? = some token) :
    instruction.registerForm opcode position = .ok made ↔
      ∃ x, Register.ofToken? token = some x ∧ .register opcode x = made := by
  simp only [registerForm, bind_eq_ok_iff, pure_eq_ok_iff, registerAt_eq_ok_iff h]

theorem registerByteForm_eq_ok_iff (hr : instruction.tokens[1]? = some r)
    (hv : instruction.tokens[2]? = some v) :
    instruction.registerByteForm opcode = .ok made ↔
      ∃ x, Register.ofToken? r = some x ∧ ∃ value, Operand.ofToken v = .number value ∧
        .registerByte opcode x (truncate _ value) = made := by
  simp only [registerByteForm, bind_eq_ok_iff, pure_eq_ok_iff, registerAt_eq_ok_iff hr,
    numberAt_eq_ok_iff hv]

theorem registersForm_eq_ok_iff (hr : instruction.tokens[1]? = some r)
    (hs : instruction.tokens[position]? = some s) :
    instruction.registersForm opcode position = .ok made ↔
      ∃ x, Register.ofToken? r = some x ∧ ∃ y, Register.ofToken? s = some y ∧
        .registers opcode x y = made := by
  simp only [registersForm, bind_eq_ok_iff, pure_eq_ok_iff, registerAt_eq_ok_iff hr,
    registerAt_eq_ok_iff hs]

theorem sprite_eq_ok_iff (hr : instruction.tokens[1]? = some r)
    (hs : instruction.tokens[2]? = some s) (hv : instruction.tokens[3]? = some v) :
    instruction.sprite = .ok made ↔
      ∃ height, Operand.ofToken v = .number height ∧ ∃ x, Register.ofToken? r = some x ∧
        ∃ y, Register.ofToken? s = some y ∧
          .registersNibble .drw x y (truncate _ height) = made := by
  simp only [sprite, bind_eq_ok_iff, pure_eq_ok_iff, registerAt_eq_ok_iff hr,
    registerAt_eq_ok_iff hs, numberAt_eq_ok_iff hv]

/-! ### Operands by position -/

section Positions

variable {a b c : Token} {operands : List Token}

theorem first_eq (h : instruction.tokens = token :: a :: operands) :
    instruction.tokens[1]? = some a := by
  simp [h]

theorem second_eq (h : instruction.tokens = token :: a :: b :: operands) :
    instruction.tokens[2]? = some b := by
  simp [h]

theorem third_eq (h : instruction.tokens = token :: a :: b :: c :: operands) :
    instruction.tokens[3]? = some c := by
  simp [h]

end Positions

end Instruction

/-! ### Forms -/

namespace Form

/-- The mnemonics without operands. -/
def bareForms : List (Mnemonic × Opcode) :=
  [(.cls, .cls), (.ret, .ret)]

/-- The mnemonics with an address alone. -/
def addressForms : List (Mnemonic × Opcode) :=
  [(.sys, .sys), (.jp, .jp), (.call, .call)]

/-- The mnemonics with a register alone. -/
def registerForms : List (Mnemonic × Opcode) :=
  [(.skp, .skp), (.sknp, .sknp)]

/-- The mnemonics with a register and a number. -/
def registerByteForms : List (Mnemonic × Opcode) :=
  [(.se, .seByte), (.sne, .sneByte), (.ld, .ldByte), (.add, .addByte), (.rnd, .rnd)]

/-- The mnemonics with two registers. -/
def registersForms : List (Mnemonic × Opcode) :=
  [(.se, .seReg), (.sne, .sneReg), (.ld, .ldReg), (.add, .addReg), (.or, .or), (.and, .and),
   (.xor, .xor), (.sub, .sub), (.shr, .shr), (.subn, .subn), (.shl, .shl)]

/-- The mnemonics that take one register for two. -/
def shiftForms : List (Mnemonic × Opcode) :=
  [(.shr, .shr), (.shl, .shl)]

end Form

/-- `Form labels mnemonic operands operation` holds when the mnemonic and its operands have a form
of the instruction table, and that form makes the operation. -/
inductive Form (labels : LabelTable Int) : Mnemonic → List Token → Operation → Prop
  | bare {mnemonic : Mnemonic} {opcode : Opcode} (h : (mnemonic, opcode) ∈ Form.bareForms) :
      Form labels mnemonic [] (.bare opcode)
  | address {mnemonic : Mnemonic} {opcode : Opcode} {a : Token} {target : Int}
      (h : (mnemonic, opcode) ∈ Form.addressForms) (ha : labels.Resolves a target) :
      Form labels mnemonic [a] (.address opcode (truncate _ target))
  | jumpFromRegister {r a : Token} {target : Int} (hr : Register.ofToken? r = some 0)
      (ha : labels.Resolves a target) :
      Form labels .jp [r, a] (.address .jpV0 (truncate _ target))
  | loadAddress {i a : Token} {target : Int} (hi : Text.upper i = ['I'])
      (ha : labels.Resolves a target) :
      Form labels .ld [i, a] (.address .ldI (truncate _ target))
  | register {mnemonic : Mnemonic} {opcode : Opcode} {r : Token} {x : Register}
      (h : (mnemonic, opcode) ∈ Form.registerForms) (hr : Register.ofToken? r = some x) :
      Form labels mnemonic [r] (.register opcode x)
  | loadTo {opcode : Opcode} {place r : Token} {x : Register}
      (h : (Text.upper place, opcode) ∈ Opcode.loadsTo) (hr : Register.ofToken? r = some x) :
      Form labels .ld [place, r] (.register opcode x)
  | loadFrom {opcode : Opcode} {place r : Token} {x : Register}
      (h : (Text.upper place, opcode) ∈ Opcode.loadsFrom) (hr : Register.ofToken? r = some x) :
      Form labels .ld [r, place] (.register opcode x)
  | addToAddress {i r : Token} {x : Register} (hi : Text.upper i = ['I'])
      (hr : Register.ofToken? r = some x) :
      Form labels .add [i, r] (.register .addIVx x)
  | registerByte {mnemonic : Mnemonic} {opcode : Opcode} {r v : Token} {x : Register}
      {value : Nat} (h : (mnemonic, opcode) ∈ Form.registerByteForms)
      (hr : Register.ofToken? r = some x) (hv : Operand.ofToken v = .number value) :
      Form labels mnemonic [r, v] (.registerByte opcode x (truncate _ value))
  | registers {mnemonic : Mnemonic} {opcode : Opcode} {r s : Token} {x y : Register}
      (h : (mnemonic, opcode) ∈ Form.registersForms) (hr : Register.ofToken? r = some x)
      (hs : Register.ofToken? s = some y) :
      Form labels mnemonic [r, s] (.registers opcode x y)
  | shift {mnemonic : Mnemonic} {opcode : Opcode} {r : Token} {x : Register}
      (h : (mnemonic, opcode) ∈ Form.shiftForms) (hr : Register.ofToken? r = some x) :
      Form labels mnemonic [r] (.registers opcode x x)
  | sprite {r s v : Token} {x y : Register} {height : Nat} (hr : Register.ofToken? r = some x)
      (hs : Register.ofToken? s = some y) (hv : Operand.ofToken v = .number height) :
      Form labels .drw [r, s, v] (.registersNibble .drw x y (truncate _ height))
  | word {a : Token} {value : Int} (ha : labels.Resolves a value) :
      Form labels .dw [a] (.word (truncate _ value))
  | byte {a : Token} {value : Int} (ha : labels.Resolves a value) :
      Form labels .db [a] (.byte (truncate _ value))

/-! ### What the encoder makes has a form -/

theorem OperandCount.admits_exactly_iff {n k : Nat} :
    (OperandCount.exactly n).admits k = true ↔ k = n := by
  unfold admits
  rw [Bool.and_eq_true, decide_eq_true_eq, decide_eq_true_eq]
  show n ≤ k ∧ k ≤ n ↔ k = n
  omega

theorem Opcode.mem_of_lookup {table : List (Text × Opcode)} {key : Text} {opcode : Opcode}
    (h : table.lookup key = some opcode) : (key, opcode) ∈ table := by
  obtain ⟨before, after, htable, -⟩ := List.lookup_eq_some_iff.mp h
  simp [htable]

namespace Instruction

variable {labels : LabelTable Int} {instruction : Instruction} {made : Operation}
  {mnemonic : Mnemonic} {opcode : Opcode} {token a b : Token} {operands : List Token}

theorem operands_eq (htokens : instruction.tokens = token :: operands) :
    instruction.operands = operands := by
  simp [Instruction.operands, htokens]

theorem registerOrByteForm_eq (byteOpcode registerOpcode : Opcode)
    (htokens : instruction.tokens = [token, a, b]) :
    instruction.registerOrByteForm byteOpcode registerOpcode =
      if Register.starts b then instruction.registersForm registerOpcode 2
      else instruction.registerByteForm byteOpcode := by
  have hsecond : instruction.tokenAt 2 = .ok b := by simp [tokenAt, htokens]
  unfold registerOrByteForm
  rw [hsecond]
  rfl

theorem load_eq (labels : LabelTable Int) (htokens : instruction.tokens = [token, a, b]) :
    load labels instruction =
      if Text.upper a = ['I'] then
        addressForm labels instruction .ldI 2
      else
        match Opcode.loadsTo.lookup (Text.upper a), Opcode.loadsFrom.lookup (Text.upper b) with
        | some opcode, _ => instruction.registerForm opcode 2
        | none, some opcode => instruction.registerForm opcode 1
        | none, none => instruction.registerOrByteForm .ldByte .ldReg := by
  have hfirst : instruction.tokenAt 1 = .ok a := by simp [tokenAt, htokens]
  have hsecond : instruction.tokenAt 2 = .ok b := by simp [tokenAt, htokens]
  unfold load
  rw [hfirst, hsecond]
  rfl

theorem addition_eq (htokens : instruction.tokens = [token, a, b]) :
    instruction.addition =
      if Text.upper a = ['I'] then instruction.registerForm .addIVx 2
      else instruction.registerOrByteForm .addByte .addReg := by
  have hfirst : instruction.tokenAt 1 = .ok a := by simp [tokenAt, htokens]
  unfold addition
  rw [hfirst]
  rfl

theorem form_of_addressForm (htokens : instruction.tokens = [token, a])
    (hmnemonic : (mnemonic, opcode) ∈ Form.addressForms)
    (h : addressForm labels instruction opcode 1 = .ok made) : Form labels mnemonic [a] made := by
  obtain ⟨target, htarget, rfl⟩ := (addressForm_eq_ok_iff (first_eq htokens)).mp h
  exact .address hmnemonic htarget

theorem form_of_registerForm (htokens : instruction.tokens = [token, a])
    (hmnemonic : (mnemonic, opcode) ∈ Form.registerForms)
    (h : instruction.registerForm opcode 1 = .ok made) : Form labels mnemonic [a] made := by
  obtain ⟨x, hx, rfl⟩ := (registerForm_eq_ok_iff (first_eq htokens)).mp h
  exact .register hmnemonic hx

theorem form_of_registersForm (htokens : instruction.tokens = [token, a, b])
    (hmnemonic : (mnemonic, opcode) ∈ Form.registersForms)
    (h : instruction.registersForm opcode 2 = .ok made) : Form labels mnemonic [a, b] made := by
  obtain ⟨x, hx, y, hy, rfl⟩ :=
    (registersForm_eq_ok_iff (first_eq htokens) (second_eq htokens)).mp h
  exact .registers hmnemonic hx hy

theorem form_of_registerByteForm (htokens : instruction.tokens = [token, a, b])
    (hmnemonic : (mnemonic, opcode) ∈ Form.registerByteForms)
    (h : instruction.registerByteForm opcode = .ok made) : Form labels mnemonic [a, b] made := by
  obtain ⟨x, hx, value, hvalue, rfl⟩ :=
    (registerByteForm_eq_ok_iff (first_eq htokens) (second_eq htokens)).mp h
  exact .registerByte hmnemonic hx hvalue

theorem form_of_registerOrByteForm {byteOpcode registerOpcode : Opcode}
    (htokens : instruction.tokens = [token, a, b])
    (hbyte : (mnemonic, byteOpcode) ∈ Form.registerByteForms)
    (hregister : (mnemonic, registerOpcode) ∈ Form.registersForms)
    (h : instruction.registerOrByteForm byteOpcode registerOpcode = .ok made) :
    Form labels mnemonic [a, b] made := by
  rw [registerOrByteForm_eq byteOpcode registerOpcode htokens] at h
  split at h
  · exact form_of_registersForm htokens hregister h
  · exact form_of_registerByteForm htokens hbyte h

theorem form_of_shift (htokens : instruction.tokens = token :: operands)
    (hcount : (⟨1, 2⟩ : OperandCount).admits operands.length = true)
    (hshift : (mnemonic, opcode) ∈ Form.shiftForms)
    (hregisters : (mnemonic, opcode) ∈ Form.registersForms)
    (h : instruction.shift opcode = .ok made) : Form labels mnemonic operands made := by
  unfold shift at h
  rw [operands_eq htokens] at h
  -- the range of one to two operands leaves two shapes of lists
  match operands, hcount with
  | [a], _ =>
      change instruction.registersForm opcode 1 = .ok made at h
      obtain ⟨x, hx, y, hy, rfl⟩ :=
        (registersForm_eq_ok_iff (first_eq htokens) (first_eq htokens)).mp h
      obtain rfl : x = y := Option.some.inj (hx.symm.trans hy)
      exact .shift hshift hx
  | [a, b], _ => exact form_of_registersForm htokens hregisters h

theorem form_of_jump (htokens : instruction.tokens = token :: operands)
    (hcount : (⟨1, 2⟩ : OperandCount).admits operands.length = true)
    (h : jump labels instruction = .ok made) : Form labels .jp operands made := by
  unfold jump at h
  rw [operands_eq htokens] at h
  match operands, hcount with
  | [a], _ => exact form_of_addressForm htokens (by decide) h
  | [a, b], _ =>
      rw [if_neg (by simp)] at h
      obtain ⟨offset, hoffset, h⟩ := bind_eq_ok_iff.mp h
      split at h
      · rename_i hzero
        subst hzero
        have hr := (registerAt_eq_ok_iff (first_eq htokens)).mp hoffset
        obtain ⟨target, htarget, rfl⟩ := (addressForm_eq_ok_iff (second_eq htokens)).mp h
        exact .jumpFromRegister hr htarget
      · simp [bind_eq_ok_iff] at h

theorem form_of_load (htokens : instruction.tokens = [token, a, b])
    (h : load labels instruction = .ok made) : Form labels .ld [a, b] made := by
  rw [load_eq labels htokens] at h
  split at h
  · rename_i hi
    obtain ⟨target, htarget, rfl⟩ := (addressForm_eq_ok_iff (second_eq htokens)).mp h
    exact .loadAddress hi htarget
  · split at h
    · rename_i opcode hto
      obtain ⟨x, hx, rfl⟩ := (registerForm_eq_ok_iff (second_eq htokens)).mp h
      exact .loadTo (Opcode.mem_of_lookup hto) hx
    · rename_i opcode _ hfrom
      obtain ⟨x, hx, rfl⟩ := (registerForm_eq_ok_iff (first_eq htokens)).mp h
      exact .loadFrom (Opcode.mem_of_lookup hfrom) hx
    · exact form_of_registerOrByteForm htokens (by decide) (by decide) h

theorem form_of_addition (htokens : instruction.tokens = [token, a, b])
    (h : instruction.addition = .ok made) : Form labels .add [a, b] made := by
  rw [addition_eq htokens] at h
  split at h
  · rename_i hi
    obtain ⟨x, hx, rfl⟩ := (registerForm_eq_ok_iff (second_eq htokens)).mp h
    exact .addToAddress hi hx
  · exact form_of_registerOrByteForm htokens (by decide) (by decide) h

theorem form_of_sprite {c : Token} (htokens : instruction.tokens = [token, a, b, c])
    (h : instruction.sprite = .ok made) : Form labels .drw [a, b, c] made := by
  obtain ⟨height, hheight, x, hx, y, hy, rfl⟩ :=
    (sprite_eq_ok_iff (first_eq htokens) (second_eq htokens) (third_eq htokens)).mp h
  exact .sprite hx hy hheight

/-- Each mnemonic's operation has one of the forms of that mnemonic. -/
theorem form_of_operation (htokens : instruction.tokens = token :: operands)
    (hcount : mnemonic.operandCount.admits operands.length = true)
    (h : operation labels instruction mnemonic = .ok made) :
    Form labels mnemonic operands made := by
  cases mnemonic
  case cls | ret =>
    obtain rfl := List.length_eq_zero_iff.mp (OperandCount.admits_exactly_iff.mp hcount)
    obtain rfl := Except.ok.inj h
    exact .bare (by decide)
  case sys | call =>
    obtain ⟨a, rfl⟩ := List.length_eq_one_iff.mp (OperandCount.admits_exactly_iff.mp hcount)
    exact form_of_addressForm htokens (by decide) h
  case jp => exact form_of_jump htokens hcount h
  case se | sne =>
    obtain ⟨a, b, rfl⟩ := List.length_eq_two.mp (OperandCount.admits_exactly_iff.mp hcount)
    exact form_of_registerOrByteForm htokens (by decide) (by decide) h
  case ld =>
    obtain ⟨a, b, rfl⟩ := List.length_eq_two.mp (OperandCount.admits_exactly_iff.mp hcount)
    exact form_of_load htokens h
  case add =>
    obtain ⟨a, b, rfl⟩ := List.length_eq_two.mp (OperandCount.admits_exactly_iff.mp hcount)
    exact form_of_addition htokens h
  case or | and | xor | sub | subn =>
    obtain ⟨a, b, rfl⟩ := List.length_eq_two.mp (OperandCount.admits_exactly_iff.mp hcount)
    exact form_of_registersForm htokens (by decide) h
  case shr | shl => exact form_of_shift htokens hcount (by decide) (by decide) h
  case rnd =>
    obtain ⟨a, b, rfl⟩ := List.length_eq_two.mp (OperandCount.admits_exactly_iff.mp hcount)
    exact form_of_registerByteForm htokens (by decide) h
  case drw =>
    obtain ⟨a, b, c, rfl⟩ := List.length_eq_three.mp (OperandCount.admits_exactly_iff.mp hcount)
    exact form_of_sprite htokens h
  case skp | sknp =>
    obtain ⟨a, rfl⟩ := List.length_eq_one_iff.mp (OperandCount.admits_exactly_iff.mp hcount)
    exact form_of_registerForm htokens (by decide) h
  case dw =>
    obtain ⟨a, rfl⟩ := List.length_eq_one_iff.mp (OperandCount.admits_exactly_iff.mp hcount)
    obtain ⟨value, hvalue, hmade⟩ := bind_eq_ok_iff.mp h
    obtain rfl := pure_eq_ok_iff.mp hmade
    exact .word ((valueAt_eq_ok_iff (first_eq htokens)).mp hvalue)
  case db =>
    obtain ⟨a, rfl⟩ := List.length_eq_one_iff.mp (OperandCount.admits_exactly_iff.mp hcount)
    obtain ⟨value, hvalue, hmade⟩ := bind_eq_ok_iff.mp h
    obtain rfl := pure_eq_ok_iff.mp hmade
    exact .byte ((valueAt_eq_ok_iff (first_eq htokens)).mp hvalue)

end Instruction

/-! ### What has a form is encoded so -/

namespace Opcode

/-- The names of the special places start differently from a key that none of them is. -/
theorem lookup_eq_none_of_head? {table : List (Text × Opcode)} {key : Text}
    (h : ∀ entry ∈ table, entry.1.head? ≠ key.head?) : table.lookup key = none := by
  rw [List.lookup_eq_none_iff]
  intro entry hentry
  have hne : key ≠ entry.1 := fun heq => h entry hentry (congrArg List.head? heq.symm)
  simpa using hne

theorem loadsTo_lookup_of_mem {key : Text} {opcode : Opcode} (h : (key, opcode) ∈ loadsTo) :
    loadsTo.lookup key = some opcode := by
  have hall : ∀ entry ∈ loadsTo, loadsTo.lookup entry.1 = some entry.2 := by decide
  exact hall _ h

theorem loadsFrom_lookup_of_mem {key : Text} {opcode : Opcode} (h : (key, opcode) ∈ loadsFrom) :
    loadsFrom.lookup key = some opcode := by
  have hall : ∀ entry ∈ loadsFrom, loadsFrom.lookup entry.1 = some entry.2 := by decide
  exact hall _ h

theorem ne_index_of_mem_loadsTo {key : Text} {opcode : Opcode} (h : (key, opcode) ∈ loadsTo) :
    key ≠ ['I'] := by
  have hall : ∀ entry ∈ loadsTo, entry.1 ≠ ['I'] := by decide
  exact hall _ h

theorem loadsTo_lookup_register {token : Token} {x : Register}
    (h : Register.ofToken? token = some x) : loadsTo.lookup (Text.upper token) = none := by
  apply lookup_eq_none_of_head?
  rw [Register.head?_upper_of_ofToken? h]
  decide

theorem loadsFrom_lookup_register {token : Token} {x : Register}
    (h : Register.ofToken? token = some x) : loadsFrom.lookup (Text.upper token) = none := by
  apply lookup_eq_none_of_head?
  rw [Register.head?_upper_of_ofToken? h]
  decide

theorem loadsFrom_lookup_number {token : Token} {value : Nat}
    (h : Operand.ofToken token = .number value) :
    loadsFrom.lookup (Text.upper token) = none := by
  obtain ⟨c, hhead, hc⟩ := Operand.head?_upper_of_number h
  apply lookup_eq_none_of_head?
  rw [hhead]
  intro entry hentry hstart
  -- the special places start with a letter or a bracket
  have hall : ∀ entry ∈ loadsFrom, entry.1.head? ∈ [some 'D', some 'K', some '['] := by decide
  have hletter := hall entry hentry
  simp only [hstart, List.mem_cons, Option.some.injEq, List.not_mem_nil, or_false] at hletter
  rcases hletter with rfl | rfl | rfl
  · exact absurd hc (by decide)
  · exact absurd hc (by decide)
  · exact absurd hc (by decide)

end Opcode

theorem Register.upper_ne_index {token : Token} {x : Register}
    (h : Register.ofToken? token = some x) : Text.upper token ≠ ['I'] := by
  intro heq
  have hhead := Register.head?_upper_of_ofToken? h
  rw [heq] at hhead
  exact absurd hhead (by decide)

namespace Form

variable {labels : LabelTable Int} {instruction : Instruction} {made : Operation}
  {mnemonic : Mnemonic} {token : Token} {operands : List Token}

theorem admits_of_mem {table : List (Mnemonic × Opcode)} {opcode : Opcode} (count : Nat)
    (htable : ∀ form ∈ table, form.1.operandCount.admits count = true)
    (h : (mnemonic, opcode) ∈ table) : mnemonic.operandCount.admits count = true :=
  htable _ h

/-- A form has as many operands as its mnemonic takes. -/
theorem admits (h : Form labels mnemonic operands made) :
    mnemonic.operandCount.admits operands.length = true := by
  cases h with
  | bare h => exact admits_of_mem 0 (by decide) h
  | address h _ => exact admits_of_mem 1 (by decide) h
  | register h _ => exact admits_of_mem 1 (by decide) h
  | registerByte h _ _ => exact admits_of_mem 2 (by decide) h
  | registers h _ _ => exact admits_of_mem 2 (by decide) h
  | shift h _ => exact admits_of_mem 1 (by decide) h
  | _ => rfl

end Form

namespace Instruction

variable {labels : LabelTable Int} {instruction : Instruction} {made : Operation}
  {mnemonic : Mnemonic} {opcode : Opcode} {token a b : Token} {operands : List Token}
  {x : Register}

theorem load_of_register (labels : LabelTable Int) (htokens : instruction.tokens = [token, a, b])
    (ha : Register.ofToken? a = some x)
    (hb : Opcode.loadsFrom.lookup (Text.upper b) = none) :
    load labels instruction = instruction.registerOrByteForm .ldByte .ldReg := by
  rw [load_eq labels htokens, if_neg (Register.upper_ne_index ha),
    Opcode.loadsTo_lookup_register ha, hb]

theorem addition_of_register (htokens : instruction.tokens = [token, a, b])
    (ha : Register.ofToken? a = some x) :
    instruction.addition = instruction.registerOrByteForm .addByte .addReg := by
  rw [addition_eq htokens, if_neg (Register.upper_ne_index ha)]

theorem operation_of_mem_addressForms (labels : LabelTable Int)
    (htokens : instruction.tokens = [token, a])
    (h : (mnemonic, opcode) ∈ Form.addressForms) :
    operation labels instruction mnemonic = addressForm labels instruction opcode 1 := by
  simp only [Form.addressForms, List.mem_cons, Prod.mk.injEq, List.not_mem_nil, or_false] at h
  rcases h with ⟨rfl, rfl⟩ | ⟨rfl, rfl⟩ | ⟨rfl, rfl⟩
  · rfl
  · show jump labels instruction = _
    unfold jump
    rw [operands_eq htokens, if_pos (by simp)]
  · rfl

theorem operation_of_mem_registerByteForms (labels : LabelTable Int) {value : Nat}
    (htokens : instruction.tokens = [token, a, b])
    (h : (mnemonic, opcode) ∈ Form.registerByteForms) (ha : Register.ofToken? a = some x)
    (hb : Operand.ofToken b = .number value) :
    operation labels instruction mnemonic = instruction.registerByteForm opcode := by
  have hbyte (byteOpcode registerOpcode : Opcode) :
      instruction.registerOrByteForm byteOpcode registerOpcode =
        instruction.registerByteForm byteOpcode := by
    rw [registerOrByteForm_eq byteOpcode registerOpcode htokens, Operand.starts_of_number hb]
    rfl
  simp only [Form.registerByteForms, List.mem_cons, Prod.mk.injEq, List.not_mem_nil,
    or_false] at h
  rcases h with ⟨rfl, rfl⟩ | ⟨rfl, rfl⟩ | ⟨rfl, rfl⟩ | ⟨rfl, rfl⟩ | ⟨rfl, rfl⟩
  · exact hbyte .seByte .seReg
  · exact hbyte .sneByte .sneReg
  · exact (load_of_register labels htokens ha (Opcode.loadsFrom_lookup_number hb)).trans
      (hbyte .ldByte .ldReg)
  · exact (addition_of_register htokens ha).trans (hbyte .addByte .addReg)
  · rfl

theorem operation_of_mem_registersForms (labels : LabelTable Int) {y : Register}
    (htokens : instruction.tokens = [token, a, b])
    (h : (mnemonic, opcode) ∈ Form.registersForms) (ha : Register.ofToken? a = some x)
    (hb : Register.ofToken? b = some y) :
    operation labels instruction mnemonic = instruction.registersForm opcode 2 := by
  -- the second operand decides between the forms of two registers and of a register and a number
  have hregister (byteOpcode registerOpcode : Opcode) :
      instruction.registerOrByteForm byteOpcode registerOpcode =
        instruction.registersForm registerOpcode 2 := by
    rw [registerOrByteForm_eq byteOpcode registerOpcode htokens,
      Register.starts_of_ofToken? hb]
    rfl
  have hshift (shiftOpcode : Opcode) :
      instruction.shift shiftOpcode = instruction.registersForm shiftOpcode 2 := by
    unfold shift
    rw [operands_eq htokens]
    rfl
  simp only [Form.registersForms, List.mem_cons, Prod.mk.injEq, List.not_mem_nil,
    or_false] at h
  rcases h with ⟨rfl, rfl⟩ | ⟨rfl, rfl⟩ | ⟨rfl, rfl⟩ | ⟨rfl, rfl⟩ | ⟨rfl, rfl⟩ | ⟨rfl, rfl⟩ |
    ⟨rfl, rfl⟩ | ⟨rfl, rfl⟩ | ⟨rfl, rfl⟩ | ⟨rfl, rfl⟩ | ⟨rfl, rfl⟩
  · exact hregister .seByte .seReg
  · exact hregister .sneByte .sneReg
  · exact (load_of_register labels htokens ha (Opcode.loadsFrom_lookup_register hb)).trans
      (hregister .ldByte .ldReg)
  · exact (addition_of_register htokens ha).trans (hregister .addByte .addReg)
  case _ | _ | _ | _ => rfl
  · exact hshift .shr
  · rfl
  · exact hshift .shl

/-- An instruction of a form makes the form's operation. -/
theorem operation_of_form (htokens : instruction.tokens = token :: operands)
    (h : Form labels mnemonic operands made) :
    operation labels instruction mnemonic = .ok made := by
  cases h with
  | bare h =>
      simp only [Form.bareForms, List.mem_cons, Prod.mk.injEq, List.not_mem_nil, or_false] at h
      rcases h with ⟨rfl, rfl⟩ | ⟨rfl, rfl⟩ <;> rfl
  | address h ha =>
      rw [operation_of_mem_addressForms labels htokens h]
      exact (addressForm_eq_ok_iff (first_eq htokens)).mpr ⟨_, ha, rfl⟩
  | jumpFromRegister hr ha =>
      show jump labels instruction = _
      unfold jump
      rw [operands_eq htokens, if_neg (by simp)]
      refine bind_eq_ok_iff.mpr ⟨0, (registerAt_eq_ok_iff (first_eq htokens)).mpr hr, ?_⟩
      exact (addressForm_eq_ok_iff (second_eq htokens)).mpr ⟨_, ha, rfl⟩
  | loadAddress hi ha =>
      show load labels instruction = _
      rw [load_eq labels htokens, if_pos hi]
      exact (addressForm_eq_ok_iff (second_eq htokens)).mpr ⟨_, ha, rfl⟩
  | @register _ opcode _ _ h hr =>
      have hoperation : operation labels instruction mnemonic =
          instruction.registerForm opcode 1 := by
        simp only [Form.registerForms, List.mem_cons, Prod.mk.injEq, List.not_mem_nil,
          or_false] at h
        rcases h with ⟨rfl, rfl⟩ | ⟨rfl, rfl⟩ <;> rfl
      rw [hoperation]
      exact (registerForm_eq_ok_iff (first_eq htokens)).mpr ⟨_, hr, rfl⟩
  | loadTo h hr =>
      show load labels instruction = _
      rw [load_eq labels htokens, if_neg (Opcode.ne_index_of_mem_loadsTo h),
        Opcode.loadsTo_lookup_of_mem h]
      exact (registerForm_eq_ok_iff (second_eq htokens)).mpr ⟨_, hr, rfl⟩
  | loadFrom h hr =>
      show load labels instruction = _
      rw [load_eq labels htokens, if_neg (Register.upper_ne_index hr),
        Opcode.loadsTo_lookup_register hr, Opcode.loadsFrom_lookup_of_mem h]
      exact (registerForm_eq_ok_iff (first_eq htokens)).mpr ⟨_, hr, rfl⟩
  | addToAddress hi hr =>
      show instruction.addition = _
      rw [addition_eq htokens, if_pos hi]
      exact (registerForm_eq_ok_iff (second_eq htokens)).mpr ⟨_, hr, rfl⟩
  | registerByte h hr hv =>
      rw [operation_of_mem_registerByteForms labels htokens h hr hv]
      exact (registerByteForm_eq_ok_iff (first_eq htokens) (second_eq htokens)).mpr
        ⟨_, hr, _, hv, rfl⟩
  | registers h hr hs =>
      rw [operation_of_mem_registersForms labels htokens h hr hs]
      exact (registersForm_eq_ok_iff (first_eq htokens) (second_eq htokens)).mpr
        ⟨_, hr, _, hs, rfl⟩
  | @shift _ opcode _ _ h hr =>
      have hoperation : operation labels instruction mnemonic =
          instruction.registersForm opcode 1 := by
        simp only [Form.shiftForms, List.mem_cons, Prod.mk.injEq, List.not_mem_nil,
          or_false] at h
        rcases h with ⟨rfl, rfl⟩ | ⟨rfl, rfl⟩ <;>
        · show instruction.shift _ = _
          unfold shift
          rw [operands_eq htokens]
          rfl
      rw [hoperation]
      exact (registersForm_eq_ok_iff (first_eq htokens) (first_eq htokens)).mpr
        ⟨_, hr, _, hr, rfl⟩
  | sprite hr hs hv =>
      exact (sprite_eq_ok_iff (first_eq htokens) (second_eq htokens)
        (third_eq htokens)).mpr ⟨_, hv, _, hr, _, hs, rfl⟩
  | word ha =>
      exact bind_eq_ok_iff.mpr ⟨_, (valueAt_eq_ok_iff (first_eq htokens)).mpr ha, rfl⟩
  | byte ha =>
      exact bind_eq_ok_iff.mpr ⟨_, (valueAt_eq_ok_iff (first_eq htokens)).mpr ha, rfl⟩

/-- An instruction is encoded exactly if its mnemonic and operands have a form. -/
theorem encode_eq_ok_iff {encoded : Instruction} :
    instruction.encode labels = .ok encoded ↔
      ∃ token operands mnemonic made, instruction.tokens = token :: operands ∧
        Mnemonic.ofToken? token = some mnemonic ∧ Form labels mnemonic operands made ∧
        encoded = { instruction with encoded := some made.encoded, width := mnemonic.width } := by
  unfold encode
  cases htokens : instruction.tokens with
  | nil => simp
  | cons token operands =>
      cases hmnemonic : Mnemonic.ofToken? token with
      | none => simp [hmnemonic]
      | some mnemonic =>
          constructor
          · intro h
            simp only [hmnemonic] at h
            split at h
            · rename_i hcount
              obtain ⟨made, hmade, hencoded⟩ := bind_eq_ok_iff.mp h
              exact ⟨token, operands, mnemonic, made, rfl, hmnemonic,
                form_of_operation htokens hcount hmade, (pure_eq_ok_iff.mp hencoded).symm⟩
            · contradiction
          · rintro ⟨_, _, mnemonic', made, htokens', hmnemonic', hform, rfl⟩
            obtain ⟨rfl, rfl⟩ := List.cons.inj htokens'
            obtain rfl : mnemonic = mnemonic' :=
              Option.some.inj (hmnemonic.symm.trans hmnemonic')
            simp only [hmnemonic, hform.admits, if_true]
            exact bind_eq_ok_iff.mpr ⟨made, operation_of_form htokens hform, rfl⟩

end Instruction

end Chip8
