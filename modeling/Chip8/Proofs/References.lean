import Chip8.Proofs.Definitions
import Chip8.Proofs.Forms
import Chip8.Proofs.Packing

/-!
# References to labels

An instruction that takes an address may name a label instead.  The name is looked up in the table
of the whole source, so it does not matter where the instruction stands: the last definition
counts, before it or after it, and without one the name is undefined.
-/

namespace Chip8

/-- `Reference name tokens base modulus` holds when the tokens are an instruction that lacks nothing
but the address that `name` stands for, of which the remainder by `modulus` is added to `base`. -/
inductive Reference (name : Token) : List Token → Nat → Nat → Prop
  | sys {token : Token} (h : Mnemonic.ofToken? token = some .sys) :
      Reference name [token, name] 0x0000 0x1000
  | jump {token : Token} (h : Mnemonic.ofToken? token = some .jp) :
      Reference name [token, name] 0x1000 0x1000
  | jumpFromRegister {token r : Token} (h : Mnemonic.ofToken? token = some .jp)
      (hr : Register.ofToken? r = some 0) :
      Reference name [token, r, name] 0xB000 0x1000
  | call {token : Token} (h : Mnemonic.ofToken? token = some .call) :
      Reference name [token, name] 0x2000 0x1000
  | loadAddress {token i : Token} (h : Mnemonic.ofToken? token = some .ld)
      (hi : Text.upper i = ['I']) :
      Reference name [token, i, name] 0xA000 0x1000
  | word {token : Token} (h : Mnemonic.ofToken? token = some .dw) :
      Reference name [token, name] 0 0x10000
  | byte {token : Token} (h : Mnemonic.ofToken? token = some .db) :
      Reference name [token, name] 0 0x100

/-! ### Values that do not depend on the table -/

theorem LabelTable.Resolves.of_ne_label {labels : LabelTable Int} {token : Token} {value : Int}
    (h : labels.Resolves token value) (hkind : Operand.ofToken token ≠ .label)
    (labels' : LabelTable Int) : labels'.Resolves token value := by
  cases h with
  | number hnumber => exact .number hnumber
  | label hlabel _ => exact absurd hlabel hkind

theorem Reference.exists_of_mem_addressForms {token : Token} {mnemonic : Mnemonic}
    {opcode : Opcode} (name : Token)
    (hmnemonic : Mnemonic.ofToken? token = some mnemonic)
    (h : (mnemonic, opcode) ∈ Form.addressForms) :
    ∃ base modulus, Reference name [token, name] base modulus := by
  simp only [Form.addressForms, List.mem_cons, Prod.mk.injEq, List.not_mem_nil, or_false] at h
  rcases h with ⟨rfl, -⟩ | ⟨rfl, -⟩ | ⟨rfl, -⟩
  · exact ⟨_, _, .sys hmnemonic⟩
  · exact ⟨_, _, .jump hmnemonic⟩
  · exact ⟨_, _, .call hmnemonic⟩

/-- A form makes one operation with all tables of labels that give its reference one value. -/
theorem Form.of_resolves {labels labels' : LabelTable Int} {token : Token} {mnemonic : Mnemonic}
    {operands : List Token} {made : Operation} (h : Form labels mnemonic operands made)
    (hmnemonic : Mnemonic.ofToken? token = some mnemonic)
    (hresolves : ∀ name base modulus, Reference name (token :: operands) base modulus →
      ∀ value, labels.Resolves name value → labels'.Resolves name value) :
    Form labels' mnemonic operands made := by
  -- only the forms that take an address look anything up
  cases h with
  | bare h => exact .bare h
  | @address _ _ a _ h ha =>
      obtain ⟨base, modulus, hreference⟩ := Reference.exists_of_mem_addressForms a hmnemonic h
      exact .address h (hresolves _ _ _ hreference _ ha)
  | jumpFromRegister hr ha =>
      exact .jumpFromRegister hr (hresolves _ _ _ (.jumpFromRegister hmnemonic hr) _ ha)
  | loadAddress hi ha =>
      exact .loadAddress hi (hresolves _ _ _ (.loadAddress hmnemonic hi) _ ha)
  | register h hr => exact .register h hr
  | loadTo h hr => exact .loadTo h hr
  | loadFrom h hr => exact .loadFrom h hr
  | addToAddress hi hr => exact .addToAddress hi hr
  | registerByte h hr hv => exact .registerByte h hr hv
  | registers h hr hs => exact .registers h hr hs
  | shift h hr => exact .shift h hr
  | sprite hr hs hv => exact .sprite hr hs hv
  | word ha => exact .word (hresolves _ _ _ (.word hmnemonic) _ ha)
  | byte ha => exact .byte (hresolves _ _ _ (.byte hmnemonic) _ ha)

namespace Instruction

variable {labels labels' : LabelTable Int} {instruction other made : Instruction}

/-- What encoding sets is decided by the tokens and by the value of the reference, if they make
one. -/
theorem encode_of_resolves (htokens : other.tokens = instruction.tokens)
    (h : instruction.encode labels = .ok made)
    (hresolves : ∀ name base modulus, Reference name instruction.tokens base modulus →
      ∀ value, labels.Resolves name value → labels'.Resolves name value) :
    other.encode labels' = .ok { other with encoded := made.encoded, width := made.width } := by
  obtain ⟨token, operands, mnemonic, operation, hwords, hmnemonic, hform, rfl⟩ :=
    encode_eq_ok_iff.mp h
  rw [hwords] at hresolves
  exact encode_eq_ok_iff.mpr ⟨token, operands, mnemonic, operation, htokens.trans hwords,
    hmnemonic, hform.of_resolves hmnemonic hresolves, rfl⟩

end Instruction

namespace Instruction

variable {labels : LabelTable Int} {instruction : Instruction} {mnemonic : Mnemonic}
  {token name : Token} {operands : List Token} {base modulus : Nat} {address : Int}

/-! ### One reference -/

/-- Where mnemonic and number of operands are right, encoding is up to the operation. -/
theorem encode_eq_map (htokens : instruction.tokens = token :: operands)
    (hmnemonic : Mnemonic.ofToken? token = some mnemonic)
    (hcount : mnemonic.operandCount.admits operands.length = true) :
    instruction.encode labels =
      (operation labels instruction mnemonic).map fun made =>
        { instruction with encoded := some made.encoded, width := mnemonic.width } := by
  unfold encode
  simp only [htokens, hmnemonic, hcount, if_true]
  exact bind_pure_eq_map _ _

/-- A reference makes its number of the value of its last operand. -/
theorem operation_of_reference (labels : LabelTable Int)
    (h : Reference name instruction.tokens base modulus) :
    ∃ token operands mnemonic, ∃ make : Int → Operation,
      instruction.tokens = token :: operands ∧ operands.getLast? = some name ∧
      Mnemonic.ofToken? token = some mnemonic ∧
      mnemonic.operandCount.admits operands.length = true ∧
      operation labels instruction mnemonic =
        (valueAt labels instruction operands.length).map make ∧
      ∀ value, ((make value).encoded : Int) = base + value % modulus := by
  generalize htokens : instruction.tokens = tokens at h
  cases h with
  | @sys token h =>
      exact ⟨token, [name], .sys, _, rfl, rfl, h, rfl, bind_pure_eq_map _ _,
        Operation.encoded_address_eq rfl⟩
  | @jump token h =>
      have hform : (Mnemonic.jp, Opcode.jp) ∈ Form.addressForms := by decide
      have hjump := operation_of_mem_addressForms labels htokens hform
      exact ⟨token, [name], .jp, _, rfl, rfl, h, rfl, hjump.trans (bind_pure_eq_map _ _),
        Operation.encoded_address_eq rfl⟩
  | @jumpFromRegister token r h hr =>
      -- the offset register is read before the address
      have hoffset : instruction.registerAt 1 = .ok 0 :=
        (registerAt_eq_ok_iff (first_eq htokens)).mpr hr
      have hjump : operation labels instruction .jp =
          addressForm labels instruction .jpV0 2 := by
        show jump labels instruction = _
        unfold jump
        rw [operands_eq htokens, if_neg (by simp), hoffset]
        rfl
      exact ⟨token, [r, name], .jp, _, rfl, rfl, h, rfl, hjump.trans (bind_pure_eq_map _ _),
        Operation.encoded_address_eq rfl⟩
  | @call token h =>
      exact ⟨token, [name], .call, _, rfl, rfl, h, rfl, bind_pure_eq_map _ _,
        Operation.encoded_address_eq rfl⟩
  | @loadAddress token i h hi =>
      have hload : operation labels instruction .ld =
          addressForm labels instruction .ldI 2 := by
        show load labels instruction = _
        rw [load_eq labels htokens, if_pos hi]
      exact ⟨token, [i, name], .ld, _, rfl, rfl, h, rfl, hload.trans (bind_pure_eq_map _ _),
        Operation.encoded_address_eq rfl⟩
  | @word token h =>
      refine ⟨token, [name], .dw, _, rfl, rfl, h, rfl, bind_pure_eq_map _ _, ?_⟩
      intro value
      simpa [Operation.encoded] using truncate_eq_emod 0x10000 value
  | @byte token h =>
      refine ⟨token, [name], .db, _, rfl, rfl, h, rfl, bind_pure_eq_map _ _, ?_⟩
      intro value
      simpa [Operation.encoded] using truncate_eq_emod 0x100 value

theorem tokenAt_of_getLast? (htokens : instruction.tokens = token :: operands)
    (hlast : operands.getLast? = some name) :
    instruction.tokens[operands.length]? = some name := by
  obtain ⟨front, rfl⟩ := List.getLast?_eq_some_iff.mp hlast
  simp [htokens]

theorem valueAt_eq_of_getLast? (htokens : instruction.tokens = token :: operands)
    (hlast : operands.getLast? = some name) (hkind : Operand.ofToken name = .label) :
    valueAt labels instruction operands.length =
      match labels.find? name with
      | some address => .ok address
      | none =>
          .error (instruction.report (instruction.locationOf operands.length)
            (.undefinedLabel name (labels.similar name))) := by
  have hget : instruction.tokenAt operands.length = .ok name :=
    tokenAt_eq (tokenAt_of_getLast? htokens hlast)
  cases hbound : labels.find? name with
  | none => simp [valueAt, hget, hkind, hbound, bind, Except.bind]
  | some address => simp [valueAt, hget, hkind, hbound, bind, Except.bind]

/-- A reference whose operand has a value takes the remainder of it. -/
theorem encode_of_value {value : Int} (h : Reference name instruction.tokens base modulus)
    (hvalue : labels.Resolves name value) :
    ∃ made, instruction.encode labels = .ok made ∧
      made.encoded = some (base + value % modulus) := by
  obtain ⟨token, operands, mnemonic, make, htokens, hlast, hmnemonic, hcount, hmade, hnumber⟩ :=
    operation_of_reference labels h
  have hread : valueAt labels instruction operands.length = .ok value :=
    (valueAt_eq_ok_iff (tokenAt_of_getLast? htokens hlast)).mpr hvalue
  have hencode : instruction.encode labels = .ok { instruction with
      encoded := some (make value).encoded
      width := mnemonic.width } := by
    rw [encode_eq_map htokens hmnemonic hcount, hmade, hread]
    rfl
  exact ⟨_, hencode, congrArg some (hnumber value)⟩

/-- A reference to a bound name takes the remainder of its address. -/
theorem encode_of_bound (h : Reference name instruction.tokens base modulus)
    (hkind : Operand.ofToken name = .label) (hbound : labels.find? name = some address) :
    ∃ made, instruction.encode labels = .ok made ∧
      made.encoded = some (base + address % modulus) :=
  encode_of_value h (.label hkind hbound)

/-- A reference to a name that is not bound is reported as such. -/
theorem encode_of_unbound (h : Reference name instruction.tokens base modulus)
    (hkind : Operand.ofToken name = .label) (hbound : labels.find? name = none) :
    ∃ diagnostic, instruction.encode labels = .error (.reported diagnostic) ∧
      diagnostic.cause = .undefinedLabel name (labels.similar name) := by
  obtain ⟨token, operands, mnemonic, make, htokens, hlast, hmnemonic, hcount, hmade, -⟩ :=
    operation_of_reference labels h
  have hencode : instruction.encode labels =
      .error (instruction.report (instruction.locationOf operands.length)
        (.undefinedLabel name (labels.similar name))) := by
    rw [encode_eq_map htokens hmnemonic hcount, hmade, valueAt_eq_of_getLast? htokens hlast hkind,
      hbound]
    rfl
  exact ⟨_, hencode, rfl⟩

end Instruction

/-! ### All references of a source -/

/-- Whatever the step of addresses and wherever the instruction stands, a reference takes the
address that the last definition of its name has, and is undefined if no line defines the name. -/
theorem encode_reference {options : Options} {file source : Text}
    (hlabels : options.strictLabels = false ∨
      Source.DistinctLabels (Source.lines file source)) :
    ∃ program, Program.ofSource options file source = .ok program ∧
      ∀ instruction ∈ program.instructions, ∀ name base modulus,
        Reference name instruction.tokens base modulus → Operand.ofToken name = .label →
        ((∃ diagnostic similar,
            instruction.encode program.addresses = .error (.reported diagnostic) ∧
              diagnostic.cause = .undefinedLabel name similar) ↔
          ∀ spelled position,
            Source.DefinedAt (Source.lines file source) spelled position →
              Text.upper spelled ≠ Text.upper name) ∧
        ((∃ spelled position, Source.DefinedAt (Source.lines file source) spelled position ∧
            Text.upper spelled = Text.upper name) →
          ∃ spelled position target made,
            Source.LastDefinition (Source.lines file source) spelled position ∧
              Text.upper spelled = Text.upper name ∧
              program.instructions[position]? = some target ∧
              instruction.encode program.addresses = .ok made ∧
              made.encoded = some (base + target.address % modulus)) := by
  let lines := Source.lines file source
  let program := Program.labelled options lines
  have hsolid : Source.Unbroken lines := Source.lines_unbroken file source
  have hprogram : Program.ofSource options file source = .ok program :=
    Program.ofSource_eq_ok_iff.mpr ⟨hlabels, rfl⟩
  refine ⟨program, hprogram, ?_⟩
  intro instruction hmem name base modulus hreference hkind
  have hfind := Program.find?_addresses program name
  -- the table binds the name exactly if some line of the source defines it
  cases hposition : program.labels.find? name with
  | none =>
      have hundefined := (Program.labelled_find?_eq_none_iff hsolid).mp hposition
      rw [hposition] at hfind
      obtain ⟨diagnostic, hencode, hcause⟩ :=
        Instruction.encode_of_unbound hreference hkind hfind
      refine ⟨⟨fun _ => hundefined, fun _ => ⟨diagnostic, _, hencode, hcause⟩⟩, ?_⟩
      rintro ⟨spelled, position, hdefined, hkey⟩
      exact absurd hkey (hundefined spelled position hdefined)
  | some position =>
      obtain ⟨spelled, hlast, hkey⟩ :=
        (Program.labelled_find?_eq_some_iff hsolid).mp hposition
      have hbound : position < program.instructions.length := by
        obtain ⟨line, hline, -⟩ := hlast.1
        rw [Program.labelled_instructions, Program.length_place]
        exact (List.getElem?_eq_some_iff.mp hline).1
      have hget := List.getElem?_eq_getElem hbound
      rw [hposition, Option.bind_some, hget, Option.map_some] at hfind
      obtain ⟨made, hencode, hnumber⟩ := Instruction.encode_of_bound hreference hkind hfind
      constructor
      · constructor
        · rintro ⟨diagnostic, similar, herror, -⟩
          rw [hencode] at herror
          contradiction
        · intro hundefined
          exact absurd hkey (hundefined spelled position hlast.1)
      · intro _
        exact ⟨spelled, position, _, made, hlast, hkey, hget, hencode, hnumber⟩

/-- Between two definitions of a label, the later one counts. -/
theorem encode_reference_between :
    ∃ program instruction made,
      Program.ofSource ⟨.fixed, false⟩ [] "A: CLS\nJP A\na: RET".toList = .ok program ∧
        instruction ∈ program.instructions ∧
        Reference "A".toList instruction.tokens 0x1000 0x1000 ∧
        instruction.encode program.addresses = .ok made ∧ made.encoded = some 0x1204 := by
  let lines := Source.lines [] "A: CLS\nJP A\na: RET".toList
  have hfree : (Options.mk .fixed false).strictLabels = false ∨ Source.DistinctLabels lines :=
    .inl rfl
  obtain ⟨program, hprogram, hall⟩ := encode_reference hfree
  obtain rfl := (Program.ofSource_eq_ok_iff.mp hprogram).2
  let program := Program.labelled ⟨.fixed, false⟩ lines
  have hjump : (program.instructions[1]?.map fun instruction =>
      (instruction.tokens, (instruction.encode program.addresses).map (·.encoded))) =
        some (["JP".toList, "A".toList], .ok (some 0x1204)) := by
    decide +kernel
  obtain ⟨instruction, hget, hpair⟩ := Option.map_eq_some_iff.mp hjump
  obtain ⟨htokens, hvalue⟩ := Prod.mk.inj hpair
  have hmem : instruction ∈ program.instructions := List.mem_of_getElem? hget
  have hreference : Reference "A".toList instruction.tokens 0x1000 0x1000 :=
    htokens ▸ .jump (by decide)
  have hfirst : (lines[0]?.map (·.tokens)) = some ["A:".toList, "CLS".toList] := by
    decide +kernel
  obtain ⟨line, hline, hwords⟩ := Option.map_eq_some_iff.mp hfirst
  have hdefined : Source.DefinedAt lines "A".toList 0 :=
    ⟨line, hline, by decide, congrArg List.head? hwords⟩
  obtain ⟨_, _, _, made, -, -, -, hencode, -⟩ :=
    (hall instruction hmem _ _ _ hreference (by decide)).2 ⟨_, _, hdefined, rfl⟩
  rw [hencode] at hvalue
  exact ⟨program, instruction, made, hprogram, hmem, hreference, hencode,
    Except.ok.inj hvalue⟩

end Chip8
