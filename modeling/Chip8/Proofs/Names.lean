import Chip8.Assembly
import Chip8.Proofs.References

/-!
# Names as operands

Every word may be defined as a label.  As an operand a word refers to the label of that name unless
all its characters are digits: then it is a number, or nothing at all where it has too many of them,
and the label cannot be referred to.
-/

namespace Chip8

/-- Holds of the words that are read as numbers and not as names. -/
def Text.isNumeral (t : Text) : Bool :=
  t.all Char.isDigit

namespace Operand

variable {name : Token}

theorem hexadecimal?_of_isWordText (h : Text.isWordText name = true) :
    hexadecimal? name = none := by
  unfold hexadecimal?
  split
  · -- no name starts with a number sign
    have hsharp : Text.isWord '#' = false := by decide
    simp [Text.isWordText, hsharp] at h
  · rfl

/-- What a word means as an operand is decided by whether it is a numeral, and how long. -/
theorem ofToken_of_isWordText (h : Text.isWordText name = true) :
    ofToken name =
      if name.isNumeral then
        if name.length ≤ decimalLimit then .number (Text.valueIn 10 name) else .malformed
      else .label := by
  have hempty : name.isEmpty = false := by
    rw [Text.isWordText, Bool.and_eq_true] at h
    simpa using h.1
  unfold ofToken
  have hnewline : '\n' ∉ name := Text.not_mem_of_isWordText h (by decide)
  rw [Text.dropFinalNewline_of_not_mem hnewline]
  simp only [hexadecimal?_of_isWordText h, hempty, h, Bool.not_false, Bool.true_and, if_true]
  rfl

theorem ofToken_eq_label_iff (h : Text.isWordText name = true) :
    ofToken name = .label ↔ name.isNumeral = false := by
  rw [ofToken_of_isWordText h]
  cases name.isNumeral with
  | true => by_cases hlength : name.length ≤ decimalLimit <;> simp [hlength]
  | false => simp

end Operand

namespace Instruction

variable {labels : LabelTable Int} {instruction : Instruction} {name : Token}
  {base modulus : Nat}

/-- A reference whose operand is neither a number nor a name is reported as such. -/
theorem encode_of_malformed (h : Reference name instruction.tokens base modulus)
    (hkind : Operand.ofToken name = .malformed) :
    ∃ diagnostic, instruction.encode labels = .error (.reported diagnostic) ∧
      diagnostic.cause = .malformedOperand (.notAddress name) := by
  obtain ⟨token, operands, mnemonic, make, htokens, hlast, hmnemonic, hcount, hmade, -⟩ :=
    operation_of_reference labels h
  have hget : instruction.tokenAt operands.length = .ok name :=
    tokenAt_eq (tokenAt_of_getLast? htokens hlast)
  have hread : valueAt labels instruction operands.length =
      .error (instruction.malformed operands.length (.notAddress name)) := by
    simp [valueAt, hget, hkind, bind, Except.bind]
  have hencode : instruction.encode labels =
      .error (instruction.malformed operands.length (.notAddress name)) := by
    rw [encode_eq_map htokens hmnemonic hcount, hmade, hread]
    rfl
  exact ⟨_, hencode, rfl⟩

end Instruction

/-- A name that some line defines stands for the address of the last line that defines it. -/
theorem Program.exists_target_of_definedAt (options : Options) {file source : Text}
    {name : Text} {position : Nat}
    (h : Source.DefinedAt (Source.lines file source) name position) :
    ∃ spelled last target,
      Source.LastDefinition (Source.lines file source) spelled last ∧
        Text.upper spelled = Text.upper name ∧
        (labelled options (Source.lines file source)).instructions[last]? = some target ∧
        (labelled options (Source.lines file source)).addresses.find? name =
          some target.address := by
  let lines := Source.lines file source
  let program := labelled options lines
  have hsolid : Source.Unbroken lines := Source.lines_unbroken file source
  have hbound : program.labels.find? name ≠ none := by
    intro hnone
    exact (labelled_find?_eq_none_iff hsolid).mp hnone name position h rfl
  obtain ⟨last, hlast⟩ := Option.ne_none_iff_exists'.mp hbound
  obtain ⟨spelled, hspelled, hkey⟩ := (labelled_find?_eq_some_iff hsolid).mp hlast
  have hrange : last < program.instructions.length := by
    obtain ⟨line, hline, -⟩ := hspelled.1
    rw [labelled_instructions, length_place]
    exact (List.getElem?_eq_some_iff.mp hline).1
  have hget := List.getElem?_eq_getElem hrange
  refine ⟨spelled, last, _, hspelled, hkey, hget, ?_⟩
  rw [find?_addresses, hlast, Option.bind_some, hget, Option.map_some]

/-- In every place for an address, a name that some line defines stands for the address of the last
such line, unless it is a numeral.  A numeral stands for its number, and one that is too long is
refused, whatever is defined. -/
theorem encode_definable {options : Options} {file source : Text}
    (hlabels : options.strictLabels = false ∨
      Source.DistinctLabels (Source.lines file source)) :
    ∃ program, Program.ofSource options file source = .ok program ∧
      ∀ name position, Source.DefinedAt (Source.lines file source) name position →
        ∀ instruction ∈ program.instructions, ∀ base modulus,
          Reference name instruction.tokens base modulus →
          (name.isNumeral = false →
            ∃ spelled last target made,
              Source.LastDefinition (Source.lines file source) spelled last ∧
                Text.upper spelled = Text.upper name ∧
                program.instructions[last]? = some target ∧
                instruction.encode program.addresses = .ok made ∧
                made.encoded = some (base + target.address % modulus)) ∧
          (name.isNumeral = true → name.length ≤ Operand.decimalLimit →
            ∃ made, instruction.encode program.addresses = .ok made ∧
              made.encoded = some (base + (Text.valueIn 10 name : Int) % modulus)) ∧
          (name.isNumeral = true → Operand.decimalLimit < name.length →
            ∃ diagnostic,
              instruction.encode program.addresses = .error (.reported diagnostic) ∧
                diagnostic.cause = .malformedOperand (.notAddress name)) := by
  let lines := Source.lines file source
  let program := Program.labelled options lines
  have hprogram : Program.ofSource options file source = .ok program :=
    Program.ofSource_eq_ok_iff.mpr ⟨hlabels, rfl⟩
  refine ⟨program, hprogram, ?_⟩
  intro name position hdefined instruction _ base modulus hreference
  have hword : Text.isWordText name = true := by
    obtain ⟨line, -, hword, -⟩ := hdefined
    exact hword
  have hkind := Operand.ofToken_of_isWordText hword
  refine ⟨?named, ?counted, ?refused⟩
  case named =>
    intro hnumeral
    obtain ⟨spelled, last, target, hlast, hkey, hget, hfind⟩ :=
      Program.exists_target_of_definedAt options hdefined
    have hlabel := (Operand.ofToken_eq_label_iff hword).mpr hnumeral
    obtain ⟨made, hencode, hnumber⟩ := Instruction.encode_of_bound hreference hlabel hfind
    exact ⟨spelled, last, target, made, hlast, hkey, hget, hencode, hnumber⟩
  case counted =>
    intro hnumeral hlength
    rw [if_pos hnumeral, if_pos hlength] at hkind
    exact Instruction.encode_of_value hreference (.number hkind)
  case refused =>
    intro hnumeral hlength
    rw [if_pos hnumeral, if_neg (Nat.not_le.mpr hlength)] at hkind
    exact Instruction.encode_of_malformed hreference hkind

/-- A label may be called like a register, also where a register is an operand beside it. -/
theorem encode_definable_as_register :
    ∃ program instruction made,
      Program.ofSource ⟨.byWidth, false⟩ [] "DB 1\nV0: CLS\nJP V0, V0".toList = .ok program ∧
        instruction ∈ program.instructions ∧
        Reference "V0".toList instruction.tokens 0xB000 0x1000 ∧
        instruction.encode program.addresses = .ok made ∧ made.encoded = some 0xB201 := by
  let lines := Source.lines [] "DB 1\nV0: CLS\nJP V0, V0".toList
  have hfree : (Options.mk .byWidth false).strictLabels = false ∨ Source.DistinctLabels lines :=
    .inl rfl
  obtain ⟨program, hprogram, hall⟩ := encode_definable hfree
  obtain rfl := (Program.ofSource_eq_ok_iff.mp hprogram).2
  let program := Program.labelled ⟨.byWidth, false⟩ lines
  have hjump : (program.instructions[2]?.map fun instruction =>
      (instruction.tokens, (instruction.encode program.addresses).map (·.encoded))) =
        some (["JP".toList, "V0".toList, "V0".toList], .ok (some 0xB201)) := by
    decide +kernel
  obtain ⟨instruction, hget, hpair⟩ := Option.map_eq_some_iff.mp hjump
  obtain ⟨htokens, hvalue⟩ := Prod.mk.inj hpair
  have hmem : instruction ∈ program.instructions := List.mem_of_getElem? hget
  have hreference : Reference "V0".toList instruction.tokens 0xB000 0x1000 :=
    htokens ▸ .jumpFromRegister (by decide) (by decide)
  have hsecond : (lines[1]?.map (·.tokens)) = some ["V0:".toList, "CLS".toList] := by
    decide +kernel
  obtain ⟨line, hline, hwords⟩ := Option.map_eq_some_iff.mp hsecond
  have hdefined : Source.DefinedAt lines "V0".toList 1 :=
    ⟨line, hline, by decide, congrArg List.head? hwords⟩
  obtain ⟨_, _, _, made, -, -, -, hencode, -⟩ :=
    (hall _ _ hdefined instruction hmem _ _ hreference).1 (by decide)
  rw [hencode] at hvalue
  exact ⟨program, instruction, made, hprogram, hmem, hreference, hencode,
    Except.ok.inj hvalue⟩

/-- A jump to the name of a label that is a numeral does not go to the label. -/
theorem assemble_numeral_label :
    ∃ assembly, assemble ⟨.byWidth, false⟩ [] "5: CLS\nJP 5".toList = .ok assembly ∧
      assembly.labels = [("5".toList, 0x200)] ∧
      assembly.image = [0x00, 0xE0, 0x10, 0x05] := by
  have hparts : (assemble ⟨.byWidth, false⟩ [] "5: CLS\nJP 5".toList).map
      (fun assembly => (assembly.labels, assembly.image)) =
        .ok ([("5".toList, 0x200)], [0x00, 0xE0, 0x10, 0x05]) := by
    decide +kernel
  obtain ⟨assembly, hmade, hboth⟩ := map_eq_ok_iff.mp hparts
  obtain ⟨hlabels, himage⟩ := Prod.mk.inj hboth
  exact ⟨assembly, hmade, hlabels, himage⟩

end Chip8
