import Chip8.Proofs.Failures
import Chip8.Proofs.Layout
import Chip8.Proofs.Respelling

/-!
# Formatting

Comments, blank lines and the blanks around tokens leave no trace but in what is shown of a source:
files, lines, columns and the text of lines.  So two sources with the same tokens, line by line, make
one image from the same instructions under the same labels, or fail at one instruction for one
cause.
-/

namespace Chip8

/-! ### What is left without places -/

/-- A cause without the place of an earlier definition. -/
def Cause.unlocated : Cause → Cause
  | .duplicateLabel label _ => .duplicateLabel label none
  | cause => cause

/-- A report without places and without the text of a line. -/
def Diagnostic.unlocated (diagnostic : Diagnostic) : Diagnostic :=
  { diagnostic with cause := diagnostic.cause.unlocated, location := none, sourceLine := none }

/-- An instruction without places and without the text of a line. -/
def Instruction.unlocated (instruction : Instruction) : Instruction :=
  { instruction with location := ⟨Location.unnamed, 0, 0⟩, sourceLine := none, columns := [] }

/-- A program whose instructions are without places. -/
def Program.unlocated (program : Program) : Program :=
  program.withInstructions (program.instructions.map Instruction.unlocated)
    (List.length_map _)

/-- An assembly whose instructions are without places. -/
def Assembly.unlocated (assembly : Assembly) : Assembly :=
  { assembly with program := assembly.program.unlocated }

/-- What is wrong is said without places. -/
theorem Cause.description_unlocated (cause : Cause) :
    cause.unlocated.description = cause.description := by
  cases cause <;> rfl

/-- Labels stand for the addresses of instructions, wherever these are written. -/
theorem Assembly.labels_unlocated (assembly : Assembly) :
    assembly.unlocated.labels = assembly.labels := by
  have haddresses : assembly.unlocated.program.addresses = assembly.program.addresses :=
    Program.addresses_congr rfl (List.map_map ..)
  exact congrArg LabelTable.toList haddresses

/-! ### The same tokens -/

theorem Option.rel_eq {α : Type} (item : Option α) : Option.Rel Eq item item := by
  cases item with
  | none => exact .none
  | some a => exact .some rfl

/-- Tokens are read alike if they are equal. -/
theorem respelling_eq : Respelling Eq where
  nil := rfl
  dropComma h := congrArg Instruction.dropComma h
  label h := h ▸ Option.rel_eq _
  upper h := congrArg Text.upper h
  operand h := congrArg Operand.ofToken h
  register h := congrArg Register.ofToken? h
  starts h := congrArg Register.starts h
  resembles h h' := congrArg₂ LabelTable.resembles h h'

/-- Holds of all places. -/
def anywhere (_ _ : Location) : Prop :=
  True

section

variable {file source file' source' : Text} {options : Options} {line : Line}

/-- The name of a file is written into each line, and has no part in reading it. -/
theorem Source.lines_eq_map (file source : Text) :
    lines file source =
      (lines Location.unnamed source).map fun line => { line with file := file } := by
  have hread : (fun line : Text × Nat => Line.read file line.2 line.1) =
      (fun line => { line with file := file }) ∘
        fun line : Text × Nat => Line.read Location.unnamed line.2 line.1 := rfl
  unfold lines
  rw [hread, ← List.map_map, List.filter_map]
  rfl

theorem Source.map_lines_tokens (file source : Text) :
    (lines file source).map (·.tokens) = tokens source := by
  rw [lines_eq_map, List.map_map]
  rfl

/-- A line has a column for each token. -/
theorem Source.length_columns (h : line ∈ lines file source) :
    line.columns.length = line.tokens.length := by
  obtain ⟨⟨raw, number⟩, -, rfl⟩ := List.mem_map.mp (List.mem_filter.mp h).1
  unfold Line.read
  rw [List.length_map, List.length_map]

/-- Lines with the same tokens are alike, but for where they stand. -/
theorem lines_like_anywhere (h : Source.tokens source = Source.tokens source') :
    List.Forall₂ (Line.Like Eq anywhere) (Source.lines file source)
      (Source.lines file' source') := by
  have hcounted (file source : Text) :
      (Source.lines file source).map (fun line => (line.tokens, line.columns.length)) =
        (Source.tokens source).map fun tokens => (tokens, tokens.length) := by
    rw [← Source.map_lines_tokens file, List.map_map]
    exact List.map_congr_left fun line hmem =>
      congrArg (Prod.mk line.tokens) (Source.length_columns hmem)
  have hlines := (hcounted file source).trans (h ▸ (hcounted file' source').symm)
  rw [← List.forall₂_eq_eq_eq, List.forall₂_map_left_iff, List.forall₂_map_right_iff] at hlines
  refine hlines.imp fun line other hline => ?_
  obtain ⟨htokens, hcolumns⟩ := Prod.mk.inj hline
  refine ⟨?_, trivial, List.forall₂_of_length_eq_of_get hcolumns fun _ _ _ => trivial⟩
  rw [htokens]
  exact List.forall₂_same.mpr fun _ _ => rfl

end

/-! ### What is alike -/

section

variable {Place : Location → Location → Prop}

theorem OperandFault.Like.eq {fault fault' : OperandFault} (h : fault.Like Eq fault') :
    fault = fault' := by
  cases h with
  | notRegister h => rw [h]
  | notZeroRegister h => rw [h]
  | notNumber h => rw [h]
  | notAddress h => rw [h]
  | wrongCount => rfl

theorem Cause.Like.unlocated_eq {cause cause' : Cause} (h : cause.Like Eq Place cause') :
    cause.unlocated = cause'.unlocated := by
  cases h with
  | unknownMnemonic h => rw [h]
  | undefinedLabel h hsimilar =>
      rw [List.forall₂_eq_eq_eq] at hsimilar
      rw [h, hsimilar]
  | malformedOperand h => rw [h.eq]
  | duplicateLabel h _ => rw [Cause.unlocated, Cause.unlocated, h]

theorem Diagnostic.Like.unlocated_eq {diagnostic other : Diagnostic}
    (h : diagnostic.Like Eq Place other) : diagnostic.unlocated = other.unlocated := by
  unfold Diagnostic.unlocated
  rw [h.cause.unlocated_eq, h.index]

theorem LabelTable.Like.eq {α : Type} {table other : LabelTable α} (h : table.Like Eq other) :
    table = other := by
  obtain ⟨strict, bindings⟩ := table
  obtain ⟨strict', bindings'⟩ := other
  obtain ⟨rfl, hbindings⟩ := h
  have hall : List.Forall₂ Eq bindings bindings' := by
    refine hbindings.imp fun binding other hbinding => ?_
    obtain ⟨name, target⟩ := binding
    obtain ⟨name', target'⟩ := other
    obtain ⟨rfl, rfl⟩ := hbinding
    rfl
  rw [List.forall₂_eq_eq_eq] at hall
  rw [hall]

/-- Instructions that are alike and come from the same tokens differ in their places alone. -/
theorem Instruction.Like.unlocated_eq {instruction other : Instruction}
    (h : instruction.Like Eq Place other) (hwritten : instruction.written = other.written) :
    instruction.unlocated = other.unlocated := by
  have htokens := h.tokens
  rw [List.forall₂_eq_eq_eq] at htokens
  unfold Instruction.unlocated
  rw [hwritten, htokens, h.address, h.width, h.encoded, eq_of_rel_eq h.label, h.index]

theorem Instruction.map_unlocated_eq {instructions others : List Instruction}
    (h : List.Forall₂ (Like Eq Place) instructions others)
    (hwritten : instructions.map (·.written) = others.map (·.written)) :
    instructions.map unlocated = others.map unlocated := by
  induction h with
  | nil => rfl
  | cons hfirst _ ih =>
      obtain ⟨hwritten, hrest⟩ := List.cons_eq_cons.mp hwritten
      rw [List.map_cons, List.map_cons, hfirst.unlocated_eq hwritten, ih hrest]

theorem Program.Like.unlocated_eq {program other : Program} (h : program.Like Eq Place other)
    (hwritten : program.instructions.map (·.written) = other.instructions.map (·.written)) :
    program.unlocated = other.unlocated :=
  Program.ext (Instruction.map_unlocated_eq h.instructions hwritten) h.labels.eq

end

/-! ### Assembling -/

section

variable {options : Options} {file source file' source' : Text} {assembly : Assembly}

/-- The instructions of an assembly keep the tokens of their lines. -/
theorem map_written_of_assemble (h : assemble options file source = .ok assembly) :
    assembly.program.instructions.map (·.written) = Source.tokens source := by
  obtain ⟨parsed, hparsed, hencoded, -⟩ := assemble_eq_ok_iff.mp h
  obtain ⟨hall, -⟩ := Program.encoded_eq_ok_iff.mp hencoded
  rw [Instruction.map_encodeEach (·.written) (fun _ _ _ => rfl) hall,
    Program.instructions_of_ofSource hparsed, Program.place_written, Source.map_lines_tokens]

/-- Two sources with the same tokens, line by line, have assemblies that differ in places alone, or
fail with reports that do. -/
theorem assemble_sameTokens (h : Source.tokens source = Source.tokens source') :
    (∃ assembly assembly',
      assemble options file source = .ok assembly ∧
        assemble options file' source' = .ok assembly' ∧
        assembly.unlocated = assembly'.unlocated ∧ assembly.labels = assembly'.labels) ∨
    ∃ diagnostic diagnostic',
      assemble options file source = .error (.reported diagnostic) ∧
        assemble options file' source' = .error (.reported diagnostic') ∧
        diagnostic.unlocated = diagnostic'.unlocated ∧
        diagnostic.cause.description = diagnostic'.cause.description := by
  have hfollows : Follows (Diagnostic.Like Eq anywhere) (Assembly.Like Eq anywhere)
      (assemble options file source) (assemble options file' source') :=
    assemble_follows respelling_eq (lines_like_anywhere h)
  generalize hmade : assemble options file source = made at hfollows
  generalize hmade' : assemble options file' source' = made' at hfollows
  cases hfollows with
  | @ok assembly assembly' hlike =>
      have hwritten : assembly.program.instructions.map (·.written) =
          assembly'.program.instructions.map (·.written) := by
        rw [map_written_of_assemble hmade, map_written_of_assemble hmade', h]
      have hsame : assembly.unlocated = assembly'.unlocated :=
        congrArg₂ Assembly.mk hlike.image (hlike.program.unlocated_eq hwritten)
      refine .inl ⟨_, _, rfl, rfl, hsame, ?_⟩
      rw [← assembly.labels_unlocated, hsame, assembly'.labels_unlocated]
  | @reported diagnostic diagnostic' hlike =>
      refine .inr ⟨_, _, rfl, rfl, hlike.unlocated_eq, ?_⟩
      rw [← Cause.description_unlocated, hlike.cause.unlocated_eq, Cause.description_unlocated]
  | outOfRange =>
      obtain ⟨diagnostic, hreported⟩ := exists_diagnostic_of_assemble hmade
      contradiction

/-- Two files that look different have one image, and with strict labels one fault. -/
theorem assemble_sameTokens_spread :
    (∃ assembly assembly',
      assemble {} "a".toList "A: DB 1 ; one\r\n\r\n\tJP  A".toList = .ok assembly ∧
        assemble {} "b".toList "; JP B\nA:\u3000DB\t1\n   \n  JP A;A".toList = .ok assembly' ∧
        assembly.unlocated = assembly'.unlocated ∧ assembly.image = [0x01, 0x12, 0x00]) ∧
      ∃ diagnostic diagnostic',
        assemble { strictLabels := true } "a".toList "A: CLS\nA: RET".toList =
            .error (.reported diagnostic) ∧
          assemble { strictLabels := true } "b".toList "\n\tA: CLS ; first\n\n A:  RET".toList =
            .error (.reported diagnostic') ∧
          diagnostic.unlocated = diagnostic'.unlocated := by
  constructor
  · have htokens : Source.tokens "A: DB 1 ; one\r\n\r\n\tJP  A".toList =
        Source.tokens "; JP B\nA:\u3000DB\t1\n   \n  JP A;A".toList := by
      decide +kernel
    have himage : Assembly.image <$> assemble {} "a".toList
        "A: DB 1 ; one\r\n\r\n\tJP  A".toList = .ok [0x01, 0x12, 0x00] := by
      decide +kernel
    obtain ⟨made, hmade, himage⟩ := map_eq_ok_iff.mp himage
    rcases @assemble_sameTokens {} "a".toList _ "b".toList _ htokens with hsame | hfails
    · obtain ⟨assembly, assembly', hmade', hother, hsame, -⟩ := hsame
      obtain rfl := Except.ok.inj (hmade.symm.trans hmade')
      exact ⟨_, assembly', hmade, hother, hsame, himage⟩
    · obtain ⟨diagnostic, -, hfails, -⟩ := hfails
      rw [hmade] at hfails
      contradiction
  · have htokens : Source.tokens "A: CLS\nA: RET".toList =
        Source.tokens "\n\tA: CLS ; first\n\n A:  RET".toList := by
      decide +kernel
    have hok : (assemble { strictLabels := true } "a".toList "A: CLS\nA: RET".toList).isOk =
        false := by
      decide +kernel
    rcases @assemble_sameTokens { strictLabels := true } "a".toList _ "b".toList _ htokens with
      hsame | hfails
    · obtain ⟨assembly, -, hmade, -⟩ := hsame
      rw [hmade] at hok
      contradiction
    · obtain ⟨diagnostic, diagnostic', hfails, hfails', hsame, -⟩ := hfails
      exact ⟨diagnostic, diagnostic', hfails, hfails', hsame⟩

end

end Chip8
