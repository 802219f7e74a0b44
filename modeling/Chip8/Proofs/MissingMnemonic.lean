import Chip8.Proofs.FirstFailure

/-!
# Lines without a mnemonic

The report of a missing mnemonic is the one of a mnemonic without characters.  A line that is a label
alone gives it, and so does a comma in the place of the mnemonic, since the comma is dropped from it.
In any other line the mnemonic is reported as it stands there, without a comma after it.
-/

namespace Chip8

/-! ### Mnemonics of lines -/

namespace Line

/-- Holds of a line that is the definition of a label and nothing else. -/
def IsLabel (line : Line) : Prop :=
  ∃ name, Text.isWordText name = true ∧ line.tokens = [name ++ [':']]

/-- `line.HasMnemonic word` holds when the word stands where the mnemonic of the line is looked for:
at the start, or after the definition of a label. -/
inductive HasMnemonic (line : Line) (word : Token) : Prop
  | first {others : List Token} (hlabel : ∀ name, ¬ line.Defines name)
      (h : line.tokens = word :: others) : HasMnemonic line word
  | labelled {name : Text} {others : List Token} (hname : Text.isWordText name = true)
      (h : line.tokens = (name ++ [':']) :: word :: others) : HasMnemonic line word

theorem HasMnemonic.mem {line : Line} {word : Token} (h : line.HasMnemonic word) :
    word ∈ line.tokens := by
  cases h with
  | first _ h => simp [h]
  | labelled _ h => simp [h]

end Line

namespace Instruction

variable {line : Line} {name : Text} {token word : Token}

theorem dropComma_eq_nil_iff (h : token ≠ []) : dropComma token = [] ↔ token = [','] := by
  unfold dropComma
  split
  · rename_i hlast
    obtain ⟨front, rfl⟩ := List.getLast?_eq_some_iff.mp hlast
    simp
  · rename_i hlast
    simp only [h, false_iff]
    rintro rfl
    exact hlast rfl

/-- Without a label all tokens of a line are those of its instruction, but for commas. -/
theorem ofLine_tokens_of_not_defines (h : ∀ token ∈ line.tokens, Token.Unbroken token)
    (step : AddressStep) (address : Int) (index : Nat) (hlabel : ∀ name, ¬ line.Defines name) :
    (ofLine step address index line).tokens = line.tokens.map dropComma := by
  have hnone : line.tokens.head?.bind definedLabel? = none := by
    refine Option.eq_none_iff_forall_not_mem.mpr fun name hname => hlabel name ?_
    exact (ofLine_label_eq_some_iff h step address index).mp hname
  simp [ofLine, hnone]

/-- The token that defines a label is not one of the instruction. -/
theorem ofLine_tokens_of_defines (h : ∀ token ∈ line.tokens, Token.Unbroken token)
    (step : AddressStep) (address : Int) (index : Nat) (hlabel : line.Defines name) :
    (ofLine step address index line).tokens = line.tokens.tail.map dropComma := by
  have hsome : line.tokens.head?.bind definedLabel? = some name :=
    (ofLine_label_eq_some_iff h step address index).mpr hlabel
  simp [ofLine, hsome]

section

variable (hsolid : ∀ token ∈ line.tokens, Token.Solid token) (hne : line.tokens ≠ [])
  (step : AddressStep) (address : Int) (index : Nat)

include hsolid hne

/-- The first token of an instruction is what the line has for its mnemonic. -/
theorem ofLine_tokens_cases :
    line.IsLabel ∧ (ofLine step address index line).tokens = [] ∨
      ∃ word, line.HasMnemonic word ∧
        (ofLine step address index line).tokens.head? = some (dropComma word) := by
  have hunbroken : ∀ token ∈ line.tokens, Token.Unbroken token :=
    fun token hmem => (hsolid token hmem).2
  by_cases hlabel : ∃ name, line.Defines name
  · obtain ⟨name, hdefines⟩ := hlabel
    rw [ofLine_tokens_of_defines hunbroken step address index hdefines]
    obtain ⟨hname, hhead⟩ := hdefines
    obtain ⟨others, htokens⟩ := List.head?_eq_some_iff.mp hhead
    cases others with
    | nil => exact .inl ⟨⟨name, hname, htokens⟩, by simp [htokens]⟩
    | cons word others => exact .inr ⟨word, .labelled hname htokens, by simp [htokens]⟩
  · rw [not_exists] at hlabel
    rw [ofLine_tokens_of_not_defines hunbroken step address index hlabel]
    obtain ⟨word, others, htokens⟩ := List.exists_cons_of_ne_nil hne
    exact .inr ⟨word, .first hlabel htokens, by simp [htokens]⟩

end

end Instruction

/-- A line has one mnemonic at the most, and none if it is a label. -/
theorem Line.HasMnemonic.unique {line : Line} {word other : Token} (h : line.HasMnemonic word)
    (hother : line.HasMnemonic other) : other = word := by
  cases h with
  | first hlabel h =>
      cases hother with
      | first _ h' => exact (List.cons.inj (h'.symm.trans h)).1
      | labelled hname h' => exact absurd ⟨hname, by rw [h']; rfl⟩ (hlabel _)
  | labelled hname h =>
      cases hother with
      | first hlabel _ => exact absurd ⟨hname, by rw [h]; rfl⟩ (hlabel _)
      | labelled _ h' => exact (List.cons.inj (List.cons.inj (h'.symm.trans h)).2).1

theorem Line.IsLabel.not_hasMnemonic {line : Line} {word : Token} (h : line.IsLabel) :
    ¬ line.HasMnemonic word := by
  obtain ⟨name, hname, htokens⟩ := h
  rintro (⟨hlabel, -⟩ | ⟨-, h⟩)
  · exact hlabel name ⟨hname, by rw [htokens]; rfl⟩
  · rw [htokens] at h
    simp at h

/-! ### Unknown mnemonics -/

namespace Instruction

variable {labels : LabelTable Int} {instruction : Instruction} {token : Token}

/-- An instruction is reported for its mnemonic exactly if it has none or an unknown one. -/
theorem encode_unknownMnemonic_iff :
    (∃ diagnostic, instruction.encode labels = .error (.reported diagnostic) ∧
        diagnostic.cause = .unknownMnemonic token) ↔
      instruction.tokens = [] ∧ token = [] ∨
        instruction.tokens.head? = some token ∧ Mnemonic.ofToken? token = none := by
  constructor
  · rintro ⟨diagnostic, hfails, hcause⟩
    cases encode_faults labels instruction diagnostic hfails with
    | missing h => exact .inl ⟨h, (Cause.unknownMnemonic.inj hcause).symm⟩
    | unknown h hmnemonic =>
        obtain rfl := Cause.unknownMnemonic.inj hcause
        exact .inr ⟨by rw [h]; rfl, hmnemonic⟩
    | undefined _ _ _ => contradiction
    | malformed _ _ => contradiction
    | wrongCount _ _ _ => contradiction
  · rintro (⟨htokens, rfl⟩ | ⟨hhead, hmnemonic⟩)
    · exact ⟨_, by unfold encode; rw [htokens]; rfl, rfl⟩
    · obtain ⟨operands, htokens⟩ := List.head?_eq_some_iff.mp hhead
      exact ⟨_, by unfold encode; simp only [htokens, hmnemonic]; rfl, rfl⟩

end Instruction

namespace Program

variable {program : Program} {position other : Nat} {failure failure' : Failure}

/-- Holds when the instruction at a position fails, and none before it does. -/
def FailsFirst (program : Program) (position : Nat) (failure : Failure) : Prop :=
  Instruction.FailsAt program.addresses program.instructions position failure ∧
    ∀ earlier < position, ∀ failure,
      ¬ Instruction.FailsAt program.addresses program.instructions earlier failure

theorem FailsFirst.unique (h : program.FailsFirst position failure)
    (hother : program.FailsFirst other failure') : failure' = failure := by
  obtain ⟨⟨instruction, hget, hfails⟩, hfirst⟩ := h
  obtain ⟨⟨instruction', hget', hfails'⟩, hfirst'⟩ := hother
  rcases Nat.lt_trichotomy other position with hlt | rfl | hgt
  · exact absurd ⟨instruction', hget', hfails'⟩ (hfirst other hlt failure')
  · obtain rfl := Option.some.inj (hget'.symm.trans hget)
    exact Except.error.inj (hfails'.symm.trans hfails)
  · exact absurd ⟨instruction, hget, hfails⟩ (hfirst' position hgt failure)

/-- Encoding a program fails as the first instruction does that fails. -/
theorem encoded_eq_error_iff_failsFirst :
    program.encoded = .error failure ↔ ∃ position, program.FailsFirst position failure := by
  have hfirst {failure : Failure} (h : program.encoded = .error failure) :
      ∃ position, program.FailsFirst position failure := by
    obtain ⟨before, made, instruction, after, hsplit, hbefore, hfails⟩ :=
      encoded_eq_error_iff.mp h
    refine ⟨before.length, ⟨instruction, by simp [hsplit], hfails⟩, ?_⟩
    rintro earlier hlt failure ⟨found, hget, hfound⟩
    rw [hsplit, List.getElem?_append_left hlt] at hget
    exact Instruction.not_failsAt_of_forall₂ hbefore ⟨found, hget, hfound⟩
  refine ⟨hfirst, ?_⟩
  rintro ⟨position, h⟩
  cases hencoded : program.encoded with
  | error failure' =>
      obtain ⟨other, hother⟩ := hfirst hencoded
      rw [h.unique hother]
  | ok made =>
      obtain ⟨hall, -⟩ := encoded_eq_ok_iff.mp hencoded
      exact absurd h.1 (Instruction.not_failsAt_of_forall₂ hall)

end Program

section Sources

variable {options : Options} {file source : Text} {program : Program} {position : Nat}
  {failure : Failure} {line : Line} {token word : Token}

/-- The instruction that fails first is the one of its line. -/
theorem Program.FailsFirst.exists_line (h : program.FailsFirst position failure)
    (hparsed : ofSource options file source = .ok program) :
    ∃ line ∈ Source.lines file source, (Source.lines file source)[position]? = some line ∧
      ∃ address, (Instruction.ofLine options.addressStep address position line).encode
        program.addresses = .error failure := by
  obtain ⟨⟨instruction, hget, hfails⟩, -⟩ := h
  rw [instructions_of_ofSource hparsed, getElem?_place, Nat.zero_add] at hget
  obtain ⟨line, hline, rfl⟩ := Option.map_eq_some_iff.mp hget
  exact ⟨line, List.mem_of_getElem? hline, hline, _, hfails⟩

/-- A report of a mnemonic comes from encoding, not from a label that is defined again. -/
theorem assemble_unknownMnemonic_iff :
    (∃ diagnostic, assemble options file source = .error (.reported diagnostic) ∧
        diagnostic.cause = .unknownMnemonic token) ↔
      ∃ program position diagnostic, Program.ofSource options file source = .ok program ∧
        program.FailsFirst position (.reported diagnostic) ∧
        diagnostic.cause = .unknownMnemonic token := by
  constructor
  · rintro ⟨diagnostic, hfails, hcause⟩
    obtain hparsed | ⟨program, hparsed, hencoded⟩ := assemble_eq_error_iff.mp hfails
    · rw [Program.ofSource_eq_defineAll] at hparsed
      obtain ⟨_, _, _, _, _, heq⟩ := Program.defineAll_blames _ _ diagnostic hparsed
      rw [heq] at hcause
      cases hcause
    · obtain ⟨position, hfirst⟩ := Program.encoded_eq_error_iff_failsFirst.mp hencoded
      exact ⟨program, position, diagnostic, hparsed, hfirst, hcause⟩
  · rintro ⟨program, position, diagnostic, hparsed, hfirst, hcause⟩
    have hencoded := Program.encoded_eq_error_iff_failsFirst.mpr ⟨position, hfirst⟩
    exact ⟨diagnostic, assemble_eq_error_iff.mpr (.inr ⟨program, hparsed, hencoded⟩), hcause⟩

/-- What a line that fails first is reported for, if it is its mnemonic. -/
theorem Program.FailsFirst.unknownMnemonic_iff (h : program.FailsFirst position failure)
    (hparsed : ofSource options file source = .ok program)
    (hline : (Source.lines file source)[position]? = some line) :
    (∃ diagnostic, failure = .reported diagnostic ∧ diagnostic.cause = .unknownMnemonic token) ↔
      line.IsLabel ∧ token = [] ∨
        ∃ word, line.HasMnemonic word ∧ Instruction.dropComma word = token ∧
          Mnemonic.ofToken? token = none := by
  obtain ⟨found, hmem, hfound, address, hfails⟩ := h.exists_line hparsed
  obtain rfl := Option.some.inj (hfound.symm.trans hline)
  have hcases := Instruction.ofLine_tokens_cases (Source.tokens_solid hmem)
    (Source.tokens_ne_nil hmem) options.addressStep address position
  have hsame : (∃ diagnostic, failure = .reported diagnostic ∧
      diagnostic.cause = .unknownMnemonic token) ↔
      ∃ diagnostic, (Instruction.ofLine options.addressStep address position found).encode
        program.addresses = .error (.reported diagnostic) ∧
          diagnostic.cause = .unknownMnemonic token := by
    simp [hfails]
  rw [hsame, Instruction.encode_unknownMnemonic_iff]
  rcases hcases with ⟨hlabel, htokens⟩ | ⟨word, hword, hhead⟩
  · simp [htokens, hlabel, hlabel.not_hasMnemonic]
  · have hlabel : ¬ found.IsLabel := fun hlabel => hlabel.not_hasMnemonic hword
    have htokens : (Instruction.ofLine options.addressStep address position found).tokens ≠ [] := by
      intro hnil
      rw [hnil] at hhead
      contradiction
    simp only [hhead, Option.some.injEq, htokens, hlabel, false_and, false_or]
    constructor
    · rintro ⟨heq, hnone⟩
      exact ⟨word, hword, heq, hnone⟩
    · rintro ⟨other, hother, rfl, hnone⟩
      obtain rfl := hword.unique hother
      exact ⟨rfl, hnone⟩

theorem Source.ne_nil_of_hasMnemonic (hline : (lines file source)[position]? = some line)
    (hword : line.HasMnemonic word) : word ≠ [] :=
  (tokens_solid (List.mem_of_getElem? hline) word hword.mem).1

/-- The report of a missing mnemonic is given exactly if labels are not at fault and the first line
that cannot be encoded is a label alone, or has a comma for its mnemonic.  Another unknown mnemonic
in that line is reported as it stands, but for a comma after it. -/
theorem assemble_missingMnemonic (options : Options) (file source : Text) :
    ((∃ diagnostic, assemble options file source = .error (.reported diagnostic) ∧
        diagnostic.cause = .unknownMnemonic [] ∧
        diagnostic.cause.description = "expected a mnemonic after the label".toList) ↔
      ∃ program position failure line,
        Program.ofSource options file source = .ok program ∧
          program.FailsFirst position failure ∧
          (Source.lines file source)[position]? = some line ∧
          (line.IsLabel ∨ line.HasMnemonic [','])) ∧
    ∀ program position failure line word,
      Program.ofSource options file source = .ok program →
      program.FailsFirst position failure →
      (Source.lines file source)[position]? = some line → line.HasMnemonic word →
      Mnemonic.ofToken? (Instruction.dropComma word) = none → word ≠ [','] →
        Instruction.dropComma word ≠ [] ∧
          ∃ diagnostic, assemble options file source = .error (.reported diagnostic) ∧
            diagnostic.cause = .unknownMnemonic (Instruction.dropComma word) := by
  constructor
  · constructor
    · rintro ⟨diagnostic, hfails, hcause, -⟩
      obtain ⟨program, position, diagnostic, hparsed, hfirst, hcause⟩ :=
        assemble_unknownMnemonic_iff.mp ⟨diagnostic, hfails, hcause⟩
      obtain ⟨line, -, hline, -⟩ := hfirst.exists_line hparsed
      refine ⟨program, position, _, line, hparsed, hfirst, hline, ?_⟩
      obtain ⟨hlabel, -⟩ | ⟨word, hword, hdropped, -⟩ :=
        (hfirst.unknownMnemonic_iff hparsed hline).mp ⟨diagnostic, rfl, hcause⟩
      · exact .inl hlabel
      · have hne := Source.ne_nil_of_hasMnemonic hline hword
        exact .inr ((Instruction.dropComma_eq_nil_iff hne).mp hdropped ▸ hword)
    · rintro ⟨program, position, failure, line, hparsed, hfirst, hline, hshape⟩
      obtain ⟨diagnostic, rfl, hcause⟩ := (hfirst.unknownMnemonic_iff hparsed hline).mpr
        (hshape.imp (fun hlabel => ⟨hlabel, rfl⟩) fun hword => ⟨_, hword, by decide, by decide⟩)
      obtain ⟨diagnostic, hfails, hcause⟩ := assemble_unknownMnemonic_iff.mpr
        ⟨program, position, diagnostic, hparsed, hfirst, hcause⟩
      exact ⟨diagnostic, hfails, hcause, by rw [hcause]; rfl⟩
  · intro program position failure line word hparsed hfirst hline hword hunknown hcomma
    have hne := Source.ne_nil_of_hasMnemonic hline hword
    refine ⟨fun hnil => hcomma ((Instruction.dropComma_eq_nil_iff hne).mp hnil), ?_⟩
    obtain ⟨diagnostic, rfl, hcause⟩ := (hfirst.unknownMnemonic_iff hparsed hline).mpr
      (.inr ⟨word, hword, rfl, hunknown⟩)
    exact assemble_unknownMnemonic_iff.mpr
      ⟨program, position, diagnostic, hparsed, hfirst, hcause⟩

/-- A label with nothing but a comment after it lacks a mnemonic.  A mnemonic with a comma after it
is unknown without the comma. -/
theorem assemble_missingMnemonic_labelled :
    (∃ program position failure line,
      Program.ofSource {} [] "CLS\nA: ; end\nBAD".toList = .ok program ∧
        program.FailsFirst position failure ∧
        (Source.lines [] "CLS\nA: ; end\nBAD".toList)[position]? = some line ∧
        (line.IsLabel ∨ line.HasMnemonic [','])) ∧
      ∃ diagnostic, assemble {} [] "L: Bad, V0\nCLS".toList = .error (.reported diagnostic) ∧
        diagnostic.cause = .unknownMnemonic "Bad".toList := by
  constructor
  · refine (assemble_missingMnemonic {} [] "CLS\nA: ; end\nBAD".toList).1.mp ?_
    refine ⟨⟨.unknownMnemonic [], some ⟨[], 2, 1⟩, some "A: ; end".toList, some 1⟩, ?_, rfl, rfl⟩
    decide +kernel
  · let lines := Source.lines [] "L: Bad, V0\nCLS".toList
    let program := Program.labelled {} lines
    have hparsed : Program.ofSource {} [] "L: Bad, V0\nCLS".toList = .ok program :=
      Program.ofSource_eq_ok_iff.mpr ⟨.inl rfl, rfl⟩
    let diagnostic : Diagnostic :=
      ⟨.unknownMnemonic "Bad".toList, some ⟨[], 1, 4⟩, some "L: Bad, V0".toList, some 0⟩
    have hencode : (program.instructions[0]?.map fun instruction =>
        instruction.encode program.addresses) = some (.error (.reported diagnostic)) := by
      decide +kernel
    obtain ⟨instruction, hget, hfails⟩ := Option.map_eq_some_iff.mp hencode
    have hfirst : program.FailsFirst 0 (.reported diagnostic) :=
      ⟨⟨instruction, hget, hfails⟩, fun _ hlt => absurd hlt (Nat.not_lt_zero _)⟩
    have htokens : (lines[0]?.map (·.tokens)) =
        some ["L:".toList, "Bad,".toList, "V0".toList] := by
      decide +kernel
    obtain ⟨line, hline, hwords⟩ := Option.map_eq_some_iff.mp htokens
    have hname : Text.isWordText "L".toList = true := by decide
    have hword : line.HasMnemonic "Bad,".toList := .labelled hname hwords
    exact ((assemble_missingMnemonic {} [] "L: Bad, V0\nCLS".toList).2 program 0 _ line _ hparsed
      hfirst hline hword (by decide +kernel) (by decide)).2

/-- A line that is only a comma defines no label, yet a mnemonic after a label is asked for. -/
theorem assemble_comma_alone :
    (∀ line ∈ Source.lines [] ",".toList, ¬ line.IsLabel) ∧
      (Source.lines [] ",".toList).map (·.tokens) = [[",".toList]] ∧
      assemble {} [] ",".toList =
        .error (.reported
          ⟨.unknownMnemonic [], some ⟨[], 1, 1⟩, some ",".toList, some 0⟩) := by
  have htokens : (Source.lines [] ",".toList).map (·.tokens) = [[",".toList]] := by
    decide +kernel
  refine ⟨?_, htokens, by decide +kernel⟩
  rintro line hline ⟨name, -, hname⟩
  have hmem : line.tokens ∈ (Source.lines [] ",".toList).map (·.tokens) :=
    List.mem_map_of_mem hline
  rw [htokens, List.mem_singleton, hname, List.singleton_inj] at hmem
  simpa using congrArg List.getLast? hmem

end Sources

end Chip8
