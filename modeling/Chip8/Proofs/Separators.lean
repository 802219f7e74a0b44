import Chip8.Proofs.Counterparts
import Chip8.Proofs.FirstFailure
import Chip8.Proofs.Grammar

/-!
# Blanks beside commas

Words are told apart by blanks and not by commas; a comma is only dropped from the end of a word.
So a comma has to touch the operand before it, and must not touch the one after it.  Beyond that the
blanks beside commas make no difference.  A line with a comma in any other place has an operand that
is empty or has a comma in it, and cannot be encoded.
-/

namespace Chip8

theorem Instruction.dropComma_append_comma (token : Token) :
    dropComma (token ++ [',']) = token := by
  unfold dropComma
  rw [List.getLast?_concat, if_pos rfl, List.dropLast_concat]

theorem Instruction.dropComma_of_not_mem {token : Token} (h : ',' ∉ token) :
    dropComma token = token := by
  unfold dropComma
  rw [if_neg fun hlast => h (List.mem_of_getLast? hlast)]

/-- At most the last character is dropped. -/
theorem Instruction.mem_dropComma_of_mem_dropLast {token : Token} {c : Char}
    (h : c ∈ token.dropLast) : c ∈ dropComma token := by
  unfold dropComma
  split
  · exact h
  · exact List.dropLast_subset token h

namespace Grammar

/-! ### What is written, without the blanks -/

namespace Gap

/-- No blank at all. -/
def empty : Gap :=
  ⟨[], by simp, List.not_mem_nil⟩

/-- One space. -/
def space : Gap :=
  ⟨[' '], List.forall_mem_singleton.mpr rfl, by decide⟩

end Gap

namespace Separator

/-- Holds of a comma that touches the operand before it and not the one after it. -/
def IsAttached (separator : Separator) : Prop :=
  separator.before.text = [] ∧ separator.after.text ≠ []

instance (separator : Separator) : Decidable separator.IsAttached := by
  unfold IsAttached
  infer_instance

/-- A comma with one space after it. -/
def standard : Separator :=
  ⟨Gap.empty, Gap.space⟩

theorem isAttached_standard : standard.IsAttached := by decide

end Separator

/-- The operands. -/
def Items.operands (items : Items) : List Token :=
  items.first.text :: items.rest.map fun (_, item) => item.text

/-- The operands of a statement, if any. -/
def Statement.operands (statement : Statement) : List Token :=
  (statement.items.map Items.operands).getD []

/-- The name that is defined, the mnemonic and the operands. -/
def Statement.words (statement : Statement) : Option Text × Token × List Token :=
  (statement.label.map (·.name), statement.mnemonic, statement.operands)

/-- The commas, each with what stands on either side of it. -/
def Statement.separators (statement : Statement) : List Separator :=
  (statement.items.map fun items => items.rest.map (·.1)).getD []

/-- Holds of a statement in which every comma touches the operand before it and not the one after
it. -/
def Statement.IsAttached (statement : Statement) : Prop :=
  ∀ separator ∈ statement.separators, separator.IsAttached

instance (statement : Statement) : Decidable statement.IsAttached :=
  List.decidableBAll Separator.IsAttached statement.separators

namespace Line

/-- What a line is written for, without the blanks. -/
def words (line : Line) : Option (Option Text × Token × List Token) :=
  line.statement.map Statement.words

/-- Holds of a line in which every comma touches the operand before it and not the one after it. -/
def IsAttached (line : Line) : Prop :=
  ∀ statement ∈ line.statement, statement.IsAttached

instance (line : Line) : Decidable line.IsAttached :=
  Option.decidableForallMem line.statement

end Line

/-- The same operands with a comma and one space between them. -/
def Items.standard (items : Items) : Items :=
  { items with rest := items.rest.map fun (_, item) => (Separator.standard, item) }

/-- The same statement with one space after each comma, and none before it. -/
def Statement.standard (statement : Statement) : Statement :=
  { statement with items := statement.items.map Items.standard }

/-- The same line with one space after each comma, and none before it. -/
def Line.standard (line : Line) : Line :=
  { line with statement := line.statement.map Statement.standard }

theorem Line.words_standard (line : Line) : line.standard.words = line.words := by
  have hitems (items : Items) : items.standard.operands = items.operands := by
    simp [Items.operands, Items.standard, Function.comp_def]
  have hstatement (statement : Statement) : statement.standard.words = statement.words := by
    simp [Statement.words, Statement.operands, Statement.standard, Option.map_map,
      Function.comp_def, hitems]
  simp [Line.words, Line.standard, Option.map_map, Function.comp_def, hstatement]

theorem Statement.isAttached_standard (statement : Statement) : statement.standard.IsAttached := by
  unfold IsAttached separators standard
  cases statement.items with
  | none => exact List.forall_mem_nil _
  | some items =>
      intro separator hmem
      simp only [Items.standard, Option.map_some, Option.getD_some, List.map_map,
        List.mem_map] at hmem
      obtain ⟨_, -, rfl⟩ := hmem
      exact Separator.isAttached_standard

theorem Line.isAttached_standard (line : Line) : line.standard.IsAttached := by
  intro statement hmem
  obtain ⟨statement, -, rfl⟩ := Option.map_eq_some_iff.mp hmem
  exact statement.isAttached_standard

/-! ### Attached commas -/

/-- Puts a comma after every operand but the last. -/
def withCommas : List Token → List Token
  | [] => []
  | [last] => [last]
  | operand :: next :: rest => (operand ++ [',']) :: withCommas (next :: rest)

/-- The commas that are put after operands are dropped again. -/
theorem map_dropComma_withCommas {operands : List Token} (h : ∀ operand ∈ operands, ',' ∉ operand) :
    (withCommas operands).map Instruction.dropComma = operands := by
  induction operands with
  | nil => rfl
  | cons operand rest ih =>
      obtain ⟨hoperand, hrest⟩ := List.forall_mem_cons.mp h
      cases rest with
      | nil => simp [withCommas, Instruction.dropComma_of_not_mem hoperand]
      | cons next rest =>
          rw [withCommas, List.map_cons, Instruction.dropComma_append_comma, ih hrest]

theorem Statement.comma_not_mem (statement : Statement) :
    ∀ operand ∈ statement.operands, ',' ∉ operand := by
  unfold operands
  cases statement.items with
  | none => exact List.forall_mem_nil _
  | some items =>
      intro operand hmem
      rcases List.mem_cons.mp hmem with rfl | hmem
      · exact items.first.comma_not_mem
      · obtain ⟨pair, -, rfl⟩ := List.mem_map.mp hmem
        exact pair.2.comma_not_mem

section

variable {written : Token} {rest : List (Separator × Item)}

theorem itemTokens_of_attached (h : ∀ pair ∈ rest, pair.1.IsAttached) :
    itemTokens written rest = withCommas (written :: rest.map fun (_, item) => item.text) := by
  induction rest generalizing written with
  | nil => rfl
  | cons first rest ih =>
      obtain ⟨⟨hbefore, hafter⟩, hrest⟩ := List.forall_mem_cons.mp h
      rw [itemTokens, if_pos hbefore, if_neg hafter, ih hrest]
      rfl

/-! ### Other commas -/

theorem comma_mem_dropLast (front : Token) (item : Item) :
    ',' ∈ (front ++ [','] ++ item.text).dropLast := by
  rw [List.dropLast_append_of_ne_nil item.solid.1]
  simp

/-- A comma before the last character of an operand stays there, whatever follows. -/
theorem exists_spoiled_of_mem_dropLast (h : ',' ∈ written.dropLast) :
    ∃ token ∈ itemTokens written rest, (Instruction.dropComma token).Spoiled := by
  have hfirst : (Instruction.dropComma written).Spoiled :=
    .inr (Instruction.mem_dropComma_of_mem_dropLast h)
  -- the first token is spoiled, unless the next operand is joined to it, which keeps the comma
  induction rest generalizing written with
  | nil => exact ⟨written, List.mem_singleton_self _, hfirst⟩
  | cons first rest ih =>
      obtain ⟨⟨before, after⟩, next⟩ := first
      rw [itemTokens]
      split
      · split
        · have hjoined := comma_mem_dropLast written next
          exact ih hjoined (.inr (Instruction.mem_dropComma_of_mem_dropLast hjoined))
        · refine ⟨written ++ [','], List.mem_cons_self, ?_⟩
          rw [Instruction.dropComma_append_comma]
          exact .inr (List.dropLast_subset written h)
      · split
        · exact ⟨written, List.mem_cons_self, hfirst⟩
        · exact ⟨written, List.mem_cons_self, hfirst⟩

/-- A comma spoils an operand if it does not touch the one before it, or touches the one after. -/
theorem exists_spoiled_of_not_attached (h : ¬ ∀ pair ∈ rest, pair.1.IsAttached) :
    ∃ token ∈ itemTokens written rest, (Instruction.dropComma token).Spoiled := by
  induction rest generalizing written with
  | nil => exact absurd (List.forall_mem_nil _) h
  | cons first rest ih =>
      obtain ⟨⟨before, after⟩, next⟩ := first
      rw [itemTokens]
      by_cases hbefore : before.text = []
      · rw [if_pos hbefore]
        by_cases hafter : after.text = []
        · rw [if_pos hafter]
          exact exists_spoiled_of_mem_dropLast (comma_mem_dropLast written next)
        · have hrest : ¬ ∀ pair ∈ rest, pair.1.IsAttached := fun hrest =>
            h (List.forall_mem_cons.mpr ⟨⟨hbefore, hafter⟩, hrest⟩)
          obtain ⟨token, hmem, hspoiled⟩ := ih hrest
          rw [if_neg hafter]
          exact ⟨token, List.mem_cons_of_mem _ hmem, hspoiled⟩
      · rw [if_neg hbefore]
        split
        · obtain ⟨token, hmem, hspoiled⟩ :=
            exists_spoiled_of_mem_dropLast (comma_mem_dropLast [] next)
          exact ⟨token, List.mem_cons_of_mem _ hmem, hspoiled⟩
        · exact ⟨[','], List.mem_cons_of_mem _ List.mem_cons_self, .inl (by decide)⟩

end

/-! ### Lines as they are read -/

namespace Statement

variable {statement : Statement} {line : Chip8.Line}

theorem operandTokens_of_attached (h : statement.IsAttached) :
    statement.operandTokens = withCommas statement.operands := by
  unfold IsAttached separators at h
  unfold operandTokens operands
  cases hitems : statement.items with
  | none => rfl
  | some items =>
      rw [hitems] at h
      exact itemTokens_of_attached fun pair hmem => h pair.1 (List.mem_map_of_mem hmem)

theorem exists_spoiled (h : ¬ statement.IsAttached) :
    ∃ token ∈ statement.operandTokens, (Instruction.dropComma token).Spoiled := by
  unfold IsAttached separators at h
  unfold operandTokens
  cases hitems : statement.items with
  | none =>
      rw [hitems] at h
      exact absurd (List.forall_mem_nil _) h
  | some items =>
      rw [hitems] at h
      refine exists_spoiled_of_not_attached fun hall => h fun separator hmem => ?_
      obtain ⟨pair, hpair, rfl⟩ := List.mem_map.mp hmem
      exact hall pair hpair

theorem tokens_of_words {other : Statement} (hwords : statement.words = other.words)
    (h : statement.IsAttached)
    (hother : other.IsAttached) :
    statement.tokens = other.tokens := by
  obtain ⟨hname, hmnemonic, hoperands⟩ :
      statement.label.map (·.name) = other.label.map (·.name) ∧
        statement.mnemonic = other.mnemonic ∧ statement.operands = other.operands := by
    simpa only [words, Prod.mk.injEq] using hwords
  have htoken : statement.label.map Definition.token = other.label.map Definition.token := by
    have hmap := congrArg (Option.map (· ++ [':'])) hname
    rwa [Option.map_map, Option.map_map] at hmap
  unfold tokens
  rw [htoken, hmnemonic, operandTokens_of_attached h, operandTokens_of_attached hother, hoperands]

/-- The label of a statement is the one of its instruction. -/
theorem ofLine_label (h : line.tokens = statement.tokens) (step : AddressStep) (address : Int)
    (index : Nat) :
    (Instruction.ofLine step address index line).label = statement.label.map (·.name) := by
  show line.tokens.head?.bind Instruction.definedLabel? = _
  rw [h]
  unfold tokens
  cases hlabel : statement.label with
  | none => exact statement.not_label hlabel
  | some label =>
      have hsolid : Token.Solid label.token := Text.solid_label label.word
      exact (Instruction.definedLabel?_eq_some_iff hsolid.2).mpr ⟨label.word, rfl⟩

/-- The tokens of an instruction are the mnemonic and the operands, without commas after them. -/
theorem ofLine_tokens (h : line.tokens = statement.tokens) (step : AddressStep) (address : Int)
    (index : Nat) :
    (Instruction.ofLine step address index line).tokens =
      Instruction.dropComma statement.mnemonic ::
        statement.operandTokens.map Instruction.dropComma := by
  have hlabel := ofLine_label h step address index
  have hskipped : (Instruction.ofLine step address index line).tokens =
      (line.tokens.drop (if (Instruction.ofLine step address index line).label.isSome then 1
        else 0)).map Instruction.dropComma := rfl
  rw [hskipped, hlabel, h]
  unfold tokens
  cases statement.label with
  | none => rfl
  | some label => rfl

/-- A statement whose commas are attached is read as its mnemonic and its operands. -/
theorem ofLine_tokens_of_attached (hline : line.tokens = statement.tokens)
    (h : statement.IsAttached) (step : AddressStep) (address : Int) (index : Nat) :
    (Instruction.ofLine step address index line).tokens =
      Instruction.dropComma statement.mnemonic :: statement.operands := by
  rw [ofLine_tokens hline, operandTokens_of_attached h,
    map_dropComma_withCommas statement.comma_not_mem]

/-- A statement with a comma that is not attached cannot be encoded, whatever the labels are and
wherever it stands. -/
theorem encode_of_not_attached (hline : line.tokens = statement.tokens)
    (h : ¬ statement.IsAttached) (labels : LabelTable Int)
    (step : AddressStep) (address : Int) (index : Nat) :
    ∃ diagnostic, (Instruction.ofLine step address index line).encode labels =
        .error (.reported diagnostic) ∧
      diagnostic.cause.kind =
        (if (Mnemonic.ofToken? (Instruction.dropComma statement.mnemonic)).isSome then
          .malformedOperand
        else .unknownMnemonic) ∧
      diagnostic.index = some (index : Int) := by
  obtain ⟨token, hmem, hspoiled⟩ := exists_spoiled h
  exact Instruction.encode_of_spoiled labels (ofLine_tokens hline step address index)
    (List.mem_map_of_mem hmem) hspoiled

/-- Statements with the same words are counterparts if neither has all commas attached. -/
theorem counterpart_of_not_attached {other : Statement} {otherLine : Chip8.Line}
    (hline : line.tokens = statement.tokens) (hotherLine : otherLine.tokens = other.tokens)
    (hwords : statement.words = other.words)
    (h : ¬ statement.IsAttached)
    (hother : ¬ other.IsAttached) :
    line.Counterpart otherLine := by
  intro step address index
  have hname : statement.label.map (·.name) = other.label.map (·.name) :=
    congrArg Prod.fst hwords
  have hmnemonic : statement.mnemonic = other.mnemonic :=
    congrArg (fun words => words.2.1) hwords
  refine ⟨?_, rfl, rfl, ?_, fun labels => ?_⟩
  · rw [ofLine_label hline, ofLine_label hotherLine, hname]
  · show Instruction.plannedWidth step (Instruction.ofLine step address index line).tokens =
      Instruction.plannedWidth step (Instruction.ofLine step address index otherLine).tokens
    rw [ofLine_tokens hline, ofLine_tokens hotherLine, hmnemonic]
    rfl
  · obtain ⟨diagnostic, hfails, hkind, hindex⟩ :=
      encode_of_not_attached hline h labels step address index
    obtain ⟨diagnostic', hfails', hkind', hindex'⟩ :=
      encode_of_not_attached hotherLine hother labels step address index
    rw [hfails, hfails']
    exact .reported ⟨by rw [hkind, hkind', hmnemonic], hindex.trans hindex'.symm⟩

end Statement

/-! ### Written sources -/

/-- Holds of lines that are written for the same, if the commas of both are attached or those of
neither are. -/
structure Line.Alike (line other : Line) : Prop where
  words : line.words = other.words
  attached : line.IsAttached ↔ other.IsAttached

theorem Line.Alike.counterpart {line other : Line} (h : line.Alike other) (file file' : Text)
    (number number' : Nat) :
    (Chip8.Line.read file number line.text).Counterpart
      (Chip8.Line.read file' number' other.text) := by
  obtain ⟨hwords, hattached⟩ := h
  have hline := tokens_read file number line
  have hother := tokens_read file' number' other
  unfold IsAttached at hattached
  unfold Line.words at hwords
  unfold tokens at hline hother
  cases hstatement : line.statement with
  | none =>
      rw [hstatement] at hwords hline
      rw [Option.map_eq_none_iff.mp hwords.symm] at hother
      exact Line.counterpart_of_tokens_eq (hline.trans hother.symm)
  | some statement =>
      rw [hstatement] at hwords hline hattached
      obtain ⟨other, hstatement', hwords⟩ := Option.map_eq_some_iff.mp hwords.symm
      rw [hstatement'] at hother hattached
      simp only [Option.mem_some_iff, forall_eq'] at hattached
      -- either the commas are dropped from both lines, or neither can be encoded
      by_cases hall : statement.IsAttached
      · have htokens := Statement.tokens_of_words hwords.symm hall (hattached.mp hall)
        exact Line.counterpart_of_tokens_eq (hline.trans (htokens.trans hother.symm))
      · exact Statement.counterpart_of_not_attached hline hother hwords.symm hall
          (fun hall' => hall (hattached.mpr hall'))

/-- A line is passed over if nothing is written in it. -/
theorem Line.isEmpty_tokens (line : Line) : line.tokens.isEmpty = line.words.isNone := by
  unfold tokens words
  cases line.statement with
  | none => rfl
  | some statement =>
      show statement.tokens.isEmpty = false
      simp [Statement.tokens]

theorem lines_counterparts {lines others : List Line} (h : List.Forall₂ Line.Alike lines others)
    (file file' : Text) :
    List.Forall₂ Chip8.Line.Counterpart (Source.lines file (write lines))
      (Source.lines file' (write others)) := by
  let read (file : Text) (line : Line × Nat) := Chip8.Line.read file line.2 line.1.text
  have hread : List.Forall₂
      (fun line other => Chip8.Line.Counterpart line other ∧
        line.tokens.isEmpty = other.tokens.isEmpty)
      ((lines.zipIdx 1).map (read file)) ((others.zipIdx 1).map (read file')) := by
    rw [List.forall₂_map_left_iff, List.forall₂_map_right_iff]
    refine (forall₂_zipIdx h 1).imp fun line other hpair => ?_
    obtain ⟨halike, -⟩ := hpair
    refine ⟨halike.counterpart file file' _ _, ?_⟩
    rw [Line.tokens_read, Line.tokens_read, Line.isEmpty_tokens, Line.isEmpty_tokens, halike.words]
  rw [lines_write, lines_write]
  refine (List.rel_filter (fun line other hpair => ?_) hread).imp fun _ _ hpair => hpair.1
  simp [hpair.2]

/-- Every line that holds something is one of the source that is written. -/
theorem exists_read_mem_lines {lines : List Line} {line : Line} (hmem : line ∈ lines)
    (hwords : line.words ≠ none) (file : Text) :
    ∃ number, Chip8.Line.read file number line.text ∈ Source.lines file (write lines) := by
  rw [← List.zipIdx_map_fst 1 lines] at hmem
  obtain ⟨⟨_, number⟩, hpair, rfl⟩ := List.mem_map.mp hmem
  refine ⟨number, ?_⟩
  rw [lines_write, List.mem_filter, Line.tokens_read, Line.isEmpty_tokens]
  refine ⟨List.mem_map.mpr ⟨_, hpair, rfl⟩, ?_⟩
  simpa [Option.isSome_iff_ne_none] using hwords

end Grammar

/-! ### Sources -/

/-- A source with a line that cannot be encoded is refused. -/
theorem exists_diagnostic_of_line {options : Options} {file source : Text} {line : Line}
    (hmem : line ∈ Source.lines file source)
    (h : ∀ (labels : LabelTable Int) (step : AddressStep) (address : Int) (index : Nat),
      ∃ failure, (Instruction.ofLine step address index line).encode labels = .error failure) :
    ∃ diagnostic, assemble options file source = .error (.reported diagnostic) := by
  cases hmade : assemble options file source with
  | error failure =>
      obtain ⟨diagnostic, rfl⟩ := exists_diagnostic_of_assemble hmade
      exact ⟨diagnostic, rfl⟩
  | ok assembly =>
      obtain ⟨parsed, hparsed, hencoded, -⟩ := assemble_eq_ok_iff.mp hmade
      obtain ⟨hall, -⟩ := Program.encoded_eq_ok_iff.mp hencoded
      obtain ⟨position, hline⟩ := List.mem_iff_getElem?.mp hmem
      have hget := Program.getElem?_place options.addressStep programStart 0
        (Source.lines file source) position
      rw [hline, ← Program.instructions_of_ofSource hparsed] at hget
      obtain ⟨failure, hfails⟩ := h parsed.addresses options.addressStep _ (0 + position)
      exact absurd ⟨_, hget, hfails⟩ (Instruction.not_failsAt_of_forall₂ hall)

/-- Of the blanks beside the commas of a line it matters only whether every comma touches the
operand before it and not the one after it.  Sources that are written for the same and agree in
this, line by line, have one outcome.  If all commas are so, one space after each of them does as
well, and a line is read as its mnemonic and its operands.  A line with another comma cannot be
encoded: its mnemonic is reported if it is unknown, and else an operand is, and a source with such a
line is refused. -/
theorem assemble_separators (options : Options) (file file' : Text) :
    (∀ lines others : List Grammar.Line, List.Forall₂ Grammar.Line.Alike lines others →
      SameOutcome (assemble options file (Grammar.write lines))
        (assemble options file' (Grammar.write others))) ∧
    (∀ lines : List Grammar.Line, (∀ line ∈ lines, line.IsAttached) →
      SameOutcome (assemble options file (Grammar.write lines))
        (assemble options file' (Grammar.write (lines.map Grammar.Line.standard)))) ∧
    (∀ (line : Grammar.Line) (statement : Grammar.Statement),
      line.statement = some statement → statement.IsAttached →
      ∀ (step : AddressStep) (address : Int) (index number : Nat),
        (Instruction.ofLine step address index (Line.read file number line.text)).tokens =
          Instruction.dropComma statement.mnemonic :: statement.operands) ∧
    ∀ (lines : List Grammar.Line) (line : Grammar.Line) (statement : Grammar.Statement),
      line ∈ lines → line.statement = some statement → ¬ statement.IsAttached →
      (∃ diagnostic, assemble options file (Grammar.write lines) =
        .error (.reported diagnostic)) ∧
      ∀ (labels : LabelTable Int) (step : AddressStep) (address : Int) (index number : Nat),
        ∃ diagnostic, (Instruction.ofLine step address index
            (Line.read file number line.text)).encode labels = .error (.reported diagnostic) ∧
          diagnostic.cause.kind =
            (if (Mnemonic.ofToken? (Instruction.dropComma statement.mnemonic)).isSome then
              .malformedOperand
            else .unknownMnemonic) ∧
          diagnostic.index = some (index : Int) := by
  have hsame (lines others : List Grammar.Line)
      (h : List.Forall₂ Grammar.Line.Alike lines others) :
      SameOutcome (assemble options file (Grammar.write lines))
        (assemble options file' (Grammar.write others)) :=
    assemble_counterparts (Grammar.lines_counterparts h file file')
  have htokens {line : Grammar.Line} {statement : Grammar.Statement}
      (h : line.statement = some statement) (number : Nat) :
      (Line.read file number line.text).tokens = statement.tokens := by
    rw [Grammar.Line.tokens_read, Grammar.Line.tokens, h]
    rfl
  refine ⟨hsame, fun lines hall => hsame _ _ ?standard,
    fun line statement hstatement hcommas => ?read,
    fun lines line statement hmem hstatement hcomma => ?refused⟩
  case standard =>
    rw [List.forall₂_map_right_iff, List.forall₂_same]
    exact fun line hmem => ⟨line.words_standard.symm,
      iff_of_true (hall line hmem) line.isAttached_standard⟩
  case read =>
    exact fun step address index number =>
      Grammar.Statement.ofLine_tokens_of_attached (htokens hstatement number) hcommas step address
        index
  case refused =>
    have hencode (labels : LabelTable Int) (step : AddressStep) (address : Int)
        (index number : Nat) :=
      Grammar.Statement.encode_of_not_attached (htokens hstatement number) hcomma labels step
        address index
    refine ⟨?_, hencode⟩
    have hwords : line.words ≠ none := by
      unfold Grammar.Line.words
      simp [hstatement]
    obtain ⟨number, hread⟩ := Grammar.exists_read_mem_lines hmem hwords file
    refine exists_diagnostic_of_line hread fun labels step address index => ?_
    obtain ⟨diagnostic, hfails, -⟩ := hencode labels step address index number
    exact ⟨_, hfails⟩

/-- The line that loads a number into a register, with what stands between the two. -/
def Grammar.load (separator : Grammar.Separator) : Grammar.Line where
  indent := .empty
  statement := some
    { label := none
      mnemonic := "LD".toList
      solid := by decide
      semicolon_not_mem := by decide
      not_label := fun _ => by decide
      items := some
        { gap := .space
          gap_ne_nil := List.cons_ne_nil _ _
          first := ⟨"V0".toList, by decide, by decide, by decide⟩
          rest := [(separator, ⟨"5".toList, by decide, by decide, by decide⟩)] } }
  trailing := .empty
  comment := none

/-- A tab and a space after the comma are as good as one space.  With a space before it there is an
operand too many or one with a comma in it, and neither is encoded. -/
theorem assemble_separators_load :
    let wide : Grammar.Separator :=
      ⟨.empty, ⟨['\t', ' '], List.forall_mem_cons.mpr ⟨rfl, Grammar.Gap.space.blank⟩, by decide⟩⟩
    let write (separator : Grammar.Separator) := Grammar.write [Grammar.load separator]
    write wide = "LD V0,\t 5".toList ∧ write .standard = "LD V0, 5".toList ∧
      SameOutcome (assemble {} [] (write wide)) (assemble {} [] (write .standard)) ∧
      (Instruction.ofLine .byWidth programStart 0
        (Line.read [] 1 (Grammar.load wide).text)).tokens =
          ["LD".toList, "V0".toList, "5".toList] ∧
      write ⟨.space, .empty⟩ = "LD V0 ,5".toList ∧ write ⟨.space, .space⟩ = "LD V0 , 5".toList ∧
      SameOutcome (assemble {} [] (write ⟨.space, .empty⟩))
        (assemble {} [] (write ⟨.space, .space⟩)) ∧
      ∃ diagnostic, assemble {} [] (write ⟨.space, .space⟩) = .error (.reported diagnostic) := by
  intro wide write
  have hwide : (Grammar.load wide).IsAttached := by decide
  have hspaces : List.Forall₂ Grammar.Line.Alike [Grammar.load ⟨.space, .empty⟩]
      [Grammar.load ⟨.space, .space⟩] :=
    .cons ⟨rfl, by decide⟩ .nil
  exact ⟨rfl, rfl, (assemble_separators {} [] []).2.1 _ (List.forall_mem_singleton.mpr hwide),
    (assemble_separators {} [] []).2.2.1 (Grammar.load wide) _ rfl (hwide _ rfl) .byWidth
      programStart 0 1, rfl, rfl,
    (assemble_separators {} [] []).1 _ _ hspaces,
    ((assemble_separators {} [] []).2.2.2 _ _ _ (List.mem_singleton_self _) rfl (by decide)).1⟩

/-- Without a blank after the comma there is one operand where there should be two. -/
theorem assemble_comma_within :
    let spaced := Grammar.load ⟨.empty, .space⟩
    let crowded := Grammar.load ⟨.empty, .empty⟩
    spaced.words = crowded.words ∧
      spaced.text = "LD V0, 5".toList ∧ crowded.text = "LD V0,5".toList ∧
      Assembly.image <$> assemble {} [] (Grammar.write [spaced]) = .ok [0x60, 0x05] ∧
      assemble {} [] (Grammar.write [crowded]) = .error (.reported
        ⟨.malformedOperand (.wrongCount .ld 1), some ⟨[], 1, 4⟩, some "LD V0,5".toList,
          some 0⟩) ∧
      ¬ SameOutcome (assemble {} [] (Grammar.write [spaced]))
        (assemble {} [] (Grammar.write [crowded])) := by
  intro spaced crowded
  have himage : Assembly.image <$> assemble {} [] (Grammar.write [spaced]) =
      .ok [0x60, 0x05] := by
    decide +kernel
  have hfails : assemble {} [] (Grammar.write [crowded]) = .error (.reported
      ⟨.malformedOperand (.wrongCount .ld 1), some ⟨[], 1, 4⟩, some "LD V0,5".toList,
        some 0⟩) := by
    decide +kernel
  refine ⟨rfl, rfl, rfl, himage, hfails, fun hsame => ?_⟩
  obtain ⟨assembly, hmade, -⟩ := map_eq_ok_iff.mp himage
  rw [hmade, hfails] at hsame
  cases hsame

end Chip8
