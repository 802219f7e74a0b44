import Chip8.Proofs.Spelling
import Chip8.Proofs.Tokens

/-!
# Sources by their grammar

A line holds an optional label, a mnemonic and operands with commas between them, then an optional
comment.  There are blanks after the label and after the mnemonic, and there may be some at all
other places.  What a line is read as depends on the blanks beside a comma only in whether there are
any: a comma belongs to the word that it touches, and joins two words if it touches both.
-/

namespace Chip8

/-! ### Runs -/

namespace Text

variable {column : Nat} {t tail : Text} {c : Char}

/-- The maximal runs of characters that are not blank. -/
def runs (t : Text) : List Token :=
  (Word.scan 1 t).map (·.text)

/-- The runs of a text do not depend on where the text stands. -/
theorem map_text_scan (column : Nat) (t : Text) :
    (Word.scan column t).map (·.text) = runs t := by
  have hall (column column' : Nat) (t : Text) :
      (Word.scan column t).map (·.text) = (Word.scan column' t).map (·.text) := by
    induction column, t using Word.run_induction generalizing column' with
    | nil column => rfl
    | blank column c rest hc ih => rw [Word.scan_of_blank hc, Word.scan_of_blank hc, ih]
    | run column run after hrun hafter ih =>
        rw [Word.scan_run hrun hafter, Word.scan_run hrun hafter, List.map_cons, List.map_cons, ih]
  exact hall column 1 t

theorem runs_of_blank (hc : isBlank c = true) : runs (c :: t) = runs t := by
  unfold runs
  rw [Word.scan_of_blank hc, map_text_scan, runs]

theorem runs_blanks {blanks : Text} (h : ∀ c ∈ blanks, isBlank c = true) :
    runs (blanks ++ t) = runs t := by
  induction blanks with
  | nil => rfl
  | cons c rest ih =>
      obtain ⟨hc, hrest⟩ := List.forall_mem_cons.mp h
      rw [List.cons_append, runs_of_blank hc, ih hrest]

theorem runs_run {run : Token} (hrun : Token.Solid run)
    (htail : ∀ c, tail.head? = some c → isBlank c = true) :
    runs (run ++ tail) = run :: runs tail := by
  unfold runs
  rw [Word.scan_run hrun htail, List.map_cons, map_text_scan, runs]

theorem runs_of_forall_blank (h : ∀ c ∈ t, isBlank c = true) : runs t = [] := by
  unfold runs
  rw [Word.scan_eq_nil_iff.mpr h, List.map_nil]

/-- No blank is a word character. -/
theorem isWord_of_isBlank (h : isBlank c = true) : isWord c = false := by
  have hall : (blankRanges.all fun range =>
      (List.range' range.1 (range.2 + 1 - range.1)).all fun n =>
        !isWord (Char.ofNat n)) = true := by
    decide +kernel
  obtain ⟨range, hrange, hlow, hhigh⟩ := (inRanges_iff _ c).mp h
  have hcode : c.toNat ∈ List.range' range.1 (range.2 + 1 - range.1) :=
    List.mem_range'_1.mpr (by omega)
  have hword := List.all_eq_true.mp (List.all_eq_true.mp hall range hrange) _ hcode
  simpa using hword

/-- A name with a colon after it is a token. -/
theorem solid_label {name : Text} (h : isWordText name = true) : Token.Solid (name ++ [':']) := by
  refine ⟨by simp, fun c hc => ?_⟩
  rcases List.mem_append.mp hc with hname | hcolon
  · rw [isWordText, Bool.and_eq_true, List.all_eq_true] at h
    by_contra hblank
    have hword := h.2 c hname
    rw [isWord_of_isBlank (by simpa using hblank)] at hword
    contradiction
  · rw [List.mem_singleton.mp hcolon]
    decide

end Text

/-! ### Written lines -/

namespace Grammar

/-- Blanks within a line. -/
structure Gap where
  text : Text
  blank : ∀ c ∈ text, Text.isBlank c = true
  newline_not_mem : '\n' ∉ text

/-- An operand as it is written. -/
structure Item where
  text : Token
  solid : Token.Solid text
  comma_not_mem : ',' ∉ text
  semicolon_not_mem : ';' ∉ text

/-- A comma between two operands, with what stands on either side of it. -/
structure Separator where
  before : Gap
  after : Gap

/-- Operands with commas between them. -/
structure Items where
  gap : Gap
  gap_ne_nil : gap.text ≠ []
  first : Item
  rest : List (Separator × Item)

/-- A name that is defined, with a colon and blanks after it. -/
structure Definition where
  name : Text
  word : Text.isWordText name = true
  gap : Gap
  gap_ne_nil : gap.text ≠ []

/-- What a line is written for. -/
structure Statement where
  label : Option Definition
  mnemonic : Token
  solid : Token.Solid mnemonic
  semicolon_not_mem : ';' ∉ mnemonic
  not_label : label = none → Instruction.definedLabel? mnemonic = none
  items : Option Items

/-- A line, which may hold no statement. -/
structure Line where
  indent : Gap
  statement : Option Statement
  trailing : Gap
  comment : Option { comment : Text // '\n' ∉ comment }

/-! ### Operands -/

/-- The text of operands of which the first one starts with the given text. -/
def itemsText (written : Text) : List (Separator × Item) → Text
  | [] => written
  | (separator, next) :: rest =>
      written ++ separator.before.text ++ [','] ++ separator.after.text ++ itemsText next.text rest

/-- The tokens that operands are read as, of which the first one starts with the given text. -/
def itemTokens (written : Token) : List (Separator × Item) → List Token
  | [] => [written]
  | (separator, next) :: rest =>
      if separator.before.text = [] then
        if separator.after.text = [] then itemTokens (written ++ [','] ++ next.text) rest
        else (written ++ [',']) :: itemTokens next.text rest
      else
        if separator.after.text = [] then written :: itemTokens ([','] ++ next.text) rest
        else written :: [','] :: itemTokens next.text rest

variable {written tail : Text} {rest : List (Separator × Item)}

theorem itemsText_append (front written : Text) (rest : List (Separator × Item)) :
    itemsText (front ++ written) rest = front ++ itemsText written rest := by
  cases rest with
  | nil => rfl
  | cons first rest => simp [itemsText]

theorem Gap.runs_append (gap : Gap) (t : Text) : Text.runs (gap.text ++ t) = Text.runs t :=
  Text.runs_blanks gap.blank

/-- A word ends where a gap starts. -/
theorem Gap.runs_run (gap : Gap) (hne : gap.text ≠ []) {run : Token} (hrun : Token.Solid run)
    (t : Text) : Text.runs (run ++ (gap.text ++ t)) = run :: Text.runs t := by
  rw [Text.runs_run hrun, gap.runs_append]
  intro c hc
  rw [List.head?_append_of_ne_nil _ hne] at hc
  exact gap.blank c (List.mem_of_head? hc)

theorem solid_append {front back : Token} (hfront : Token.Unbroken front)
    (hback : Token.Solid back) : Token.Solid (front ++ back) :=
  ⟨by simp [hback.1], List.forall_mem_append.mpr ⟨hfront, hback.2⟩⟩

theorem solid_comma : Token.Solid [','] := by decide

/-- Operands are read as their tokens, whatever touches whichever comma. -/
theorem runs_itemsText (hwritten : Token.Solid written)
    (htail : ∀ c, tail.head? = some c → Text.isBlank c = true) :
    Text.runs (itemsText written rest ++ tail) = itemTokens written rest ++ Text.runs tail := by
  -- an operand is carried along with all that is written before it without a blank
  induction rest generalizing written with
  | nil => exact Text.runs_run hwritten htail
  | cons first rest ih =>
      obtain ⟨⟨before, after⟩, next⟩ := first
      have hcomma : Token.Solid (written ++ [',']) := solid_append hwritten.2 solid_comma
      have hnext : Token.Solid ([','] ++ next.text) := solid_append solid_comma.2 next.solid
      let later := itemsText next.text rest ++ tail
      have hlater : Text.runs later = itemTokens next.text rest ++ Text.runs tail := ih next.solid
      have htext : itemsText written ((⟨before, after⟩, next) :: rest) ++ tail =
          written ++ (before.text ++ ([','] ++ (after.text ++ later))) := by
        simp [itemsText, later]
      rw [htext, itemTokens]
      by_cases hbefore : before.text = []
      · rw [if_pos hbefore, hbefore, List.nil_append]
        by_cases hafter : after.text = []
        · have hjoined := ih (solid_append hcomma.2 next.solid)
          rw [itemsText_append, List.append_assoc, List.append_assoc] at hjoined
          rw [if_pos hafter, hafter, List.nil_append]
          exact hjoined
        · rw [if_neg hafter, ← List.append_assoc, after.runs_run hafter hcomma, hlater,
            List.cons_append]
      · rw [if_neg hbefore, before.runs_run hbefore hwritten]
        by_cases hafter : after.text = []
        · have hjoined := ih hnext
          rw [itemsText_append, List.append_assoc] at hjoined
          rw [if_pos hafter, hafter, List.nil_append]
          exact congrArg (written :: ·) hjoined
        · rw [if_neg hafter, after.runs_run hafter solid_comma, hlater, List.cons_append,
            List.cons_append]

/-- Holds of the texts that are part of one line and no part of a comment. -/
def Inline (t : Text) : Prop :=
  ';' ∉ t ∧ '\n' ∉ t

theorem inline_append_iff {s t : Text} : Inline (s ++ t) ↔ Inline s ∧ Inline t := by
  simp only [Inline, List.mem_append, not_or]
  exact and_and_and_comm

theorem Gap.inline (gap : Gap) : Inline gap.text := by
  refine ⟨fun hmem => ?_, gap.newline_not_mem⟩
  have hblank := gap.blank _ hmem
  contradiction

theorem Item.inline (item : Item) : Inline item.text :=
  ⟨item.semicolon_not_mem, item.solid.2.newline_not_mem⟩

theorem inline_itemsText (hwritten : Inline written) : Inline (itemsText written rest) := by
  induction rest generalizing written with
  | nil => exact hwritten
  | cons first rest ih =>
      have hcomma : Inline [','] := by
        unfold Inline
        decide
      simp only [itemsText, inline_append_iff]
      exact ⟨⟨⟨⟨hwritten, first.1.before.inline⟩, hcomma⟩, first.1.after.inline⟩,
        ih first.2.inline⟩

namespace Items

/-- The text of operands, from the end of the mnemonic on. -/
def text (items : Items) : Text :=
  items.gap.text ++ itemsText items.first.text items.rest

/-- The tokens that operands are read as. -/
def tokens (items : Items) : List Token :=
  itemTokens items.first.text items.rest

theorem inline (items : Items) : Inline items.text :=
  inline_append_iff.mpr ⟨items.gap.inline, inline_itemsText items.first.inline⟩

end Items

/-! ### Statements -/

namespace Definition

/-- The token that defines a label. -/
def token (label : Definition) : Token :=
  label.name ++ [':']

/-- The text of the definition of a label, up to the mnemonic. -/
def text (label : Definition) : Text :=
  label.token ++ label.gap.text

theorem inline (label : Definition) : Inline label.text := by
  have htoken : Inline label.token :=
    inline_append_iff.mpr ⟨⟨Text.not_mem_of_isWordText label.word (by decide),
      Text.not_mem_of_isWordText label.word (by decide)⟩, by unfold Inline; decide⟩
  exact inline_append_iff.mpr ⟨htoken, label.gap.inline⟩

end Definition

namespace Statement

/-- The text of a statement. -/
def text (statement : Statement) : Text :=
  (statement.label.map Definition.text).getD [] ++ statement.mnemonic ++
    (statement.items.map Items.text).getD []

/-- The tokens that the operands of a statement are read as. -/
def operandTokens (statement : Statement) : List Token :=
  (statement.items.map Items.tokens).getD []

/-- The tokens that a statement is read as. -/
def tokens (statement : Statement) : List Token :=
  (statement.label.map Definition.token).toList ++ statement.mnemonic :: statement.operandTokens

theorem inline (statement : Statement) : Inline statement.text := by
  have hempty : Inline [] := ⟨List.not_mem_nil, List.not_mem_nil⟩
  have hmnemonic : Inline statement.mnemonic :=
    ⟨statement.semicolon_not_mem, statement.solid.2.newline_not_mem⟩
  refine inline_append_iff.mpr ⟨inline_append_iff.mpr ⟨?_, hmnemonic⟩, ?_⟩
  · cases statement.label with
    | none => exact hempty
    | some label => exact label.inline
  · cases statement.items with
    | none => exact hempty
    | some items => exact items.inline

/-- The mnemonic and the operands are read as their tokens. -/
theorem runs_unlabelled (statement : Statement)
    (htail : ∀ c, tail.head? = some c → Text.isBlank c = true) :
    Text.runs (statement.mnemonic ++ ((statement.items.map Items.text).getD [] ++ tail)) =
      statement.mnemonic :: statement.operandTokens ++ Text.runs tail := by
  unfold operandTokens
  cases statement.items with
  | none => exact Text.runs_run statement.solid htail
  | some items =>
      have hitems : Text.runs (itemsText items.first.text items.rest ++ tail) =
          items.tokens ++ Text.runs tail :=
        runs_itemsText items.first.solid htail
      rw [Option.map_some, Option.map_some, Option.getD_some, Option.getD_some, Items.text,
        List.append_assoc, items.gap.runs_run items.gap_ne_nil statement.solid, hitems,
        List.cons_append]

/-- A statement is read as its tokens. -/
theorem runs_text (statement : Statement)
    (htail : ∀ c, tail.head? = some c → Text.isBlank c = true) :
    Text.runs (statement.text ++ tail) = statement.tokens ++ Text.runs tail := by
  have hunlabelled := statement.runs_unlabelled htail
  unfold text tokens
  rw [List.append_assoc, List.append_assoc]
  cases statement.label with
  | none => exact hunlabelled
  | some label =>
      have hlabel : Token.Solid label.token := Text.solid_label label.word
      rw [Option.map_some, Option.map_some, Option.getD_some, Option.toList_some, Definition.text,
        List.append_assoc, label.gap.runs_run label.gap_ne_nil hlabel, hunlabelled]
      rfl

end Statement

/-! ### Lines -/

namespace Line

/-- The text of a line before its comment. -/
def code (line : Line) : Text :=
  line.indent.text ++ ((line.statement.map Statement.text).getD [] ++ line.trailing.text)

/-- The text of a line. -/
def text (line : Line) : Text :=
  line.code ++ (line.comment.map fun comment => ';' :: comment.val).getD []

/-- The tokens that a line is read as. -/
def tokens (line : Line) : List Token :=
  (line.statement.map Statement.tokens).getD []

theorem inline (line : Line) : Inline line.code := by
  have hempty : Inline [] := ⟨List.not_mem_nil, List.not_mem_nil⟩
  refine inline_append_iff.mpr ⟨line.indent.inline, inline_append_iff.mpr
    ⟨?_, line.trailing.inline⟩⟩
  cases line.statement with
  | none => exact hempty
  | some statement => exact statement.inline

theorem newline_not_mem (line : Line) : '\n' ∉ line.text := by
  unfold text
  rw [List.mem_append, not_or]
  refine ⟨line.inline.2, ?_⟩
  cases line.comment with
  | none => exact List.not_mem_nil
  | some comment => simpa using comment.property

/-- The comment of a line starts at the first semicolon. -/
theorem code_text (line : Line) : Chip8.Line.code line.text = line.code := by
  have hfree : ∀ c ∈ line.code, (c != ';') = true := by
    intro c hmem
    have hne : c ≠ ';' := fun heq => line.inline.1 (heq ▸ hmem)
    simpa using hne
  unfold Chip8.Line.code text
  rw [List.takeWhile_append_of_pos hfree]
  cases line.comment with
  | none => exact List.append_nil _
  | some comment => exact List.append_nil _

theorem runs_code (line : Line) : Text.runs line.code = line.tokens := by
  have htrailing : Text.runs line.trailing.text = [] :=
    Text.runs_of_forall_blank line.trailing.blank
  unfold code tokens
  rw [line.indent.runs_append]
  cases line.statement with
  | none => exact htrailing
  | some statement =>
      have hhead : ∀ c, line.trailing.text.head? = some c → Text.isBlank c = true :=
        fun c hc => line.trailing.blank c (List.mem_of_head? hc)
      rw [Option.map_some, Option.getD_some, statement.runs_text hhead, htrailing,
        List.append_nil]
      rfl

/-- A line is read as its tokens. -/
theorem tokens_read (file : Text) (number : Nat) (line : Line) :
    (Chip8.Line.read file number line.text).tokens = line.tokens := by
  rw [Chip8.Line.tokens_read, ← line.runs_code, ← line.code_text]
  rfl

end Line

/-! ### Sources -/

/-- Writes lines as a source. -/
def write (lines : List Line) : Text :=
  Text.join ['\n'] (lines.map Line.text)

/-- The lines of what is written are those it was written from. -/
theorem splitOn_write {lines : List Line} (h : lines ≠ []) :
    Text.splitOn '\n' (write lines) = lines.map Line.text := by
  refine Text.splitOn_join (by simpa using h) fun piece hpiece => ?_
  obtain ⟨line, -, rfl⟩ := List.mem_map.mp hpiece
  exact line.newline_not_mem

/-- What is written is read line by line. -/
theorem lines_write (file : Text) (lines : List Line) :
    Source.lines file (write lines) = ((lines.zipIdx 1).map fun (line, number) =>
      Chip8.Line.read file number line.text).filter fun line => !line.tokens.isEmpty := by
  by_cases hne : lines = []
  · subst hne
    rfl
  · unfold Source.lines
    rw [splitOn_write hne, List.zipIdx_map, List.map_map]
    rfl

end Grammar

end Chip8
