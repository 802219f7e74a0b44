import Chip8.Proofs.Definitions
import Chip8.Proofs.Pieces
import Chip8.Proofs.Words

/-!
# Lines and tokens

Reading a source loses comments and blanks and nothing else.  Each line with a word before its
comment is kept, once and in order, and its tokens are cut out of its text: all that is left beside
them is blank.  Rows of tokens can be written as a source again, one line for a row, and are read
back from it.
-/

namespace Chip8

/-! ### Words of a line -/

namespace Word

variable {column : Nat} {text tail : Text}

theorem scan_append_blank (h : ∀ c ∈ tail, Text.isBlank c = true) :
    scan column (text ++ tail) = scan column text := by
  induction text generalizing column with
  | nil => exact scan_eq_nil_iff.mpr h
  | cons c rest ih => rw [List.cons_append, scan, scan, ih]

/-- Each character that is not blank belongs to a word. -/
theorem exists_covering {position : Nat} {c : Char} (h : text[position]? = some c)
    (hc : Text.isBlank c = false) :
    ∃ word ∈ scan column text, word.column ≤ column + position ∧
      column + position < word.column + word.text.length := by
  induction column, text using run_induction generalizing position with
  | nil column => simp at h
  | blank column b rest hb ih =>
      cases position with
      | zero =>
          obtain rfl : b = c := by simpa using h
          rw [hc] at hb
          contradiction
      | succ position =>
          rw [List.getElem?_cons_succ] at h
          obtain ⟨word, hword, hstart, hend⟩ := ih h
          refine ⟨word, by rwa [scan_of_blank hb], ?_, ?_⟩ <;> omega
  | run column run after hrun hafter ih =>
      rw [scan_run hrun hafter]
      by_cases hinside : position < run.length
      · exact ⟨⟨column, run⟩, List.mem_cons_self, Nat.le_add_right _ _,
          Nat.add_lt_add_left hinside column⟩
      · rw [List.getElem?_append_right (Nat.le_of_not_lt hinside)] at h
        obtain ⟨word, hword, hstart, hend⟩ := ih h
        refine ⟨word, List.mem_cons_of_mem _ hword, ?_, ?_⟩ <;> omega

/-- Words with blanks between them are found again. -/
theorem map_text_scan_join {words : List Token} (h : ∀ word ∈ words, Token.Solid word) :
    (scan column (Text.join [' '] words)).map (·.text) = words := by
  have hspace : Text.isBlank ' ' = true := by decide
  induction words generalizing column with
  | nil => rfl
  | cons first rest ih =>
      obtain ⟨hfirst, hrest⟩ := List.forall_mem_cons.mp h
      cases rest with
      | nil =>
          have hscan : scan column (first ++ []) = ⟨column, first⟩ :: scan _ [] :=
            scan_run hfirst (by simp)
          rw [List.append_nil] at hscan
          rw [Text.join, hscan]
          rfl
      | cons second others =>
          have hjoin : Text.join [' '] (first :: second :: others) =
              first ++ ' ' :: Text.join [' '] (second :: others) := by
            simp [Text.join]
          rw [hjoin, scan_run hfirst (by simpa using hspace), scan_of_blank hspace,
            List.map_cons, ih hrest]

end Word

/-! ### Lines against their texts -/

namespace Line

variable {file raw : Text} {number : Nat}

/-- Holds when the token at a position of a line stands in the given column. -/
def TokenAt (line : Line) (position : Nat) (token : Token) (column : Int) : Prop :=
  line.tokens[position]? = some token ∧ line.columns[position]? = some column

/-- Holds when a line is what its text says.  The text is the given one without carriage returns at
the end.  Before the comment, the tokens are the maximal runs of characters that are not blank, in
order, each in the columns that it takes up in the text, and there is nothing but blanks beside
them. -/
structure Exact (raw : Text) (line : Line) : Prop where
  text : ∃ count, raw = line.text ++ List.replicate count '\r'
  trimmed : line.text.getLast? ≠ some '\r'
  counted : line.columns.length = line.tokens.length
  sorted : line.columns.Pairwise (· < ·)
  slice : ∀ k token column, line.TokenAt k token column →
    1 ≤ column ∧ (line.text.drop (column - 1).toNat).take token.length = token
  run : ∀ k token column, line.TokenAt k token column →
    Word.StandsIn 1 (code raw) ⟨column.toNat, token⟩
  complete : ∀ word, Word.StandsIn 1 (code raw) word →
    ∃ k, line.TokenAt k word.text word.column
  blank : ∀ (place : Nat) (c : Char), (code raw)[place]? = some c →
    Text.isBlank c = true ∨
      ∃ k token column, line.TokenAt k token column ∧
        column ≤ place + 1 ∧ place + 1 < column + token.length

/-- Carriage returns at the end of a line leave its words as they are. -/
theorem words_trimRight (raw : Text) :
    words (Text.trimRight (· == '\r') raw) = words raw := by
  obtain ⟨tail, htail, hall⟩ := Text.exists_append_trimRight (· == '\r') raw
  have hreturn : Text.isBlank '\r' = true := by decide
  have hblank : ∀ c ∈ tail.takeWhile (· != ';'), Text.isBlank c = true := by
    intro c hmem
    obtain rfl : c = '\r' := by simpa using hall c (List.takeWhile_subset _ hmem)
    exact hreturn
  unfold words
  generalize Text.trimRight (· == '\r') raw = kept at htail
  subst htail
  unfold code
  rw [List.takeWhile_append]
  split
  · -- there is no comment, so the tail belongs to the words
    rename_i hfree
    have hself : kept.takeWhile (· != ';') = kept :=
      (List.takeWhile_prefix _).eq_of_length hfree
    rw [hself, Word.scan_append_blank hblank]
  · rfl

theorem tokens_read (file : Text) (number : Nat) (raw : Text) :
    (read file number raw).tokens = (words raw).map (·.text) := by
  rw [← words_trimRight]
  rfl

theorem columns_read (file : Text) (number : Nat) (raw : Text) :
    (read file number raw).columns = (words raw).map fun word => (word.column : Int) := by
  rw [← words_trimRight]
  rfl

/-- Tokens and columns of one position are of one word. -/
theorem TokenAt.exists_word {k : Nat} {token : Token} {column : Int}
    (h : (read file number raw).TokenAt k token column) :
    ∃ word ∈ words raw, word.text = token ∧ (word.column : Int) = column := by
  obtain ⟨htoken, hcolumn⟩ := h
  rw [tokens_read, List.getElem?_map] at htoken
  rw [columns_read, List.getElem?_map] at hcolumn
  obtain ⟨word, hword, rfl⟩ := Option.map_eq_some_iff.mp htoken
  rw [hword] at hcolumn
  exact ⟨word, List.mem_of_getElem? hword, rfl, Option.some.inj hcolumn⟩

theorem exists_tokenAt {word : Word} (h : word ∈ words raw) :
    ∃ k, (read file number raw).TokenAt k word.text word.column := by
  obtain ⟨k, hk⟩ := List.getElem?_of_mem h
  refine ⟨k, ?_, ?_⟩
  · rw [tokens_read, List.getElem?_map, hk, Option.map_some]
  · rw [columns_read, List.getElem?_map, hk, Option.map_some]

theorem read_exact (file : Text) (number : Nat) (raw : Text) :
    Exact raw (read file number raw) := by
  have hsplit := isSplit_words raw
  refine ⟨?text, ?trimmed, ?counted, ?sorted, ?slice, ?run, ?complete, ?blank⟩
  case text =>
    obtain ⟨tail, htail, hall⟩ := Text.exists_append_trimRight (· == '\r') raw
    have hreturns : tail = List.replicate tail.length '\r' :=
      List.eq_replicate_of_mem fun c hmem => by simpa using hall c hmem
    exact ⟨tail.length, hreturns ▸ htail⟩
  case trimmed =>
    intro hlast
    have hkept := Text.getLast?_trimRight (· == '\r') raw '\r' hlast
    contradiction
  case counted => rw [tokens_read, columns_read, List.length_map, List.length_map]
  case sorted =>
    rw [columns_read, List.pairwise_map]
    exact hsplit.1.imp Int.ofNat_lt.mpr
  case slice =>
    intro k token column htoken
    obtain ⟨word, hword, rfl, rfl⟩ := htoken.exists_word
    rw [← words_trimRight] at hword
    obtain ⟨hpos, hstarts⟩ := (isSplit_words _).starts hword
    have hplace : ((word.column : Int) - 1).toNat = word.column - 1 := by omega
    rw [hplace]
    exact ⟨Int.ofNat_le.mpr hpos, (List.prefix_iff_eq_take.mp hstarts).symm⟩
  case run =>
    intro k token column htoken
    obtain ⟨word, hword, rfl, rfl⟩ := htoken.exists_word
    exact (hsplit.2 word).mp hword
  case complete =>
    intro word hstands
    exact exists_tokenAt ((hsplit.2 word).mpr hstands)
  case blank =>
    intro place c hget
    cases hc : Text.isBlank c with
    | true => exact .inl rfl
    | false =>
        obtain ⟨word, hword, hstart, hend⟩ :
            ∃ word ∈ words raw, word.column ≤ 1 + place ∧
              1 + place < word.column + word.text.length :=
          Word.exists_covering hget hc
        obtain ⟨k, htoken⟩ := exists_tokenAt hword
        exact .inr ⟨k, word.text, word.column, htoken, by omega, by omega⟩

theorem read_tokens_ne_nil_iff (file : Text) (number : Nat) (raw : Text) :
    (read file number raw).tokens ≠ [] ↔ ∃ c ∈ code raw, Text.isBlank c = false := by
  rw [tokens_read, ne_eq, List.map_eq_nil_iff, words, Word.scan_eq_nil_iff]
  simp

end Line

/-! ### Sources -/

namespace Source

variable {file source : Text} {line : Line}

theorem mem_lines_iff :
    line ∈ lines file source ↔
      ∃ position raw, (Text.splitOn '\n' source)[position]? = some raw ∧
        (∃ c ∈ Line.code raw, Text.isBlank c = false) ∧
        line = Line.read file (position + 1) raw := by
  unfold lines
  rw [List.mem_filter, List.mem_map]
  constructor
  · rintro ⟨⟨⟨raw, number⟩, hmem, rfl⟩, hkept⟩
    obtain ⟨hle, hget⟩ := List.mk_mem_zipIdx_iff_le_and_getElem?_sub.mp hmem
    obtain ⟨position, rfl⟩ := Nat.exists_eq_add_of_le' hle
    exact ⟨position, raw, by simpa using hget,
      (Line.read_tokens_ne_nil_iff _ _ _).mp (by simpa using hkept), rfl⟩
  · rintro ⟨position, raw, hget, hword, rfl⟩
    have hne := (Line.read_tokens_ne_nil_iff file (position + 1) raw).mpr hword
    refine ⟨⟨(raw, position + 1), ?_, rfl⟩, by simpa using hne⟩
    exact List.mk_mem_zipIdx_iff_le_and_getElem?_sub.mpr ⟨Nat.le_add_left _ _, hget⟩

/-- Writes each row of tokens on a line of its own, with a space between neighbours. -/
def render (rows : List (List Token)) : Text :=
  Text.join ['\n'] (rows.map (Text.join [' ']))

/-- Holds of rows that are not empty, of tokens that are not empty either, without a blank and
without a semicolon. -/
def Writable (rows : List (List Token)) : Prop :=
  ∀ row ∈ rows, row ≠ [] ∧ ∀ token ∈ row, Token.Solid token ∧ ';' ∉ token

instance (rows : List (List Token)) : Decidable (Writable rows) :=
  inferInstanceAs
    (Decidable (∀ row ∈ rows, row ≠ [] ∧ ∀ token ∈ row, Token.Solid token ∧ ';' ∉ token))

theorem not_mem_join {c : Char} {row : List Token} (hspace : c ≠ ' ')
    (h : ∀ token ∈ row, c ∉ token) : c ∉ Text.join [' '] row := by
  intro hmem
  rcases Text.mem_or_mem_of_mem_join hmem with hsep | ⟨token, htoken, hc⟩
  · exact hspace (List.mem_singleton.mp hsep)
  · exact h token htoken hc

/-- A row that is written on a line is the row of the line's tokens. -/
theorem tokens_read_join (file : Text) (number : Nat) {row : List Token}
    (h : ∀ token ∈ row, Token.Solid token ∧ ';' ∉ token) :
    (Line.read file number (Text.join [' '] row)).tokens = row := by
  have hcomment : ';' ∉ Text.join [' '] row :=
    not_mem_join (by decide) fun token htoken => (h token htoken).2
  have hcode : Line.code (Text.join [' '] row) = Text.join [' '] row := by
    refine List.takeWhile_eq_self_iff.mpr fun c hmem => ?_
    have hne : c ≠ ';' := fun heq => hcomment (heq ▸ hmem)
    simpa using hne
  rw [Line.tokens_read, Line.words, hcode]
  exact Word.map_text_scan_join fun token htoken => (h token htoken).1

/-- Rows of tokens are read back from the source that they are written as. -/
theorem tokens_render {rows : List (List Token)} (h : Writable rows) :
    tokens (render rows) = rows := by
  cases rows with
  | nil => rfl
  | cons first others =>
      let rows := first :: others
      have hpieces : Text.splitOn '\n' (render rows) = rows.map (Text.join [' ']) := by
        refine Text.splitOn_join (by simp [rows]) fun piece hpiece => ?_
        obtain ⟨row, hrow, rfl⟩ := List.mem_map.mp hpiece
        exact not_mem_join (by decide) fun token htoken =>
          ((h row hrow).2 token htoken).1.2.newline_not_mem
      have hread : ∀ row ∈ rows, ∀ number,
          (Line.read Location.unnamed number (Text.join [' '] row)).tokens = row :=
        fun row hrow number => tokens_read_join _ number (h row hrow).2
      show (List.filter _ (List.map _ (List.zipIdx (Text.splitOn '\n' (render rows)) 1))).map _ =
        rows
      rw [hpieces, List.zipIdx_map, List.map_map, List.filter_eq_self.mpr, List.map_map]
      · -- what is left is to read each row from its own line
        refine Eq.trans (List.map_congr_left ?_) (List.zipIdx_map_fst 1 rows)
        rintro ⟨row, number⟩ hmem
        exact hread row (List.fst_mem_of_mem_zipIdx hmem) number
      · rintro line hline
        obtain ⟨⟨row, number⟩, hmem, rfl⟩ := List.mem_map.mp hline
        have hrow := List.fst_mem_of_mem_zipIdx hmem
        have hne := (h row hrow).1
        rw [← hread row hrow number] at hne
        simpa using hne

/-- The tokens of a source can be written. -/
theorem writable_tokens (source : Text) : Writable (tokens source) := by
  intro row hrow
  obtain ⟨line, hline, rfl⟩ := List.mem_map.mp hrow
  refine ⟨tokens_ne_nil hline, fun token htoken => ⟨tokens_solid hline token htoken, ?_⟩⟩
  obtain ⟨position, raw, -, -, rfl⟩ := mem_lines_iff.mp hline
  rw [Line.tokens_read] at htoken
  obtain ⟨word, hword, rfl⟩ := List.mem_map.mp htoken
  obtain ⟨-, before, after, hcode, -⟩ := ((Line.isSplit_words raw).2 word).mp hword
  intro hmem
  have hbefore : ';' ∈ Line.code raw := by
    rw [hcode]
    simp [hmem]
  have hcomment := List.mem_takeWhile_imp hbefore
  contradiction

/-- The lines of a source are those with something before the comment, in order, and each is what
its text says.  Rows of tokens that can be written are read back from what is written, and such
rows are what every source is read as. -/
theorem lines_exact (file source : Text) :
    ((lines file source).Pairwise fun earlier later => earlier.number < later.number) ∧
      (∀ (position : Nat) raw, (Text.splitOn '\n' source)[position]? = some raw →
        ((∃ line ∈ lines file source, line.number = position + 1) ↔
          ∃ c ∈ Line.code raw, Text.isBlank c = false)) ∧
      (∀ line ∈ lines file source, ∃ (position : Nat) (raw : Text),
        (Text.splitOn '\n' source)[position]? = some raw ∧ line.number = position + 1 ∧
          line.file = file ∧ Line.Exact raw line) ∧
      (∀ rows, Writable rows → tokens (render rows) = rows) ∧
      Writable (tokens source) ∧ tokens (render (tokens source)) = tokens source := by
  refine ⟨lines_sorted file source, ?kept, ?exact, fun _ => tokens_render,
    writable_tokens source, tokens_render (writable_tokens source)⟩
  case kept =>
    intro position raw hget
    constructor
    · rintro ⟨line, hline, hnumber⟩
      obtain ⟨place, found, hfound, hword, rfl⟩ := mem_lines_iff.mp hline
      have hnumbers : ((place + 1 : Nat) : Int) = position + 1 := hnumber
      obtain rfl : place = position := by omega
      obtain rfl := Option.some.inj (hget.symm.trans hfound)
      exact hword
    · intro hword
      exact ⟨_, mem_lines_iff.mpr ⟨position, raw, hget, hword, rfl⟩, rfl⟩
  case exact =>
    intro line hline
    obtain ⟨position, raw, hget, -, rfl⟩ := mem_lines_iff.mp hline
    exact ⟨position, raw, hget, rfl, rfl, Line.read_exact file (position + 1) raw⟩

/-- A space of no width is no blank, so it makes a row of its own. -/
theorem lines_exact_rows :
    let rows := [["A:".toList, "DB".toList, "É,".toList], ["\u200B".toList]]
    let source := "A: DB É,\n\u200B".toList
    Writable rows ∧ render rows = source ∧ tokens source = rows ∧
      ∃ line ∈ lines [] source, line.number = 2 ∧ Line.Exact "\u200B".toList line := by
  intro rows source
  have hwritable : Writable rows := by decide
  have hpiece : (Text.splitOn '\n' source)[1]? = some "\u200B".toList := by decide
  have hword : ∃ c ∈ Line.code "\u200B".toList, Text.isBlank c = false :=
    ⟨'\u200B', by decide, by decide⟩
  obtain ⟨-, hkept, hexact, hread, -⟩ := lines_exact [] source
  obtain ⟨line, hline, hnumber⟩ := (hkept 1 _ hpiece).mpr hword
  obtain ⟨position, raw, hraw, hsame, -, hline'⟩ := hexact line hline
  obtain rfl : position = 1 := by omega
  obtain rfl := Option.some.inj (hpiece.symm.trans hraw)
  exact ⟨hwritable, by decide, hread rows hwritable, line, hline, hnumber, hline'⟩

end Source

end Chip8
