import Chip8.Proofs.Spelling
import Mathlib.Data.List.TakeWhile

/-!
# Where words stand

The words of a text are its maximal runs of characters that are not blank, in order, each with the
column of its first character.  A text is read as such runs with blanks before them, and what holds
of all words is shown along that reading.  The lines of a source keep their numbers, also when
lines without a word are passed over.
-/

namespace Chip8

namespace Word

variable {column : Nat} {text rest run before after : Text} {c : Char} {word : Word}

/-- Holds when a word is a maximal run without blanks of a text whose first character stands in the
given column. -/
def StandsIn (column : Nat) (text : Text) (word : Word) : Prop :=
  Token.Solid word.text ∧ ∃ before after, text = before ++ word.text ++ after ∧
    word.column = column + before.length ∧
    (∀ c, before.getLast? = some c → Text.isBlank c = true) ∧
    ∀ c, after.head? = some c → Text.isBlank c = true

/-! ### Runs -/

theorem scan_of_blank (hc : Text.isBlank c = true) :
    scan column (c :: rest) = scan (column + 1) rest := by
  simp [scan, hc]

/-- A character that is not blank starts a word or joins the one behind it. -/
theorem scan_of_not_blank (column : Nat) (rest : Text) (hc : Text.isBlank c = false) :
    scan column (c :: rest) = ⟨column, [c]⟩ :: scan (column + 1) rest ∨
      ∃ joined others, scan (column + 1) rest = ⟨column + 1, joined⟩ :: others ∧
        scan column (c :: rest) = ⟨column, c :: joined⟩ :: others := by
  cases hwords : scan (column + 1) rest with
  | nil => simp [scan, hc, hwords]
  | cons first others =>
      by_cases hcolumn : first.column = column + 1
      · exact .inr ⟨first.text, others, by rw [← hcolumn], by simp [scan, hc, hwords, hcolumn]⟩
      · exact .inl (by simp [scan, hc, hwords, hcolumn])

/-- No word starts before the text does. -/
theorem le_column_of_mem_scan (h : word ∈ scan column text) : column ≤ word.column := by
  induction text generalizing column with
  | nil => simp [scan] at h
  | cons c rest ih =>
      cases hc : Text.isBlank c with
      | true =>
          rw [scan_of_blank hc] at h
          have hle := ih h
          omega
      | false =>
          rcases scan_of_not_blank column rest hc with hscan | ⟨joined, others, hwords, hscan⟩
          · rw [hscan] at h
            rcases List.mem_cons.mp h with rfl | hrest
            · exact Nat.le_refl _
            · have hle := ih hrest
              omega
          · rw [hscan] at h
            rcases List.mem_cons.mp h with rfl | hothers
            · exact Nat.le_refl _
            · have hle := ih (hwords ▸ List.mem_cons_of_mem _ hothers)
              omega

/-- A run that nothing but a blank follows is one word. -/
theorem scan_run (hrun : Token.Solid run)
    (hafter : ∀ c, after.head? = some c → Text.isBlank c = true) :
    scan column (run ++ after) = ⟨column, run⟩ :: scan (column + run.length) after := by
  induction run generalizing column with
  | nil => exact absurd rfl hrun.1
  | cons c rest ih =>
      obtain ⟨hc, hrest⟩ := List.forall_mem_cons.mp hrun.2
      cases rest with
      | nil =>
          rcases scan_of_not_blank column after hc with hscan | ⟨joined, others, hwords, -⟩
          · exact hscan
          · -- the next word does not stand where the blank does
            cases after with
            | nil => exact absurd hwords (List.cons_ne_nil _ _).symm
            | cons b later =>
                rw [scan_of_blank (hafter b rfl)] at hwords
                have hle : column + 1 + 1 ≤ column + 1 :=
                  le_column_of_mem_scan (hwords ▸ List.mem_cons_self)
                omega
      | cons d others =>
          -- the rest of the run is a word right behind `c`, which joins it
          have hnext := @ih (column + 1) ⟨List.cons_ne_nil _ _, hrest⟩
          have hlength : column + 1 + (d :: others).length = column + (c :: d :: others).length := by
            rw [List.length_cons (a := c)]
            omega
          rw [hlength] at hnext
          rw [List.cons_append, scan, hnext]
          simp [hc]

/-- Reads a text as runs of characters that are not blank with blanks before them. -/
theorem run_induction {P : Nat → Text → Prop} (nil : ∀ column, P column [])
    (blank : ∀ column c rest, Text.isBlank c = true → P (column + 1) rest → P column (c :: rest))
    (run : ∀ column run after, Token.Solid run →
      (∀ c, after.head? = some c → Text.isBlank c = true) →
      P (column + run.length) after → P column (run ++ after))
    (column : Nat) (text : Text) : P column text := by
  induction hlength : text.length using Nat.strong_induction_on generalizing column text with
  | _ length ih =>
    subst hlength
    cases text with
    | nil => exact nil column
    | cons c rest =>
        cases hc : Text.isBlank c with
        | true => exact blank column c rest hc (ih _ (by simp) (column + 1) rest rfl)
        | false =>
            -- the run is as long as it can be, so a blank follows it or nothing does
            let solid := fun c => !Text.isBlank c
            have hfirst : (c :: rest).takeWhile solid = c :: rest.takeWhile solid := by
              simp [solid, hc]
            rw [← List.takeWhile_append_dropWhile (p := solid) (l := c :: rest)]
            refine run column _ _ ⟨by simp [hfirst], ?_⟩ ?_ (ih _ ?_ _ _ rfl)
            · intro d hd
              simpa [solid] using List.mem_takeWhile_imp hd
            · intro d hd
              have hnot := List.head?_dropWhile_not solid (c :: rest)
              simpa [hd, solid] using hnot
            · have hsum := congrArg List.length
                (List.takeWhile_append_dropWhile (p := solid) (l := c :: rest))
              rw [List.length_append, hfirst, List.length_cons] at hsum
              omega

/-! ### Words -/

/-- Words are found in the order of their columns. -/
theorem scan_sorted (column : Nat) (text : Text) :
    (scan column text).Pairwise fun earlier later => earlier.column < later.column := by
  induction column, text using run_induction with
  | nil column => exact List.Pairwise.nil
  | blank column c rest hc ih => rwa [scan_of_blank hc]
  | run column run after hrun hafter ih =>
      rw [scan_run hrun hafter]
      refine List.pairwise_cons.mpr ⟨fun later hlater => ?_, ih⟩
      have hle := le_column_of_mem_scan hlater
      have hpos := List.length_pos_iff.mpr hrun.1
      show column < later.column
      omega

/-- Text before a word that ends at the word or at a blank leaves the word whole. -/
theorem StandsIn.prepend (before : Text) (h : StandsIn (column + before.length) text word)
    (hjoin : (∀ c, before.getLast? = some c → Text.isBlank c = true) ∨
      ∀ c, text.head? = some c → Text.isBlank c = true) :
    StandsIn column (before ++ text) word := by
  obtain ⟨hsolid, front, after, rfl, hcolumn, hfront, hafter⟩ := h
  refine ⟨hsolid, before ++ front, after, by simp, ?_, ?_, hafter⟩
  · rw [hcolumn, List.length_append]
    omega
  · intro c hc
    rw [List.getLast?_append] at hc
    cases hlast : front.getLast? with
    | some d =>
        rw [hlast] at hc
        exact hfront c (hlast.trans hc)
    | none =>
        -- the word follows at once, and its first character is not blank
        obtain rfl := List.getLast?_eq_none_iff.mp hlast
        rw [hlast] at hc
        refine hjoin.elim (fun hbefore => hbefore c hc) fun htext => ?_
        obtain ⟨d, others, hword⟩ := List.exists_cons_of_ne_nil hsolid.1
        have hd : Text.isBlank d = false := hsolid.2 d (by simp [hword])
        exact absurd (htext d (by simp [hword])) (by simp [hd])

theorem standsIn_of_mem_scan (h : word ∈ scan column text) : StandsIn column text word := by
  induction column, text using run_induction with
  | nil column => simp [scan] at h
  | blank column c rest hc ih =>
      rw [scan_of_blank hc] at h
      exact (ih h).prepend [c] (.inl (by simpa using hc))
  | run column run after hrun hafter ih =>
      rw [scan_run hrun hafter] at h
      rcases List.mem_cons.mp h with rfl | hrest
      · exact ⟨hrun, [], after, rfl, rfl, by simp, hafter⟩
      · exact (ih hrest).prepend run (.inr hafter)

/-- The words of a text are its maximal runs without a blank. -/
theorem mem_scan_iff : word ∈ scan column text ↔ StandsIn column text word := by
  refine ⟨standsIn_of_mem_scan, ?_⟩
  rintro ⟨hsolid, before, after, rfl, hcolumn, hbefore, hafter⟩
  induction before generalizing column with
  | nil =>
      obtain ⟨place, run⟩ := word
      obtain rfl : place = column := hcolumn
      rw [List.nil_append, scan_run hsolid hafter]
      exact List.mem_cons_self
  | cons c before ih =>
      have hplace : word.column = column + 1 + before.length := by
        rw [hcolumn, List.length_cons]
        omega
      cases before with
      | nil =>
          have hc := hbefore c rfl
          show word ∈ scan column (c :: (word.text ++ after))
          rw [scan_of_blank hc]
          exact ih hplace (by simp)
      | cons d before =>
          have hmem := ih hplace (by simpa using hbefore)
          cases hc : Text.isBlank c with
          | true =>
              rw [List.cons_append, List.cons_append, scan_of_blank hc]
              exact hmem
          | false =>
              rcases scan_of_not_blank column (d :: before ++ word.text ++ after) hc with
                hscan | ⟨joined, others, hwords, hscan⟩
              · rw [List.cons_append, List.cons_append, hscan]
                exact List.mem_cons_of_mem _ hmem
              · -- the word that `c` joins starts right behind it, and the given one later
                rw [List.cons_append, List.cons_append, hscan]
                rw [hwords] at hmem
                rcases List.mem_cons.mp hmem with rfl | hothers
                · simp at hplace
                · exact List.mem_cons_of_mem _ hothers

/-- A text without words is blank. -/
theorem scan_eq_nil_iff : scan column text = [] ↔ ∀ c ∈ text, Text.isBlank c = true := by
  induction column, text using run_induction with
  | nil column => simp [scan]
  | blank column c rest hc ih =>
      rw [scan_of_blank hc, ih, List.forall_mem_cons]
      exact ⟨fun hrest => ⟨hc, hrest⟩, And.right⟩
  | run column run after hrun hafter ih =>
      rw [scan_run hrun hafter]
      refine iff_of_false (List.cons_ne_nil _ _) fun hall => ?_
      obtain ⟨c, others, rfl⟩ := List.exists_cons_of_ne_nil hrun.1
      have hc : Text.isBlank c = false := hrun.2 c List.mem_cons_self
      exact absurd (hall c (by simp)) (by simp [hc])

end Word

/-! ### Lines -/

namespace Line

/-- Holds of the texts of lines with a word before the comment. -/
def hasWord (text : Text) : Bool :=
  (code text).any fun c => !Text.isBlank c

/-- Holds when words are those of the text of a line, in order: the maximal runs without a blank
before the comment, with columns that count from one. -/
def IsSplit (text : Text) (words : List Word) : Prop :=
  (words.Pairwise fun earlier later => earlier.column < later.column) ∧
    ∀ word, word ∈ words ↔ Word.StandsIn 1 (code text) word

/-- The words of the text of a line. -/
def words (text : Text) : List Word :=
  Word.scan 1 (code text)

theorem isSplit_words (text : Text) : IsSplit text (words text) :=
  ⟨Word.scan_sorted 1 (code text), fun _ => Word.mem_scan_iff⟩

/-- A word starts in the text of the line where its column says. -/
theorem IsSplit.starts {text : Text} {words : List Word} {word : Word} (h : IsSplit text words)
    (hmem : word ∈ words) : 1 ≤ word.column ∧ word.text <+: text.drop (word.column - 1) := by
  obtain ⟨-, before, after, hcode, hcolumn, -⟩ := (h.2 word).mp hmem
  refine ⟨by omega, after ++ text.dropWhile (· != ';'), ?_⟩
  have hplace : word.column - 1 = before.length := by omega
  have htext : text = before ++ (word.text ++ (after ++ text.dropWhile (· != ';'))) := by
    have hsplit : code text ++ text.dropWhile (· != ';') = text := List.takeWhile_append_dropWhile
    rw [hcode] at hsplit
    simpa using hsplit.symm
  rw [hplace, htext, List.drop_left, ← htext]

theorem read_isEmpty (file : Text) (number : Nat) (raw : Text) :
    (read file number raw).tokens.isEmpty = !hasWord (Text.trimRight (· == '\r') raw) := by
  rw [Bool.eq_iff_iff, List.isEmpty_iff, Bool.not_eq_true', hasWord, List.any_eq_false]
  show List.map _ (words _) = [] ↔ _
  rw [List.map_eq_nil_iff, words, Word.scan_eq_nil_iff]
  simp

end Line

namespace Source

/-- The lines of a source without the carriage returns at their ends. -/
def texts (source : Text) : List Text :=
  (Text.splitOn '\n' source).map (Text.trimRight (· == '\r'))

theorem exists_text_of_numbered {file : Text} {raws : List Text} {start index : Nat} {line : Line}
    (h : (((raws.zipIdx start).map fun (raw, number) => Line.read file number raw).filter
      fun line => !line.tokens.isEmpty)[index]? = some line) :
    ∃ number raw, line = Line.read file (number + start) raw ∧
      (raws.map (Text.trimRight (· == '\r')))[number]? =
        some (Text.trimRight (· == '\r') raw) ∧
      index = ((raws.map (Text.trimRight (· == '\r'))).take number).countP Line.hasWord := by
  -- the rest of the lines starts with a later number
  induction raws generalizing start index with
  | nil => simp at h
  | cons raw rest ih =>
      rw [List.zipIdx_cons, List.map_cons, List.filter_cons, Line.read_isEmpty, Bool.not_not] at h
      cases hword : Line.hasWord (Text.trimRight (· == '\r') raw) with
      | true =>
          rw [if_pos hword] at h
          cases index with
          | zero => exact ⟨0, raw, by simpa using h.symm, rfl, rfl⟩
          | succ index =>
              obtain ⟨number, later, rfl, htext, rfl⟩ := ih h
              refine ⟨number + 1, later, ?_, htext, ?_⟩
              · rw [Nat.add_right_comm, Nat.add_assoc]
              · rw [List.map_cons, List.take_succ_cons, List.countP_cons_of_pos hword]
      | false =>
          rw [if_neg (by simp [hword])] at h
          obtain ⟨number, later, rfl, htext, rfl⟩ := ih h
          refine ⟨number + 1, later, ?_, htext, ?_⟩
          · rw [Nat.add_right_comm, Nat.add_assoc]
          · rw [List.map_cons, List.take_succ_cons,
              List.countP_cons_of_neg (by simp [hword])]

/-- Lines are numbered by their texts, and counted by those that have a word. -/
theorem exists_text_of_lines {file source : Text} {index : Nat} {line : Line}
    (h : (lines file source)[index]? = some line) :
    ∃ number raw, line = Line.read file (number + 1) raw ∧
      (texts source)[number]? = some (Text.trimRight (· == '\r') raw) ∧
      index = ((texts source).take number).countP Line.hasWord :=
  exists_text_of_numbered h

end Source

end Chip8
