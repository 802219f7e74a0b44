import Chip8.Proofs.AddressStep
import Chip8.Proofs.Numerals
import Chip8.Proofs.Pieces
import Mathlib.Data.List.Perm.Basic

/-!
# Listings read back

A listing can be read again.  Its lines are those that were written, since no row holds a line feed.
The row of an instruction tells the address, the bytes, the number of the line and its text, however
wide the address and the number are, and the row of a label tells its name and its address.
-/

namespace Chip8

namespace Listing

/-! ### Reading rows -/

/-- What the row of an instruction tells. -/
structure Entry where
  address : Int
  bytes : List UInt8
  line : Int
  source : Text
  deriving DecidableEq, Repr

/-- The characters before the first space. -/
def field (text : Text) : Text :=
  text.takeWhile (· != ' ')

/-- The bytes that a column shows with spaces between them and behind them. -/
def readBytes (column : Text) : List UInt8 :=
  ((Text.splitOn ' ' column).filter fun digits => !digits.isEmpty).map fun digits =>
    UInt8.ofNat (Text.valueIn 16 digits)

/-- Reads the row of an instruction.  Behind the address, which may be of any width, the bytes take
up six places; the number of the line stands behind them, and is of any width too. -/
def readRow (row : Text) : Entry :=
  let digits := field (row.drop 1)
  let afterAddress := row.drop (digits.length + 3)
  let afterBytes := (afterAddress.drop 8).dropWhile (· == ' ')
  let number := field afterBytes
  { address := Text.valueIn 16 digits
    bytes := readBytes (afterAddress.take 6)
    line := Text.valueIn 10 number
    source := afterBytes.drop (number.length + 2) }

/-- Reads the row of a label. -/
def readLabelRow (row : Text) : Text × Int :=
  (field row, Text.valueIn 16 ((row.dropWhile (· != '$')).drop 1))

theorem field_append {name : Text} (h : ' ' ∉ name) (rest : Text) :
    field (name ++ ' ' :: rest) = name := by
  have hall : ∀ c ∈ name, (c != ' ') = true := by
    intro c hmem
    rw [bne_iff_ne]
    rintro rfl
    exact h hmem
  rw [field, List.takeWhile_append_of_pos hall, List.takeWhile_cons_of_neg (by simp),
    List.append_nil]

/-- The fields of a row, each in its place. -/
theorem readRow_eq {digits column number : Text} (hdigits : ' ' ∉ digits)
    (hcolumn : column.length = 6) (hnumber : ' ' ∉ number) (hne : number ≠ []) (margin : Nat)
    (source : Text) :
    readRow ('$' :: digits ++ [' ', ' '] ++ column ++ [' ', ' ']
        ++ (List.replicate margin ' ' ++ number) ++ [' ', ' '] ++ source) =
      ⟨Text.valueIn 16 digits, readBytes column, Text.valueIn 10 number, source⟩ := by
  let numbered := number ++ ' ' :: ' ' :: source
  let counted := List.replicate margin ' ' ++ numbered
  have hrow : '$' :: digits ++ [' ', ' '] ++ column ++ [' ', ' ']
      ++ (List.replicate margin ' ' ++ number) ++ [' ', ' '] ++ source =
        '$' :: digits ++ [' ', ' '] ++ (column ++ [' ', ' '] ++ counted) := by
    simp [counted, numbered]
  have hfield : field (('$' :: digits ++ [' ', ' '] ++ (column ++ [' ', ' '] ++ counted)).drop 1) =
      digits := by
    simpa using field_append hdigits (' ' :: (column ++ [' ', ' '] ++ counted))
  have hdrop : ('$' :: digits ++ [' ', ' '] ++ (column ++ [' ', ' '] ++ counted)).drop
      (digits.length + 3) = column ++ [' ', ' '] ++ counted :=
    List.drop_left' (by simp)
  have htake : (column ++ [' ', ' '] ++ counted).take 6 = column := by
    rw [List.append_assoc]
    exact List.take_left' hcolumn
  have hbehind : (column ++ [' ', ' '] ++ counted).drop 8 = counted :=
    List.drop_left' (by simp [hcolumn])
  -- the number starts where the spaces before it end
  have hnumbered : counted.dropWhile (· == ' ') = numbered := by
    obtain ⟨c, rest, rfl⟩ := List.exists_cons_of_ne_nil hne
    have hc : c ≠ ' ' := fun heq => hnumber (heq ▸ List.mem_cons_self)
    have hmargin : ∀ d ∈ List.replicate margin ' ', (d == ' ') = true := by
      intro d hmem
      rw [List.eq_of_mem_replicate hmem]
      rfl
    rw [List.dropWhile_append_of_pos hmargin]
    exact List.dropWhile_cons_of_neg (by simpa using hc)
  have hcount : field numbered = number := field_append hnumber _
  have hsource : numbered.drop (number.length + 2) = source := by
    have hsplit : numbered = number ++ [' ', ' '] ++ source := by simp [numbered]
    rw [hsplit]
    exact List.drop_left' (by simp)
  rw [hrow]
  unfold readRow
  simp only [hfield, hdrop, htake, hbehind, hnumbered, hcount, hsource]

/-! ### Bytes -/

theorem readBytes_append_spaces (column : Text) (count : Nat) :
    readBytes (column ++ List.replicate count ' ') = readBytes column := by
  cases count with
  | zero => rw [List.replicate_zero, List.append_nil]
  | succ count =>
      have hnone : (List.replicate (count + 1) ([] : Text)).filter (fun digits => !digits.isEmpty) =
          [] := by
        simp
      unfold readBytes
      rw [List.replicate_succ, Text.splitOn_append, Text.splitOn_replicate, List.filter_append,
        hnone, List.append_nil]

theorem length_byteText (byte : UInt8) : (byteText byte).length = 2 :=
  Text.length_hexPadded (by decide) byte.toNat_lt

theorem readBytes_join (bytes : List UInt8) :
    readBytes (Text.join [' '] (bytes.map byteText)) = bytes := by
  cases bytes with
  | nil => rfl
  | cons first rest =>
      have hblank : ∀ digits ∈ (first :: rest).map byteText, ' ' ∉ digits := by
        intro digits hmem
        obtain ⟨byte, -, rfl⟩ := List.mem_map.mp hmem
        exact Text.not_mem_hexPadded (by decide) 2 byte.toNat
      have hkept : ((first :: rest).map byteText).filter (fun digits => !digits.isEmpty) =
          (first :: rest).map byteText := by
        refine List.filter_eq_self.mpr fun digits hmem => ?_
        obtain ⟨byte, -, rfl⟩ := List.mem_map.mp hmem
        have hlength := length_byteText byte
        cases hdigits : byteText byte with
        | nil => simp [hdigits] at hlength
        | cons c others => rfl
      have hvalue (byte : UInt8) : UInt8.ofNat (Text.valueIn 16 (byteText byte)) = byte := by
        rw [byteText, Text.valueIn_hexPadded, UInt8.ofNat_toNat]
      unfold readBytes
      rw [Text.splitOn_join (by simp) hblank, hkept, List.map_map]
      exact List.map_id'' hvalue _

/-- The bytes of an instruction, at most two, fit into their column. -/
theorem length_column {bytes : List UInt8} (h : bytes.length ≤ 2) :
    (List.rightpad 6 ' ' (Text.join [' '] (bytes.map byteText))).length = 6 := by
  rw [List.length_rightpad]
  match bytes, h with
  | [], _ => rfl
  | [first], _ => simp [Text.join, length_byteText]
  | [first, second], _ => simp [Text.join, length_byteText]

/-! ### Rows read back -/

/-- The row of an instruction is read as what it was written for. -/
theorem readRow_row {instruction : Instruction} {address number : Nat}
    (haddress : instruction.address = address) (hnumber : instruction.location.line = number)
    (hbytes : (instruction.bytes?.getD []).length ≤ 2) :
    readRow (row instruction) =
      ⟨address, instruction.bytes?.getD [], number, sourceText instruction⟩ := by
  have haddressText : ' ' ∉ Text.hexPadded 4 address := Text.not_mem_hexPadded (by decide) _ _
  have hnumberText : ' ' ∉ Text.decimal number := Text.not_mem_decimal (by decide) _
  have hrow := readRow_eq haddressText (length_column hbytes) hnumberText
    (Text.decimal_ne_nil number) (4 - (Text.decimal number).length) (sourceText instruction)
  rw [Text.valueIn_hexPadded, Text.valueIn_decimal] at hrow
  rw [List.rightpad, readBytes_append_spaces, readBytes_join] at hrow
  unfold row addressText
  rw [haddress, hnumber]
  exact hrow

/-- The row of a label is read as what it was written for, if the name is a word. -/
theorem readLabelRow_labelRow {name : Text} (hname : Text.isWordText name = true)
    (address : Nat) : readLabelRow (labelRow (name, address)) = (name, (address : Int)) := by
  have hblank : ' ' ∉ name := Text.not_mem_of_isWordText hname (by decide)
  have hdollar : '$' ∉ name := Text.not_mem_of_isWordText hname (by decide)
  let padding := List.replicate (20 - name.length) ' '
  let digits := Text.hexPadded 4 address
  have hrow : labelRow (name, (address : Int)) =
      name ++ padding ++ [' ', '=', ' '] ++ '$' :: digits := rfl
  have hfield : field (name ++ padding ++ [' ', '=', ' '] ++ '$' :: digits) = name := by
    -- a name that fills its places is followed by a space as well
    have hspace : ∃ rest, padding ++ [' ', '=', ' '] ++ '$' :: digits = ' ' :: rest := by
      cases hcount : 20 - name.length with
      | zero => exact ⟨_, by simp only [padding, hcount]; rfl⟩
      | succ count => exact ⟨_, by simp only [padding, hcount]; rfl⟩
    obtain ⟨rest, hrest⟩ := hspace
    have hsplit : name ++ padding ++ [' ', '=', ' '] ++ '$' :: digits = name ++ ' ' :: rest := by
      rw [← hrest]
      simp
    rw [hsplit, field_append hblank]
  have hbefore : ∀ c ∈ name ++ padding ++ [' ', '=', ' '], (c != '$') = true := by
    intro c hmem
    rw [bne_iff_ne]
    rintro rfl
    simp [hdollar, padding, List.mem_replicate] at hmem
  have hdrop : (name ++ padding ++ [' ', '=', ' '] ++ '$' :: digits).dropWhile (· != '$') =
      '$' :: digits := by
    rw [List.dropWhile_append_of_pos hbefore]
    exact List.dropWhile_cons_of_neg (by simp)
  rw [hrow]
  unfold readLabelRow
  rw [hfield, hdrop, List.drop_succ_cons, List.drop_zero, Text.valueIn_hexPadded]

/-! ### Lines -/

theorem newline_not_mem_addressText (address : Nat) : '\n' ∉ addressText address := by
  have hdigits : '\n' ∉ Text.hexPadded 4 address := Text.not_mem_hexPadded (by decide) _ _
  simp [addressText, hdigits]

theorem newline_not_mem_heading : ∀ line ∈ heading ++ labelHeading, '\n' ∉ line := by
  decide

theorem newline_not_mem_row {instruction : Instruction} {address number : Nat}
    (haddress : instruction.address = address) (hnumber : instruction.location.line = number)
    (hsource : '\n' ∉ sourceText instruction) : '\n' ∉ row instruction := by
  have hbytes : '\n' ∉ Text.join [' '] ((instruction.bytes?.getD []).map byteText) := by
    intro hmem
    rcases Text.mem_or_mem_of_mem_join hmem with hspace | ⟨digits, hdigits, hmem⟩
    · simp at hspace
    · obtain ⟨byte, -, rfl⟩ := List.mem_map.mp hdigits
      exact Text.not_mem_hexPadded (by decide) 2 byte.toNat hmem
  have hdecimal : '\n' ∉ Text.decimal number := Text.not_mem_decimal (by decide) _
  unfold row
  rw [haddress, hnumber]
  simp [newline_not_mem_addressText, hbytes, hdecimal, hsource, List.rightpad, List.leftpad,
    List.mem_replicate]

theorem newline_not_mem_labelRow {name : Text} (hname : Text.isWordText name = true)
    (address : Nat) : '\n' ∉ labelRow (name, (address : Int)) := by
  have hnewline : '\n' ∉ name := Text.not_mem_of_isWordText hname (by decide)
  simp [labelRow, newline_not_mem_addressText, hnewline, List.rightpad, List.mem_replicate]

/-! ### Labels in order -/

theorem byAddress_trans (first second third : Text × Int) (h : decide (first.2 ≤ second.2) = true)
    (h' : decide (second.2 ≤ third.2) = true) : decide (first.2 ≤ third.2) = true :=
  decide_eq_true (Int.le_trans (of_decide_eq_true h) (of_decide_eq_true h'))

theorem byAddress_total (first second : Text × Int) :
    (decide (first.2 ≤ second.2) || decide (second.2 ≤ first.2)) = true := by
  simpa using Int.le_total first.2 second.2

/-- The labels are shown by address. -/
theorem sortedLabels_sorted (program : Program) :
    (sortedLabels program).Pairwise fun earlier later => earlier.2 ≤ later.2 :=
  (List.pairwise_mergeSort byAddress_trans byAddress_total _).imp of_decide_eq_true

/-- Labels of one address are shown in the order of the table. -/
theorem filter_sortedLabels (program : Program) (address : Int) :
    (sortedLabels program).filter (·.2 == address) =
      program.addresses.toList.filter (·.2 == address) := by
  let labels := program.addresses.toList
  let same := labels.filter (·.2 == address)
  have haddress : ∀ label ∈ same, label.2 = address := fun label hmem =>
    beq_iff_eq.mp (List.mem_filter.mp hmem).2
  -- sorting keeps rows that are in order already, and these are
  have hordered : same.Pairwise fun earlier later => decide (earlier.2 ≤ later.2) = true := by
    refine List.pairwise_of_forall_mem_list fun earlier hearlier later hlater => ?_
    rw [haddress earlier hearlier, haddress later hlater]
    exact decide_eq_true (Int.le_refl address)
  have hkept : same.Sublist (sortedLabels program) :=
    List.sublist_mergeSort byAddress_trans byAddress_total hordered List.filter_sublist
  have hfiltered : same.Sublist ((sortedLabels program).filter (·.2 == address)) := by
    have hself : same.filter (·.2 == address) = same :=
      List.filter_eq_self.mpr fun label hmem => beq_iff_eq.mpr (haddress label hmem)
    rw [← hself]
    exact hkept.filter _
  have hlength : ((sortedLabels program).filter (·.2 == address)).length = same.length :=
    ((List.mergeSort_perm labels _).filter _).length_eq
  exact (hfiltered.eq_of_length hlength.symm).symm

end Listing

/-! ### Instructions of a source -/

theorem Instruction.plannedWidth_nonneg (step : AddressStep) (tokens : List Token) :
    0 ≤ plannedWidth step tokens := by
  unfold plannedWidth
  split
  · exact Int.natCast_nonneg _
  · decide

theorem Program.extent_place_nonneg (step : AddressStep) (address : Int) (index : Nat)
    (lines : List Line) : 0 ≤ Instruction.extent (place step address index lines) := by
  induction lines generalizing address index with
  | nil => exact Int.le_refl 0
  | cons line rest ih =>
      exact Int.add_nonneg (Instruction.plannedWidth_nonneg step _) (ih _ _)

/-- A line with a token has a text. -/
theorem Line.text_ne_nil {file raw : Text} {number : Nat}
    (h : (Line.read file number raw).tokens ≠ []) : (Line.read file number raw).text ≠ [] := by
  intro htext
  refine h ?_
  have htrimmed : Text.trimRight (· == '\r') raw = [] := htext
  unfold Line.read
  rw [htrimmed]
  rfl

namespace Listing

theorem sourceText_eq {instruction : Instruction} {text : Text}
    (h : instruction.sourceLine = some text) (hne : text ≠ []) :
    sourceText instruction = Text.trim Text.isBlank text := by
  obtain ⟨c, rest, rfl⟩ := List.exists_cons_of_ne_nil hne
  unfold sourceText
  rw [h]

/-- Holds when an instruction has an address and comes from a line of a source, of which a listing
shows the text without the blanks around it. -/
structure Sourced (source : Text) (instruction : Instruction) (address number : Nat) (raw : Text) :
    Prop where
  placed : instruction.address = address
  numbered : instruction.location.line = (number + 1 : Nat)
  line : (Text.splitOn '\n' source)[number]? = some raw
  shown : sourceText instruction = Text.trim Text.isBlank raw

/-- Holds when a text is the listing of an assembly of a source: behind the heading there is a row
for each instruction, and below the second heading one for each label.  Each row of an instruction
tells its address, its bytes, the number of its line and the text of that line without the blanks
around it.  Together the rows tell the image, and the labels in the order of their addresses. -/
structure Faithful (source : Text) (assembly : Assembly) (rows labelRows : List Text) : Prop where
  lines : Text.splitOn '\n' assembly.listing = heading ++ rows ++ labelHeading ++ labelRows
  count : rows.length = assembly.program.instructions.length
  labelCount : labelRows.length = assembly.labels.length
  row : ∀ (position : Nat) (instruction : Instruction),
    assembly.program.instructions[position]? = some instruction →
    ∃ (text : Text) (bytes : List UInt8) (number : Nat) (raw : Text),
      rows[position]? = some text ∧ instruction.bytes? = some bytes ∧
      instruction.location.line = (number + 1 : Nat) ∧
      (Text.splitOn '\n' source)[number]? = some raw ∧
      readRow text =
        ⟨instruction.address, bytes, instruction.location.line, Text.trim Text.isBlank raw⟩
  image : rows.flatMap (fun text => (readRow text).bytes) = assembly.image
  labels : (labelRows.map readLabelRow).Perm assembly.labels
  sorted : (labelRows.map readLabelRow).Pairwise fun earlier later => earlier.2 ≤ later.2
  stable : ∀ address, (labelRows.map readLabelRow).filter (·.2 == address) =
    assembly.labels.filter (·.2 == address)

section Assemblies

variable {options : Options} {file source raw : Text} {made : Program} {assembly : Assembly}
  {position address number : Nat} {instruction : Instruction}

theorem exists_sourced (h : (Program.labelled options (Source.lines file source)).encoded = .ok made)
    (hget : made.instructions[position]? = some instruction) :
    ∃ address number raw, Sourced source instruction address number raw := by
  obtain ⟨line, hline, hencode⟩ := Program.exists_line_of_encoded h hget
  have hframe := Instruction.encode_eq_with hencode
  have htokens := Source.tokens_ne_nil (List.mem_of_getElem? hline)
  obtain ⟨number, read, rfl, htext, -⟩ := Source.exists_text_of_lines hline
  obtain ⟨raw, hraw, htrimmed⟩ : ∃ raw, (Text.splitOn '\n' source)[number]? = some raw ∧
      Text.trimRight (· == '\r') raw = Text.trimRight (· == '\r') read := by
    rwa [Source.texts, List.getElem?_map, Option.map_eq_some_iff] at htext
  have haddress : 0 ≤ instruction.address := by
    rw [hframe]
    exact Int.add_nonneg (by decide) (Program.extent_place_nonneg _ _ _ _)
  obtain ⟨address, haddress⟩ := Int.eq_ofNat_of_zero_le haddress
  have hline : instruction.sourceLine = some (Text.trimRight (· == '\r') raw) := by
    rw [hframe, htrimmed]
    rfl
  have hne : Text.trimRight (· == '\r') raw ≠ [] := htrimmed ▸ Line.text_ne_nil htokens
  -- the carriage returns at the end of the line are blanks as well
  have hreturn : ∀ c, (c == '\r') = true → Text.isBlank c = true := by
    intro c hc
    rw [beq_iff_eq.mp hc]
    decide
  exact ⟨address, number, raw, haddress, by rw [hframe]; rfl, hraw,
    (sourceText_eq hline hne).trans (Text.trim_trimRight hreturn raw)⟩

theorem Sourced.newline_not_mem (h : Sourced source instruction address number raw) :
    '\n' ∉ row instruction := by
  refine newline_not_mem_row h.placed h.numbered fun hmem => ?_
  rw [h.shown] at hmem
  exact Text.not_mem_of_mem_splitOn (List.mem_of_getElem? h.line) (Text.mem_of_mem_trim hmem)

theorem Sourced.readRow_eq (h : Sourced source instruction address number raw)
    (hfits : instruction.Fits) :
    readRow (row instruction) =
      ⟨instruction.address, instruction.content, instruction.location.line,
        Text.trim Text.isBlank raw⟩ := by
  have hlength : instruction.content.length ≤ 2 := by
    have hlength := hfits.length_content
    rcases hfits.width with hwidth | hwidth <;> omega
  rw [readRow_row h.placed h.numbered hlength, h.shown, h.placed, h.numbered]
  rfl

/-- A label of an assembly is a word, and its address is a natural number. -/
theorem exists_address_of_label
    (h : (Program.labelled options (Source.lines file source)).encoded = .ok made)
    {label : Text × Int} (hmem : label ∈ made.addresses.toList) :
    Text.isWordText label.1 = true ∧ ∃ address : Nat, label.2 = address := by
  obtain ⟨name, address⟩ := label
  obtain ⟨position, instruction, hlast, hget, rfl⟩ := (mem_labels_of_encoded_iff h).mp hmem
  obtain ⟨address, number, raw, hsourced⟩ := exists_sourced h hget
  obtain ⟨line, -, hword, -⟩ := hlast.1
  exact ⟨hword, address, hsourced.placed⟩

theorem exists_sourced_of_mem
    (h : (Program.labelled options (Source.lines file source)).encoded = .ok made)
    (hmem : instruction ∈ made.instructions) :
    ∃ address number raw, Sourced source instruction address number raw := by
  obtain ⟨position, hget⟩ := List.mem_iff_getElem?.mp hmem
  exact exists_sourced h hget

theorem mem_sortedLabels_iff {label : Text × Int} :
    label ∈ sortedLabels made ↔ label ∈ made.addresses.toList :=
  (List.mergeSort_perm _ _).mem_iff

/-- The rows of the labels are read as what they were written for. -/
theorem map_readLabelRow
    (h : (Program.labelled options (Source.lines file source)).encoded = .ok made) :
    ((sortedLabels made).map labelRow).map readLabelRow = sortedLabels made := by
  rw [List.map_map]
  refine (List.map_congr_left fun label hmem => ?_).trans (List.map_id _)
  obtain ⟨name, value⟩ := label
  obtain ⟨hword, address, rfl⟩ := exists_address_of_label h (mem_sortedLabels_iff.mp hmem)
  exact readLabelRow_labelRow hword address

/-- No line of a listing is two. -/
theorem newline_not_mem_lines
    (h : (Program.labelled options (Source.lines file source)).encoded = .ok made) :
    ∀ line ∈ Listing.lines made, '\n' ∉ line := by
  intro line hmem
  simp only [Listing.lines, List.mem_append] at hmem
  rcases hmem with ((hheading | hrow) | hheading) | hlabel
  · exact newline_not_mem_heading line (List.mem_append_left _ hheading)
  · obtain ⟨instruction, hinstruction, rfl⟩ := List.mem_map.mp hrow
    obtain ⟨address, number, raw, hsourced⟩ := exists_sourced_of_mem h hinstruction
    exact hsourced.newline_not_mem
  · exact newline_not_mem_heading line (List.mem_append_right _ hheading)
  · obtain ⟨⟨name, value⟩, hname, rfl⟩ := List.mem_map.mp hlabel
    obtain ⟨hword, address, rfl⟩ := exists_address_of_label h (mem_sortedLabels_iff.mp hname)
    exact newline_not_mem_labelRow hword address

/-- The listing of an assembly is faithful. -/
theorem assemble_listing_faithful (h : assemble options file source = .ok assembly) :
    heading.length = 5 ∧ labelHeading.length = 3 ∧
      ∃ rows labelRows, Faithful source assembly rows labelRows := by
  obtain ⟨parsed, hparsed, hencoded, himage⟩ := assemble_eq_ok_iff.mp h
  obtain ⟨-, rfl⟩ := Program.ofSource_eq_ok_iff.mp hparsed
  let program := assembly.program
  let rows := program.instructions.map row
  let labelRows := (sortedLabels program).map labelRow
  have hfits := Program.fits_of_encoded hencoded
  have hperm : (sortedLabels program).Perm assembly.labels := List.mergeSort_perm _ _
  have hread : labelRows.map readLabelRow = sortedLabels program := map_readLabelRow hencoded
  have hrow : ∀ instruction ∈ program.instructions, ∃ number raw,
      instruction.location.line = (number + 1 : Nat) ∧
        (Text.splitOn '\n' source)[number]? = some raw ∧
        readRow (row instruction) =
          ⟨instruction.address, instruction.content, instruction.location.line,
            Text.trim Text.isBlank raw⟩ := by
    intro instruction hmem
    obtain ⟨address, number, raw, hsourced⟩ := exists_sourced_of_mem hencoded hmem
    exact ⟨number, raw, hsourced.numbered, hsourced.line,
      hsourced.readRow_eq (hfits instruction hmem)⟩
  refine ⟨rfl, rfl, rows, labelRows, ⟨?lines, ?count, ?labelCount, ?row, ?image, ?labels, ?sorted,
    ?stable⟩⟩
  case lines =>
    exact Text.splitOn_join (by simp [Listing.lines, heading]) (newline_not_mem_lines hencoded)
  case count => exact List.length_map _
  case labelCount => rw [List.length_map, hperm.length_eq]
  case row =>
    intro position instruction hget
    have hmem := List.mem_of_getElem? hget
    obtain ⟨number, raw, hnumber, hraw, hentry⟩ := hrow instruction hmem
    have hbytes : instruction.bytes? = some instruction.content := by
      obtain ⟨value, hvalue⟩ := Option.isSome_iff_exists.mp (hfits instruction hmem).isSome
      simp [Instruction.content, Instruction.bytes?, hvalue]
    refine ⟨row instruction, instruction.content, number, raw, ?_, hbytes, hnumber, hraw, hentry⟩
    rw [List.getElem?_map, hget, Option.map_some]
  case image =>
    rw [himage, List.flatMap_map]
    refine List.flatMap_congr fun instruction hmem => ?_
    obtain ⟨number, raw, -, -, hentry⟩ := hrow instruction hmem
    rw [hentry]
  case labels => rwa [hread]
  case sorted =>
    rw [hread]
    exact sortedLabels_sorted program
  case stable =>
    intro address
    rw [hread]
    exact filter_sortedLabels program address

/-- The rows of a byte and of a jump back to it tell three bytes together. -/
theorem assemble_listing_faithful_byte :
    ∃ assembly rows labelRows,
      assemble ⟨.byWidth, false⟩ [] "B: DB 7\r\nA: JP B".toList = .ok assembly ∧
        Faithful "B: DB 7\r\nA: JP B".toList assembly rows labelRows ∧
        rows.flatMap (fun text => (readRow text).bytes) = [0x07, 0x12, 0x00] ∧
        (labelRows.map readLabelRow).Perm [("B".toList, 0x200), ("A".toList, 0x201)] := by
  have hparts : (assemble ⟨.byWidth, false⟩ [] "B: DB 7\r\nA: JP B".toList).map
      (fun assembly => (assembly.image, assembly.labels)) =
        .ok ([0x07, 0x12, 0x00], [("B".toList, 0x200), ("A".toList, 0x201)]) := by
    decide +kernel
  obtain ⟨assembly, hmade, hboth⟩ := map_eq_ok_iff.mp hparts
  obtain ⟨himage, hlabels⟩ := Prod.mk.inj hboth
  obtain ⟨-, -, rows, labelRows, hfaithful⟩ := assemble_listing_faithful hmade
  exact ⟨assembly, rows, labelRows, hmade, hfaithful, hfaithful.image.trans himage,
    hlabels ▸ hfaithful.labels⟩

end Assemblies

end Listing
end Chip8
