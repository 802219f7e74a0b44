import Chip8.Proofs.Failures
import Chip8.Proofs.Respelling

/-!
# The case of letters

Case is folded in several places and in several ways: mnemonics, reserved operands and the keys of
labels are compared in upper case, registers and digits are looked for in both cases, and labels are
compared in lower case for suggestions.  For the letters of ASCII they all agree.  So a source may
be written in either case, or in both at once.
-/

namespace Chip8

namespace Text

variable {c : Char} {s t : Text}

/-- The text with the letters of ASCII in lower case. -/
def small (t : Text) : Text :=
  t.map Char.toLower

/-- Holds of two texts that differ in nothing but the case of letters of ASCII. -/
def SameLetters (s t : Text) : Prop :=
  small s = small t

/-! ### Characters -/

/-- The letters that have another character for their lower case. -/
def capitals : List Char :=
  ['A', 'B', 'C', 'D', 'E', 'F', 'G', 'H', 'I', 'J', 'K', 'L', 'M', 'N', 'O', 'P', 'Q', 'R', 'S',
   'T', 'U', 'V', 'W', 'X', 'Y', 'Z']

theorem mem_capitals (h : c.isUpper = true) : c ∈ capitals := by
  have hrange : 'A'.val ≤ c.val ∧ c.val ≤ 'Z'.val := of_decide_eq_true h
  rw [UInt32.le_iff_toNat_le, UInt32.le_iff_toNat_le] at hrange
  have hbounds : 65 ≤ c.toNat ∧ c.toNat ≤ 90 := hrange
  have hcode : c.toNat ∈ List.range' 65 26 := List.mem_range'_1.mpr (by omega)
  have hcodes : List.range' 65 26 = capitals.map Char.toNat := by decide
  rw [hcodes] at hcode
  obtain ⟨letter, hletter, heq⟩ := List.mem_map.mp hcode
  exact Char.toNat_inj.mp heq ▸ hletter

theorem toLower_of_not_isUpper (h : ¬ c.isUpper = true) : c.toLower = c :=
  dif_neg fun hrange => h (decide_eq_true hrange)

/-- What tells no capital from its lower case tells no character from its lower case. -/
theorem apply_toLower {α : Type} {f : Char → α}
    (h : capitals.map (fun c => f c.toLower) = capitals.map f) (c : Char) :
    f c.toLower = f c := by
  by_cases hupper : c.isUpper = true
  · exact List.map_inj_left.mp h c (mem_capitals hupper)
  · rw [toLower_of_not_isUpper hupper]

theorem isBlank_toLower : ∀ c, isBlank c.toLower = isBlank c :=
  apply_toLower (by decide)

theorem isWord_toLower : ∀ c, isWord c.toLower = isWord c :=
  apply_toLower (by decide)

theorem isDigit_toLower : ∀ c, Char.isDigit c.toLower = Char.isDigit c :=
  apply_toLower (by decide)

theorem isHexDigit_toLower : ∀ c, isHexDigit c.toLower = isHexDigit c :=
  apply_toLower (by decide)

theorem digitValue_toLower : ∀ c, digitValue c.toLower = digitValue c :=
  apply_toLower (by decide)

theorem upperChar_toLower : ∀ c, upperChar c.toLower = upperChar c :=
  apply_toLower (by decide)

theorem lowerChar_toLower : ∀ c, lowerChar c.toLower = lowerChar c :=
  apply_toLower (by decide)

theorem isCased_toLower : ∀ c, isCased c.toLower = isCased c :=
  apply_toLower (by decide)

theorem isCaseIgnorable_toLower : ∀ c, isCaseIgnorable c.toLower = isCaseIgnorable c :=
  apply_toLower (by decide)

/-- A character without case is the lower case of itself alone. -/
theorem toLower_eq_iff {other : Char}
    (h : capitals.map (fun c => decide (c.toLower = other)) =
      capitals.map fun c => decide (c = other)) (c : Char) :
    c.toLower = other ↔ c = other :=
  decide_eq_decide.mp (apply_toLower (f := fun c => decide (c = other)) h c)

/-! ### Case of texts -/

theorem upper_small (t : Text) : upper (small t) = upper t := by
  unfold upper small
  rw [List.flatMap_map]
  exact List.flatMap_congr fun c _ => upperChar_toLower c

theorem startsCased_small (t : Text) : startsCased (small t) = startsCased t := by
  induction t with
  | nil => rfl
  | cons c rest ih =>
      show startsCased (c.toLower :: small rest) = _
      rw [startsCased, startsCased, isCaseIgnorable_toLower, isCased_toLower, ih]

theorem lowerAfter_small (afterCased : Bool) (t : Text) :
    lowerAfter afterCased (small t) = lowerAfter afterCased t := by
  -- a capital sigma is one in either text, and what surrounds it counts alike
  induction t generalizing afterCased with
  | nil => rfl
  | cons c rest ih =>
      have hsigma : c.toLower = 'Σ' ↔ c = 'Σ' := toLower_eq_iff (by decide) c
      show lowerAfter afterCased (c.toLower :: small rest) = _
      simp only [lowerAfter, hsigma, isCaseIgnorable_toLower, isCased_toLower, lowerChar_toLower,
        startsCased_small, ih]

theorem lower_small (t : Text) : lower (small t) = lower t :=
  lowerAfter_small false t

theorem length_small (t : Text) : (small t).length = t.length :=
  List.length_map _

theorem dropFinalNewline_small (t : Text) :
    dropFinalNewline (small t) = small (dropFinalNewline t) := by
  induction t with
  | nil => rfl
  | cons c rest ih =>
      cases rest with
      | cons next others => simpa [dropFinalNewline, small] using ih
      | nil =>
          have hnewline : c.toLower = '\n' ↔ c = '\n' := toLower_eq_iff (by decide) c
          by_cases hc : c = '\n'
          · rw [hc]
            rfl
          · simp [dropFinalNewline, small, hnewline, hc]

theorem splitOn_small {sep : Char} (h : ∀ c, c.toLower = sep ↔ c = sep) (t : Text) :
    splitOn sep (small t) = (splitOn sep t).map small := by
  induction t with
  | nil => rfl
  | cons c rest ih =>
      show splitOn sep (c.toLower :: small rest) = _
      unfold splitOn
      simp only [h c, ih]
      split
      · rfl
      · cases splitOn sep rest with
        | nil => rfl
        | cons piece pieces => rfl

theorem trimRight_small {p : Char → Bool} (h : ∀ c, p c.toLower = p c) (t : Text) :
    trimRight p (small t) = small (trimRight p t) := by
  induction t with
  | nil => rfl
  | cons c rest ih =>
      show trimRight p (c.toLower :: small rest) = _
      rw [trimRight, trimRight, ih, h c]
      cases trimRight p rest with
      | nil => cases p c <;> rfl
      | cons kept others => rfl

theorem isEmpty_small (t : Text) : (small t).isEmpty = t.isEmpty :=
  List.isEmpty_map

theorem all_small {p : Char → Bool} (h : ∀ c, p c.toLower = p c) (t : Text) :
    (small t).all p = t.all p := by
  unfold small
  rw [List.all_map]
  exact congrArg t.all (funext h)

theorem isWordText_small (t : Text) : isWordText (small t) = isWordText t := by
  unfold isWordText
  rw [isEmpty_small, all_small isWord_toLower]

theorem valueIn_small (base : Nat) (t : Text) : valueIn base (small t) = valueIn base t := by
  unfold valueIn small
  rw [List.foldl_map]
  simp only [digitValue_toLower]

end Text

open Text

/-! ### Tokens -/

section Tokens

variable {s t : Token}

theorem hexadecimal?_small (t : Text) :
    Operand.hexadecimal? (small t) = Operand.hexadecimal? t := by
  cases t with
  | nil => rfl
  | cons c rest =>
      have hsign : c.toLower = '#' ↔ c = '#' := toLower_eq_iff (by decide) c
      show Operand.hexadecimal? (c.toLower :: small rest) = _
      by_cases hc : c = '#'
      · rw [hsign.mpr hc, hc]
        simp only [Operand.hexadecimal?, isEmpty_small, all_small isHexDigit_toLower, valueIn_small]
      · have hsmall : c.toLower ≠ '#' := fun h => hc (hsign.mp h)
        simp [Operand.hexadecimal?, hc, hsmall]

theorem ofToken_small (t : Token) : Operand.ofToken (small t) = Operand.ofToken t := by
  unfold Operand.ofToken
  simp only [dropFinalNewline_small, hexadecimal?_small, isEmpty_small, isWordText_small,
    all_small isDigit_toLower, valueIn_small, length_small]

theorem register_small (t : Token) : Register.ofToken? (small t) = Register.ofToken? t := by
  have hletter (v : Char) : (v.toLower = 'V' || v.toLower = 'v') = (v = 'V' || v = 'v') :=
    apply_toLower (f := fun v => (v = 'V' || v = 'v' : Bool)) (by decide) v
  unfold Register.ofToken?
  rw [dropFinalNewline_small]
  match dropFinalNewline t with
  | [] | [_] | _ :: _ :: _ :: _ => rfl
  | [v, digit] =>
      simp only [small, List.map_cons, List.map_nil, hletter, isHexDigit_toLower,
        digitValue_toLower]

theorem starts_small (t : Token) : Register.starts (small t) = Register.starts t := by
  cases t with
  | nil => rfl
  | cons c rest =>
      exact apply_toLower (f := fun c => some c == some 'V' || some c == some 'v') (by decide) c

theorem getLast?_small_eq_iff {other : Char} (h : ∀ c, c.toLower = other ↔ c = other) (t : Text) :
    (small t).getLast? = some other ↔ t.getLast? = some other := by
  unfold small
  rw [List.getLast?_map]
  cases t.getLast? with
  | none => exact Iff.rfl
  | some c => simpa using h c

theorem dropLast_small (t : Text) : (small t).dropLast = small t.dropLast :=
  List.map_dropLast.symm

theorem dropComma_small (t : Token) :
    Instruction.dropComma (small t) = small (Instruction.dropComma t) := by
  have hcomma : ∀ c : Char, c.toLower = ',' ↔ c = ',' := toLower_eq_iff (by decide)
  unfold Instruction.dropComma
  simp only [getLast?_small_eq_iff hcomma, dropLast_small]
  split <;> rfl

theorem definedLabel?_eq (token : Token) :
    Instruction.definedLabel? token =
      if (dropFinalNewline token).getLast? = some ':' then
        if isWordText (dropFinalNewline token).dropLast then
          some (dropFinalNewline token).dropLast
        else
          none
      else
        none := by
  unfold Instruction.definedLabel?
  by_cases hcolon : (dropFinalNewline token).getLast? = some ':'
  · simp only [hcolon, if_true]
  · rw [if_neg hcolon]
    dsimp only
    split
    · contradiction
    · rfl

theorem definedLabel?_small (t : Token) :
    Instruction.definedLabel? (small t) = (Instruction.definedLabel? t).map small := by
  have hcolon : ∀ c : Char, c.toLower = ':' ↔ c = ':' := toLower_eq_iff (by decide)
  rw [definedLabel?_eq, definedLabel?_eq]
  simp only [dropFinalNewline_small, dropLast_small, getLast?_small_eq_iff hcolon,
    isWordText_small]
  split
  · split <;> rfl
  · rfl

theorem resembles_small (name other : Text) :
    LabelTable.resembles (small name) (small other) = LabelTable.resembles name other := by
  unfold LabelTable.resembles
  rw [length_small, length_small, lower_small, lower_small]

/-- Tokens that differ in the case of letters are read alike. -/
theorem respelling_sameLetters : Respelling SameLetters where
  nil := rfl
  dropComma {s t} h := by
    unfold SameLetters
    rw [← dropComma_small, h, dropComma_small]
  label {s t} h := by
    have hlabels : (Instruction.definedLabel? s).map small =
        (Instruction.definedLabel? t).map small := by
      rw [← definedLabel?_small, h, definedLabel?_small]
    generalize Instruction.definedLabel? s = label at hlabels
    generalize Instruction.definedLabel? t = label' at hlabels
    cases label <;> cases label'
    · exact .none
    · contradiction
    · contradiction
    · exact .some (Option.some.inj hlabels)
  upper {s t} h := by rw [← upper_small, h, upper_small]
  operand {s t} h := by rw [← ofToken_small, h, ofToken_small]
  register {s t} h := by rw [← register_small, h, register_small]
  starts {s t} h := by rw [← starts_small, h, starts_small]
  resembles {s t name other} h hname := by
    rw [← resembles_small, h, hname, resembles_small]

end Tokens

/-! ### Lines -/

theorem scan_small (column : Nat) (t : Text) :
    Word.scan column (small t) =
      (Word.scan column t).map fun word => ⟨word.column, small word.text⟩ := by
  induction t generalizing column with
  | nil => rfl
  | cons c rest ih =>
      show Word.scan column (c.toLower :: small rest) = _
      unfold Word.scan
      simp only [ih, isBlank_toLower]
      split
      · rfl
      · cases Word.scan (column + 1) rest with
        | nil => rfl
        | cons word others =>
            simp only [List.map_cons]
            split <;> rfl

theorem code_small (t : Text) : Line.code (small t) = small (Line.code t) := by
  have hmark : ∀ c : Char, (c.toLower != ';') = (c != ';') :=
    apply_toLower (f := fun c => c != ';') (by decide)
  unfold Line.code small
  rw [List.takeWhile_map]
  exact congrArg (fun p => List.map Char.toLower (t.takeWhile p)) (funext hmark)

/-- A line with the letters of ASCII in lower case. -/
def Line.small (line : Line) : Line :=
  { line with tokens := line.tokens.map Text.small, text := Text.small line.text }

theorem read_small (file : Text) (number : Nat) (raw : Text) :
    Line.read file number (small raw) = (Line.read file number raw).small := by
  have hreturn : ∀ c : Char, (c.toLower == '\r') = (c == '\r') :=
    apply_toLower (f := fun c => c == '\r') (by decide)
  unfold Line.read
  simp only [trimRight_small (p := fun c => c == '\r') hreturn, code_small, scan_small,
    List.map_map]
  simp [Line.small, Function.comp_def]

theorem lines_small (file source : Text) :
    Source.lines file (small source) = (Source.lines file source).map Line.small := by
  have hnewline : ∀ c : Char, c.toLower = '\n' ↔ c = '\n' := toLower_eq_iff (by decide)
  have hread : (fun line : Text × Nat => Line.read file line.2 line.1) ∘ Prod.map small id =
      Line.small ∘ fun line : Text × Nat => Line.read file line.2 line.1 :=
    funext fun line => read_small file line.2 line.1
  have hempty : (fun line : Line => !line.tokens.isEmpty) ∘ Line.small =
      fun line : Line => !line.tokens.isEmpty :=
    funext fun line => congrArg (!·) List.isEmpty_map
  unfold Source.lines
  rw [splitOn_small hnewline, List.zipIdx_map, List.map_map, hread, ← List.map_map,
    List.filter_map, hempty]

/-- Lines that differ in the case of letters stand in the same places. -/
theorem line_like_of_small {line other : Line} (h : line.small = other.small) :
    line.Like SameLetters Eq other := by
  obtain ⟨tokens, columns, number, text, file⟩ := line
  obtain ⟨tokens', columns', number', text', file'⟩ := other
  obtain ⟨htokens, rfl, rfl, -, rfl⟩ := Line.mk.inj h
  rw [← List.forall₂_eq_eq_eq, List.forall₂_map_left_iff, List.forall₂_map_right_iff] at htokens
  exact ⟨htokens, rfl, List.forall₂_same.mpr fun _ _ => rfl⟩

theorem lines_like {file source source' : Text} (h : SameLetters source source') :
    List.Forall₂ (Line.Like SameLetters Eq) (Source.lines file source)
      (Source.lines file source') := by
  have hlines : (Source.lines file source).map Line.small =
      (Source.lines file source').map Line.small := by
    rw [← lines_small, h, lines_small]
  rw [← List.forall₂_eq_eq_eq, List.forall₂_map_left_iff, List.forall₂_map_right_iff] at hlines
  exact hlines.imp fun _ _ hline => line_like_of_small hline

/-! ### Assembling -/

/-- Two sources that differ in nothing but the case of letters of ASCII have one image and the same
addresses for their labels, or fail at one place for causes that differ in case alone. -/
theorem assemble_sameLetters {options : Options} {file source source' : Text}
    (h : SameLetters source source') :
    (∃ assembly assembly',
      assemble options file source = .ok assembly ∧
        assemble options file source' = .ok assembly' ∧
        assembly.image = assembly'.image ∧
        List.Forall₂ (fun label label' => SameLetters label.1 label'.1 ∧ label.2 = label'.2)
          assembly.labels assembly'.labels) ∨
    ∃ diagnostic diagnostic',
      assemble options file source = .error (.reported diagnostic) ∧
        assemble options file source' = .error (.reported diagnostic') ∧
        diagnostic.cause.Like SameLetters Eq diagnostic'.cause ∧
        diagnostic.location = diagnostic'.location ∧ diagnostic.index = diagnostic'.index := by
  have hfollows : Follows (Diagnostic.Like SameLetters Eq) (Assembly.Like SameLetters Eq)
      (assemble options file source) (assemble options file source') :=
    assemble_follows respelling_sameLetters (lines_like h)
  generalize hmade : assemble options file source = made at hfollows
  generalize hmade' : assemble options file source' = made' at hfollows
  cases hfollows with
  | ok hlike => exact .inl ⟨_, _, rfl, rfl, hlike.image, hlike.labels⟩
  | reported hlike =>
      exact .inr ⟨_, _, rfl, rfl, hlike.cause, eq_of_rel_eq hlike.location, hlike.index⟩
  | outOfRange =>
      obtain ⟨diagnostic, hreported⟩ := exists_diagnostic_of_assemble hmade
      contradiction

/-- A source in mixed case has the image of the same source in the opposite case, and a label that
is misspelled in both is given the same suggestion. -/
theorem assemble_sameLetters_mixed :
    (∃ assembly assembly',
      assemble {} [] "Loop: LD vA, #fF ; X\nADD i, Va\nJP lOOP".toList = .ok assembly ∧
        assemble {} [] "lOOP: ld Va, #Ff ; x\nadd I, vA\njp Loop".toList = .ok assembly' ∧
        assembly.image = assembly'.image) ∧
      ∃ diagnostic diagnostic',
        assemble {} [] "Σa: CLS\nJP ΣB".toList = .error (.reported diagnostic) ∧
          assemble {} [] "ΣA: cls\njp Σb".toList = .error (.reported diagnostic') ∧
          diagnostic.cause.Like SameLetters Eq diagnostic'.cause := by
  constructor
  · have h : SameLetters "Loop: LD vA, #fF ; X\nADD i, Va\nJP lOOP".toList
        "lOOP: ld Va, #Ff ; x\nadd I, vA\njp Loop".toList := by
      unfold SameLetters
      decide
    have hok : (assemble {} [] "Loop: LD vA, #fF ; X\nADD i, Va\nJP lOOP".toList).isOk = true := by
      decide +kernel
    rcases @assemble_sameLetters {} [] _ _ h with hmade | hfails
    · obtain ⟨assembly, assembly', hmade, hmade', himage, -⟩ := hmade
      exact ⟨assembly, assembly', hmade, hmade', himage⟩
    · obtain ⟨diagnostic, -, hfails, -⟩ := hfails
      rw [hfails] at hok
      contradiction
  · have h : SameLetters "Σa: CLS\nJP ΣB".toList "ΣA: cls\njp Σb".toList := by
      unfold SameLetters
      decide
    have hok : (assemble {} [] "Σa: CLS\nJP ΣB".toList).isOk = false := by
      decide +kernel
    rcases @assemble_sameLetters {} [] _ _ h with hmade | hfails
    · obtain ⟨assembly, -, hmade, -⟩ := hmade
      rw [hmade] at hok
      contradiction
    · obtain ⟨diagnostic, diagnostic', hfails, hfails', hcause, -⟩ := hfails
      exact ⟨diagnostic, diagnostic', hfails, hfails', hcause⟩

end Chip8
