import Chip8.Proofs.CaseTables
import Chip8.Proofs.Letters
import Chip8.Proofs.Names
import Chip8.Proofs.StrictLabels

/-!
# Names in any case

The keys of labels are names in upper case.  Two names that agree in lower case have one key unless
one of them holds a lone capital: a sign that has a lower-case letter, but is the upper case of no
letter.  A label whose name holds such a sign is not found under its name in lower case.
-/

namespace Chip8

namespace Text

variable {c d : Char} {s t : Text} {first last : Nat}

/-! ### Lone capitals -/

/-- The capitals that are the upper case of no other character, although they have a lower case: the
dotted I, the theta symbol, the sharp S, and the signs of ohm, kelvin and ångström. -/
def loneCapitals : List Char :=
  ['\u0130', '\u03F4', '\u1E9E', '\u2126', '\u212A', '\u212B']

/-- Holds of the texts without lone capitals. -/
def Paired (t : Text) : Prop :=
  ∀ c ∈ t, c ∉ loneCapitals

instance (t : Text) : Decidable (Paired t) :=
  decidable_of_iff (t.all (fun c => !loneCapitals.contains c) = true) (by simp [Paired])

/-! ### Going through the tables -/

theorem sorted_upperExpansions :
    upperExpansions.Pairwise fun earlier later => earlier.1 ≤ later.1 := by
  have hchain : (upperExpansions.map Prod.fst).IsChain (· ≤ ·) := by decide +kernel
  exact List.pairwise_map.mp (List.isChain_iff_pairwise.mp hchain)

theorem sorted_upperRuns :
    upperRuns.Pairwise fun earlier later => earlier.first ≤ later.first := by
  have hchain : (upperRuns.map CaseRun.first).IsChain (· ≤ ·) := by decide +kernel
  exact List.pairwise_map.mp (List.isChain_iff_pairwise.mp hchain)

/-- Holds of the characters beyond ASCII with code points in a range. -/
def isWithin (first last : Nat) (c : Char) : Bool :=
  Nat.ble 128 c.toNat && Nat.ble first c.toNat && Nat.ble c.toNat last

/-- The upper-case form of a character in a range, by the parts of the tables around the range. -/
def upperWithin (first last : Nat) (c : Char) : Text :=
  recase (window Prod.fst Prod.fst first last upperExpansions)
    (window CaseRun.first CaseRun.last first last upperRuns) c

theorem upperWithin_eq (h : isWithin first last c = true) :
    upperWithin first last c = upperChar c := by
  simp only [isWithin, Bool.and_eq_true, Nat.ble_eq] at h
  rw [upperWithin, recase_window sorted_upperExpansions sorted_upperRuns h.1.2 h.2, upperChar,
    if_neg (Nat.not_lt.mpr h.1.1)]

namespace CaseRun

/-- The code point that the last character of a run becomes. -/
def lastMoved (run : CaseRun) : Nat :=
  (run.last + run.shift).toNat

/-- The code point that the first character of a run becomes. -/
def firstMoved (run : CaseRun) : Nat :=
  (run.first + run.shift).toNat

/-- Holds of the runs whose moves upper case takes back, those of lone capitals apart. -/
def isTakenBack (run : CaseRun) : Bool :=
  run.moves.all fun (c, moved) =>
    (isWithin run.first run.last c && isWithin run.firstMoved run.lastMoved moved &&
      upperWithin run.firstMoved run.lastMoved moved == upperWithin run.first run.last c) ||
        loneCapitals.contains c

/-- Holds of the runs that make word characters of word characters, lone capitals apart. -/
def keepsWords (run : CaseRun) : Bool :=
  (alphanumericRanges.any fun range =>
    Nat.ble range.1 run.firstMoved && Nat.ble run.lastMoved range.2 &&
      run.moves.all fun (_, moved) => isWithin range.1 range.2 moved) ||
    run.moves.all fun (c, _) => loneCapitals.contains c || !isWord c

end CaseRun

theorem lowerRuns_takenBack : lowerRuns.all CaseRun.isTakenBack = true := by decide +kernel

theorem lowerRuns_keepsWords : lowerRuns.all CaseRun.keepsWords = true := by decide +kernel

/-- No run to upper case ends at a lone capital. -/
theorem upperRuns_paired :
    (upperRuns.all fun run =>
      run.moves.all fun (_, moved) => !loneCapitals.contains moved) = true := by
  decide +kernel

/-- No character becomes several of which one is a lone capital. -/
theorem upperExpansions_paired :
    (upperExpansions.all fun (_, codes) =>
      codes.all fun code => !loneCapitals.contains (Char.ofNat code)) = true := by
  decide +kernel

theorem loneCapitals_change :
    (loneCapitals.all fun c => Nat.ble 128 c.toNat && upperChar c == [c] &&
      (upper (lowerChar c)).all fun d => !loneCapitals.contains d) = true := by
  decide +kernel

/-! ### One character -/

theorem upper_singleton (c : Char) : upper [c] = upperChar c :=
  List.append_nil _

theorem lowerChar_of_ascii (h : c.toNat < 128) : lowerChar c = [c.toLower] :=
  if_pos h

theorem lowerChar_of_not_ascii (h : ¬ c.toNat < 128) :
    lowerChar c = recase lowerExpansions lowerRuns c :=
  if_neg h

/-- A character beyond ASCII moves when it is put in lower case, or stays, but a lone capital. -/
theorem lowerChar_cases (hascii : ¬ c.toNat < 128) (h : c ∉ loneCapitals) :
    (∃ run ∈ lowerRuns, ∃ moved, (c, moved) ∈ run.moves ∧ lowerChar c = [moved]) ∨
      lowerChar c = [c] := by
  rw [lowerChar_of_not_ascii hascii]
  rcases recase_cases lowerExpansions lowerRuns c with ⟨codes, hmem, -⟩ | hrun | heq
  · -- the only character that becomes several is a lone capital
    have hdotted : c.toNat = 0x130 := congrArg Prod.fst (List.mem_singleton.mp hmem)
    have hc : c = '\u0130' := Char.toNat_inj.mp hdotted
    exact absurd (hc ▸ List.mem_cons_self) h
  · exact .inl hrun
  · exact .inr heq

theorem upperChar_of_move {run : CaseRun} (hrun : run ∈ lowerRuns) (hmove : (c, d) ∈ run.moves)
    (h : c ∉ loneCapitals) : upperChar d = upperChar c := by
  have hback := List.all_eq_true.mp (List.all_eq_true.mp lowerRuns_takenBack run hrun) _ hmove
  have hlone : loneCapitals.contains c = false := by simpa using h
  simp only [hlone, Bool.or_false, Bool.and_eq_true, beq_iff_eq] at hback
  obtain ⟨⟨hfrom, hto⟩, hsame⟩ := hback
  rwa [upperWithin_eq hfrom, upperWithin_eq hto] at hsame

theorem isWord_of_inRanges (hascii : 128 ≤ c.toNat)
    (h : inRanges alphanumericRanges c = true) : isWord c = true := by
  simp [isWord, isAlphanumeric, Nat.not_lt.mpr hascii, h]

theorem isWord_of_move {run : CaseRun} (hrun : run ∈ lowerRuns) (hmove : (c, d) ∈ run.moves)
    (h : c ∉ loneCapitals) (hword : isWord c = true) : isWord d = true := by
  have hkeeps := List.all_eq_true.mp lowerRuns_keepsWords run hrun
  rcases Bool.or_eq_true_iff.mp hkeeps with hinside | hnone
  · obtain ⟨range, hrange, hmoves⟩ := List.any_eq_true.mp hinside
    rw [Bool.and_eq_true] at hmoves
    have hmoved := List.all_eq_true.mp hmoves.2 _ hmove
    simp only [isWithin, Bool.and_eq_true, Nat.ble_eq] at hmoved
    exact isWord_of_inRanges hmoved.1.1
      ((inRanges_iff _ d).mpr ⟨range, hrange, hmoved.1.2, hmoved.2⟩)
  · have hlone : loneCapitals.contains c = false := by simpa using h
    have hfree : (loneCapitals.contains c || !isWord c) = true :=
      List.all_eq_true.mp hnone _ hmove
    rw [hlone, hword] at hfree
    contradiction

/-- The lower case of a character that is not a lone capital is one character, and upper case takes
it back. -/
theorem lowerChar_eq (h : c ∉ loneCapitals) :
    ∃ moved, lowerChar c = [moved] ∧ upperChar moved = upperChar c ∧
      (isWord c = true → isWord moved = true) := by
  by_cases hascii : c.toNat < 128
  · exact ⟨c.toLower, lowerChar_of_ascii hascii, upperChar_toLower c,
      fun hword => (isWord_toLower c).trans hword⟩
  · obtain ⟨run, hrun, moved, hmove, heq⟩ | heq := lowerChar_cases hascii h
    · exact ⟨moved, heq, upperChar_of_move hrun hmove h, isWord_of_move hrun hmove h⟩
    · exact ⟨c, heq, rfl, id⟩

theorem upper_lowerChar (h : c ∉ loneCapitals) : upper (lowerChar c) = upperChar c := by
  obtain ⟨moved, heq, hback, -⟩ := lowerChar_eq h
  rw [heq, upper_singleton, hback]

/-- Upper case makes no lone capital. -/
theorem not_mem_upperChar (h : c ∉ loneCapitals) (hd : d ∈ loneCapitals) : d ∉ upperChar c := by
  have hchange := List.all_eq_true.mp loneCapitals_change d hd
  simp only [Bool.and_eq_true, Nat.ble_eq] at hchange
  have hcontains : loneCapitals.contains d = true := by simpa using hd
  unfold upperChar
  split
  · rename_i hascii
    intro hmem
    obtain rfl := List.mem_singleton.mp hmem
    exact absurd (toNat_toUpper_lt hascii) (Nat.not_lt.mpr hchange.1.1)
  · intro hmem
    obtain ⟨codes, hcodes, heq⟩ | ⟨run, hrun, moved, hmoved, heq⟩ | heq :=
      recase_cases upperExpansions upperRuns c
    · rw [heq] at hmem
      obtain ⟨code, hcode, rfl⟩ := List.mem_map.mp hmem
      have hnone := List.all_eq_true.mp
        (List.all_eq_true.mp upperExpansions_paired _ hcodes) code hcode
      rw [hcontains] at hnone
      contradiction
    · rw [heq] at hmem
      obtain rfl := List.mem_singleton.mp hmem
      have hnone : (!loneCapitals.contains d) = true :=
        List.all_eq_true.mp (List.all_eq_true.mp upperRuns_paired run hrun) _ hmoved
      rw [hcontains] at hnone
      contradiction
    · rw [heq] at hmem
      exact h (List.mem_singleton.mp hmem ▸ hd)

/-- Lower case followed by upper case leaves no lone capital. -/
theorem not_mem_upper_lowerChar (c : Char) (hd : d ∈ loneCapitals) :
    d ∉ upper (lowerChar c) := by
  by_cases hc : c ∈ loneCapitals
  · have hchange := List.all_eq_true.mp loneCapitals_change c hc
    rw [Bool.and_eq_true] at hchange
    intro hmem
    have hnone := List.all_eq_true.mp hchange.2 d hmem
    simp [hd] at hnone
  · rw [upper_lowerChar hc]
    exact not_mem_upperChar hc hd

/-! ### Texts -/

/-- Where a sigma stands makes no difference to the upper case of its lower case. -/
theorem upper_lowerAfter (afterCased : Bool) (t : Text) :
    upper (lowerAfter afterCased t) = t.flatMap fun c => upper (lowerChar c) := by
  induction t generalizing afterCased with
  | nil => rfl
  | cons c rest ih =>
      rw [lowerAfter, upper_append, ih, List.flatMap_cons]
      congr 1
      split
      · rename_i hsigma
        rw [hsigma]
        split <;> decide +kernel
      · rfl

theorem upper_lower (t : Text) : upper (lower t) = t.flatMap fun c => upper (lowerChar c) :=
  upper_lowerAfter false t

/-- Upper case takes lower case back exactly in texts without lone capitals. -/
theorem upper_lower_eq_iff : upper (lower t) = upper t ↔ Paired t := by
  rw [upper_lower]
  constructor
  · intro h c hmem hlone
    have hchange := List.all_eq_true.mp loneCapitals_change c hlone
    simp only [Bool.and_eq_true, beq_iff_eq] at hchange
    have hkept : c ∈ upper t :=
      List.mem_flatMap.mpr ⟨c, hmem, hchange.1.2 ▸ List.mem_singleton_self c⟩
    rw [← h] at hkept
    obtain ⟨d, -, hd⟩ := List.mem_flatMap.mp hkept
    exact not_mem_upper_lowerChar d hlone hd
  · intro h
    exact List.flatMap_congr fun c hmem => upper_lowerChar (h c hmem)

theorem upper_eq_of_lower_eq (hs : Paired s) (ht : Paired t) (h : lower s = lower t) :
    upper s = upper t := by
  rw [← upper_lower_eq_iff.mpr hs, h, upper_lower_eq_iff.mpr ht]

theorem all_lowerAfter (afterCased : Bool) (ht : Paired t) (hword : t.all isWord = true) :
    (lowerAfter afterCased t).all isWord = true := by
  induction t generalizing afterCased with
  | nil => rfl
  | cons c rest ih =>
      obtain ⟨hc, hrest⟩ := List.forall_mem_cons.mp ht
      rw [List.all_cons, Bool.and_eq_true] at hword
      rw [lowerAfter, List.all_append, ih _ hrest hword.2, Bool.and_true]
      split
      · split <;> decide +kernel
      · obtain ⟨moved, heq, -, hmoved⟩ := lowerChar_eq hc
        rw [heq, List.all_cons, List.all_nil, hmoved hword.1]
        rfl

theorem isWordText_lower (ht : Paired t) (hword : isWordText t = true) :
    isWordText (lower t) = true := by
  rw [isWordText, Bool.and_eq_true] at hword ⊢
  refine ⟨?_, all_lowerAfter false ht hword.2⟩
  cases t with
  | nil => exact hword.1
  | cons c rest =>
      obtain ⟨moved, heq, -, -⟩ := lowerChar_eq (ht c List.mem_cons_self)
      show (!(lowerAfter false (c :: rest)).isEmpty) = true
      rw [lowerAfter]
      split
      · split <;> rfl
      · rw [heq]
        rfl

end Text

/-! ### Labels -/

/-- What it is for two names to be one label. -/
structure SameLabel (name other : Text) : Prop where
  /-- They stand for the same in every table. -/
  found : ∀ {α : Type} (table : LabelTable α), table.find? other = table.find? name
  /-- A definition of the one is a definition of the other. -/
  bound : ∀ {α : Type} {table bound : LabelTable α} {target : α},
    table.define name target = .ok bound →
      bound.find? other = some target ∧
        (bound.strict = true → ∀ again, bound.define other again = .error target)
  /-- A label defined by the one name is referred to by the other. -/
  referenced : ∀ {options : Options} {file source : Text} {position : Nat},
    (options.strictLabels = false ∨ Source.DistinctLabels (Source.lines file source)) →
    Source.DefinedAt (Source.lines file source) name position →
    Operand.ofToken other = .label →
      ∃ program, Program.ofSource options file source = .ok program ∧
        ∀ instruction ∈ program.instructions, ∀ base modulus,
          Reference other instruction.tokens base modulus →
          ∃ spelled last target made,
            Source.LastDefinition (Source.lines file source) spelled last ∧
              Text.upper spelled = Text.upper name ∧
              program.instructions[last]? = some target ∧
              instruction.encode program.addresses = .ok made ∧
              made.encoded = some (base + target.address % modulus)
  /-- Strict labels refuse a source with lines that define both. -/
  refused : ∀ {step : AddressStep} {file source : Text} {earlier later : Nat},
    earlier ≠ later →
    Source.DefinedAt (Source.lines file source) name earlier →
    Source.DefinedAt (Source.lines file source) other later →
      ∃ diagnostic label original,
        assemble ⟨step, true⟩ file source = .error (.reported diagnostic) ∧
          diagnostic.cause = .duplicateLabel label original

namespace LabelTable

variable {α : Type} {table : LabelTable α} {name other : Text} {target : α}

theorem find?_congr (table : LabelTable α) (h : Text.upper name = Text.upper other) :
    table.find? other = table.find? name := by
  unfold find?
  rw [h]

end LabelTable

namespace SameLabel

variable {name other : Text}

theorem of_upper_eq (h : Text.upper name = Text.upper other) : SameLabel name other := by
  refine ⟨fun table => table.find?_congr h, ?bound, ?referenced, ?refused⟩
  case bound =>
    intro α table bound target hdefine
    have hfind : bound.find? other = some target := by
      rw [LabelTable.find?_define hdefine, if_pos h]
    exact ⟨hfind, fun hstrict again => LabelTable.define_of_strict hstrict hfind again⟩
  case referenced =>
    intro options file source position hlabels hdefined hkind
    refine ⟨Program.labelled options (Source.lines file source),
      Program.ofSource_eq_ok_iff.mpr ⟨hlabels, rfl⟩, ?_⟩
    intro instruction _ base modulus hreference
    obtain ⟨spelled, last, target, hlast, hkey, hget, hfind⟩ :=
      Program.exists_target_of_definedAt options hdefined
    rw [← LabelTable.find?_congr _ h] at hfind
    obtain ⟨made, hencode, hnumber⟩ := Instruction.encode_of_bound hreference hkind hfind
    exact ⟨spelled, last, target, made, hlast, hkey, hget, hencode, hnumber⟩
  case refused =>
    intro step file source earlier later hne hname hother
    cases hparsed : Program.ofSource ⟨step, true⟩ file source with
    | ok program =>
        have hdistinct := (Program.ofSource_eq_ok_iff.mp hparsed).1.resolve_left Bool.noConfusion
        rcases Nat.lt_or_gt_of_ne hne with hlt | hgt
        · exact absurd h.symm (hdistinct _ _ _ _ hlt hname hother)
        · exact absurd h (hdistinct _ _ _ _ hgt hother hname)
    | error failure =>
        obtain ⟨label, first, position, -, rfl⟩ :=
          Program.ofSource_strict_eq_error_iff.mp hparsed
        exact ⟨_, label, _, assemble_eq_error_iff.mpr (.inl hparsed), rfl⟩

/-- Names are one label exactly if they have one key. -/
theorem iff_upper_eq : SameLabel name other ↔ Text.upper name = Text.upper other := by
  refine ⟨fun h => ?_, of_upper_eq⟩
  -- a table that binds the one name alone tells them apart
  by_contra hne
  have hfound := h.found (⟨false, [⟨name, 0⟩]⟩ : LabelTable Nat)
  simp [LabelTable.find?, Binding.key, hne] at hfound

end SameLabel

/-- Names without lone capitals are one label if they agree in lower case.  A name in lower case is
the same label as the name if there is no lone capital in it, and only then. -/
theorem labels_ignoreCase (name : Text) :
    (∀ other, Text.Paired name → Text.Paired other → Text.lower other = Text.lower name →
      SameLabel name other) ∧
    (Text.Paired name → Text.isWordText name = true →
      Text.isWordText (Text.lower name) = true) ∧
    (SameLabel name (Text.lower name) ↔ Text.Paired name) := by
  refine ⟨?agree, fun hname hword => Text.isWordText_lower hname hword, ?lower⟩
  case agree =>
    intro other hname hother h
    exact SameLabel.of_upper_eq (Text.upper_eq_of_lower_eq hname hother h.symm)
  case lower =>
    rw [SameLabel.iff_upper_eq, eq_comm, Text.upper_lower_eq_iff]

/-- Letters that share a capital are one letter: a sigma at the end of a word is any sigma. -/
theorem labels_ignoreCase_sigma :
    Text.Paired "ΟΔΟΣ".toList ∧ Text.Paired "οδος".toList ∧
      Text.lower "οδος".toList = Text.lower "ΟΔΟΣ".toList ∧
      SameLabel "ΟΔΟΣ".toList "οδος".toList ∧
      Text.isWordText "ΟΔΟΣ".toList = true ∧
      Text.isWordText (Text.lower "ΟΔΟΣ".toList) = true ∧
      SameLabel "ΟΔΟΣ".toList (Text.lower "ΟΔΟΣ".toList) := by
  obtain ⟨hagree, hword, hlower⟩ := labels_ignoreCase "ΟΔΟΣ".toList
  have hname : Text.Paired "ΟΔΟΣ".toList := by decide +kernel
  have hother : Text.Paired "οδος".toList := by decide +kernel
  have hcase : Text.lower "οδος".toList = Text.lower "ΟΔΟΣ".toList := by decide +kernel
  have hletters : Text.isWordText "ΟΔΟΣ".toList = true := by decide +kernel
  exact ⟨hname, hother, hcase, hagree _ hname hother hcase, hletters, hword hname hletters,
    hlower.mpr hname⟩

/-- The sign of ohm has the lower case of an omega.  Yet a label of the one name is not found under
the other, and strict labels let both be defined. -/
theorem labels_keepCase_ohm :
    Text.lower "\u2126".toList = Text.lower "ω".toList ∧
      Text.isWordText "\u2126".toList = true ∧ Text.isWordText "ω".toList = true ∧
      (({} : LabelTable Nat).define "\u2126".toList 0).map
        (fun table => (table.find? "\u2126".toList, table.find? "ω".toList)) =
          .ok (some 0, none) ∧
      assemble {} [] "\u2126: CLS\nJP ω".toList =
        .error (.reported ⟨.undefinedLabel "ω".toList ["\u2126".toList], some ⟨[], 2, 4⟩,
          some "JP ω".toList, some 1⟩) ∧
      (assemble ⟨.fixed, true⟩ [] "\u2126: CLS\nω: RET".toList).map (·.image) =
        .ok [0x00, 0xE0, 0x00, 0xEE] := by
  decide +kernel

end Chip8
