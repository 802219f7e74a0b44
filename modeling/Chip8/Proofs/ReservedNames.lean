import Chip8.Proofs.CaseTables
import Chip8.Proofs.Decoding
import Chip8.Proofs.Letters
import Mathlib.Data.List.Infix

/-!
# How mnemonics and special operands may be spelled

Mnemonics and the names of special operands are looked for in upper case, whatever characters a token
is made of.  So a token spells one of them letter by letter, each letter in either case of ASCII or
as one of the two small letters beyond ASCII that have a capital of ASCII; only `ST` may be a single
character as well.  Nothing else does.
-/

namespace Chip8

namespace Text

variable {c n : Char} {t name : Text}

instance (s t : Text) : Decidable (SameLetters s t) :=
  inferInstanceAs (Decidable (small s = small t))

/-! ### Capitals of ASCII -/

/-- The letter of ASCII with the same capital as the long `ſ` and the dotless `ı`; any other
character is itself. -/
def plain (c : Char) : Char :=
  if c = 'ſ' then 's' else if c = 'ı' then 'i' else c

/-- The characters that become several capitals of ASCII. -/
def ligatures : List (Char × Text) :=
  [('ß', ['S', 'S']), ('ﬀ', ['F', 'F']), ('ﬁ', ['F', 'I']), ('ﬂ', ['F', 'L']),
   ('ﬃ', ['F', 'F', 'I']), ('ﬄ', ['F', 'F', 'L']), ('ﬅ', ['S', 'T']), ('ﬆ', ['S', 'T'])]

/-- Holds of the texts of capitals and signs of ASCII. -/
def isCapital (name : Text) : Bool :=
  name.all fun n => Nat.blt n.toNat 128 && n.toUpper == n

/-- Holds of the texts without the capitals of a ligature in them. -/
def isUnligated (name : Text) : Bool :=
  ligatures.all fun ligature => !decide (ligature.2 <:+: name)

/-- Every expansion is one of a ligature, or holds a character beyond ASCII. -/
theorem upperExpansions_ascii :
    (upperExpansions.all fun entry =>
      ligatures.contains (Char.ofNat entry.1, entry.2.map Char.ofNat) ||
        entry.2.any fun code => Nat.ble 128 (Char.ofNat code).toNat) = true := by
  decide +kernel

/-- Only two runs reach ASCII. -/
theorem upperRuns_ascii :
    (upperRuns.all fun run => run.moves.all fun move =>
      Nat.ble 128 move.2.toNat || move == ('ſ', 'S') || move == ('ı', 'I')) = true := by
  decide +kernel

/-- A character that has a plain letter of ASCII becomes the capital of it.  Any other is a ligature,
or becomes something beyond ASCII. -/
theorem upperChar_cases (c : Char) :
    ((plain c).toNat < 128 ∧ upperChar c = [(plain c).toUpper]) ∨
      (128 ≤ (plain c).toNat ∧
        ((c, upperChar c) ∈ ligatures ∨ ∃ d ∈ upperChar c, 128 ≤ d.toNat)) := by
  by_cases hlong : c = 'ſ'
  · subst hlong
    exact .inl (by decide +kernel)
  by_cases hdotless : c = 'ı'
  · subst hdotless
    exact .inl (by decide +kernel)
  have hplain : plain c = c := by
    unfold plain
    rw [if_neg hlong, if_neg hdotless]
  rw [hplain]
  by_cases hascii : c.toNat < 128
  · exact .inl ⟨hascii, if_pos hascii⟩
  · refine .inr ⟨Nat.le_of_not_lt hascii, ?_⟩
    have hupper : upperChar c = recase upperExpansions upperRuns c := if_neg hascii
    obtain ⟨codes, hmem, heq⟩ | ⟨run, hrun, moved, hmove, heq⟩ | heq :=
      recase_cases upperExpansions upperRuns c
    · have hentry : (ligatures.contains (Char.ofNat c.toNat, codes.map Char.ofNat) ||
          codes.any fun code => Nat.ble 128 (Char.ofNat code).toNat) = true :=
        List.all_eq_true.mp upperExpansions_ascii _ hmem
      rw [hupper, heq]
      rcases Bool.or_eq_true_iff.mp hentry with hligature | hbeyond
      · rw [Char.ofNat_toNat, List.contains_iff_mem] at hligature
        exact .inl hligature
      · obtain ⟨code, hcode, hlarge⟩ := List.any_eq_true.mp hbeyond
        exact .inr ⟨_, List.mem_map_of_mem hcode, Nat.ble_eq.mp hlarge⟩
    · have hmoves : (Nat.ble 128 moved.toNat || (c, moved) == ('ſ', 'S') ||
          (c, moved) == ('ı', 'I')) = true :=
        List.all_eq_true.mp (List.all_eq_true.mp upperRuns_ascii run hrun) _ hmove
      simp only [Bool.or_eq_true, beq_iff_eq, Prod.mk.injEq, hlong, hdotless, false_and,
        or_false, Nat.ble_eq] at hmoves
      exact .inr ⟨moved, by simp [hupper, heq], hmoves⟩
    · exact .inr ⟨c, by simp [hupper, heq], Nat.le_of_not_lt hascii⟩

/-! ### Names in upper case -/

theorem toLower_of_not_ascii (h : 128 ≤ c.toNat) : c.toLower = c := by
  refine toLower_of_not_isUpper fun hupper => ?_
  have hall : (capitals.all fun c => Nat.blt c.toNat 128) = true := by decide
  have hsmall : Nat.blt c.toNat 128 = true := List.all_eq_true.mp hall c (mem_capitals hupper)
  exact absurd (Nat.blt_eq.mp hsmall) (Nat.not_lt.mpr h)

theorem toNat_toLower_lt (h : c.toNat < 128) : c.toLower.toNat < 128 := by
  have hall : (ascii.all fun c => Nat.blt c.toLower.toNat 128) = true := by decide +kernel
  exact Nat.blt_eq.mp (List.all_eq_true.mp hall c (mem_ascii h))

/-- A character of ASCII is an upper-case one in either case exactly if they have one lower case. -/
theorem toUpper_eq_iff (hc : c.toNat < 128) (hn : n.toNat < 128) (hcapital : n.toUpper = n) :
    c.toUpper = n ↔ c.toLower = n.toLower := by
  have hall : (ascii.all fun c =>
      c.toUpper.toLower == c.toLower && c.toLower.toUpper == c.toUpper) = true := by
    decide +kernel
  have hcases (c : Char) (hc : c.toNat < 128) :
      c.toUpper.toLower = c.toLower ∧ c.toLower.toUpper = c.toUpper := by
    have hboth := List.all_eq_true.mp hall c (mem_ascii hc)
    rwa [Bool.and_eq_true, beq_iff_eq, beq_iff_eq] at hboth
  constructor
  · rintro rfl
    exact (hcases c hc).1.symm
  · intro h
    rw [← (hcases c hc).2, h, (hcases n hn).2, hcapital]

theorem isCapital_cons_iff :
    isCapital (n :: name) = true ↔
      (n.toNat < 128 ∧ n.toUpper = n) ∧ isCapital name = true := by
  simp [isCapital]

theorem isUnligated_tail (h : isUnligated (n :: name) = true) : isUnligated name = true := by
  simp only [isUnligated, List.all_eq_true, Bool.not_eq_true', decide_eq_false_iff_not] at h ⊢
  exact fun ligature hmem hpart =>
    h ligature hmem (hpart.trans (List.suffix_cons n name).isInfix)

theorem not_mem_ligatures {ligature : Char × Text} {rest : Text}
    (h : isUnligated (ligature.2 ++ rest) = true) : ligature ∉ ligatures := by
  simp only [isUnligated, List.all_eq_true, Bool.not_eq_true', decide_eq_false_iff_not] at h
  exact fun hmem => h ligature hmem (List.prefix_append _ _).isInfix

/-- `Spells token name` holds when the token is the name but for the case of letters, of which `ſ`
and `ı` count as `s` and `i`. -/
def Spells (token name : Text) : Prop :=
  SameLetters (token.map plain) name

theorem spells_cons_iff :
    Spells (c :: t) (n :: name) ↔ (plain c).toLower = n.toLower ∧ Spells t name := by
  simp [Spells, SameLetters, small]

theorem spells_nil_iff : Spells t [] ↔ t = [] := by
  simp [Spells, SameLetters, small]

/-- Only an empty text is empty in upper case. -/
theorem upper_eq_nil_iff : upper t = [] ↔ t = [] := by
  cases t with
  | nil => exact Iff.rfl
  | cons c rest =>
      have hne : upperChar c ≠ [] := by
        obtain ⟨-, hletter⟩ | ⟨-, hligature | ⟨d, hd, -⟩⟩ := upperChar_cases c
        · rw [hletter]
          exact List.cons_ne_nil _ _
        · intro hnil
          rw [hnil] at hligature
          simp [ligatures] at hligature
        · exact List.ne_nil_of_mem hd
      show upperChar c ++ upper rest = [] ↔ _
      simp [hne]

/-- The first character of a token stands for the first letter of a name, or is a ligature. -/
theorem upper_cons_eq_iff (hname : isCapital (n :: name) = true) :
    upper (c :: t) = n :: name ↔
      (plain c).toLower = n.toLower ∧ upper t = name ∨
        (c, upperChar c) ∈ ligatures ∧ upperChar c ++ upper t = n :: name := by
  obtain ⟨⟨hn, hcapital⟩, -⟩ := isCapital_cons_iff.mp hname
  show upperChar c ++ upper t = n :: name ↔ _
  obtain ⟨hascii, hletter⟩ | ⟨hbeyond, hchange⟩ := upperChar_cases c
  · have hsingle : (c, [(plain c).toUpper]) ∉ ligatures := by simp [ligatures]
    rw [hletter, List.singleton_append, List.cons.injEq, toUpper_eq_iff hascii hn hcapital]
    simp only [hsingle, false_and, or_false]
  · -- what is beyond ASCII has no lower case in ASCII
    have hne : (plain c).toLower ≠ n.toLower := by
      intro hsame
      have hsmall := toNat_toLower_lt hn
      rw [← hsame, toLower_of_not_ascii hbeyond] at hsmall
      exact absurd hsmall (Nat.not_lt.mpr hbeyond)
    simp only [hne, false_and, false_or]
    refine ⟨fun heq => ⟨hchange.resolve_right ?_, heq⟩, And.right⟩
    rintro ⟨d, hd, hlarge⟩
    have hmem : d ∈ n :: name := heq ▸ List.mem_append_left _ hd
    have hsmall := List.all_eq_true.mp hname d hmem
    rw [Bool.and_eq_true, Nat.blt_eq] at hsmall
    exact absurd hsmall.1 (Nat.not_lt.mpr hlarge)

/-- A token is a name in upper case exactly if it spells the name, which has no ligature in it. -/
theorem upper_eq_iff (hname : isCapital name = true) (hplain : isUnligated name = true) :
    upper t = name ↔ Spells t name := by
  induction name generalizing t with
  | nil => rw [upper_eq_nil_iff, spells_nil_iff]
  | cons n name ih =>
      cases t with
      | nil => simp [upper, Spells, SameLetters, small]
      | cons c rest =>
          have hligature : ¬ ((c, upperChar c) ∈ ligatures ∧
              upperChar c ++ upper rest = n :: name) := by
            rintro ⟨hmem, heq⟩
            rw [← heq] at hplain
            exact not_mem_ligatures hplain hmem
          rw [upper_cons_eq_iff hname, or_iff_left hligature, spells_cons_iff,
            ih (isCapital_cons_iff.mp hname).2 (isUnligated_tail hplain)]

/-- The name of the sound timer is spelled by two ligatures as well. -/
theorem upper_eq_soundTimer_iff :
    upper t = ['S', 'T'] ↔ Spells t ['S', 'T'] ∨ t = ['ﬅ'] ∨ t = ['ﬆ'] := by
  cases t with
  | nil => simp [upper, Spells, SameLetters, small]
  | cons c rest =>
      have hrest : upper rest = ['T'] ↔ Spells rest ['T'] := upper_eq_iff (by decide) (by decide)
      rw [upper_cons_eq_iff (by decide), spells_cons_iff, hrest]
      refine or_congr Iff.rfl ?_
      constructor
      · rintro ⟨hligature, heq⟩
        -- only two ligatures start with the letters of the name
        simp only [ligatures, List.mem_cons, Prod.mk.injEq, List.not_mem_nil,
          or_false] at hligature
        rcases hligature with ⟨-, h⟩ | ⟨-, h⟩ | ⟨-, h⟩ | ⟨-, h⟩ | ⟨-, h⟩ | ⟨-, h⟩ |
            ⟨rfl, h⟩ | ⟨rfl, h⟩ <;>
          simp [h, upper_eq_nil_iff] at heq
        · exact .inl (heq ▸ rfl)
        · exact .inr (heq ▸ rfl)
      · rintro (h | h)
        · obtain ⟨rfl, rfl⟩ := List.cons.inj h
          decide +kernel
        · obtain ⟨rfl, rfl⟩ := List.cons.inj h
          decide +kernel

/-- Every character of a token stands for one of the name that the token spells. -/
theorem Spells.exists_of_mem (h : Spells t name) (hc : c ∈ t) :
    ∃ n ∈ name, (plain c).toLower = n.toLower := by
  have hmem : (plain c).toLower ∈ small name := by
    rw [← show small (t.map plain) = small name from h]
    exact List.mem_map_of_mem (List.mem_map_of_mem hc)
  obtain ⟨n, hn, heq⟩ := List.mem_map.mp hmem
  exact ⟨n, hn, heq.symm⟩

end Text

open Text

/-! ### Mnemonics -/

namespace Mnemonic

variable {token : Token} {mnemonic : Mnemonic}

theorem spelling_plain (mnemonic : Mnemonic) :
    isCapital mnemonic.spelling = true ∧ isUnligated mnemonic.spelling = true := by
  cases mnemonic <;> decide

/-- A token is a mnemonic exactly if it spells it. -/
theorem ofToken?_eq_some_iff_spells :
    ofToken? token = some mnemonic ↔ Spells token mnemonic.spelling := by
  obtain ⟨hcapital, hunligated⟩ := spelling_plain mnemonic
  rw [ofToken?_eq_some_iff, upper_eq_iff hcapital hunligated]

/-- No mnemonic is spelled with characters beyond ASCII but the long `ſ`. -/
theorem ofToken?_eq_none {c : Char} (hmem : c ∈ token) (hbeyond : 128 ≤ c.toNat) (hc : c ≠ 'ſ') :
    ofToken? token = none := by
  by_contra hsome
  obtain ⟨mnemonic, hsome⟩ := Option.ne_none_iff_exists'.mp hsome
  obtain ⟨n, hn, heq⟩ := (ofToken?_eq_some_iff_spells.mp hsome).exists_of_mem hmem
  -- no spelling has an I in it
  have hletters : (n.toLower.toNat < 128) ∧ n.toLower ≠ 'i' := by
    have hall : (all.all fun mnemonic => mnemonic.spelling.all fun n =>
        Nat.blt n.toLower.toNat 128 && n.toLower != 'i') = true := by decide
    simpa using List.all_eq_true.mp (List.all_eq_true.mp hall _ (mem_all mnemonic)) n hn
  rw [← heq] at hletters
  by_cases hdotless : c = 'ı'
  · subst hdotless
    exact hletters.2 (by decide)
  · have hplain : plain c = c := by
      unfold plain
      rw [if_neg hc, if_neg hdotless]
    rw [hplain, toLower_of_not_ascii hbeyond] at hletters
    exact absurd hletters.1 (Nat.not_lt.mpr hbeyond)

end Mnemonic

/-! ### Special operands -/

namespace Operand

/-- Holds of the spellings of a special operand. -/
def Names (token : Token) (name : Text) : Prop :=
  Spells token name ∨ name = ['S', 'T'] ∧ (token = ['ﬅ'] ∨ token = ['ﬆ'])

/-- A token is a special operand in upper case exactly if it is one of its spellings. -/
theorem upper_eq_iff_names {token : Token} {name : Text} (h : name ∈ reserved) :
    upper token = name ↔ Names token name := by
  unfold Names
  by_cases hsound : name = ['S', 'T']
  · subst hsound
    simp [upper_eq_soundTimer_iff]
  · have hplain : (reserved.all fun name =>
        name == ['S', 'T'] || isCapital name && isUnligated name) = true := by decide
    have hname := List.all_eq_true.mp hplain name h
    simp only [Bool.or_eq_true, beq_iff_eq, hsound, false_or, Bool.and_eq_true] at hname
    simp [upper_eq_iff hname.1 hname.2, hsound]

end Operand

/-- The forms with a special operand, each with the position and the name of that operand. -/
def Opcode.special : List (Opcode × Nat × Text) :=
  [(.ldI, 0, ['I']), (.addIVx, 0, ['I'])] ++
    loadsTo.map (fun place => (place.2, 0, place.1)) ++
    loadsFrom.map fun place => (place.2, 1, place.1)

theorem Opcode.special_reserved {opcode : Opcode} {position : Nat} {name : Text}
    (h : (opcode, position, name) ∈ special) : name ∈ Operand.reserved := by
  have hall : ∀ form ∈ special, form.2.2 ∈ Operand.reserved := by decide
  exact hall _ h

namespace Form

variable {labels : LabelTable Int} {mnemonic : Mnemonic} {operands : List Token}
  {made : Operation} {opcode : Opcode} {position : Nat} {name : Text}

/-- Where the form of an operation takes a special operand, its name stands in upper case. -/
theorem upper_special (h : Form labels mnemonic operands made)
    (hform : Operation.OfForm opcode made) (hspecial : (opcode, position, name) ∈ Opcode.special) :
    ∃ word, operands[position]? = some word ∧ Text.upper word = name := by
  have hordinary (htable : ∀ special ∈ Opcode.special, special.1 ≠ opcode) : False :=
    htable _ hspecial rfl
  have hrow {table : List (Mnemonic × Opcode)}
      (htable : ∀ form ∈ table, ∀ special ∈ Opcode.special, special.1 ≠ form.2)
      (hmem : (mnemonic, opcode) ∈ table) : False :=
    hordinary (htable _ hmem)
  have hplace (position' : Nat) (name' : Text)
      (htable : ∀ special ∈ Opcode.special, special.1 = opcode → special.2 = (position', name')) :
      position' = position ∧ name' = name :=
    Prod.mk.inj (htable _ hspecial rfl).symm
  cases h with
  | bare h => cases hform; exact (hrow (by decide) h).elim
  | address h _ => cases hform; exact (hrow (by decide) h).elim
  | jumpFromRegister _ _ => cases hform; exact (hordinary (by decide)).elim
  | loadAddress hi _ =>
      cases hform
      obtain ⟨rfl, rfl⟩ := hplace 0 ['I'] (by decide)
      exact ⟨_, rfl, hi⟩
  | register h _ => cases hform; exact (hrow (by decide) h).elim
  | loadTo h _ =>
      cases hform
      have htable : ∀ place ∈ Opcode.loadsTo, ∀ special ∈ Opcode.special,
          special.1 = place.2 → special.2 = (0, place.1) := by decide
      obtain ⟨rfl, rfl⟩ := hplace _ _ (htable _ h)
      exact ⟨_, rfl, rfl⟩
  | loadFrom h _ =>
      cases hform
      have htable : ∀ place ∈ Opcode.loadsFrom, ∀ special ∈ Opcode.special,
          special.1 = place.2 → special.2 = (1, place.1) := by decide
      obtain ⟨rfl, rfl⟩ := hplace _ _ (htable _ h)
      exact ⟨_, rfl, rfl⟩
  | addToAddress hi _ =>
      cases hform
      obtain ⟨rfl, rfl⟩ := hplace 0 ['I'] (by decide)
      exact ⟨_, rfl, hi⟩
  | registerByte h _ _ => cases hform; exact (hrow (by decide) h).elim
  | registers h _ _ => cases hform; exact (hrow (by decide) h).elim
  | shift h _ => cases hform; exact (hrow (by decide) h).elim
  | sprite _ _ _ => cases hform; exact (hordinary (by decide)).elim
  | word _ => cases hform
  | byte _ => cases hform

/-- Where a word has a form with a special operand, the name of that operand stands in upper case. -/
theorem upper_special_of_matchesWord (h : Form labels mnemonic operands made)
    (hcode : mnemonic.Decodable) (hspecial : (opcode, position, name) ∈ Opcode.special)
    (hword : opcode.matchesWord made.encoded = true) :
    ∃ operand, operands[position]? = some operand ∧ Text.upper operand = name := by
  obtain ⟨hnotSys, hnotData⟩ := not_or.mp (List.mem_cons.not.mp hcode)
  obtain ⟨made', hform, hmnemonic⟩ := h.exists_ofForm hnotData
  have hsys : made' ≠ .sys := by
    rintro rfl
    exact hnotSys hmnemonic.symm
  have hsys' : opcode ≠ .sys := by
    have hall : ∀ special ∈ Opcode.special, special.1 ≠ Opcode.sys := by decide
    exact hall _ hspecial
  have hmade : made'.matchesWord made.encoded = true :=
    beq_iff_eq.mpr hform.encoded_and_fixedBits
  obtain rfl : opcode = made' := Opcode.eq_of_matchesWord hsys' hsys hword hmade
  exact h.upper_special hform hspecial

end Form

/-! ### Instructions -/

namespace Instruction

/-- An instruction whose mnemonic token has a character beyond ASCII other than the long `ſ` is
refused for its mnemonic. -/
theorem encode_of_beyond_ascii {labels : LabelTable Int} {instruction : Instruction}
    {token : Token} {operands : List Token} {c : Char}
    (htokens : instruction.tokens = token :: operands) (hmem : c ∈ token)
    (hbeyond : 128 ≤ c.toNat) (hc : c ≠ 'ſ') :
    instruction.encode labels =
      .error (instruction.report (instruction.locationOf 0) (.unknownMnemonic token)) := by
  unfold encode
  rw [htokens]
  simp only [Mnemonic.ofToken?_eq_none hmem hbeyond hc]

/-- What is encoded is spelled as one of the mnemonics, in either case of ASCII, with `ſ` for an S.
Where its word has a form with a special operand, that operand is spelled as its name.  So other
characters beyond ASCII in the place of the mnemonic are refused. -/
theorem encode_spelled (labels : LabelTable Int) (instruction : Instruction) :
    (∀ encoded, instruction.encode labels = .ok encoded →
      ∃ (token : Token) (operands : List Token) (mnemonic : Mnemonic) (word : Nat),
        instruction.tokens = token :: operands ∧ Text.Spells token mnemonic.spelling ∧
          encoded.encoded = some (word : Int) ∧
          ∀ opcode position name, (opcode, position, name) ∈ Opcode.special →
            mnemonic.Decodable → opcode.matchesWord word = true →
            ∃ operand, operands[position]? = some operand ∧ Operand.Names operand name) ∧
    ∀ token operands c, instruction.tokens = token :: operands → c ∈ token →
      128 ≤ c.toNat → c ≠ 'ſ' →
      instruction.encode labels =
        .error (instruction.report (instruction.locationOf 0) (.unknownMnemonic token)) := by
  refine ⟨?encoded, fun token operands c => encode_of_beyond_ascii⟩
  intro encoded h
  obtain ⟨token, operands, mnemonic, made, htokens, hmnemonic, hform, rfl⟩ :=
    encode_eq_ok_iff.mp h
  refine ⟨token, operands, mnemonic, made.encoded, htokens,
    Mnemonic.ofToken?_eq_some_iff_spells.mp hmnemonic, rfl, ?_⟩
  intro opcode position name hspecial hcode hword
  obtain ⟨operand, hoperand, hupper⟩ := hform.upper_special_of_matchesWord hcode hspecial hword
  have hreserved := Opcode.special_reserved hspecial
  exact ⟨operand, hoperand, (Operand.upper_eq_iff_names hreserved).mp hupper⟩

/-- A ligature spells the name of the sound timer, and a chi is no X. -/
theorem encode_spelled_ligature :
    let load : Instruction := { written := [], tokens := ["ld".toList, "ﬆ".toList, "V3".toList] }
    let xor : Instruction := { written := [], tokens := ["Χor".toList, "V0".toList, "V1".toList] }
    load.encode {} = .ok { load with encoded := some 0xF318 } ∧
      Operand.Names "ﬆ".toList "ST".toList ∧
      xor.encode {} =
        .error (xor.report (xor.locationOf 0) (.unknownMnemonic "Χor".toList)) := by
  intro load xor
  have hload : load.encode {} = .ok { load with encoded := some 0xF318 } := by
    decide +kernel
  obtain ⟨token, operands, mnemonic, word, htokens, hspells, hword, hspecial⟩ :=
    (encode_spelled {} load).1 _ hload
  obtain ⟨rfl, rfl⟩ := List.cons.inj htokens
  have hmnemonic : Mnemonic.ofToken? "ld".toList = some .ld := by decide +kernel
  obtain rfl : mnemonic = .ld :=
    Option.some.inj ((Mnemonic.ofToken?_eq_some_iff_spells.mpr hspells).symm.trans hmnemonic)
  obtain rfl : word = 0xF318 := Int.natCast_inj.mp (Option.some.inj hword).symm
  obtain ⟨operand, hoperand, hnames⟩ :=
    hspecial .ldStVx 0 "ST".toList (by decide) (by decide) (by decide)
  obtain rfl := Option.some.inj hoperand
  exact ⟨hload, hnames, (encode_spelled {} xor).2 _ _ 'Χ' rfl (by decide) (by decide) (by decide)⟩

/-- The long `ſ` and the dotless `ı` are read as the letters that have their capitals. -/
theorem encode_long_s :
    (assemble {} [] "ſE V0, 1\nLD ı, 5".toList).map (·.image) =
        .ok [0x30, 0x01, 0xA0, 0x05] ∧
      (∀ mnemonic : Mnemonic, ¬ Text.SameLetters "ſE".toList mnemonic.spelling) ∧
      ¬ Text.SameLetters "ı".toList "I".toList := by
  refine ⟨by decide +kernel, fun mnemonic => ?_, by decide +kernel⟩
  cases mnemonic <;> decide

end Instruction

end Chip8
