import Chip8.Proofs.FirstFailure
import Chip8.Proofs.Layout
import Chip8.Proofs.Outcomes
import Chip8.Proofs.References

/-!
# Steps of addresses

Assembling one source with either step of addresses gives the same failure, or two assemblies that
agree but for what labels stand for.  With the fixed step an instruction at position `i` stands
`2 * i` bytes behind the start; with the other step it stands one byte earlier for every `DB` before
it.  So do the labels, and the words that name labels differ in the field for the address alone.
-/

namespace Chip8

/-- The mnemonic of an instruction. -/
def Instruction.mnemonic? (instruction : Instruction) : Option Mnemonic :=
  instruction.tokens.head?.bind Mnemonic.ofToken?

/-- Holds of the lines whose instruction is `DB`. -/
def Line.isByte (line : Line) : Bool :=
  (Instruction.ofLine .fixed programStart 0 line).mnemonic? == some .db

/-! ### Places -/

namespace Instruction

variable {address : Int} {index : Nat} {line : Line}

/-- Where addresses step by width, an instruction of `DB` takes up one byte and any other two. -/
theorem ofLine_width_byWidth (address : Int) (index : Nat) (line : Line) :
    (ofLine .byWidth address index line).width = if line.isByte then 1 else 2 := by
  show plannedWidth .byWidth (ofLine .fixed programStart 0 line).tokens = _
  unfold Line.isByte mnemonic? plannedWidth
  cases hmnemonic : (ofLine .fixed programStart 0 line).tokens.head?.bind Mnemonic.ofToken? with
  | none => rfl
  | some mnemonic => cases mnemonic <;> rfl

theorem ofLine_width_fixed (address : Int) (index : Nat) (line : Line) :
    (ofLine .fixed address index line).width = 2 := rfl

/-- The step makes no difference for lines without `DB`. -/
theorem ofLine_byWidth (h : line.isByte = false) :
    ofLine .byWidth address index line = ofLine .fixed address index line := by
  have hwidth := ofLine_width_byWidth address index line
  rw [h] at hwidth
  -- the step decides the planned width and nothing else
  show { ofLine .fixed address index line with
    width := (ofLine .byWidth address index line).width } = _
  rw [hwidth]
  rfl

end Instruction

namespace Program

variable {address : Int} {index : Nat} {lines : List Line}

theorem take_place (step : AddressStep) (address : Int) (index : Nat) (lines : List Line)
    (count : Nat) :
    (place step address index lines).take count =
      place step address index (lines.take count) := by
  induction lines generalizing address index count with
  | nil => simp [place]
  | cons line rest ih =>
      cases count with
      | zero => rfl
      | succ count => simp [place, ih]

theorem extent_place_fixed (address : Int) (index : Nat) (lines : List Line) :
    Instruction.extent (place .fixed address index lines) = 2 * lines.length := by
  induction lines generalizing address index with
  | nil => rfl
  | cons line rest ih =>
      have hwidth := Instruction.ofLine_width_fixed address index line
      rw [place, Instruction.extent, ih, hwidth, List.length_cons]
      omega

theorem extent_place_byWidth (address : Int) (index : Nat) (lines : List Line) :
    Instruction.extent (place .byWidth address index lines) =
      2 * lines.length - lines.countP (·.isByte) := by
  induction lines generalizing address index with
  | nil => rfl
  | cons line rest ih =>
      have hwidth := Instruction.ofLine_width_byWidth address index line
      rw [place, Instruction.extent, ih, hwidth, List.length_cons, List.countP_cons]
      split
      · omega
      · omega

theorem place_byWidth (h : ∀ line ∈ lines, line.isByte = false) :
    place .byWidth address index lines = place .fixed address index lines := by
  induction lines generalizing address index with
  | nil => rfl
  | cons line rest ih =>
      obtain ⟨hfirst, hrest⟩ := List.forall_mem_cons.mp h
      rw [place, place, Instruction.ofLine_byWidth hfirst, ih hrest]

end Program

/-! ### References and numbers -/

namespace Reference

variable {name token : Token} {tokens : List Token} {mnemonic : Mnemonic} {opcode : Opcode}
  {base modulus : Nat}

/-- The bits for the address are zero in the base. -/
theorem base_mod (h : Reference name tokens base modulus) : base % modulus = 0 := by
  cases h <;> rfl

end Reference

namespace Instruction

variable {labels labels' : LabelTable Int} {first second firstMade secondMade : Instruction}
  {name : Token} {base modulus : Nat}

/-- Without a label among its operands an instruction makes one number with all tables. -/
theorem encoded_eq_of_numbers (htokens : first.tokens = second.tokens)
    (hfirst : first.encode labels = .ok firstMade)
    (hsecond : second.encode labels' = .ok secondMade)
    (hnumbers : ∀ name base modulus, Reference name first.tokens base modulus →
      Operand.ofToken name ≠ .label) :
    secondMade.encoded = firstMade.encoded := by
  have hencode := encode_of_resolves htokens.symm hfirst
    fun name base modulus hreference _ hvalue =>
      hvalue.of_ne_label (hnumbers name base modulus hreference) labels'
  rw [hencode] at hsecond
  rw [← Except.ok.inj hsecond]

/-- A reference that has been encoded names a label that is bound, and takes its address. -/
theorem encoded_of_reference (h : first.encode labels = .ok firstMade)
    (hreference : Reference name first.tokens base modulus)
    (hkind : Operand.ofToken name = .label) :
    ∃ address, labels.find? name = some address ∧
      firstMade.encoded = some (base + address % modulus) := by
  cases hbound : labels.find? name with
  | none =>
      obtain ⟨_, herror, -⟩ := encode_of_unbound hreference hkind hbound
      rw [h] at herror
      contradiction
  | some address =>
      obtain ⟨made, hmade, hnumber⟩ := encode_of_bound hreference hkind hbound
      obtain rfl := Except.ok.inj (h.symm.trans hmade)
      exact ⟨address, rfl, hnumber⟩

/-- An instruction without what depends on where instructions stand. -/
def unresolved (instruction : Instruction) : Instruction :=
  { instruction with address := 0, encoded := none }

/-- What encoding makes of an instruction that has not been placed, but for its number. -/
def settled (instruction : Instruction) : Instruction :=
  { instruction with encoded := none, width := plannedWidth .byWidth instruction.tokens }

theorem unresolved_of_encode (h : first.encode labels = .ok firstMade) :
    firstMade.unresolved = first.unplaced.settled := by
  rw [encode_eq_with h]
  rfl

end Instruction

/-! ### Encoded sources -/

namespace Program

variable {program made : Program} {options : Options} {file source : Text} {position : Nat}

theorem map_unresolved_of_encoded (h : program.encoded = .ok made) :
    made.instructions.map Instruction.unresolved =
      program.unplaced.instructions.map Instruction.settled := by
  obtain ⟨hall, -⟩ := encoded_eq_ok_iff.mp h
  show made.instructions.map _ = (program.instructions.map _).map _
  rw [List.map_map]
  exact Instruction.map_eq_of_encodeEach
    (fun _ _ hencode => Instruction.unresolved_of_encode hencode) hall

theorem addresses_of_encoded (h : program.encoded = .ok made) :
    made.addresses = program.addresses := by
  have haddresses := addresses_encode program
  unfold encoded at h
  split at h
  · rename_i first hfirst
    rw [hfirst] at haddresses
    rw [← Except.ok.inj h]
    exact haddresses
  · contradiction

/-- Each instruction of an encoded program comes from one that is encoded on its own. -/
theorem exists_of_encoded (h : program.encoded = .ok made) {instruction : Instruction}
    (hget : made.instructions[position]? = some instruction) :
    ∃ before, program.instructions[position]? = some before ∧
      before.encode program.addresses = .ok instruction := by
  obtain ⟨hall, -⟩ := encoded_eq_ok_iff.mp h
  have hposition : position < program.instructions.length :=
    hall.length_eq ▸ (List.getElem?_eq_some_iff.mp hget).1
  obtain ⟨before, encoded, hbefore, hencode, hencoded⟩ :=
    Instruction.encodedAt_of_forall₂ [] [] hall hposition
  rw [List.append_nil] at hbefore hencoded
  obtain rfl := Option.some.inj (hencoded.symm.trans hget)
  exact ⟨before, hbefore, hencode⟩

/-- Each instruction of an encoded source is the encoded instruction of its line. -/
theorem exists_line_of_encoded
    (h : (labelled options (Source.lines file source)).encoded = .ok made)
    {instruction : Instruction} (hget : made.instructions[position]? = some instruction) :
    ∃ line, (Source.lines file source)[position]? = some line ∧
      (Instruction.ofLine options.addressStep
        (programStart + Instruction.extent (place options.addressStep programStart 0
          ((Source.lines file source).take position))) position line).encode
        (labelled options (Source.lines file source)).addresses = .ok instruction := by
  obtain ⟨before, hbefore, hencode⟩ := exists_of_encoded h hget
  rw [labelled_instructions, getElem?_place, take_place, Nat.zero_add] at hbefore
  obtain ⟨line, hline, rfl⟩ := Option.map_eq_some_iff.mp hbefore
  exact ⟨line, hline, hencode⟩

/-- The instructions at one position of one source come from the same tokens, whatever the options. -/
theorem exists_tokens_of_encoded {options' : Options} {other : Program}
    (h : (labelled options (Source.lines file source)).encoded = .ok made)
    (h' : (labelled options' (Source.lines file source)).encoded = .ok other)
    {first second : Instruction} (hget : made.instructions[position]? = some first)
    (hget' : other.instructions[position]? = some second) :
    ∃ placed placed' : Instruction,
      placed.tokens = first.tokens ∧ placed'.tokens = first.tokens ∧
      placed.encode made.addresses = .ok first ∧
      placed'.encode other.addresses = .ok second := by
  obtain ⟨line, hline, hencode⟩ := exists_line_of_encoded h hget
  obtain ⟨line', hline', hencode'⟩ := exists_line_of_encoded h' hget'
  obtain rfl := Option.some.inj (hline.symm.trans hline')
  have htokens := congrArg Instruction.tokens (Instruction.encode_eq_with hencode)
  rw [addresses_of_encoded h, addresses_of_encoded h']
  refine ⟨_, _, htokens.symm, ?_, hencode, hencode'⟩
  exact htokens.symm

/-- An instruction of an encoded source stands behind those of the lines before. -/
theorem address_of_encoded
    (h : (labelled options (Source.lines file source)).encoded = .ok made)
    {instruction : Instruction} (hget : made.instructions[position]? = some instruction) :
    position ≤ (Source.lines file source).length ∧
      instruction.address = programStart + Instruction.extent
        (place options.addressStep programStart 0
          ((Source.lines file source).take position)) := by
  obtain ⟨line, hline, hencode⟩ := exists_line_of_encoded h hget
  rw [Instruction.encode_eq_with hencode]
  exact ⟨Nat.le_of_lt (List.getElem?_eq_some_iff.mp hline).1, rfl⟩

end Program

theorem LabelTable.map_fst_toList {α : Type} (table : LabelTable α) :
    table.toList.map Prod.fst = table.names := by
  simp [toList, names]

/-- A name is defined a last time once. -/
theorem Source.LastDefinition.unique {lines : List Line} {name : Text} {position other : Nat}
    (h : LastDefinition lines name position) (hother : LastDefinition lines name other) :
    position = other := by
  rcases Nat.lt_trichotomy position other with hlt | heq | hgt
  · exact absurd rfl (h.2 other name hlt hother.1)
  · exact heq
  · exact absurd rfl (hother.2 position name hgt h.1)

/-! ### Two assemblies -/

/-- Holds of the assemblies of one source whose addresses step by width and by two bytes.  They
agree in all but addresses and numbers, and so in the widths and the count of instructions, and in
the size of their images.  Numbers differ only where a label is named, and there in the remainder of
its address.  An instruction and a label come later in the second assembly by the number of `DB`
lines before.  The labels are the names that lines define. -/
structure SteppedAlike (lines : List Line) (byWidth fixed : Assembly) : Prop where
  kept : fixed.program.instructions.map Instruction.unresolved =
    byWidth.program.instructions.map Instruction.unresolved
  size : fixed.image.length = byWidth.image.length
  names : fixed.labels.map Prod.fst = byWidth.labels.map Prod.fst
  number : ∀ (position : Nat) (first second : Instruction),
    byWidth.program.instructions[position]? = some first →
    fixed.program.instructions[position]? = some second →
    (∀ name base modulus, Reference name first.tokens base modulus →
      Operand.ofToken name ≠ .label) →
    second.encoded = first.encoded
  reference : ∀ (position : Nat) (first second : Instruction),
    byWidth.program.instructions[position]? = some first →
    fixed.program.instructions[position]? = some second →
    ∀ name base modulus, Reference name first.tokens base modulus →
      Operand.ofToken name = .label →
      base % modulus = 0 ∧ ∃ address address',
        byWidth.program.addresses.find? name = some address ∧
        fixed.program.addresses.find? name = some address' ∧
        first.encoded = some (base + address % modulus) ∧
        second.encoded = some (base + address' % modulus)
  address : ∀ (position : Nat) (instruction : Instruction),
    fixed.program.instructions[position]? = some instruction →
    instruction.address = 0x200 + 2 * (position : Int)
  label : ∀ name address address', (name, address) ∈ byWidth.labels →
    (name, address') ∈ fixed.labels →
    ∃ position, Source.LastDefinition lines name position ∧
      address' - address = ((lines.take position).countP (·.isByte) : Nat)
  named : ∀ name position, Source.DefinedAt lines name position →
    ∃ spelled last address, Source.LastDefinition lines spelled last ∧
      Text.upper spelled = Text.upper name ∧ (spelled, address) ∈ byWidth.labels

section Assemblies

variable {strict : Bool} {file source : Text} {byWidth fixed : Assembly}

/-- What the two assemblies of a source have in common. -/
theorem steppedAlike_of_assemble (hfirst : assemble ⟨.byWidth, strict⟩ file source = .ok byWidth)
    (hsecond : assemble ⟨.fixed, strict⟩ file source = .ok fixed) :
    SteppedAlike (Source.lines file source) byWidth fixed := by
  obtain ⟨parsed, hparsed, hencoded, himage⟩ := assemble_eq_ok_iff.mp hfirst
  obtain ⟨parsed', hparsed', hencoded', himage'⟩ := assemble_eq_ok_iff.mp hsecond
  obtain ⟨-, rfl⟩ := Program.ofSource_eq_ok_iff.mp hparsed
  obtain ⟨-, rfl⟩ := Program.ofSource_eq_ok_iff.mp hparsed'
  have hunplaced := Program.labelled_unplaced .fixed .byWidth strict (Source.lines file source)
  have hkept : fixed.program.instructions.map Instruction.unresolved =
      byWidth.program.instructions.map Instruction.unresolved := by
    rw [Program.map_unresolved_of_encoded hencoded, Program.map_unresolved_of_encoded hencoded',
      hunplaced]
  refine ⟨hkept, ?size, ?names, ?number, ?reference, ?address, ?label, ?named⟩
  case size =>
    -- an image has as many bytes as its instructions take up, and the widths agree
    have hwidths := congrArg (List.map (·.width)) hkept
    rw [List.map_map, List.map_map] at hwidths
    have hextent := Instruction.extent_congr hwidths
    rw [← Instruction.length_contents (Program.fits_of_encoded hencoded),
      ← Instruction.length_contents (Program.fits_of_encoded hencoded')] at hextent
    rw [himage, himage']
    exact Int.natCast_inj.mp hextent
  case names =>
    have hlabels : fixed.program.labels = byWidth.program.labels := by
      rw [Program.labels_of_encoded hencoded, Program.labels_of_encoded hencoded']
      show (Program.labelled ⟨.fixed, strict⟩ (Source.lines file source)).unplaced.labels = _
      rw [hunplaced]
      rfl
    show fixed.program.addresses.toList.map _ = byWidth.program.addresses.toList.map _
    rw [LabelTable.map_fst_toList, LabelTable.map_fst_toList, Program.names_addresses,
      Program.names_addresses, hlabels]
  case number =>
    intro position first second hget hget' hnumbers
    obtain ⟨placed, placed', htokens, htokens', hencode, hencode'⟩ :=
      Program.exists_tokens_of_encoded hencoded hencoded' hget hget'
    rw [← htokens] at hnumbers
    exact Instruction.encoded_eq_of_numbers (htokens.trans htokens'.symm) hencode hencode'
      hnumbers
  case reference =>
    intro position first second hget hget' name base modulus hreference hkind
    obtain ⟨placed, placed', htokens, htokens', hencode, hencode'⟩ :=
      Program.exists_tokens_of_encoded hencoded hencoded' hget hget'
    obtain ⟨address, hbound, hnumber⟩ :=
      Instruction.encoded_of_reference hencode (htokens ▸ hreference) hkind
    obtain ⟨address', hbound', hnumber'⟩ :=
      Instruction.encoded_of_reference hencode' (htokens' ▸ hreference) hkind
    exact ⟨hreference.base_mod, address, address', hbound, hbound', hnumber, hnumber'⟩
  case address =>
    intro position instruction hget
    obtain ⟨hposition, haddress⟩ := Program.address_of_encoded hencoded' hget
    rw [haddress, Program.extent_place_fixed, List.length_take_of_le hposition]
    rfl
  case label =>
    intro name address address' hmem hmem'
    obtain ⟨position, instruction, hlast, hget, rfl⟩ :=
      (mem_labels_of_encoded_iff hencoded).mp hmem
    obtain ⟨position', instruction', hlast', hget', rfl⟩ :=
      (mem_labels_of_encoded_iff hencoded').mp hmem'
    -- both addresses belong to the one line that defines the name last
    obtain rfl := hlast.unique hlast'
    have haddress := (Program.address_of_encoded hencoded hget).2
    have haddress' := (Program.address_of_encoded hencoded' hget').2
    rw [Program.extent_place_byWidth] at haddress
    rw [Program.extent_place_fixed] at haddress'
    exact ⟨position, hlast, by omega⟩
  case named => exact fun _ _ hdefined => exists_label_of_encoded hencoded hdefined

/-- With the one step of addresses and with the other, a source fails with one failure or makes
assemblies that differ in nothing but what follows from labels.  They are the same if no line is
`DB`. -/
theorem assemble_steps (strict : Bool) (file source : Text) :
    ((∃ failure, assemble ⟨.byWidth, strict⟩ file source = .error failure ∧
          assemble ⟨.fixed, strict⟩ file source = .error failure) ∨
        ∃ byWidth fixed, assemble ⟨.byWidth, strict⟩ file source = .ok byWidth ∧
          assemble ⟨.fixed, strict⟩ file source = .ok fixed ∧
          SteppedAlike (Source.lines file source) byWidth fixed) ∧
      ((∀ line ∈ Source.lines file source, line.isByte = false) →
        assemble ⟨.byWidth, strict⟩ file source = assemble ⟨.fixed, strict⟩ file source) := by
  have halike := assemble_alike .byWidth .fixed strict file source
  constructor
  · cases hfirst : assemble ⟨.byWidth, strict⟩ file source with
    | error failure => exact .inl ⟨failure, rfl, halike.error_iff.mp hfirst⟩
    | ok byWidth =>
        cases hsecond : assemble ⟨.fixed, strict⟩ file source with
        | error failure =>
            rw [halike.error_iff.mpr hsecond] at hfirst
            contradiction
        | ok fixed =>
            exact .inr ⟨byWidth, fixed, rfl, rfl, steppedAlike_of_assemble hfirst hsecond⟩
  · intro hbytes
    have hplaced : Program.unlabelled ⟨.byWidth, strict⟩ (Source.lines file source) =
        Program.unlabelled ⟨.fixed, strict⟩ (Source.lines file source) := by
      refine Program.ext ?_ rfl
      rw [Program.unlabelled_instructions, Program.unlabelled_instructions,
        Program.place_byWidth hbytes]
    unfold assemble
    rw [Program.ofSource_eq_defineAll, Program.ofSource_eq_defineAll, hplaced]

/-- A label behind a single byte stands for an odd address with one step and an even one with the
other. -/
theorem assemble_steps_byte :
    ∃ byWidth fixed, assemble ⟨.byWidth, false⟩ [] "DB 7\nA: JP A".toList = .ok byWidth ∧
      assemble ⟨.fixed, false⟩ [] "DB 7\nA: JP A".toList = .ok fixed ∧
      byWidth.image = [0x07, 0x12, 0x01] ∧ fixed.image = [0x07, 0x12, 0x02] ∧
      SteppedAlike (Source.lines [] "DB 7\nA: JP A".toList) byWidth fixed ∧
      assemble ⟨.byWidth, true⟩ [] "A: JP A".toList =
        assemble ⟨.fixed, true⟩ [] "A: JP A".toList := by
  have hfirst : (assemble ⟨.byWidth, false⟩ [] "DB 7\nA: JP A".toList).map (·.image) =
      .ok [0x07, 0x12, 0x01] := by
    decide +kernel
  have hsecond : (assemble ⟨.fixed, false⟩ [] "DB 7\nA: JP A".toList).map (·.image) =
      .ok [0x07, 0x12, 0x02] := by
    decide +kernel
  have hbytes : ∀ line ∈ Source.lines [] "A: JP A".toList, line.isByte = false := by
    decide +kernel
  have hsame := (assemble_steps true [] "A: JP A".toList).2 hbytes
  rcases (assemble_steps false [] "DB 7\nA: JP A".toList).1 with
    ⟨failure, hfails, -⟩ | ⟨byWidth, fixed, hmade, hmade', halike⟩
  · rw [hfails] at hfirst
    contradiction
  · rw [hmade] at hfirst
    rw [hmade'] at hsecond
    exact ⟨byWidth, fixed, hmade, hmade', Except.ok.inj hfirst, Except.ok.inj hsecond, halike, hsame⟩

end Assemblies

end Chip8
