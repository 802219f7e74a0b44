import Chip8.Proofs.Encoding
import Chip8.Proofs.Definitions

/-!
# Strict labels

A strict table refuses a source exactly if two of its lines define one name, and it does so before
anything is encoded.  What it reports is the first line that repeats a name, and where that name was
defined first.  A source without such lines is assembled as if labels were not strict.
-/

namespace Chip8

/-! ### Repeated names -/

namespace Source

variable {lines : List Line} {name other : Text} {first position count : Nat}

/-- Holds when the line at a position defines a name and no earlier line does, in any case. -/
def FirstDefinition (lines : List Line) (name : Text) (position : Nat) : Prop :=
  DefinedAt lines name position ∧
    ∀ earlier other, earlier < position → DefinedAt lines other earlier →
      Text.upper other ≠ Text.upper name

/-- Holds when the line at a position is the first one to define a name again, and the name was
defined first at the position `first`. -/
structure FirstRepetition (lines : List Line) (name : Text) (first position : Nat) : Prop where
  defined : DefinedAt lines name position
  lt : first < position
  first : ∃ spelled, FirstDefinition lines spelled first ∧ Text.upper spelled = Text.upper name
  distinct : DistinctLabels (lines.take position)

theorem definedAt_take_iff :
    DefinedAt (lines.take count) name position ↔
      position < count ∧ DefinedAt lines name position := by
  unfold DefinedAt
  rw [List.getElem?_take]
  split
  · rename_i hlt
    simp [hlt]
  · rename_i hlt
    simp [hlt]

/-- A line defines one name at the most. -/
theorem DefinedAt.name_unique (h : DefinedAt lines name position)
    (hother : DefinedAt lines other position) : other = name := by
  obtain ⟨line, hline, -, hhead⟩ := h
  obtain ⟨found, hfound, -, hfoundHead⟩ := hother
  obtain rfl := Option.some.inj (hfound.symm.trans hline)
  exact List.append_cancel_right (Option.some.inj (hfoundHead.symm.trans hhead))

theorem FirstDefinition.unique {spelled : Text} (h : FirstDefinition lines spelled first)
    (hother : FirstDefinition lines other position) (hkey : Text.upper other = Text.upper spelled) :
    position = first := by
  rcases Nat.lt_trichotomy position first with hlt | heq | hgt
  · exact absurd hkey (h.2 position other hlt hother.1)
  · exact heq
  · exact absurd hkey.symm (hother.2 first spelled hgt h.1)

/-- No name is repeated before the first repetition. -/
theorem FirstRepetition.le {first' position' : Nat} (h : FirstRepetition lines name first position)
    (hother : FirstRepetition lines other first' position') : position ≤ position' := by
  refine Nat.le_of_not_lt fun hlt => ?_
  obtain ⟨spelled, hfirst, hkey⟩ := hother.first
  have hearlier : DefinedAt (lines.take position) spelled first' :=
    definedAt_take_iff.mpr ⟨Nat.lt_trans hother.lt hlt, hfirst.1⟩
  have hlater : DefinedAt (lines.take position) other position' :=
    definedAt_take_iff.mpr ⟨hlt, hother.defined⟩
  exact h.distinct first' position' spelled other hother.lt hearlier hlater hkey.symm

theorem FirstRepetition.unique {first' position' : Nat}
    (h : FirstRepetition lines name first position)
    (hother : FirstRepetition lines other first' position') :
    other = name ∧ first' = first ∧ position' = position := by
  obtain rfl : position' = position := Nat.le_antisymm (hother.le h) (h.le hother)
  obtain rfl : other = name := h.defined.name_unique hother.defined
  obtain ⟨spelled, hfirst, hkey⟩ := h.first
  obtain ⟨spelled', hfirst', hkey'⟩ := hother.first
  exact ⟨rfl, hfirst.unique hfirst' (hkey'.trans hkey.symm), rfl⟩

theorem FirstRepetition.not_distinct (h : FirstRepetition lines name first position) :
    ¬ DistinctLabels lines := by
  intro hdistinct
  obtain ⟨spelled, hfirst, hkey⟩ := h.first
  exact hdistinct first position spelled name h.lt hfirst.1 h.defined hkey.symm

end Source

/-! ### Refused definitions -/

/-- What stands before a definition in a sorted list are the definitions at smaller positions. -/
theorem mem_before_iff {definitions before after : List (Text × Nat)}
    {definition other : Text × Nat}
    (h : definitions.Pairwise fun earlier later => earlier.2 < later.2)
    (hsplit : definitions = before ++ definition :: after) :
    other ∈ before ↔ other ∈ definitions ∧ other.2 < definition.2 := by
  subst hsplit
  obtain ⟨-, hrest, hbefore⟩ := List.pairwise_append.mp h
  constructor
  · intro hmem
    exact ⟨List.mem_append_left _ hmem, hbefore other hmem definition List.mem_cons_self⟩
  · rintro ⟨hmem, hlt⟩
    rcases List.mem_append.mp hmem with hmem | hmem
    · exact hmem
    · rcases List.mem_cons.mp hmem with rfl | hmem
      · exact absurd hlt (Nat.lt_irrefl _)
      · exact absurd hlt (Nat.lt_asymm (List.rel_of_pairwise_cons hrest hmem))

namespace Program

variable {program : Program} {definitions : List (Text × Nat)} {name : Text} {position : Nat}
  {failure : Failure}

/-- A definition is refused for an earlier one of the name, and reported with its place. -/
theorem define_eq_error (hrange : position < program.instructions.length)
    (h : program.define name position = .error failure) :
    program.labels.strict = true ∧
      ∃ first instruction, program.labels.find? name = some first ∧
        program.instructions[position]? = some instruction ∧
        failure = instruction.duplicateLabel name
          (program.instructions[first]?.map (·.location)) := by
  have hget := List.getElem?_eq_getElem hrange
  rw [define_of_getElem? hget] at h
  cases hrefusal : program.labels.refusal? name with
  | none =>
      rw [hrefusal] at h
      contradiction
  | some first =>
      rw [hrefusal] at h
      have hstrict := LabelTable.strict_of_refusal? hrefusal
      rw [LabelTable.refusal?, if_pos hstrict] at hrefusal
      exact ⟨hstrict, first, _, hrefusal, hget, (Except.error.inj h).symm⟩

/-- A run of definitions fails at the first one that is refused. -/
theorem exists_of_defineAll_error (h : program.defineAll definitions = .error failure) :
    ∃ before name position after made, definitions = before ++ (name, position) :: after ∧
      program.defineAll before = .ok made ∧ made.define name position = .error failure := by
  induction definitions generalizing program with
  | nil => contradiction
  | cons definition rest ih =>
      obtain ⟨name, position⟩ := definition
      unfold defineAll at h
      cases hdefine : program.define name position with
      | error refused =>
          rw [hdefine] at h
          obtain rfl := Except.error.inj h
          exact ⟨[], name, position, rest, program, rfl, rfl, hdefine⟩
      | ok defined =>
          rw [hdefine] at h
          obtain ⟨before, later, place, after, made, rfl, hbefore, hrefused⟩ := ih h
          refine ⟨(name, position) :: before, later, place, after, made, rfl, ?_, hrefused⟩
          unfold defineAll
          rw [hdefine]
          exact hbefore

/-- Definitions in a table that is empty at first go through up to the first that repeats a name,
and that one is reported with the place of the definition before it. -/
theorem repeated_of_defineAll_error (hempty : program.labels.bindings = [])
    (hrange : ∀ definition ∈ definitions, definition.2 < program.instructions.length)
    (h : program.defineAll definitions = .error failure) :
    ∃ before name position after spelled first instruction,
      definitions = before ++ (name, position) :: after ∧
      (before.map fun definition => Text.upper definition.1).Nodup ∧
      (spelled, first) ∈ before ∧ Text.upper spelled = Text.upper name ∧
      program.instructions[position]? = some instruction ∧
      failure = instruction.duplicateLabel name
        (program.instructions[first]?.map (·.location)) := by
  obtain ⟨before, name, position, after, made, rfl, hbefore, hrefused⟩ :=
    exists_of_defineAll_error h
  have hempty' : LabelTable.Distinct program.labels.bindings := hempty ▸ LabelTable.distinct_nil
  have hrangeBefore : ∀ definition ∈ before, definition.2 < program.instructions.length :=
    fun definition hmem => hrange definition (List.mem_append_left _ hmem)
  obtain ⟨hfree, hinstructions, hlabels⟩ :=
    (defineAll_eq_ok_iff hempty' hrangeBefore).mp hbefore
  have hposition : position < made.instructions.length := by
    rw [hinstructions]
    exact hrange (name, position) (List.mem_append_right _ List.mem_cons_self)
  obtain ⟨hstrict, first, instruction, hfind, hget, hfailure⟩ :=
    define_eq_error hposition hrefused
  rw [hinstructions] at hget hfailure
  rw [hlabels] at hstrict hfind
  have hkeys : (before.map fun definition => Text.upper definition.1).Nodup := by
    have hstrict' : program.labels.strict = true := hstrict
    simpa [hempty, hstrict'] using hfree
  -- what the name stands for was put into the table by one of the definitions before
  have hdistinct : LabelTable.Distinct (LabelTable.bindAll program.labels.bindings before) :=
    hempty'.bindAll before
  obtain ⟨binding, hbinding, hkey, rfl⟩ := (LabelTable.find?_eq_some_iff hdistinct).mp hfind
  have hlast : LabelTable.IsLast before binding.name binding.target := by
    have hbound := (LabelTable.mem_bindAll_iff hempty').mp hbinding
    simpa [hempty] using hbound
  obtain ⟨front, rear, rfl, -⟩ := hlast
  exact ⟨_, name, position, after, binding.name, binding.target, instruction, rfl, hkeys,
    List.mem_append_right _ List.mem_cons_self, hkey, hget, hfailure⟩

/-! ### Strict sources -/

section Sources

variable {step : AddressStep} {file source : Text}

/-- The report that the line at a position defines a name again. -/
def repetition (lines : List Line) (name : Text) (first position : Nat) : Diagnostic where
  cause := .duplicateLabel name (lines[first]?.map Line.location)
  location := lines[position]?.map Line.location
  sourceLine := lines[position]?.map Line.text
  index := some position

theorem exists_repetition (h : ofSource ⟨step, true⟩ file source = .error failure) :
    ∃ name first position,
      Source.FirstRepetition (Source.lines file source) name first position ∧
        failure = .reported (repetition (Source.lines file source) name first position) := by
  let lines := Source.lines file source
  let placed := unlabelled ⟨step, true⟩ lines
  have hsolid : Source.Unbroken lines := Source.lines_unbroken file source
  have hplaced : placed.instructions = place step programStart 0 lines :=
    unlabelled_instructions ⟨step, true⟩ file source
  have hsorted := definitions_sorted placed.instructions
  rw [ofSource_eq_defineAll] at h
  obtain ⟨before, name, position, after, spelled, first, instruction, hsplit, hkeys, hfirst, hkey,
    hget, rfl⟩ := repeated_of_defineAll_error rfl (definitions_in_range _) h
  -- the definitions are those of the lines, the ones before are those of the lines before
  have hbefore {other : Text} {place : Nat} :
      (other, place) ∈ before ↔ Source.DefinedAt (lines.take position) other place := by
    rw [mem_before_iff hsorted hsplit, hplaced, mem_definitions_place_iff hsolid,
      Source.definedAt_take_iff]
    exact and_comm
  have hdefined : Source.DefinedAt lines name position := by
    rw [← mem_definitions_place_iff hsolid, ← hplaced, hsplit]
    exact List.mem_append_right _ List.mem_cons_self
  have hdistinct : Source.DistinctLabels (lines.take position) := by
    rw [hsplit] at hsorted
    have hpairs := (pairwise_iff_of_sorted (List.pairwise_append.mp hsorted).1).mp
      (List.pairwise_map.mp hkeys)
    intro earlier later name other hlt hname hother
    exact (hpairs _ (hbefore.mpr hname) _ (hbefore.mpr hother) hlt).symm
  have htaken := hbefore.mp hfirst
  obtain ⟨hlt, hfirstDefined⟩ := Source.definedAt_take_iff.mp htaken
  refine ⟨name, first, position,
    ⟨hdefined, hlt, ⟨spelled, ⟨hfirstDefined, ?_⟩, hkey⟩, hdistinct⟩, ?_⟩
  · intro earlier other hearlier hother
    have hotherTaken := Source.definedAt_take_iff.mpr ⟨Nat.lt_trans hearlier hlt, hother⟩
    exact (hdistinct earlier first other spelled hearlier hotherTaken htaken).symm
  · have hlocation : placed.instructions[first]?.map (·.location) =
        lines[first]?.map Line.location := by
      rw [hplaced, getElem?_place, Option.map_map]
      rfl
    have hline : placed.instructions[position]? = some instruction := hget
    rw [hplaced, getElem?_place, Nat.zero_add] at hline
    obtain ⟨line, hfound, rfl⟩ := Option.map_eq_some_iff.mp hline
    show Failure.reported _ = .reported (repetition lines name first position)
    unfold repetition
    rw [hfound, ← hlocation]
    rfl

/-- A strict table fails exactly with the report of the first repetition. -/
theorem ofSource_strict_eq_error_iff :
    ofSource ⟨step, true⟩ file source = .error failure ↔
      ∃ name first position,
        Source.FirstRepetition (Source.lines file source) name first position ∧
          failure = .reported (repetition (Source.lines file source) name first position) := by
  refine ⟨exists_repetition, ?_⟩
  rintro ⟨name, first, position, hfirst, rfl⟩
  cases hparsed : ofSource ⟨step, true⟩ file source with
  | ok program =>
      have hdistinct := (ofSource_eq_ok_iff.mp hparsed).1.resolve_left Bool.noConfusion
      exact absurd hdistinct hfirst.not_distinct
  | error failure =>
      obtain ⟨name', first', position', hfirst', rfl⟩ := exists_repetition hparsed
      obtain ⟨rfl, rfl, rfl⟩ := hfirst.unique hfirst'
      rfl

end Sources

/-! ### Tables that are not strict -/

/-- The program with a table that is strict or not. -/
def withStrict (strict : Bool) (program : Program) : Program :=
  { program with labels := ⟨strict, program.labels.bindings⟩, bound := program.bound }

end Program

namespace Instruction

/-- Whether a table is strict is not asked when names are looked up. -/
theorem encode_strict (strict strict' : Bool) (bindings : List (Binding Int))
    (instruction : Instruction) :
    encode ⟨strict, bindings⟩ instruction = encode ⟨strict', bindings⟩ instruction :=
  rfl

theorem encodeAll_strict (strict strict' : Bool) (bindings : List (Binding Int))
    (instructions : List Instruction) :
    encodeAll ⟨strict, bindings⟩ instructions = encodeAll ⟨strict', bindings⟩ instructions := by
  induction instructions with
  | nil => rfl
  | cons instruction rest ih =>
      unfold encodeAll
      rw [ih, encode_strict strict strict']

end Instruction

theorem Program.encoded_withStrict (strict : Bool) (program : Program) :
    (program.withStrict strict).encoded = program.encoded.map (withStrict strict) := by
  have hrun : Instruction.encodeAll (program.withStrict strict).addresses program.instructions =
      Instruction.encodeAll program.addresses program.instructions :=
    Instruction.encodeAll_strict _ _ _ _
  have hinstructions := congrArg Prod.fst hrun
  have hfailure := congrArg Prod.snd hrun
  have hencode : (program.withStrict strict).encode =
      (program.encode.1.withStrict strict, program.encode.2) :=
    Prod.ext (Program.ext hinstructions rfl) hfailure
  unfold encoded
  rw [hencode]
  generalize program.encode = run
  obtain ⟨made, failure⟩ := run
  cases failure <;> rfl

section Assemblies

variable {step : AddressStep} {file source : Text}

/-- Where no name is defined twice, strict labels change nothing but the table's own strictness. -/
theorem assemble_withStrict (h : Source.DistinctLabels (Source.lines file source)) :
    assemble ⟨step, true⟩ file source = (assemble ⟨step, false⟩ file source).map
      fun assembly => ⟨assembly.image, assembly.program.withStrict true⟩ := by
  let lines := Source.lines file source
  have hstrict : Program.ofSource ⟨step, true⟩ file source =
      .ok ((Program.labelled ⟨step, false⟩ lines).withStrict true) :=
    Program.ofSource_eq_ok_iff.mpr ⟨.inr h, rfl⟩
  have hlax : Program.ofSource ⟨step, false⟩ file source =
      .ok (Program.labelled ⟨step, false⟩ lines) :=
    Program.ofSource_eq_ok_iff.mpr ⟨.inl rfl, rfl⟩
  cases hassembled : assemble ⟨step, false⟩ file source with
  | error failure =>
      obtain hparsed | ⟨parsed, hparsed, hfails⟩ := assemble_eq_error_iff.mp hassembled
      · rw [hlax] at hparsed
        contradiction
      · obtain rfl := Except.ok.inj (hlax.symm.trans hparsed)
        refine assemble_eq_error_iff.mpr (.inr ⟨_, hstrict, ?_⟩)
        rw [Program.encoded_withStrict, hfails]
        rfl
  | ok assembly =>
      obtain ⟨parsed, hparsed, hencoded, himage⟩ := assemble_eq_ok_iff.mp hassembled
      obtain rfl := Except.ok.inj (hlax.symm.trans hparsed)
      refine assemble_eq_ok_iff.mpr ⟨_, hstrict, ?_, himage⟩
      rw [Program.encoded_withStrict, hencoded]
      rfl

/-- What strict labels add to the assembly of a source: it is refused exactly if two lines define
one name, the report is of the first line that repeats a name and of the first line that defines
it, whatever else is wrong with the source, and a source that is not refused is assembled as if
labels were not strict. -/
structure StrictlyChecked (step : AddressStep) (file source : Text) : Prop where
  refused :
    (∃ diagnostic label original,
        Program.ofSource ⟨step, true⟩ file source = .error (.reported diagnostic) ∧
          diagnostic.cause = .duplicateLabel label original) ↔
      ∃ earlier later name other, earlier < later ∧
        Source.DefinedAt (Source.lines file source) name earlier ∧
        Source.DefinedAt (Source.lines file source) other later ∧
        Text.upper other = Text.upper name
  reported : ∀ diagnostic label original,
    Program.ofSource ⟨step, true⟩ file source = .error (.reported diagnostic) →
    diagnostic.cause = .duplicateLabel label original →
      assemble ⟨step, true⟩ file source = .error (.reported diagnostic) ∧
        ∃ first position firstLine line,
          Source.FirstRepetition (Source.lines file source) label first position ∧
            (Source.lines file source)[first]? = some firstLine ∧
            (Source.lines file source)[position]? = some line ∧
            original = some firstLine.location ∧ diagnostic.location = some line.location ∧
            diagnostic.sourceLine = some line.text ∧ diagnostic.index = some position
  unchanged : Source.DistinctLabels (Source.lines file source) →
    (assemble ⟨step, true⟩ file source).map (fun assembly =>
        (assembly.image, assembly.program.instructions, assembly.labels, assembly.listing)) =
      (assemble ⟨step, false⟩ file source).map (fun assembly =>
        (assembly.image, assembly.program.instructions, assembly.labels, assembly.listing))

theorem Source.distinctLabels_iff {lines : List Line} :
    DistinctLabels lines ↔ ¬ ∃ earlier later name other, earlier < later ∧
      DefinedAt lines name earlier ∧ DefinedAt lines other later ∧
      Text.upper other = Text.upper name := by
  constructor
  · rintro hdistinct ⟨earlier, later, name, other, hlt, hname, hother, hkey⟩
    exact hdistinct earlier later name other hlt hname hother hkey
  · intro hnone earlier later name other hlt hname hother hkey
    exact hnone ⟨earlier, later, name, other, hlt, hname, hother, hkey⟩

/-- Strict labels only add a rejection. -/
theorem assemble_strictlyChecked (step : AddressStep) (file source : Text) :
    StrictlyChecked step file source := by
  refine ⟨?refused, ?reported, ?unchanged⟩
  case refused =>
    rw [← not_iff_not, ← Source.distinctLabels_iff]
    constructor
    · intro hnone earlier later name other hlt hname hother hkey
      cases hparsed : Program.ofSource ⟨step, true⟩ file source with
      | ok program =>
          have hdistinct := (Program.ofSource_eq_ok_iff.mp hparsed).1.resolve_left Bool.noConfusion
          exact hdistinct earlier later name other hlt hname hother hkey
      | error failure =>
          obtain ⟨label, first, position, -, rfl⟩ :=
            Program.ofSource_strict_eq_error_iff.mp hparsed
          exact hnone ⟨_, label, _, hparsed, rfl⟩
    · rintro hdistinct ⟨diagnostic, label, original, hfails, -⟩
      rw [Program.ofSource_eq_ok_iff.mpr ⟨.inr hdistinct, rfl⟩] at hfails
      contradiction
  case reported =>
    intro diagnostic label original hfails hcause
    obtain ⟨name, first, position, hfirst, hreport⟩ :=
      Program.ofSource_strict_eq_error_iff.mp hfails
    obtain rfl := Failure.reported.inj hreport
    obtain ⟨rfl, rfl⟩ := Cause.duplicateLabel.inj hcause
    obtain ⟨spelled, ⟨⟨firstLine, hfirstLine, -⟩, -⟩, -⟩ := hfirst.first
    obtain ⟨line, hline, -⟩ := hfirst.defined
    refine ⟨assemble_eq_error_iff.mpr (.inl hfails), first, position, firstLine, line, hfirst,
      hfirstLine, hline, ?_, ?_, ?_, rfl⟩
    · rw [hfirstLine, Option.map_some]
    · show Option.map _ _ = _
      rw [hline, Option.map_some]
    · show Option.map _ _ = _
      rw [hline, Option.map_some]
  case unchanged =>
    intro hdistinct
    rw [assemble_withStrict hdistinct]
    cases assemble ⟨step, false⟩ file source with
    | ok assembly => rfl
    | error failure => rfl

/-- A mnemonic that does not exist, in an earlier line, is not what is reported. -/
example :
    assemble ⟨.fixed, true⟩ [] "BAD\nB: CLS\nA: RET\n\nb: CLS\nA: CLS".toList =
      .error (.reported ⟨.duplicateLabel "b".toList (some ⟨[], 2, 1⟩), some ⟨[], 5, 1⟩,
        some "b: CLS".toList, some 3⟩) := by
  decide +kernel

end Assemblies

end Chip8
