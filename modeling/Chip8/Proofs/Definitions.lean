import Chip8.Program
import Chip8.Proofs.LabelTable
import Chip8.Proofs.Spelling
import Mathlib.Data.List.TakeWhile

/-!
# The labels of a source

The lines of a source become instructions one for one, and the labels on them are defined in the
order of the lines.  The run of definitions goes through unless labels are strict and one comes
again.  A name then stands for the last line that defines it, wherever it is looked up.
-/

namespace Chip8

/-! ### Lines that define labels -/

namespace Source

/-- Holds when the line at a position defines a name. -/
def DefinedAt (lines : List Line) (name : Text) (position : Nat) : Prop :=
  ∃ line, lines[position]? = some line ∧ line.Defines name

/-- Holds when the line at a position defines a name and no later line does, in any case. -/
def LastDefinition (lines : List Line) (name : Text) (position : Nat) : Prop :=
  DefinedAt lines name position ∧
    ∀ later other, position < later → DefinedAt lines other later →
      Text.upper other ≠ Text.upper name

/-- Holds when no two lines define one name. -/
def DistinctLabels (lines : List Line) : Prop :=
  ∀ earlier later name other, earlier < later → DefinedAt lines name earlier →
    DefinedAt lines other later → Text.upper other ≠ Text.upper name

/-- Holds when all tokens of all lines are free of blanks. -/
def Unbroken (lines : List Line) : Prop :=
  ∀ line ∈ lines, ∀ token ∈ line.tokens, Token.Unbroken token

theorem lines_unbroken (file source : Text) : Unbroken (lines file source) :=
  fun _ hline token htoken => (tokens_solid hline token htoken).2

end Source

/-! ### Positions in order -/

theorem pairwise_zipIdx {α : Type} (items : List α) (start : Nat) :
    (items.zipIdx start).Pairwise fun earlier later => earlier.2 < later.2 := by
  rw [← List.pairwise_map (f := Prod.snd) (R := (· < ·)), List.zipIdx_map_snd]
  exact List.pairwise_lt_range'

/-- Later lines have greater numbers. -/
theorem Source.lines_sorted (file source : Text) :
    (lines file source).Pairwise fun earlier later => earlier.number < later.number := by
  apply List.Pairwise.filter
  rw [List.pairwise_map]
  refine (pairwise_zipIdx (Text.splitOn '\n' source) 1).imp ?_
  intro earlier later hlt
  exact Int.ofNat_lt.mpr hlt

section Sorted

variable {definitions : List (Text × Nat)}

/-- Where positions increase, what follows a definition is what has a greater position. -/
theorem LabelTable.isLast_iff_of_sorted
    (h : definitions.Pairwise fun earlier later => earlier.2 < later.2) {name : Text}
    {position : Nat} :
    LabelTable.IsLast definitions name position ↔
      (name, position) ∈ definitions ∧
        ∀ later ∈ definitions, position < later.2 → Text.upper later.1 ≠ Text.upper name := by
  constructor
  · rintro ⟨before, after, rfl, hafter⟩
    refine ⟨by simp, ?_⟩
    intro later hlater hlt
    rcases List.mem_append.mp hlater with hbefore | hrest
    · have hle := (List.pairwise_append.mp h).2.2 later hbefore _ List.mem_cons_self
      exact absurd hlt (Nat.lt_asymm hle)
    · rcases List.mem_cons.mp hrest with rfl | hrest
      · exact absurd hlt (Nat.lt_irrefl _)
      · exact hafter later hrest
  · rintro ⟨hmem, hlater⟩
    obtain ⟨before, after, rfl⟩ := List.append_of_mem hmem
    refine ⟨before, after, rfl, ?_⟩
    intro later hafter
    -- what stands behind the definition has a greater position
    have hlt := List.rel_of_pairwise_cons (List.pairwise_append.mp h).2.1 hafter
    exact hlater later (by simp [hafter]) hlt

theorem pairwise_iff_of_sorted {R : Text × Nat → Text × Nat → Prop}
    (h : definitions.Pairwise fun earlier later => earlier.2 < later.2) :
    definitions.Pairwise R ↔
      ∀ earlier ∈ definitions, ∀ later ∈ definitions, earlier.2 < later.2 → R earlier later := by
  induction definitions with
  | nil => simp
  | cons first rest ih =>
      obtain ⟨hfirst, hrest⟩ := List.pairwise_cons.mp h
      rw [List.pairwise_cons, ih hrest]
      constructor
      · rintro ⟨hrel, hothers⟩ earlier hearlier later hlater hlt
        rcases List.mem_cons.mp hearlier with heq | hearlierRest
        · subst heq
          rcases List.mem_cons.mp hlater with heq | hlaterRest
          · subst heq
            exact absurd hlt (Nat.lt_irrefl _)
          · exact hrel later hlaterRest
        · rcases List.mem_cons.mp hlater with heq | hlaterRest
          · subst heq
            exact absurd hlt (Nat.lt_asymm (hfirst earlier hearlierRest))
          · exact hothers earlier hearlierRest later hlaterRest hlt
      · intro hall
        refine ⟨fun later hlater => ?_, fun earlier hearlier later hlater => ?_⟩
        · exact hall first List.mem_cons_self later (List.mem_cons_of_mem _ hlater)
            (hfirst later hlater)
        · exact hall earlier (List.mem_cons_of_mem _ hearlier) later
            (List.mem_cons_of_mem _ hlater)

end Sorted

/-! ### Placed lines -/

/-- How many bytes instructions take up together. -/
def Instruction.extent : List Instruction → Int
  | [] => 0
  | instruction :: rest => instruction.width + extent rest

namespace Program

variable {step : AddressStep} {address : Int} {index position : Nat} {lines : List Line}
  {name : Text}

/-- The instruction at a position is the one of its line, and its address is the first one plus
what the instructions before it take up. -/
theorem getElem?_place (step : AddressStep) (address : Int) (index : Nat) (lines : List Line)
    (position : Nat) :
    (place step address index lines)[position]? =
      lines[position]?.map (Instruction.ofLine step
        (address + Instruction.extent ((place step address index lines).take position))
        (index + position)) := by
  -- the rest of the lines is placed from a later address and index
  induction lines generalizing address index position with
  | nil => simp [place]
  | cons line rest ih =>
      cases position with
      | zero => simp [place, Instruction.extent]
      | succ position =>
          have hindex : index + 1 + position = index + (position + 1) := by omega
          simp only [place, List.getElem?_cons_succ, List.take_succ_cons, ih, hindex]
          rw [Instruction.extent, Int.add_assoc]

theorem length_place (step : AddressStep) (address : Int) (index : Nat) (lines : List Line) :
    (place step address index lines).length = lines.length := by
  induction lines generalizing address index with
  | nil => rfl
  | cons line rest ih => simp [place, ih]

theorem mem_definitions_iff {instructions : List Instruction} :
    (name, position) ∈ definitions instructions ↔
      ∃ instruction, instructions[position]? = some instruction ∧
        instruction.label = some name := by
  unfold definitions
  rw [List.mem_filterMap]
  constructor
  · rintro ⟨⟨instruction, index⟩, hmem, hmade⟩
    obtain ⟨label, hlabel, heq⟩ := Option.map_eq_some_iff.mp hmade
    obtain ⟨rfl, rfl⟩ := Prod.mk.inj heq
    exact ⟨instruction, List.mk_mem_zipIdx_iff_getElem?.mp hmem, hlabel⟩
  · rintro ⟨instruction, hget, hlabel⟩
    exact ⟨(instruction, position), List.mk_mem_zipIdx_iff_getElem?.mpr hget, by simp [hlabel]⟩

theorem definitions_in_range (instructions : List Instruction) :
    ∀ definition ∈ definitions instructions, definition.2 < instructions.length := by
  rintro ⟨name, position⟩ hmem
  obtain ⟨instruction, hget, -⟩ := mem_definitions_iff.mp hmem
  exact (List.getElem?_eq_some_iff.mp hget).1

theorem definitions_map (f : Instruction → Instruction)
    (hf : ∀ instruction : Instruction, (f instruction).label = instruction.label)
    (instructions : List Instruction) :
    definitions (instructions.map f) = definitions instructions := by
  unfold definitions
  rw [List.zipIdx_map, List.filterMap_map]
  refine List.filterMap_congr fun definition _ => ?_
  show Option.map _ (f definition.1).label = _
  rw [hf]
  rfl

/-- Labels are defined in the order of their positions. -/
theorem definitions_sorted (instructions : List Instruction) :
    (definitions instructions).Pairwise fun earlier later => earlier.2 < later.2 := by
  refine List.Pairwise.filterMap _ ?_ (pairwise_zipIdx instructions 0)
  rintro ⟨first, i⟩ ⟨second, j⟩ hlt d hd e he
  obtain ⟨_, _, rfl⟩ := Option.map_eq_some_iff.mp hd
  obtain ⟨_, _, rfl⟩ := Option.map_eq_some_iff.mp he
  exact hlt

theorem mem_definitions_place_iff (h : Source.Unbroken lines) :
    (name, position) ∈ definitions (place step address index lines) ↔
      Source.DefinedAt lines name position := by
  rw [mem_definitions_iff, getElem?_place]
  unfold Source.DefinedAt
  constructor
  · rintro ⟨instruction, hget, hlabel⟩
    obtain ⟨line, hline, rfl⟩ := Option.map_eq_some_iff.mp hget
    have htokens := h line (List.mem_of_getElem? hline)
    exact ⟨line, hline, (Instruction.ofLine_label_eq_some_iff htokens _ _ _).mp hlabel⟩
  · rintro ⟨line, hline, hdefines⟩
    have htokens := h line (List.mem_of_getElem? hline)
    exact ⟨_, by rw [hline, Option.map_some],
      (Instruction.ofLine_label_eq_some_iff htokens _ _ _).mpr hdefines⟩

theorem isLast_definitions_place_iff (h : Source.Unbroken lines) :
    LabelTable.IsLast (definitions (place step address index lines)) name position ↔
      Source.LastDefinition lines name position := by
  rw [LabelTable.isLast_iff_of_sorted (definitions_sorted _), mem_definitions_place_iff h]
  refine and_congr_right fun _ => ?_
  constructor
  · intro hall later other hlt hdefined
    exact hall (other, later) ((mem_definitions_place_iff h).mpr hdefined) hlt
  · rintro hall ⟨other, later⟩ hmem hlt
    exact hall later other hlt ((mem_definitions_place_iff h).mp hmem)

/-- A name that a line defines is defined last by some line, maybe in another spelling. -/
theorem exists_lastDefinition (h : Source.Unbroken lines)
    (hdefined : Source.DefinedAt lines name position) :
    ∃ spelled last, Source.LastDefinition lines spelled last ∧
      Text.upper spelled = Text.upper name := by
  have hmem : (name, position) ∈ definitions (place .fixed programStart 0 lines) :=
    (mem_definitions_place_iff h).mpr hdefined
  obtain ⟨spelled, last, hlast, hkey⟩ := LabelTable.exists_isLast hmem
  exact ⟨spelled, last, (isLast_definitions_place_iff h).mp hlast, hkey⟩

theorem nodup_definitions_place_iff (h : Source.Unbroken lines) :
    ((definitions (place step address index lines)).map fun d => Text.upper d.1).Nodup ↔
      Source.DistinctLabels lines := by
  unfold List.Nodup
  rw [List.pairwise_map, pairwise_iff_of_sorted (definitions_sorted _)]
  constructor
  · intro hall earlier later name other hlt hname hother
    exact (hall _ ((mem_definitions_place_iff h).mpr hname) _
      ((mem_definitions_place_iff h).mpr hother) hlt).symm
  · rintro hall ⟨name, earlier⟩ hname ⟨other, later⟩ hother hlt
    exact (hall earlier later name other hlt ((mem_definitions_place_iff h).mp hname)
      ((mem_definitions_place_iff h).mp hother)).symm

/-! ### Runs of definitions -/

section Runs

variable {program made : Program} {definitions : List (Text × Nat)}

theorem define_eq_ok_iff (h : position < program.instructions.length) :
    program.define name position = .ok made ↔
      (program.labels.strict = false ∨
          Text.upper name ∉ program.labels.bindings.map Binding.key) ∧
        made = program.bind name position h := by
  rw [← LabelTable.refusal?_eq_none_iff]
  unfold define
  rw [dif_pos h]
  cases program.labels.refusal? name with
  | none => simp [eq_comm]
  | some earlier => simp

/-- Only the table decides whether a name is bound to an instruction that exists. -/
theorem define_of_getElem? {instruction : Instruction}
    (hget : program.instructions[position]? = some instruction) :
    program.define name position =
      match program.labels.refusal? name with
      | none => .ok (program.bind name position (List.getElem?_eq_some_iff.mp hget).1)
      | some earlier =>
          .error (instruction.duplicateLabel name
            (program.instructions[earlier]?.map (·.location))) := by
  obtain ⟨hposition, rfl⟩ := List.getElem?_eq_some_iff.mp hget
  exact dif_pos hposition

theorem define_of_none (hget : program.instructions[position]? = none) :
    program.define name position = .error .outOfRange := by
  unfold define
  rw [dif_neg (Nat.not_lt.mpr (List.getElem?_eq_none_iff.mp hget))]

theorem define_instructions (h : program.define name position = .ok made) :
    made.instructions = program.instructions := by
  unfold define at h
  split at h
  · split at h
    · rw [← Except.ok.inj h]
      rfl
    · contradiction
  · contradiction

/-- A run of definitions goes through unless the table is strict and a name comes again. -/
theorem defineAll_eq_ok_iff (hdistinct : LabelTable.Distinct program.labels.bindings)
    (hrange : ∀ definition ∈ definitions, definition.2 < program.instructions.length) :
    program.defineAll definitions = .ok made ↔
      (program.labels.strict = false ∨
          (program.labels.bindings.map Binding.key ++
            definitions.map fun definition => Text.upper definition.1).Nodup) ∧
        made.instructions = program.instructions ∧
        made.labels = ⟨program.labels.strict,
          LabelTable.bindAll program.labels.bindings definitions⟩ := by
  induction definitions generalizing program with
  | nil =>
      have hkeys : (program.labels.bindings.map Binding.key).Nodup := hdistinct
      constructor
      · intro h
        obtain rfl : program = made := Except.ok.inj h
        exact ⟨.inr (by simpa using hkeys), rfl, rfl⟩
      · rintro ⟨-, hinstructions, hlabels⟩
        exact congrArg Except.ok (Program.ext hinstructions hlabels).symm
  | cons definition rest ih =>
      obtain ⟨name, position⟩ := definition
      obtain ⟨hfirst, hrest⟩ := List.forall_mem_cons.mp hrange
      have hposition : position < program.instructions.length := hfirst
      unfold defineAll
      cases hdefine : program.define name position with
      | error failure =>
          simp only [reduceCtorEq, false_iff, not_and]
          intro hnodup
          have hfree : program.labels.strict = false ∨
              Text.upper name ∉ program.labels.bindings.map Binding.key :=
            hnodup.imp_right fun hnodup hmem =>
              (List.nodup_append.mp hnodup).2.2 _ hmem _ List.mem_cons_self rfl
          rw [(define_eq_ok_iff hposition).mpr ⟨hfree, rfl⟩] at hdefine
          contradiction
      | ok defined =>
          obtain ⟨hfree, rfl⟩ := (define_eq_ok_iff hposition).mp hdefine
          have hnext : LabelTable.Distinct
              (program.bind name position hposition).labels.bindings :=
            hdistinct.rebind name position
          show Program.defineAll _ rest = .ok made ↔ _
          rw [ih hnext hrest]
          refine and_congr ?_ Iff.rfl
          simp only [Program.bind, LabelTable.bind]
          by_cases hstrict : program.labels.strict = false
          · simp [hstrict]
          · -- in a strict table the new name stands at the end
            have hnew := hfree.resolve_left hstrict
            have hkeys : (LabelTable.rebind name position program.labels.bindings).map
                Binding.key = program.labels.bindings.map Binding.key ++ [Text.upper name] := by
              rw [LabelTable.rebind_of_not_mem hnew, List.map_append]
              rfl
            simp only [hkeys, List.append_assoc, List.singleton_append, List.map_cons]

end Runs

/-! ### Addresses of labels -/

section Addresses

variable {program : Program}

/-- Labels stand for whatever gives each instruction its address. -/
theorem addresses_eq_map {address : Nat → Int}
    (h : ∀ position instruction, program.instructions[position]? = some instruction →
      address position = instruction.address) :
    program.addresses = program.labels.map address :=
  LabelTable.pmap_eq_map program.bound fun position hposition =>
    (h position _ (List.getElem?_eq_getElem hposition)).symm

theorem exists_address (program : Program) :
    ∃ address : Nat → Int,
      (∀ position instruction, program.instructions[position]? = some instruction →
        address position = instruction.address) ∧
      program.addresses = program.labels.map address := by
  let address (position : Nat) : Int :=
    (program.instructions[position]?.map (·.address)).getD 0
  have haddress : ∀ position instruction, program.instructions[position]? = some instruction →
      address position = instruction.address := by
    intro position instruction hget
    show (program.instructions[position]?.map _).getD 0 = _
    rw [hget]
    rfl
  exact ⟨address, haddress, addresses_eq_map haddress⟩

/-- What labels stand for depends on the table and on the addresses of the instructions alone. -/
theorem addresses_congr {other : Program} (hlabels : program.labels = other.labels)
    (haddresses : program.instructions.map (·.address) = other.instructions.map (·.address)) :
    program.addresses = other.addresses := by
  obtain ⟨address, haddress, hprogram⟩ := exists_address program
  rw [hprogram, hlabels]
  refine (addresses_eq_map fun position instruction hget => ?_).symm
  have hsame := congrArg (fun addresses => addresses[position]?) haddresses
  rw [List.getElem?_map, List.getElem?_map, hget] at hsame
  obtain ⟨found, hfound, hkept⟩ := Option.map_eq_some_iff.mp hsame
  rw [haddress position found hfound, hkept]

/-- A name stands for the address of the instruction that it is bound to. -/
theorem find?_addresses (program : Program) (name : Text) :
    program.addresses.find? name = (program.labels.find? name).bind fun position =>
      program.instructions[position]?.map (·.address) := by
  obtain ⟨address, haddress, hprogram⟩ := exists_address program
  rw [hprogram, LabelTable.find?_map]
  cases hfind : program.labels.find? name with
  | none => rfl
  | some position =>
      obtain ⟨binding, hbinding, rfl⟩ := Option.map_eq_some_iff.mp hfind
      have hget := List.getElem?_eq_getElem
        (program.bound binding (List.mem_of_find?_eq_some hbinding))
      rw [Option.map_some, Option.bind_some, hget, haddress _ _ hget]
      rfl

theorem mem_toList_addresses_iff {address : Int} :
    (name, address) ∈ program.addresses.toList ↔
      ∃ binding instruction, binding ∈ program.labels.bindings ∧
        program.instructions[binding.target]? = some instruction ∧
        binding.name = name ∧ instruction.address = address := by
  unfold LabelTable.toList addresses LabelTable.pmap
  simp only [List.mem_map, List.mem_pmap, Prod.mk.injEq]
  constructor
  · rintro ⟨_, ⟨binding, hmem, rfl⟩, rfl, rfl⟩
    exact ⟨binding, _, hmem, List.getElem?_eq_getElem (program.bound binding hmem), rfl, rfl⟩
  · rintro ⟨binding, instruction, hmem, hget, rfl, rfl⟩
    obtain ⟨_, rfl⟩ := List.getElem?_eq_some_iff.mp hget
    exact ⟨_, ⟨binding, hmem, rfl⟩, rfl, rfl⟩

/-- Labels keep their names and their order. -/
theorem names_addresses (program : Program) : program.addresses.names = program.labels.names := by
  unfold LabelTable.names addresses LabelTable.pmap
  rw [List.map_pmap]
  exact List.pmap_eq_map ..

end Addresses

/-! ### The program of a source -/

section Labelled

variable {options : Options} {file source : Text} {program : Program}

/-- The program of lines with all their labels defined. -/
def labelled (options : Options) (lines : List Line) : Program where
  instructions := place options.addressStep programStart 0 lines
  labels := ⟨options.strictLabels,
    LabelTable.bindAll [] (definitions (place options.addressStep programStart 0 lines))⟩
  bound := by
    intro binding hmem
    rcases (LabelTable.mem_bindAll_iff LabelTable.distinct_nil).mp hmem with hlast | ⟨hnone, -⟩
    · obtain ⟨before, after, hdefinitions, -⟩ := hlast
      refine definitions_in_range _ (binding.name, binding.target) ?_
      rw [hdefinitions]
      exact List.mem_append_right _ List.mem_cons_self
    · exact absurd hnone List.not_mem_nil

theorem usable_lines (file source : Text) :
    usable (Source.lines file source) = Source.lines file source := by
  unfold usable
  rw [List.takeWhile_eq_self_iff]
  intro line hline
  have hne := Source.tokens_ne_nil hline
  simpa using hne

theorem unlabelled_instructions (options : Options) (file source : Text) :
    (unlabelled options (Source.lines file source)).instructions =
      place options.addressStep programStart 0 (Source.lines file source) := by
  show place _ _ _ (usable _) = _
  rw [usable_lines]

theorem labelled_instructions (options : Options) (file source : Text) :
    (labelled options (Source.lines file source)).instructions =
      place options.addressStep programStart 0 (Source.lines file source) :=
  rfl

/-- No line of a source is left out for want of a token. -/
theorem ofSource_eq_defineAll (options : Options) (file source : Text) :
    ofSource options file source =
      (unlabelled options (Source.lines file source)).defineAll
        (definitions (unlabelled options (Source.lines file source)).instructions) := by
  unfold ofSource ofLines
  simp only [usable_lines, Nat.lt_irrefl, if_false]
  split
  · rename_i failure hfailure
    exact hfailure.symm
  · rename_i program hprogram
    exact hprogram.symm

/-- A source makes a program unless its labels have to be distinct and are not. -/
theorem ofSource_eq_ok_iff :
    ofSource options file source = .ok program ↔
      (options.strictLabels = false ∨
          Source.DistinctLabels (Source.lines file source)) ∧
        program = labelled options (Source.lines file source) := by
  let lines := Source.lines file source
  let placed := unlabelled options lines
  have hinstructions : placed.instructions = place options.addressStep programStart 0 lines :=
    unlabelled_instructions options file source
  have hrange := definitions_in_range placed.instructions
  have hdistinct : LabelTable.Distinct placed.labels.bindings := LabelTable.distinct_nil
  have hnodup : ((definitions placed.instructions).map fun d => Text.upper d.1).Nodup ↔
      Source.DistinctLabels lines := by
    rw [hinstructions]
    exact nodup_definitions_place_iff (Source.lines_unbroken file source)
  rw [ofSource_eq_defineAll, defineAll_eq_ok_iff hdistinct hrange]
  rw [hinstructions] at hnodup ⊢
  refine and_congr (or_congr Iff.rfl hnodup) ⟨fun h => Program.ext h.1 h.2, ?_⟩
  rintro rfl
  exact ⟨rfl, rfl⟩

theorem instructions_of_ofSource (h : ofSource options file source = .ok program) :
    program.instructions =
      place options.addressStep programStart 0 (Source.lines file source) := by
  rw [(ofSource_eq_ok_iff.mp h).2, labelled_instructions]

theorem labelled_distinct (options : Options) (lines : List Line) :
    LabelTable.Distinct (labelled options lines).labels.bindings :=
  LabelTable.Distinct.bindAll LabelTable.distinct_nil _

/-- The bindings of a program are the last definitions in its lines. -/
theorem mem_labelled_iff (h : Source.Unbroken lines) {binding : Binding Nat} :
    binding ∈ (labelled options lines).labels.bindings ↔
      Source.LastDefinition lines binding.name binding.target := by
  show binding ∈ LabelTable.bindAll [] _ ↔ _
  rw [LabelTable.mem_bindAll_iff LabelTable.distinct_nil, isLast_definitions_place_iff h]
  simp

/-- A name stands for the last line that defines it. -/
theorem labelled_find?_eq_some_iff (h : Source.Unbroken lines) :
    (labelled options lines).labels.find? name = some position ↔
      ∃ spelled, Source.LastDefinition lines spelled position ∧
        Text.upper spelled = Text.upper name := by
  rw [LabelTable.find?_eq_some_iff (labelled_distinct options lines)]
  constructor
  · rintro ⟨binding, hmem, hkey, rfl⟩
    exact ⟨binding.name, (mem_labelled_iff h).mp hmem, hkey⟩
  · rintro ⟨spelled, hlast, hkey⟩
    exact ⟨⟨spelled, position⟩, (mem_labelled_iff h).mpr hlast, hkey, rfl⟩

/-- A name stands for nothing if no line defines it. -/
theorem labelled_find?_eq_none_iff (h : Source.Unbroken lines) :
    (labelled options lines).labels.find? name = none ↔
      ∀ spelled position, Source.DefinedAt lines spelled position →
        Text.upper spelled ≠ Text.upper name := by
  constructor
  · intro hnone spelled position hdefined hkey
    obtain ⟨last, target, hlast, hname⟩ := exists_lastDefinition h hdefined
    have hsome : (labelled options lines).labels.find? name = some target :=
      (labelled_find?_eq_some_iff h).mpr ⟨last, hlast, hname.trans hkey⟩
    rw [hnone] at hsome
    contradiction
  · intro hall
    cases hfind : (labelled options lines).labels.find? name with
    | none => rfl
    | some position =>
        obtain ⟨spelled, hlast, hkey⟩ := (labelled_find?_eq_some_iff h).mp hfind
        exact absurd hkey (hall spelled position hlast.1)

end Labelled

end Program
end Chip8
