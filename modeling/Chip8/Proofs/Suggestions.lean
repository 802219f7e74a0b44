import Chip8.Proofs.EditDistance
import Chip8.Proofs.Marks
import Chip8.Proofs.TableHistory

/-!
# Suggestions for undefined names

A name that no line defines is reported with names that may have been meant.  They are looked for
among the labels of the whole source, those of later lines included, and are close to the name by
the edits that lead from one to the other.  The first three of them are given as a hint.
-/

namespace Chip8

/-! ### What is suggested -/

/-- Holds of a name that may have been meant by another: their lengths differ by one at the most,
and two edits or fewer turn one into the other in lower case. -/
def Text.Resembles (name label : Text) : Prop :=
  (name.length ≤ label.length + 1 ∧ label.length ≤ name.length + 1) ∧
    ∃ n ≤ 2, Text.Edits n (Text.lower name) (Text.lower label)

namespace Source

/-- The names that lines define, in the order of the lines and as they are spelled there. -/
def definedNames (lines : List Line) : List Text :=
  lines.filterMap fun line => line.tokens.head?.bind Instruction.definedLabel?

/-- Holds of the names that lines define, each once: in the order of their first definitions, and
spelled as in their last ones. -/
structure NamesInOrder (lines : List Line) (names : List Text) : Prop where
  keys : names.map Text.upper = ((definedNames lines).map Text.upper).eraseDups
  spelled : ∀ name ∈ names, ∃ position, LastDefinition lines name position

end Source

/-! ### Closeness -/

namespace LabelTable

/-- The table compares names by the fewest edits, so it finds exactly those that are close. -/
theorem resembles_iff (label name : Text) :
    resembles label name = true ↔ name.Resembles label := by
  have hedits : Text.editDistance (Text.lower label) (Text.lower name) ≤ 2 ↔
      ∃ n ≤ 2, Text.Edits n (Text.lower name) (Text.lower label) := by
    rw [Text.editDistance_eq_fewestEdits, Text.fewestEdits_comm]
    constructor
    · intro hle
      exact ⟨_, hle, Text.edits_fewestEdits _ _⟩
    · rintro ⟨n, hle, hedits⟩
      exact hedits.fewestEdits_le.trans hle
  unfold resembles Text.Resembles
  rw [Bool.and_eq_true, Bool.and_eq_true, decide_eq_true_eq, decide_eq_true_eq,
    decide_eq_true_eq, hedits]

end LabelTable

instance (name label : Text) : Decidable (name.Resembles label) :=
  decidable_of_iff _ (LabelTable.resembles_iff label name)

theorem LabelTable.similar_eq {α : Type} (table : LabelTable α) (label : Text) :
    table.similar label = (table.names.filter fun name => name.Resembles label).take 3 := by
  unfold similar
  congr 2
  funext name
  rw [Bool.eq_iff_iff, resembles_iff, decide_eq_true_eq]

/-! ### The names of a program -/

/-- A run of definitions in a table that is not strict keeps the last ones. -/
theorem LabelTable.bindings_defineEach {α : Type} (bindings : List (Binding α))
    (definitions : List (Text × α)) :
    (defineEach ⟨false, bindings⟩ definitions).bindings = bindAll bindings definitions := by
  induction definitions generalizing bindings with
  | nil => rfl
  | cons definition rest ih =>
      rw [defineEach_cons, defineOrKeep_eq, if_neg (by simp)]
      exact ih _

namespace Program

variable {lines : List Line}

theorem map_label_place (step : AddressStep) (address : Int) (index : Nat) (lines : List Line) :
    (place step address index lines).map (·.label) =
      lines.map fun line => line.tokens.head?.bind Instruction.definedLabel? := by
  induction lines generalizing address index with
  | nil => rfl
  | cons line rest ih =>
      rw [place, List.map_cons, ih, List.map_cons]
      rfl

theorem map_fst_definitions (instructions : List Instruction) :
    (definitions instructions).map Prod.fst = instructions.filterMap (·.label) := by
  have hlabels : instructions.filterMap (·.label) =
      (instructions.zipIdx.map Prod.fst).filterMap (·.label) := by
    rw [List.zipIdx_map_fst]
  rw [hlabels, definitions, List.map_filterMap, List.filterMap_map]
  congr 1
  funext entry
  simp [Option.map_map, Function.comp_def]

theorem map_fst_definitions_place (step : AddressStep) (address : Int) (index : Nat)
    (lines : List Line) :
    (definitions (place step address index lines)).map Prod.fst = Source.definedNames lines := by
  have hlabels := congrArg (List.filterMap id) (map_label_place step address index lines)
  rw [List.filterMap_map, List.filterMap_map] at hlabels
  rw [map_fst_definitions]
  exact hlabels

/-- The labels of a program are the names that its lines define. -/
theorem names_labelled (options : Options) (h : Source.Unbroken lines) :
    Source.NamesInOrder lines (labelled options lines).labels.names := by
  let defined := definitions (place options.addressStep programStart 0 lines)
  have hbindings : (labelled options lines).labels.bindings =
      (LabelTable.defineEach ⟨false, []⟩ defined).bindings :=
    (LabelTable.bindings_defineEach [] defined).symm
  refine ⟨?_, fun name hname => ?_⟩
  · calc (labelled options lines).labels.names.map Text.upper
        = (labelled options lines).labels.bindings.map Binding.key :=
          LabelTable.map_upper_names _
      _ = (defined.map fun definition => Text.upper definition.1).eraseDups := by
          rw [hbindings, LabelTable.keys_defineEach]
      _ = ((Source.definedNames lines).map Text.upper).eraseDups := by
          rw [← map_fst_definitions_place options.addressStep programStart 0, List.map_map]
          rfl
  · obtain ⟨binding, hbinding, rfl⟩ := List.mem_map.mp hname
    exact ⟨binding.target, (mem_labelled_iff h).mp hbinding⟩

end Program

/-! ### Undefined names -/

namespace Instruction

variable {labels : LabelTable Int} {instruction : Instruction} {diagnostic : Diagnostic}
  {label : Text} {similar : List Text}

/-- A name that is reported to be undefined is not in the table, and is reported with what the table
has that is close to it. -/
theorem Fault.of_undefinedLabel (h : Fault labels instruction diagnostic)
    (hcause : diagnostic.cause = .undefinedLabel label similar) :
    labels.find? label = none ∧ similar = labels.similar label := by
  cases h with
  | undefined _ _ hfind =>
      obtain ⟨rfl, rfl⟩ := Cause.undefinedLabel.inj hcause
      exact ⟨hfind, rfl⟩
  | missing _ => cases hcause
  | unknown _ _ => cases hcause
  | malformed _ _ => cases hcause
  | wrongCount _ _ _ => cases hcause

end Instruction

section Sources

variable {options : Options} {file source : Text} {diagnostic : Diagnostic} {label : Text}
  {similar : List Text}

/-- Names are found to be undefined only once all labels of the source are known. -/
theorem exists_addresses_of_undefinedLabel
    (h : assemble options file source = .error (.reported diagnostic))
    (hcause : diagnostic.cause = .undefinedLabel label similar) :
    let addresses := (Program.labelled options (Source.lines file source)).addresses
    addresses.find? label = none ∧ similar = addresses.similar label := by
  rcases assemble_eq_error_iff.mp h with hparse | ⟨parsed, hparse, hencode⟩
  · -- while lines are read, labels are at fault for being defined twice
    rw [Program.ofSource_eq_defineAll] at hparse
    obtain ⟨definition, -, instruction, first, -, rfl⟩ :=
      Program.defineAll_blames _ _ diagnostic hparse
    cases hcause
  · obtain ⟨_, -, instruction, _, -, -, hfails⟩ := Program.encoded_eq_error_iff.mp hencode
    have hfault := Instruction.encode_faults _ _ diagnostic hfails
    rw [(Program.ofSource_eq_ok_iff.mp hparse).2] at hfault
    exact hfault.of_undefinedLabel hcause

theorem Cause.hint_undefinedLabel (hlength : similar.length ≤ 3) :
    (Cause.undefinedLabel label similar).hint =
      if similar = [] then none
      else some ("did you mean ".toList ++
        Text.join ", ".toList (similar.map Text.inApostrophes) ++ "?".toList) := by
  cases similar with
  | nil => rfl
  | cons name others =>
      rw [if_neg (List.cons_ne_nil _ _), Cause.hint, List.take_of_length_le hlength]

/-- A name that is not defined is reported with the first three of all names of the source that are
close to it, in the order of their first definitions and spelled as in their last.  None of them is
the name itself in another case.  The hint quotes them all, and is left out if there is none. -/
theorem assemble_suggests (h : assemble options file source = .error (.reported diagnostic))
    (hcause : diagnostic.cause = .undefinedLabel label similar) :
    ∃ names, Source.NamesInOrder (Source.lines file source) names ∧
      similar = (names.filter fun name => name.Resembles label).take 3 ∧
      (∀ name ∈ similar, Text.upper name ≠ Text.upper label) ∧
      diagnostic.cause.hint =
        if similar = [] then none
        else some ("did you mean ".toList ++
          Text.join ", ".toList (similar.map Text.inApostrophes) ++ "?".toList) := by
  let program := Program.labelled options (Source.lines file source)
  obtain ⟨hfind, hsimilar⟩ := exists_addresses_of_undefinedLabel h hcause
  rw [LabelTable.similar_eq] at hsimilar
  have hnames : program.addresses.names = program.labels.names := Program.names_addresses program
  have hlength : similar.length ≤ 3 := by
    rw [hsimilar]
    exact List.length_take_le _ _
  refine ⟨program.labels.names, Program.names_labelled options (Source.lines_unbroken file source),
    hnames ▸ hsimilar, ?_, hcause ▸ Cause.hint_undefinedLabel hlength⟩
  intro name hname hupper
  have hlisted : name ∈ program.addresses.names := by
    rw [hsimilar] at hname
    exact List.mem_of_mem_filter (List.mem_of_mem_take hname)
  rw [LabelTable.find?_eq_none_iff, ← LabelTable.map_upper_names] at hfind
  exact hfind (List.mem_map.mpr ⟨name, hlisted, hupper⟩)

/-- Labels are suggested that are defined further down, but no more than three, and one that is
defined again as it is spelled there. -/
theorem assemble_suggests_later :
    let source := "Lop: CLS\nJP LOOP\nloop1: RET\nLOPE: RET\nlOp: RET\nLOO: RET".toList
    let similar := ["lOp", "loop1", "LOPE"].map String.toList
    ∃ diagnostic, assemble {} [] source = .error (.reported diagnostic) ∧
      diagnostic.cause = .undefinedLabel "LOOP".toList similar ∧
      diagnostic.cause.hint = some "did you mean 'lOp', 'loop1', 'LOPE'?".toList := by
  intro source similar
  let diagnostic : Diagnostic :=
    ⟨.undefinedLabel "LOOP".toList similar, some ⟨[], 2, 4⟩, some "JP LOOP".toList, some 1⟩
  have hfails : assemble {} [] source = .error (.reported diagnostic) := by decide +kernel
  obtain ⟨names, -, -, -, hhint⟩ := assemble_suggests hfails rfl
  refine ⟨diagnostic, hfails, rfl, hhint.trans ?_⟩
  decide +kernel

end Sources

end Chip8
