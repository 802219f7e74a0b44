import Chip8.Proofs.Formatting
import Chip8.Proofs.SpoiledOperands

/-!
# Lines that stand for one another

A line matters to a source for three things: the label that it defines, the width that it is planned
with, and what it is encoded as or reported for.  Sources whose lines agree in these have one image
and one table of labels, or fail at one instruction for causes of one kind.
-/

namespace Chip8

/-! ### Relations -/

/-- Reports of one kind at one instruction. -/
structure Diagnostic.Counterpart (diagnostic other : Diagnostic) : Prop where
  kind : diagnostic.cause.kind = other.cause.kind
  index : diagnostic.index = other.index

/-- Instructions at one address that make the same bytes. -/
structure Instruction.SameCode (instruction other : Instruction) : Prop where
  address : instruction.address = other.address
  width : instruction.width = other.width
  encoded : instruction.encoded = other.encoded

/-- Instructions at one address that define one label and are encoded alike, whatever the labels. -/
structure Instruction.Counterpart (instruction other : Instruction) : Prop where
  label : instruction.label = other.label
  index : instruction.index = other.index
  address : instruction.address = other.address
  width : instruction.width = other.width
  encode : ∀ labels : LabelTable Int, Follows Diagnostic.Counterpart Instruction.SameCode
    (instruction.encode labels) (other.encode labels)

/-- Lines that make instructions which are counterparts, at every place of a program. -/
def Line.Counterpart (line other : Line) : Prop :=
  ∀ (step : AddressStep) (address : Int) (index : Nat),
    (Instruction.ofLine step address index line).Counterpart
      (Instruction.ofLine step address index other)

/-- Programs whose instructions are counterparts, with one table of labels. -/
structure Program.Counterpart (program other : Program) : Prop where
  instructions :
    List.Forall₂ Instruction.Counterpart program.instructions other.instructions
  labels : program.labels = other.labels

/-- Assemblies with one image and one table of labels. -/
structure Assembly.Counterpart (assembly other : Assembly) : Prop where
  image : assembly.image = other.image
  labels : assembly.labels = other.labels

/-- Holds when both assemblies have one image and one table of labels, or both are reported for
causes of one kind at one instruction. -/
inductive SameOutcome : Except Failure Assembly → Except Failure Assembly → Prop
  | ok {assembly other : Assembly} (h : assembly.Counterpart other) :
      SameOutcome (.ok assembly) (.ok other)
  | reported {diagnostic other : Diagnostic} (h : diagnostic.Counterpart other) :
      SameOutcome (.error (.reported diagnostic)) (.error (.reported other))

namespace Follows

variable {α β γ δ : Type} {Fails Fails' : Diagnostic → Diagnostic → Prop} {R R' : α → β → Prop}
  {S : γ → δ → Prop} {x : Except Failure α} {y : Except Failure β}

theorem mono (h : Follows Fails R x y)
    (hfails : ∀ diagnostic other, Fails diagnostic other → Fails' diagnostic other)
    (hresults : ∀ a b, R a b → R' a b) : Follows Fails' R' x y := by
  cases h with
  | ok h => exact .ok (hresults _ _ h)
  | reported h => exact .reported (hfails _ _ h)
  | outOfRange => exact .outOfRange

/-- Runs over related lists follow each other if they do at each item. -/
theorem mapM {f : α → Except Failure γ} {g : β → Except Failure δ} {items : List α}
    {others : List β} (h : List.Forall₂ R items others)
    (hf : ∀ a b, R a b → Follows Fails S (f a) (g b)) :
    Follows Fails (List.Forall₂ S) (items.mapM f) (others.mapM g) := by
  induction h with
  | nil => exact .ok .nil
  | cons hfirst _ ih =>
      rw [List.mapM_cons, List.mapM_cons]
      refine (hf _ _ hfirst).bind fun _ _ hmade => ?_
      exact ih.bind fun _ _ hrest => .ok (.cons hmade hrest)

end Follows

theorem Cause.Like.kind_eq {Same : Text → Text → Prop} {Place : Location → Location → Prop}
    {cause cause' : Cause} (h : cause.Like Same Place cause') : cause.kind = cause'.kind := by
  cases h <;> rfl

/-! ### Instructions -/

/-- Lines with the same tokens are counterparts, wherever they stand. -/
theorem Line.counterpart_of_tokens_eq {line other : Line} (h : line.tokens = other.tokens) :
    line.Counterpart other := by
  intro step address index
  have hlike : (Instruction.ofLine step address index line).Like Eq anywhere
      (Instruction.ofLine step address index other) := by
    have htokens : (Instruction.ofLine step address index line).tokens =
        (Instruction.ofLine step address index other).tokens := by
      simp only [Instruction.ofLine, h]
    have hlabel : (Instruction.ofLine step address index line).label =
        (Instruction.ofLine step address index other).label := by
      simp only [Instruction.ofLine, h]
    refine ⟨htokens ▸ List.forall₂_same.mpr fun _ _ => rfl, hlabel ▸ Option.rel_eq _,
      fun _ => trivial, rfl, rfl, ?_, rfl⟩
    exact congrArg (Instruction.plannedWidth step) htokens
  refine ⟨eq_of_rel_eq hlike.label, hlike.index, hlike.address, hlike.width, fun labels => ?_⟩
  have hlabels : labels.Like Eq labels :=
    ⟨rfl, List.forall₂_same.mpr fun _ _ => ⟨rfl, rfl⟩⟩
  refine (Instruction.encode_follows respelling_eq hlabels hlike).mono ?_ ?_
  · intro diagnostic diagnostic' hfails
    exact ⟨hfails.cause.kind_eq, hfails.index⟩
  · exact fun made made' hmade => ⟨hmade.address, hmade.width, hmade.encoded⟩

theorem Instruction.map_eq_of_forall₂ {α : Type} {R : Instruction → Instruction → Prop}
    {f : Instruction → α} {instructions others : List Instruction}
    (h : List.Forall₂ R instructions others) (hf : ∀ a b, R a b → f a = f b) :
    instructions.map f = others.map f := by
  rw [← List.forall₂_eq_eq_eq, List.forall₂_map_left_iff, List.forall₂_map_right_iff]
  exact h.imp hf

/-! ### Programs -/

namespace Program

variable {program other : Program} {lines lines' : List Line} {options : Options}
  {file source file' source' : Text}

theorem place_counterparts (h : List.Forall₂ Line.Counterpart lines lines') (step : AddressStep)
    (address : Int) (index : Nat) :
    List.Forall₂ Instruction.Counterpart (place step address index lines)
      (place step address index lines') := by
  induction h generalizing address index with
  | nil => exact .nil
  | cons hline _ ih =>
      have hfirst := hline step address index
      unfold place
      simp only [hfirst.width]
      exact .cons hfirst (ih _ _)

/-- Instructions define what their labels say, whatever else is in them. -/
theorem definitions_eq_of_labels {instructions others : List Instruction}
    (h : instructions.map (·.label) = others.map (·.label)) :
    definitions instructions = definitions others := by
  have hdefinitions (instructions : List Instruction) : definitions instructions =
      (instructions.map (·.label)).zipIdx.filterMap fun (label, position) =>
        label.map fun name => (name, position) := by
    rw [List.zipIdx_map, List.filterMap_map]
    rfl
  rw [hdefinitions, hdefinitions, h]

theorem define_counterparts (h : program.Counterpart other) (name : Text) (position : Nat) :
    Follows Diagnostic.Counterpart Program.Counterpart (program.define name position)
      (other.define name position) := by
  rcases rel_cases (rel_getElem? h.instructions position) with
    ⟨hnone, hnone'⟩ | ⟨instruction, instruction', hget, hget', hinstruction⟩
  · rw [define_of_none hnone, define_of_none hnone']
    exact .outOfRange
  · rw [define_of_getElem? hget, define_of_getElem? hget', h.labels]
    -- one table refuses both definitions or neither
    cases other.labels.refusal? name with
    | none => exact .ok ⟨h.instructions, congrArg (LabelTable.bind · name position) h.labels⟩
    | some earlier => exact .reported ⟨rfl, congrArg some hinstruction.index⟩

theorem defineAll_counterparts (h : program.Counterpart other)
    (definitions : List (Text × Nat)) :
    Follows Diagnostic.Counterpart Program.Counterpart (program.defineAll definitions)
      (other.defineAll definitions) := by
  induction definitions generalizing program other with
  | nil => exact .ok h
  | cons definition rest ih =>
      obtain ⟨name, position⟩ := definition
      have hdefine := define_counterparts h name position
      unfold defineAll
      generalize program.define name position = made at hdefine
      generalize other.define name position = made' at hdefine
      cases hdefine with
      | ok hmade => exact ih hmade
      | reported hfails => exact .reported hfails
      | outOfRange => exact .outOfRange

theorem ofSource_counterparts
    (h : List.Forall₂ Line.Counterpart (Source.lines file source) (Source.lines file' source')) :
    Follows Diagnostic.Counterpart Program.Counterpart (ofSource options file source)
      (ofSource options file' source') := by
  have hplaced : (unlabelled options (Source.lines file source)).Counterpart
      (unlabelled options (Source.lines file' source')) := by
    refine ⟨?_, rfl⟩
    rw [unlabelled_instructions, unlabelled_instructions]
    exact place_counterparts h _ _ _
  have hlabels := Instruction.map_eq_of_forall₂ hplaced.instructions fun _ _ h => h.label
  rw [ofSource_eq_defineAll, ofSource_eq_defineAll, definitions_eq_of_labels hlabels]
  exact defineAll_counterparts hplaced _

theorem encoded_counterparts (h : program.Counterpart other) :
    Follows Diagnostic.Counterpart
      (fun made made' => List.Forall₂ Instruction.SameCode made.instructions made'.instructions ∧
        made.labels = made'.labels)
      program.encoded other.encoded := by
  have haddresses : program.addresses = other.addresses := by
    have hall := Instruction.map_eq_of_forall₂ h.instructions fun _ _ h => h.address
    exact addresses_congr h.labels hall
  have hall : Follows Diagnostic.Counterpart (List.Forall₂ Instruction.SameCode)
      (program.instructions.mapM (Instruction.encode program.addresses))
      (other.instructions.mapM (Instruction.encode other.addresses)) := by
    rw [haddresses]
    exact Follows.mapM h.instructions fun _ _ h => h.encode other.addresses
  refine (encoded_follows_of_instructions hall).imp fun made made' hmade => ?_
  obtain ⟨hcode, hlabels, hlabels'⟩ := hmade
  exact ⟨hcode, hlabels.trans (h.labels.trans hlabels'.symm)⟩

end Program

/-! ### Sources -/

/-- Sources whose lines are counterparts have one outcome. -/
theorem assemble_counterparts {options : Options} {file source file' source' : Text}
    (h : List.Forall₂ Line.Counterpart (Source.lines file source) (Source.lines file' source')) :
    SameOutcome (assemble options file source) (assemble options file' source') := by
  have hfollows : Follows Diagnostic.Counterpart Assembly.Counterpart
      (assemble options file source) (assemble options file' source') := by
    apply (Program.ofSource_counterparts h).bind
    intro parsed parsed' hparsed
    apply (Program.encoded_counterparts hparsed).with_eq.bind
    rintro program program' ⟨⟨hcode, hlabels⟩, hprogram, hprogram'⟩
    -- both programs have an image, since both have been encoded
    rw [Program.image_of_encoded hprogram, Program.image_of_encoded hprogram']
    refine .ok ⟨?_, ?_⟩
    · have hcontents := Instruction.map_eq_of_forall₂ hcode fun made made' h =>
        show made.content = made'.content by
          unfold Instruction.content Instruction.bytes?
          rw [h.encoded, h.width]
      exact congrArg List.flatten hcontents
    · have hall := Instruction.map_eq_of_forall₂ hcode fun _ _ h => h.address
      exact congrArg LabelTable.toList (Program.addresses_congr hlabels hall)
  generalize hmade : assemble options file source = made at hfollows
  generalize assemble options file' source' = made' at hfollows
  cases hfollows with
  | ok h => exact .ok h
  | reported h => exact .reported h
  | outOfRange =>
      obtain ⟨diagnostic, hreported⟩ := exists_diagnostic_of_assemble hmade
      contradiction

end Chip8
