import Chip8.Proofs.Encoding
import Chip8.Proofs.Pieces
import Chip8.Proofs.References

/-!
# Sources behind one another

A source may be put behind another one, on a line of its own.  Its instructions are then the same as
before, but for their addresses, their positions and their lines.  Labels are shared: a reference
keeps its value only if the other source does not define the name.
-/

namespace Chip8

/-! ### Lines -/

/-- The line as it is a number of lines further down. -/
def Line.moved (count : Nat) (line : Line) : Line :=
  { line with number := line.number + count }

theorem Line.read_add (file : Text) (count number : Nat) (raw : Text) :
    Line.read file (number + count) raw = (Line.read file number raw).moved count := by
  unfold Line.read Line.moved
  rw [Int.natCast_add]

namespace Source

/-- The lines of the second source come behind those of the first, and their numbers go on. -/
theorem lines_append (file first second : Text) :
    lines file (first ++ '\n' :: second) =
      lines file first ++ (lines file second).map (Line.moved (first.count '\n' + 1)) := by
  let count := first.count '\n' + 1
  have hread : (fun line : Text × Nat => Line.read file line.2 line.1) ∘
        Prod.map id (· + count) =
      Line.moved count ∘ fun line : Text × Nat => Line.read file line.2 line.1 :=
    funext fun line => Line.read_add file count line.2 line.1
  have hnumbers : (Text.splitOn '\n' second).zipIdx (1 + count) =
      ((Text.splitOn '\n' second).zipIdx 1).map (Prod.map id (· + count)) := by
    rw [List.map_snd_add_zipIdx_eq_zipIdx, Nat.add_comm]
  have hmoved (others : List Line) :
      (others.map (Line.moved count)).filter (fun line => !line.tokens.isEmpty) =
        (others.filter fun line => !line.tokens.isEmpty).map (Line.moved count) :=
    List.filter_map
  unfold lines
  rw [Text.splitOn_append, List.zipIdx_append, List.map_append, List.filter_append,
    Text.length_splitOn, hnumbers, List.map_map, hread, ← List.map_map, hmoved]

/-- Where the lines of both sources define names. -/
theorem definedAt_append_iff {before after : List Line} {count : Nat} {name : Text}
    {position : Nat} :
    DefinedAt (before ++ after.map (Line.moved count)) name position ↔
      DefinedAt before name position ∨
        ∃ place, position = before.length + place ∧ DefinedAt after name place := by
  unfold DefinedAt
  by_cases hlt : position < before.length
  · rw [List.getElem?_append_left hlt]
    constructor
    · exact .inl
    · rintro (hbefore | ⟨place, rfl, -⟩)
      · exact hbefore
      · omega
  · have hle : before.length ≤ position := Nat.le_of_not_lt hlt
    rw [List.getElem?_append_right hle, List.getElem?_map, List.getElem?_eq_none hle]
    constructor
    · rintro ⟨line, hline, hdefines⟩
      obtain ⟨original, horiginal, rfl⟩ := Option.map_eq_some_iff.mp hline
      exact .inr ⟨position - before.length, by omega, original, horiginal, hdefines⟩
    · rintro (⟨line, hline, -⟩ | ⟨place, rfl, line, hline, hdefines⟩)
      · contradiction
      · rw [Nat.add_sub_cancel_left, hline]
        exact ⟨line.moved count, rfl, hdefines⟩

end Source

/-! ### Instructions -/

namespace Instruction

/-- The instruction as it is behind so many bytes, instructions and lines. -/
def moved (bytes : Int) (count lines : Nat) (instruction : Instruction) : Instruction :=
  { instruction with
    address := instruction.address + bytes
    index := instruction.index + count
    location := { instruction.location with line := instruction.location.line + lines } }

theorem tokens_moved (bytes : Int) (count lines : Nat) (instructions : List Instruction) :
    (instructions.map (moved bytes count lines)).map (·.tokens) =
      instructions.map (·.tokens) :=
  List.map_map

variable {labels labels' : LabelTable Int}

/-- Instructions with the same tokens make the same bytes with all tables that give their references
one value. -/
theorem encodeEach_of_resolves {instructions encoded others : List Instruction}
    (h : List.Forall₂ (fun instruction made => encode labels instruction = .ok made)
      instructions encoded)
    (htokens : others.map (·.tokens) = instructions.map (·.tokens))
    (hresolves : ∀ instruction ∈ instructions, ∀ name base modulus,
      Reference name instruction.tokens base modulus →
        ∀ value, labels.Resolves name value → labels'.Resolves name value) :
    ∃ made, List.Forall₂ (fun instruction made => encode labels' instruction = .ok made)
        others made ∧
      made.flatMap content = encoded.flatMap content := by
  induction h generalizing others with
  | nil =>
      obtain rfl := List.map_eq_nil_iff.mp htokens
      exact ⟨[], .nil, rfl⟩
  | cons hfirst _ ih =>
      obtain ⟨other, rest, rfl, hother, hrest⟩ := List.map_eq_cons_iff.mp htokens
      rw [List.forall_mem_cons] at hresolves
      obtain ⟨made, hmade, hcontents⟩ := ih hrest hresolves.2
      refine ⟨_, .cons (encode_of_resolves hother hfirst hresolves.1) hmade, ?_⟩
      rw [List.flatMap_cons, List.flatMap_cons, hcontents]
      rfl

end Instruction

namespace Program

variable {step : AddressStep} {address bytes : Int} {index count : Nat}

/-- What comes behind placed lines is placed behind the bytes that they take up. -/
theorem place_append (step : AddressStep) (address : Int) (index : Nat) (lines others : List Line) :
    place step address index (lines ++ others) =
      place step address index lines ++
        place step (address + Instruction.extent (place step address index lines))
          (index + lines.length) others := by
  induction lines generalizing address index with
  | nil => simp [place, Instruction.extent]
  | cons line rest ih =>
      have hindex : index + 1 + rest.length = index + (rest.length + 1) := by omega
      simp only [place, List.cons_append, List.length_cons, ih, hindex]
      rw [Instruction.extent, Int.add_assoc]

theorem ofLine_moved (step : AddressStep) (address bytes : Int) (index count number : Nat)
    (line : Line) :
    Instruction.ofLine step (address + bytes) (index + count) (line.moved number) =
      (Instruction.ofLine step address index line).moved bytes count number := by
  unfold Instruction.ofLine Instruction.moved
  rw [Int.natCast_add]
  rfl

theorem place_moved (step : AddressStep) (address bytes : Int) (index count number : Nat)
    (lines : List Line) :
    place step (address + bytes) (index + count) (lines.map (Line.moved number)) =
      (place step address index lines).map (Instruction.moved bytes count number) := by
  induction lines generalizing address index with
  | nil => rfl
  | cons line rest ih =>
      have haddress : address + bytes +
            ((Instruction.ofLine step address index line).moved bytes count number).width =
          address + (Instruction.ofLine step address index line).width + bytes :=
        Int.add_right_comm _ _ _
      have hindex : index + count + 1 = index + 1 + count := Nat.add_right_comm _ _ _
      rw [List.map_cons, place, place, List.map_cons, ofLine_moved, haddress, hindex, ih]

/-! ### Labels -/

theorem definitions_append (before after : List Instruction) :
    definitions (before ++ after) =
      definitions before ++
        (definitions after).map (Prod.map id (· + before.length)) := by
  unfold definitions
  rw [List.zipIdx_append, List.filterMap_append, Nat.add_comm, ← List.map_snd_add_zipIdx_eq_zipIdx,
    List.filterMap_map, List.map_filterMap]
  congr 1
  refine List.filterMap_congr fun definition _ => ?_
  show Option.map _ definition.1.label = Option.map _ (Option.map _ definition.1.label)
  rw [Option.map_map]
  rfl

section Sources

variable {options : Options} {step : AddressStep} {file first second : Text}

/-- The instructions of two sources behind one another. -/
theorem labelled_instructions_append (options : Options) (file first second : Text) :
    (labelled options (Source.lines file (first ++ '\n' :: second))).instructions =
      (labelled options (Source.lines file first)).instructions ++
        (labelled options (Source.lines file second)).instructions.map
          (Instruction.moved
            (Instruction.extent (labelled options (Source.lines file first)).instructions)
            (labelled options (Source.lines file first)).instructions.length
            (first.count '\n' + 1)) := by
  simp only [labelled_instructions]
  rw [Source.lines_append, place_append, place_moved, length_place]

/-- A name keeps what it stands for if the source that is added does not define it. -/
theorem labelled_find?_append
    (hfree : ∀ name position other place,
      Source.DefinedAt (Source.lines file first) name position →
      Source.DefinedAt (Source.lines file second) other place →
        Text.upper other ≠ Text.upper name) {name : Text} {position : Nat}
    (h : (labelled options (Source.lines file first)).labels.find? name = some position) :
    (labelled options (Source.lines file (first ++ '\n' :: second))).labels.find? name =
      some position := by
  obtain ⟨spelled, ⟨hdefined, hlast⟩, hkey⟩ :=
    (labelled_find?_eq_some_iff (Source.lines_unbroken file first)).mp h
  refine (labelled_find?_eq_some_iff (Source.lines_unbroken file _)).mpr
    ⟨spelled, ⟨?_, ?_⟩, hkey⟩
  · rw [Source.lines_append]
    exact Source.definedAt_append_iff.mpr (.inl hdefined)
  · intro later other hlt hother
    rw [Source.lines_append] at hother
    rcases Source.definedAt_append_iff.mp hother with hbefore | ⟨place, -, hafter⟩
    · exact hlast later other hlt hbefore
    · exact hfree spelled position other place hdefined hafter

theorem resolves_append
    (hfree : ∀ name position other place,
      Source.DefinedAt (Source.lines file first) name position →
      Source.DefinedAt (Source.lines file second) other place →
        Text.upper other ≠ Text.upper name) {token : Token} {value : Int}
    (h : (labelled options (Source.lines file first)).addresses.Resolves token value) :
    (labelled options (Source.lines file (first ++ '\n' :: second))).addresses.Resolves token
      value := by
  cases h with
  | number hkind => exact .number hkind
  | label hkind hbound =>
      refine .label hkind ?_
      rw [find?_addresses] at hbound ⊢
      obtain ⟨position, hposition, hget⟩ := Option.bind_eq_some_iff.mp hbound
      have hrange : position <
          (labelled options (Source.lines file first)).instructions.length := by
        obtain ⟨instruction, hinstruction, -⟩ := Option.map_eq_some_iff.mp hget
        exact (List.getElem?_eq_some_iff.mp hinstruction).1
      rw [labelled_find?_append hfree hposition, Option.bind_some, labelled_instructions_append,
        List.getElem?_append_left hrange, hget]

/-- The program of two sources behind one another has the instructions of both, those of the second
behind the bytes, the instructions and the lines of the first, and the labels of both, defined one
after the other. -/
theorem ofSource_append (step : AddressStep) (file first second : Text) :
    ∃ before after joined,
      ofSource ⟨step, false⟩ file first = .ok before ∧
      ofSource ⟨step, false⟩ file second = .ok after ∧
      ofSource ⟨step, false⟩ file (first ++ '\n' :: second) = .ok joined ∧
      joined.instructions = before.instructions ++ after.instructions.map
        (Instruction.moved (Instruction.extent before.instructions) before.instructions.length
          (first.count '\n' + 1)) ∧
      defineAll { instructions := joined.instructions }
          (definitions before.instructions ++
            (definitions after.instructions).map (Prod.map id (· + before.instructions.length))) =
        .ok joined := by
  have hparsed (source : Text) : ofSource ⟨step, false⟩ file source =
      .ok (labelled ⟨step, false⟩ (Source.lines file source)) :=
    ofSource_eq_ok_iff.mpr ⟨.inl rfl, rfl⟩
  have hinstructions := labelled_instructions_append ⟨step, false⟩ file first second
  refine ⟨_, _, _, hparsed first, hparsed second, hparsed _, hinstructions, ?_⟩
  -- the labels of the second source are those of its instructions where they stand now
  have hdefinitions := congrArg definitions hinstructions
  rw [definitions_append, definitions_map (Instruction.moved _ _ _) fun _ => rfl] at hdefinitions
  have hunlabelled : ({ instructions := (labelled ⟨step, false⟩
      (Source.lines file (first ++ '\n' :: second))).instructions } : Program) =
        unlabelled ⟨step, false⟩ (Source.lines file (first ++ '\n' :: second)) :=
    Program.ext (unlabelled_instructions _ _ _).symm rfl
  rw [← hdefinitions, ← hparsed, ofSource_eq_defineAll, ← hunlabelled]

/-- Encoding two sources behind one another gives what encoding each of them gives, unless the
second one refers to a label or defines one of the first. -/
theorem encoded_append {before after : Program}
    (hbefore : (labelled options (Source.lines file first)).encoded = .ok before)
    (hafter : (labelled options (Source.lines file second)).encoded = .ok after)
    (hnumbers : ∀ instruction ∈ after.instructions, ∀ name base modulus,
      Reference name instruction.tokens base modulus → Operand.ofToken name ≠ .label)
    (hfree : ∀ name position other place,
      Source.DefinedAt (Source.lines file first) name position →
      Source.DefinedAt (Source.lines file second) other place →
        Text.upper other ≠ Text.upper name) :
    ∃ joined,
      (labelled options (Source.lines file (first ++ '\n' :: second))).encoded = .ok joined ∧
        joined.instructions.flatMap Instruction.content =
          before.instructions.flatMap Instruction.content ++
            after.instructions.flatMap Instruction.content := by
  obtain ⟨hencoded, -⟩ := encoded_eq_ok_iff.mp hbefore
  obtain ⟨hencoded', -⟩ := encoded_eq_ok_iff.mp hafter
  let joined := labelled options (Source.lines file (first ++ '\n' :: second))
  have hvalues : ∀ instruction ∈ (labelled options (Source.lines file second)).instructions,
      ∀ name base modulus, Reference name instruction.tokens base modulus → ∀ value,
        (labelled options (Source.lines file second)).addresses.Resolves name value →
          joined.addresses.Resolves name value := by
    intro instruction hmem name base modulus hreference value hvalue
    have hwords : instruction.tokens ∈ after.instructions.map (·.tokens) := by
      rw [Instruction.map_encodeEach (·.tokens) (fun _ _ _ => rfl) hencoded']
      exact List.mem_map_of_mem hmem
    obtain ⟨other, hother, heq⟩ := List.mem_map.mp hwords
    exact hvalue.of_ne_label (hnumbers other hother name base modulus (heq ▸ hreference)) _
  obtain ⟨made, hmade, hcontents⟩ := Instruction.encodeEach_of_resolves hencoded rfl
    fun _ _ _ _ _ _ _ hvalue => resolves_append hfree hvalue
  obtain ⟨made', hmade', hcontents'⟩ := Instruction.encodeEach_of_resolves hencoded'
    (Instruction.tokens_moved
      (Instruction.extent (labelled options (Source.lines file first)).instructions)
      (labelled options (Source.lines file first)).instructions.length
      (first.count '\n' + 1) _) hvalues
  have hall : List.Forall₂
      (fun instruction made => instruction.encode joined.addresses = .ok made)
      joined.instructions (made ++ made') := by
    rw [labelled_instructions_append]
    exact List.rel_append hmade hmade'
  refine ⟨joined.withInstructions (made ++ made') hall.length_eq.symm,
    encoded_eq_ok_iff.mpr ⟨hall, rfl⟩, ?_⟩
  show (made ++ made').flatMap _ = _
  rw [List.flatMap_append, hcontents, hcontents']

end Sources

end Program

/-- Putting one source behind another, on a line of its own, keeps the instructions of both and
defines the labels of both one after the other.  It puts their images behind one another if the
second one neither refers to a label nor defines one of the first. -/
theorem assemble_append (step : AddressStep) (file first second : Text) :
    (∃ before after joined,
      Program.ofSource ⟨step, false⟩ file first = .ok before ∧
      Program.ofSource ⟨step, false⟩ file second = .ok after ∧
      Program.ofSource ⟨step, false⟩ file (first ++ '\n' :: second) = .ok joined ∧
      joined.instructions = before.instructions ++ after.instructions.map
        (Instruction.moved (Instruction.extent before.instructions) before.instructions.length
          (first.count '\n' + 1)) ∧
      Program.defineAll { instructions := joined.instructions }
          (Program.definitions before.instructions ++
            (Program.definitions after.instructions).map
              (Prod.map id (· + before.instructions.length))) =
        .ok joined) ∧
    ∀ before after, assemble ⟨step, false⟩ file first = .ok before →
      assemble ⟨step, false⟩ file second = .ok after →
      (∀ instruction ∈ after.program.instructions, ∀ name base modulus,
        Reference name instruction.tokens base modulus → Operand.ofToken name ≠ .label) →
      (∀ name position other place,
        Source.DefinedAt (Source.lines file first) name position →
        Source.DefinedAt (Source.lines file second) other place →
          Text.upper other ≠ Text.upper name) →
      ∃ joined, assemble ⟨step, false⟩ file (first ++ '\n' :: second) = .ok joined ∧
        joined.image = before.image ++ after.image := by
  refine ⟨Program.ofSource_append step file first second, ?_⟩
  intro before after hbefore hafter hnumbers hfree
  obtain ⟨_, hparsed, hencoded, himage⟩ := assemble_eq_ok_iff.mp hbefore
  obtain ⟨_, hparsed', hencoded', himage'⟩ := assemble_eq_ok_iff.mp hafter
  obtain ⟨-, rfl⟩ := Program.ofSource_eq_ok_iff.mp hparsed
  obtain ⟨-, rfl⟩ := Program.ofSource_eq_ok_iff.mp hparsed'
  obtain ⟨joined, hjoined, hcontents⟩ :=
    Program.encoded_append hencoded hencoded' hnumbers hfree
  rw [← himage, ← himage'] at hcontents
  exact ⟨⟨_, joined⟩, assemble_eq_ok_iff.mpr
    ⟨_, Program.ofSource_eq_ok_iff.mpr ⟨.inl rfl, rfl⟩, hjoined, rfl⟩, hcontents⟩

/-- Data behind a jump, each with a label of its own. -/
theorem assemble_append_data :
    ∃ joined, assemble ⟨.byWidth, false⟩ [] ("A: CLS\r\nJP a".toList ++
          '\n' :: "DB 7 ; data\n\nB: SYS #10".toList) = .ok joined ∧
      joined.image = [0x00, 0xE0, 0x12, 0x00, 0x07, 0x00, 0x10] := by
  let first := "A: CLS\r\nJP a".toList
  let second := "DB 7 ; data\n\nB: SYS #10".toList
  have hfirst : (assemble ⟨.byWidth, false⟩ [] first).map (·.image) =
      .ok [0x00, 0xE0, 0x12, 0x00] := by
    decide +kernel
  have hsecond : (assemble ⟨.byWidth, false⟩ [] second).map (fun assembly =>
      (assembly.image, assembly.program.instructions.map (·.tokens))) =
        .ok ([0x07, 0x00, 0x10], [["DB".toList, "7".toList], ["SYS".toList, "#10".toList]]) := by
    decide +kernel
  have hdefined : Program.definitions (Program.place .byWidth programStart 0
      (Source.lines [] first)) = [("A".toList, 0)] := by
    decide +kernel
  have hdefined' : Program.definitions (Program.place .byWidth programStart 0
      (Source.lines [] second)) = [("B".toList, 1)] := by
    decide +kernel
  have hfree : ∀ name position other place,
      Source.DefinedAt (Source.lines [] first) name position →
      Source.DefinedAt (Source.lines [] second) other place →
        Text.upper other ≠ Text.upper name := by
    intro name position other place hname hother
    have hlines := Source.lines_unbroken [] first
    have hlines' := Source.lines_unbroken [] second
    rw [← Program.mem_definitions_place_iff hlines, hdefined, List.mem_singleton] at hname
    rw [← Program.mem_definitions_place_iff hlines', hdefined', List.mem_singleton] at hother
    obtain ⟨rfl, rfl⟩ := Prod.mk.inj hname
    obtain ⟨rfl, rfl⟩ := Prod.mk.inj hother
    decide
  cases hbefore : assemble ⟨.byWidth, false⟩ [] first with
  | error failure =>
      rw [hbefore] at hfirst
      contradiction
  | ok before =>
      cases hafter : assemble ⟨.byWidth, false⟩ [] second with
      | error failure =>
          rw [hafter] at hsecond
          contradiction
      | ok after =>
          rw [hbefore] at hfirst
          rw [hafter] at hsecond
          have himage : before.image = [0x00, 0xE0, 0x12, 0x00] := Except.ok.inj hfirst
          obtain ⟨himage', htokens⟩ := Prod.mk.inj (Except.ok.inj hsecond)
          have hnumbers : ∀ instruction ∈ after.program.instructions, ∀ name base modulus,
              Reference name instruction.tokens base modulus →
                Operand.ofToken name ≠ .label := by
            intro instruction hmem name base modulus hreference
            have hwords : instruction.tokens ∈ after.program.instructions.map (·.tokens) :=
              List.mem_map_of_mem hmem
            rw [htokens, List.mem_pair] at hwords
            rcases hwords with hwords | hwords
            · rw [hwords] at hreference
              cases hreference <;> decide
            · rw [hwords] at hreference
              cases hreference <;> decide
          obtain ⟨joined, hjoined, hbytes⟩ :=
            (assemble_append .byWidth [] first second).2 before after hbefore hafter hnumbers hfree
          rw [himage, himage'] at hbytes
          exact ⟨joined, hjoined, hbytes⟩

end Chip8
