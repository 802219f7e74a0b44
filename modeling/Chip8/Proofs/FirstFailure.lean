import Chip8.Proofs.Marks
import Chip8.Proofs.SharedProgram

/-!
# The first failure

Instructions are encoded in order, each on its own, and the run stops at the first one that fails.
Those before it are as encoding them alone makes them, and it and those after it are as they were.
For a source that means that no report is of a later line than one that cannot be encoded, once its
labels are defined.  In a strict table that definition may fail, before anything is encoded.
-/

namespace Chip8

namespace Instruction

variable {labels : LabelTable Int} {instruction encoded : Instruction}
  {instructions : List Instruction} {position : Nat} {failure : Failure}

/-- Holds when the instruction at a position fails on its own. -/
def FailsAt (labels : LabelTable Int) (instructions : List Instruction) (position : Nat)
    (failure : Failure) : Prop :=
  ∃ instruction, instructions[position]? = some instruction ∧
    instruction.encode labels = .error failure

/-- Holds when the instruction at a position has become what encoding it on its own makes. -/
def EncodedAt (labels : LabelTable Int) (instructions made : List Instruction)
    (position : Nat) : Prop :=
  ∃ instruction encoded, instructions[position]? = some instruction ∧
    instruction.encode labels = .ok encoded ∧ made[position]? = some encoded

/-- Holds of what a run over instructions leaves and fails with, if it stops at the first of them
that fails on its own, and if it changes nothing but the numbers and widths of those before. -/
structure StopsAtFirst (labels : LabelTable Int) (instructions made : List Instruction)
    (failed : Option Failure) : Prop where
  fails_iff : (∃ failure, failed = some failure) ↔
    ∃ position failure, FailsAt labels instructions position failure
  first : ∀ failure, failed = some failure →
    ∃ position, FailsAt labels instructions position failure ∧
      (∀ earlier < position, EncodedAt labels instructions made earlier) ∧
      ∀ later, position ≤ later → made[later]? = instructions[later]?
  all : failed = none →
    ∀ position < instructions.length, EncodedAt labels instructions made position
  kept : made.map unencoded = instructions.map unencoded

section Runs

variable {before encodedBefore after : List Instruction}

/-- Encoding each of several instructions changes none of their other fields. -/
theorem map_unencoded
    (h : List.Forall₂ (fun instruction encoded => instruction.encode labels = .ok encoded)
      before encodedBefore) :
    encodedBefore.map unencoded = before.map unencoded :=
  map_encodeEach unencoded (fun _ _ _ => rfl) h

/-- Each of several encoded instructions is what encoding it on its own makes, whatever follows. -/
theorem encodedAt_of_forall₂ (after after' : List Instruction)
    (h : List.Forall₂ (fun instruction encoded => instruction.encode labels = .ok encoded)
      before encodedBefore) (hposition : position < before.length) :
    EncodedAt labels (before ++ after) (encodedBefore ++ after') position := by
  induction h generalizing position with
  | nil => contradiction
  | @cons instruction encoded _ _ hfirst _ ih =>
      cases position with
      | zero => exact ⟨instruction, encoded, rfl, hfirst, rfl⟩
      | succ position => exact ih (Nat.lt_of_succ_lt_succ hposition)

/-- No instruction that has been encoded fails. -/
theorem not_failsAt_of_forall₂
    (h : List.Forall₂ (fun instruction encoded => instruction.encode labels = .ok encoded)
      before encodedBefore) : ¬ FailsAt labels before position failure := by
  rintro ⟨instruction, hget, hfails⟩
  have hbound := (List.getElem?_eq_some_iff.mp hget).1
  obtain ⟨found, encoded, hfound, hencode, -⟩ := encodedAt_of_forall₂ [] [] h hbound
  rw [List.append_nil] at hfound
  obtain rfl := Option.some.inj (hfound.symm.trans hget)
  rw [hencode] at hfails
  contradiction

end Runs

/-- A run over all instructions stops at the first that fails. -/
theorem encodeAll_stopsAtFirst (labels : LabelTable Int) (instructions : List Instruction) :
    StopsAtFirst labels instructions (encodeAll labels instructions).1
      (encodeAll labels instructions).2 := by
  rcases hall : encodeAll labels instructions with ⟨made, failed⟩
  show StopsAtFirst labels instructions made failed
  cases failed with
  | none =>
      have heach := encodeAll_eq_none_iff.mp hall
      refine ⟨iff_of_false ?_ ?_, ?_, ?_, map_unencoded heach⟩
      · rintro ⟨failure, hfailed⟩
        contradiction
      · rintro ⟨position, failure, hfails⟩
        exact not_failsAt_of_forall₂ heach hfails
      · intro failure hfailed
        contradiction
      · intro _ position hposition
        have hencoded := encodedAt_of_forall₂ [] [] heach hposition
        rwa [List.append_nil, List.append_nil] at hencoded
  | some failure =>
      obtain ⟨before, encodedBefore, instruction, after, rfl, hbefore, hfails, rfl⟩ :=
        encodeAll_eq_some_iff.mp hall
      have hlength : before.length = encodedBefore.length := hbefore.length_eq
      have hfailsAt : FailsAt labels (before ++ instruction :: after) before.length failure :=
        ⟨instruction, by simp, hfails⟩
      refine ⟨iff_of_true ⟨failure, rfl⟩ ⟨_, failure, hfailsAt⟩, ?_, ?_, ?_⟩
      · intro failed hfailed
        obtain rfl := Option.some.inj hfailed
        refine ⟨before.length, hfailsAt, ?_, ?_⟩
        · intro earlier hearlier
          exact encodedAt_of_forall₂ _ _ hbefore hearlier
        · intro later hlater
          rw [List.getElem?_append_right hlater, List.getElem?_append_right (hlength ▸ hlater),
            hlength]
      · intro hfailed
        contradiction
      · rw [List.map_append, List.map_append, map_unencoded hbefore]

/-- A report of an instruction is of the instruction's line. -/
theorem AtFault.line_eq {diagnostic : Diagnostic} (h : instruction.AtFault diagnostic) :
    ∃ location, diagnostic.location = some location ∧
      location.line = instruction.location.line := by
  have hline (position : Int) :
      (instruction.locationOf position).line = instruction.location.line := by
    unfold locationOf
    split
    · rfl
    · split <;> rfl
  cases h with
  | missing _ => exact ⟨_, rfl, rfl⟩
  | quoted _ _ => exact ⟨_, rfl, hline _⟩
  | wrongCount _ _ _ => exact ⟨_, rfl, hline _⟩

end Instruction

/-! ### Lines -/

namespace Program

variable {options : Options} {file source : Text} {parsed program : Program} {position : Nat}
  {failure : Failure}

/-- Encoding leaves every address where it is. -/
theorem addresses_encode (program : Program) :
    program.encode.1.addresses = program.addresses := by
  have hkept := (Instruction.encodeAll_stopsAtFirst program.addresses program.instructions).kept
  have haddresses := congrArg (List.map (·.address)) hkept
  rw [List.map_map, List.map_map] at haddresses
  exact addresses_congr rfl haddresses

/-- Of two instructions of a source, the later one is of the same line or a later one. -/
theorem line_le_of_place {step : AddressStep} {instructions : List Instruction}
    {earlier later : Nat} {first second : Instruction}
    (hplaced : instructions = place step programStart 0 (Source.lines file source))
    (hfirst : instructions[earlier]? = some first) (hsecond : instructions[later]? = some second)
    (hle : earlier ≤ later) : first.location.line ≤ second.location.line := by
  rw [hplaced, getElem?_place] at hfirst hsecond
  obtain ⟨line, hline, rfl⟩ := Option.map_eq_some_iff.mp hfirst
  obtain ⟨other, hother, rfl⟩ := Option.map_eq_some_iff.mp hsecond
  show line.number ≤ other.number
  rcases Nat.lt_or_eq_of_le hle with hlt | rfl
  · obtain ⟨_, rfl⟩ := List.getElem?_eq_some_iff.mp hline
    obtain ⟨_, rfl⟩ := List.getElem?_eq_some_iff.mp hother
    exact Int.le_of_lt
      (List.pairwise_iff_getElem.mp (Source.lines_sorted file source) _ _ _ _ hlt)
  · obtain rfl := Option.some.inj (hline.symm.trans hother)
    exact Int.le_refl _

/-- Once the labels of a source are defined, no report is of a later line than one that cannot be
encoded. -/
theorem assemble_line_le (hparsed : ofSource options file source = .ok parsed)
    (hfails : Instruction.FailsAt parsed.addresses parsed.instructions position failure) :
    ∃ instruction diagnostic location, parsed.instructions[position]? = some instruction ∧
      assemble options file source = .error (.reported diagnostic) ∧
      diagnostic.location = some location ∧ location.line ≤ instruction.location.line := by
  have hstops := Instruction.encodeAll_stopsAtFirst parsed.addresses parsed.instructions
  obtain ⟨failed, hfailed⟩ := hstops.fails_iff.mpr ⟨position, failure, hfails⟩
  obtain ⟨first, ⟨culprit, hculprit, herror⟩, hbefore, -⟩ := hstops.first failed hfailed
  obtain ⟨instruction, hget, hencode⟩ := hfails
  have hle : first ≤ position := by
    -- what comes before the first failure is encoded
    refine Nat.le_of_not_lt fun hlt => ?_
    obtain ⟨found, encoded, hfound, hok, -⟩ := hbefore position hlt
    obtain rfl := Option.some.inj (hfound.symm.trans hget)
    rw [hencode] at hok
    contradiction
  have hassemble : assemble options file source = .error failed := by
    refine assemble_eq_error_iff.mpr (.inr ⟨parsed, hparsed, ?_⟩)
    unfold encoded encode
    simp only [hfailed]
  have hreports := Instruction.encode_reports parsed.addresses culprit
  rw [herror] at hreports
  cases hreports with
  | @reported diagnostic _ =>
      have hfault := Instruction.encode_blames _ _ diagnostic herror
      obtain ⟨location, hlocation, hline⟩ := hfault.line_eq
      refine ⟨instruction, diagnostic, location, hget, hassemble, hlocation, ?_⟩
      rw [hline]
      exact line_le_of_place (instructions_of_ofSource hparsed) hculprit hget hle

/-! ### A program of its own -/

theorem shared_object {instruction : Instruction}
    (h : program.instructions[position]? = some instruction) :
    program.shared.objects position = instruction := by
  simp [shared, h]

theorem shared_addresses (program : Program) : program.shared.addresses = program.addresses := by
  symm
  unfold SharedProgram.addresses
  refine addresses_eq_map fun earlier instruction hget => ?_
  rw [shared_object hget]

theorem shared_encodingOf {instruction : Instruction}
    (h : program.instructions[position]? = some instruction) :
    program.shared.encodingOf position = instruction.encode program.addresses := by
  unfold SharedProgram.encodingOf
  rw [shared_addresses, shared_object h]

/-- A program of its own has the objects up to a position encoded if its instructions are encoded
there and nowhere else. -/
theorem shared_encodedOn {made : Program} {bound : Nat} (hlabels : made.labels = program.labels)
    (hlength : made.instructions.length = program.instructions.length)
    (hbefore : ∀ earlier < bound,
      Instruction.EncodedAt program.addresses program.instructions made.instructions earlier)
    (hafter : ∀ later, bound ≤ later →
      made.instructions[later]? = program.instructions[later]?) :
    program.shared.EncodedOn made.shared (· < bound) := by
  refine ⟨fun earlier hlt => ?_, fun later hnot => ?_, ?_, hlabels⟩
  · obtain ⟨instruction, encoded, hget, hencode, hmade⟩ := hbefore earlier hlt
    rw [shared_encodingOf hget, shared_object hmade, hencode]
  · simp only [shared, hafter later (Nat.le_of_not_lt hnot)]
  · simp only [shared, hlength]

/-- A program is encoded as one whose instructions are objects that are listed once. -/
theorem shared_encode (program : Program) :
    program.shared.encode = (program.encode.1.shared, program.encode.2) := by
  have hstops : Instruction.StopsAtFirst program.addresses program.instructions
      program.encode.1.instructions program.encode.2 :=
    Instruction.encodeAll_stopsAtFirst program.addresses program.instructions
  have hlength : program.encode.1.instructions.length = program.instructions.length := by
    simpa using congrArg List.length hstops.kept
  have hlabels : program.encode.1.labels = program.labels := rfl
  obtain ⟨hencoded, hfailed⟩ :=
    SharedProgram.encodeEach_encodedOn program.shared program.shared.listed
  have hencodes {earlier : Nat} (h : Instruction.EncodedAt program.addresses program.instructions
      program.encode.1.instructions earlier) : program.shared.Encodes earlier := by
    obtain ⟨instruction, encoded, hget, hencode, -⟩ := h
    exact ⟨encoded, (shared_encodingOf hget).trans hencode⟩
  cases hresult : program.encode.2 with
  | none =>
      have hall := hstops.all hresult
      have hshared := shared_encodedOn hlabels hlength hall fun later hle => by
        rw [List.getElem?_eq_none (hlength ▸ hle), List.getElem?_eq_none hle]
      have heach : ∀ object ∈ program.shared.listed, program.shared.Encodes object :=
        fun object hmem => hencodes (hall object (List.mem_range.mp hmem))
      rw [SharedProgram.reached_of_encodes heach] at hencoded
      refine Prod.ext (hencoded.unique (hshared.congr fun object => ?_)) ?_
      · exact List.mem_range.symm
      · exact hfailed.trans (SharedProgram.firstFailure?_eq_none_iff.mpr heach)
  | some failure =>
      obtain ⟨first, ⟨instruction, hget, hfails⟩, hbefore, hafter⟩ := hstops.first failure hresult
      have hshared := shared_encodedOn hlabels hlength hbefore hafter
      have hlisted : program.shared.listed = List.range first ++ first ::
          (List.range (program.instructions.length - first - 1)).map (first + 1 + ·) := by
        have hlt := (List.getElem?_eq_some_iff.mp hget).1
        show List.range program.instructions.length = _
        rw [← List.singleton_append, ← List.append_assoc, ← List.range_succ, ← List.range_add]
        congr 1
        omega
      have herror : program.shared.encodingOf first = .error failure :=
        (shared_encodingOf hget).trans hfails
      have heach : ∀ object ∈ List.range first, program.shared.Encodes object :=
        fun object hmem => hencodes (hbefore object (List.mem_range.mp hmem))
      rw [hlisted, SharedProgram.reached_of_fails heach herror, ← hlisted] at hencoded
      refine Prod.ext (hencoded.unique (hshared.congr fun object => ?_)) ?_
      · exact List.mem_range.symm
      · exact hfailed.trans
          (SharedProgram.firstFailure?_eq_some_iff.mpr ⟨_, _, _, hlisted, herror, heach⟩)

/-! ### Any program -/

/-- Encoding stops at the first instruction that fails on its own, whatever the labels stand for and
whatever has been encoded before.  Those before it are encoded as each is on its own, the others are
as they were unless they are listed before it too, and nothing but numbers and widths ever changes.
A source whose labels can be defined is therefore never reported for a later line than one that
cannot be encoded. -/
theorem encode_stopsAtFirst :
    (∀ (ι : Type) [DecidableEq ι] (program : SharedProgram ι),
      program.StopsAtFirst program.encode.1 program.encode.2) ∧
    (∀ labels instructions,
      Instruction.StopsAtFirst labels instructions
        (Instruction.encodeAll labels instructions).1
        (Instruction.encodeAll labels instructions).2) ∧
    (∀ program : Program,
      Instruction.StopsAtFirst program.addresses program.instructions
          program.encode.1.instructions program.encode.2 ∧
        program.encode.1.labels = program.labels ∧
        program.encode.1.addresses = program.addresses) ∧
    ∀ options file source,
      options.strictLabels = false ∨ Source.DistinctLabels (Source.lines file source) →
        ∃ parsed, ofSource options file source = .ok parsed ∧
          ∀ position failure,
            Instruction.FailsAt parsed.addresses parsed.instructions position failure →
              ∃ instruction diagnostic location,
                parsed.instructions[position]? = some instruction ∧
                assemble options file source = .error (.reported diagnostic) ∧
                diagnostic.location = some location ∧
                location.line ≤ instruction.location.line := by
  refine ⟨fun _ _ program => program.encode_stopsAt, Instruction.encodeAll_stopsAtFirst,
    fun program => ⟨?_, rfl, ?_⟩, ?_⟩
  · exact Instruction.encodeAll_stopsAtFirst program.addresses program.instructions
  · exact addresses_encode program
  · intro options file source hlabels
    have hparsed := ofSource_eq_ok_iff.mpr ⟨hlabels, rfl⟩
    exact ⟨_, hparsed, fun _ _ hfails => assemble_line_le hparsed hfails⟩

/-- Of two lines that cannot be encoded the first is reported. -/
theorem encode_stopsAtFirst_of_two :
    ∃ diagnostic location,
      assemble {} [] "CLS\nJP\nBAD".toList = .error (.reported diagnostic) ∧
        diagnostic.location = some location ∧ location.line ≤ 3 := by
  let lines := Source.lines [] "CLS\nJP\nBAD".toList
  have hfree : (Options.mk .byWidth false).strictLabels = false ∨ Source.DistinctLabels lines :=
    .inl rfl
  obtain ⟨parsed, hparsed, hall⟩ := encode_stopsAtFirst.2.2.2 _ _ _ hfree
  obtain rfl := (ofSource_eq_ok_iff.mp hparsed).2
  let program := labelled ⟨.byWidth, false⟩ lines
  let failure : Failure :=
    .reported ⟨.unknownMnemonic "BAD".toList, some ⟨[], 3, 1⟩, some "BAD".toList, some 2⟩
  have hlast : (program.instructions[2]?.map fun instruction =>
      (instruction.location.line, instruction.encode program.addresses)) =
        some (3, .error failure) := by
    decide +kernel
  obtain ⟨instruction, hget, hpair⟩ := Option.map_eq_some_iff.mp hlast
  obtain ⟨hline, herror⟩ := Prod.mk.inj hpair
  obtain ⟨found, diagnostic, location, hfound, hassemble, hlocation, hle⟩ :=
    hall 2 failure ⟨instruction, hget, herror⟩
  obtain rfl := Option.some.inj (hfound.symm.trans hget)
  exact ⟨diagnostic, location, hassemble, hlocation, hline ▸ hle⟩

/-- A strict table refuses a label before anything is encoded, so the report may be of a later line
than one that cannot be encoded whatever the labels stand for. -/
theorem assemble_strict_reports_later :
    let options : Options := ⟨.byWidth, true⟩
    let source := "BAD\nA: CLS\nA: RET".toList
    (∃ instruction ∈ (unlabelled options (Source.lines [] source)).instructions,
      instruction.location.line = 1 ∧
        ∀ labels, ∃ failure, instruction.encode labels = .error failure) ∧
    ∃ diagnostic location,
      assemble options [] source = .error (.reported diagnostic) ∧
        diagnostic.location = some location ∧ location.line = 3 := by
  intro options source
  constructor
  · have hfirst : (unlabelled options (Source.lines [] source)).instructions[0]?.map
        (fun instruction => (instruction.location.line, instruction.tokens)) =
          some (1, ["BAD".toList]) := by
      decide +kernel
    obtain ⟨instruction, hget, hpair⟩ := Option.map_eq_some_iff.mp hfirst
    obtain ⟨hline, htokens⟩ := Prod.mk.inj hpair
    have hunknown : Mnemonic.ofToken? "BAD".toList = none := by decide
    refine ⟨instruction, List.mem_of_getElem? hget, hline, ?_⟩
    intro labels
    unfold Instruction.encode
    rw [htokens]
    simp only [hunknown]
    exact ⟨_, rfl⟩
  · have hreport : assemble options [] source = .error (.reported
        ⟨.duplicateLabel "A".toList (some ⟨[], 2, 1⟩), some ⟨[], 3, 1⟩, some "A: RET".toList,
          some 2⟩) := by
      decide +kernel
    exact ⟨_, _, hreport, rfl, rfl⟩

/-- An object that is listed again after the first failure is encoded there too. -/
theorem encode_changes_listed_again :
    let program : SharedProgram Nat := {
      objects := fun object =>
        if object = 0 then { written := [], tokens := ["CLS".toList] }
        else { written := [], tokens := ["BAD".toList] }
      listed := [0, 1, 0]
      labels := {} }
    program.Encodes 0 ∧ (∃ failure, program.encodingOf 1 = .error failure) ∧
      program.encode.2 = program.failureOf? 1 ∧
      program.encode.1.instructions[2]? ≠ program.instructions[2]? := by
  intro program
  have hfirst : program.failureOf? 0 = none := by decide +kernel
  have hsecond : (program.failureOf? 1).isSome = true := by decide +kernel
  obtain ⟨failure, hfailure⟩ := Option.isSome_iff_exists.mp hsecond
  refine ⟨SharedProgram.failureOf?_eq_none_iff.mp hfirst,
    ⟨failure, SharedProgram.failureOf?_eq_some_iff.mp hfailure⟩, ?_, ?_⟩
  · decide +kernel
  · decide +kernel

/-- Where encoding is not as it is for instructions that are listed once, and where the report is of
a later line. -/
theorem encode_failFast_exceptions :
    (∃ program : SharedProgram Nat, program.listed = [0, 1, 0] ∧ program.Encodes 0 ∧
      (∃ failure, program.encodingOf 1 = .error failure ∧ program.encode.2 = some failure) ∧
      program.encode.1.instructions[2]? ≠ program.instructions[2]?) ∧
    ∃ options source diagnostic location,
      (∃ instruction ∈ (unlabelled options (Source.lines [] source)).instructions,
        instruction.location.line = 1 ∧
          ∀ labels, ∃ failure, instruction.encode labels = .error failure) ∧
      assemble options [] source = .error (.reported diagnostic) ∧
        diagnostic.location = some location ∧ location.line = 3 := by
  obtain ⟨hencodes, ⟨failure, herror⟩, hfailed, hchanged⟩ := encode_changes_listed_again
  obtain ⟨hunencodable, diagnostic, location, hassemble, hlocation, hline⟩ :=
    assemble_strict_reports_later
  refine ⟨⟨_, rfl, hencodes, ⟨failure, herror, ?_⟩, hchanged⟩, _, _, diagnostic, location,
    hunencodable, hassemble, hlocation, hline⟩
  exact hfailed.trans (SharedProgram.failureOf?_eq_some_iff.mpr herror)

end Program

end Chip8
