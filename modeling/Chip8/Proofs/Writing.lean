import Chip8.Proofs.Marks
import Chip8.Proofs.SharedProgram
import Chip8.Proofs.StrictLabels
import Chip8.Proofs.Tokens
import Chip8.Writing
import Mathlib.Data.Nat.Digits.Defs

/-!
# What is raised

A failure is raised with its report, unless the report cannot be written.  That depends on the places
that the report shows.  Those of a source lie within it, so whatever a source fails with is raised.
Those of instructions that are put together by hand may lie anywhere.
-/

namespace Chip8

/-! ### Places -/

namespace Location

variable {room : Fin Text.lengthLimit} {place : Location} {size : Nat}

/-- `place.Unwritable room marked fault` holds when a report at a place, with a mark below its line
or not, cannot be written. -/
inductive Unwritable (room : Fin Text.lengthLimit) (marked : Bool) (place : Location) :
    WritingFault → Prop
  | digits (h : 4300 < (Nat.toDigits 10 place.line.natAbs).length ∨
      4300 < (Nat.toDigits 10 place.column.natAbs).length) : Unwritable room marked place .digits
  | length (hline : (Nat.toDigits 10 place.line.natAbs).length ≤ 4300)
      (hcolumn : (Nat.toDigits 10 place.column.natAbs).length ≤ 4300) (hmarked : marked = true)
      (h : 0x8000000000000000 ≤ place.column + 3) : Unwritable room marked place .length
  | memory (hline : (Nat.toDigits 10 place.line.natAbs).length ≤ 4300)
      (hcolumn : (Nat.toDigits 10 place.column.natAbs).length ≤ 4300) (hmarked : marked = true)
      (hpos : 0 < place.column) (hlt : place.column + 3 < 0x8000000000000000)
      (h : (room : Int) < place.column + 3) : Unwritable room marked place .memory

/-- A place is unwritable for one reason. -/
theorem Unwritable.unique {marked : Bool} {fault other : WritingFault}
    (h : place.Unwritable room marked fault) (hother : place.Unwritable room marked other) :
    other = fault := by
  cases h with
  | digits h =>
      cases hother with
      | digits => rfl
      | length | memory => omega
  | length =>
      cases hother with
      | length => rfl
      | digits | memory => omega
  | memory =>
      cases hother with
      | memory => rfl
      | digits | length => omega

/-- Holds of the places in a text of the given size. -/
def Within (size : Nat) (place : Location) : Prop :=
  place.line.natAbs ≤ size + 1 ∧ place.column.natAbs ≤ size

theorem isWritable_eq_true_iff :
    place.isWritable = true ↔ (Nat.toDigits 10 place.line.natAbs).length ≤ 4300 ∧
      (Nat.toDigits 10 place.column.natAbs).length ≤ 4300 := by
  unfold isWritable
  rw [Bool.and_eq_true]
  exact and_congr decide_eq_true_iff decide_eq_true_iff

/-- Numbers below the limit of lengths have few digits. -/
theorem length_toDigits_le {number : Nat} (h : number < Text.lengthLimit) :
    (Nat.toDigits 10 number).length ≤ 4300 := by
  have hdigits : (Nat.toDigits 10 number).length ≤ 19 := by
    refine Nat.toDigits_length 10 number 19 (by decide) (Nat.lt_trans h ?_)
    decide
  omega

theorem Within.isWritable (h : place.Within size) (hroom : size + 4 ≤ room.val) :
    place.isWritable = true := by
  have hlt := room.isLt
  obtain ⟨hline, hcolumn⟩ := h
  exact isWritable_eq_true_iff.mpr
    ⟨length_toDigits_le (by omega), length_toDigits_le (by omega)⟩

end Location

/-! ### Reports -/

namespace Diagnostic

variable {room : Fin Text.lengthLimit} {diagnostic : Diagnostic} {place : Location} {size : Nat}

/-- A report of one place is written exactly if it can be there. -/
theorem write_of_place (room : Fin Text.lengthLimit)
    (hplace : diagnostic.location = some place)
    (hcause : diagnostic.cause.place? = none) :
    (diagnostic.write room = .ok diagnostic.message ∧
        ∀ fault, ¬ place.Unwritable room diagnostic.sourceLine.isSome fault) ∨
      ∃ fault, diagnostic.write room = .error fault ∧
        place.Unwritable room diagnostic.sourceLine.isSome fault := by
  have hroom := room.isLt
  have hlimit : Text.lengthLimit = 0x8000000000000000 := rfl
  unfold write indentation?
  simp only [hplace, hcause, Option.toList_none, Option.toList_some, List.nil_append,
    List.all_cons, List.all_nil, Bool.and_true]
  cases hwritable : place.isWritable with
  | false =>
      refine .inr ⟨.digits, rfl, .digits ?_⟩
      rw [← Bool.not_eq_true, Location.isWritable_eq_true_iff, not_and_or, Nat.not_le,
        Nat.not_le] at hwritable
      exact hwritable
  | true =>
      obtain ⟨hline, hcolumn⟩ := Location.isWritable_eq_true_iff.mp hwritable
      cases hshown : diagnostic.sourceLine with
      | none =>
          refine .inl ⟨rfl, fun fault hfault => ?_⟩
          cases hfault with
          | digits h => omega
          | length _ _ hmarked _ => contradiction
          | memory _ _ hmarked _ _ _ => contradiction
      | some line =>
          simp only [if_true]
          by_cases hpos : 0 < place.column
          · rw [if_pos hpos]
            by_cases hlength : Text.lengthLimit ≤ (place.column + 3).toNat
            · refine .inr ⟨.length, by simp [hlength], .length hline hcolumn rfl ?_⟩
              omega
            · by_cases hmemory : room.val < (place.column + 3).toNat
              · refine .inr ⟨.memory, by simp [hlength, hmemory],
                  .memory hline hcolumn rfl hpos ?_ ?_⟩
                · omega
                · omega
              · refine .inl ⟨by simp [hlength, hmemory], fun fault hfault => ?_⟩
                cases hfault <;> omega
          · rw [if_neg hpos]
            refine .inl ⟨rfl, fun fault hfault => ?_⟩
            cases hfault <;> omega

theorem write_of_unwritable {fault : WritingFault} (hplace : diagnostic.location = some place)
    (hcause : diagnostic.cause.place? = none)
    (h : place.Unwritable room diagnostic.sourceLine.isSome fault) :
    diagnostic.write room = .error fault := by
  rcases write_of_place room hplace hcause with ⟨-, hnone⟩ | ⟨other, hwrite, hother⟩
  · exact absurd h (hnone fault)
  · rw [hwrite, h.unique hother]

/-- Holds of the reports that show nothing but places in a text of the given size. -/
structure Within (size : Nat) (diagnostic : Diagnostic) : Prop where
  location : ∀ place, diagnostic.location = some place → place.Within size
  cause : ∀ place, diagnostic.cause.place? = some place → place.Within size

/-- A report of places in a text can be written where there is memory for the text. -/
theorem Within.write (h : diagnostic.Within size) (hroom : size + 4 ≤ room.val) :
    diagnostic.write room = .ok diagnostic.message := by
  have hlimit := room.isLt
  have hplaces : (diagnostic.cause.place?.toList ++ diagnostic.location.toList).all
      Location.isWritable = true := by
    rw [List.all_eq_true]
    intro place hmem
    rcases List.mem_append.mp hmem with hcause | hlocation
    · exact (h.cause place (Option.mem_toList.mp hcause)).isWritable hroom
    · exact (h.location place (Option.mem_toList.mp hlocation)).isWritable hroom
  unfold Diagnostic.write
  simp only [hplaces, if_true]
  cases hindent : diagnostic.indentation? with
  | none => rfl
  | some blanks =>
      -- the mark is below a character of the text or right behind it
      have hblanks : blanks ≤ size + 3 := by
        unfold indentation? at hindent
        split at hindent
        · rename_i place line hplace hline
          have hcolumn := (h.location place hplace).2
          split at hindent
          · have heq := Option.some.inj hindent
            omega
          · contradiction
        · contradiction
      simp only
      rw [if_neg (by omega), if_neg (by omega)]

end Diagnostic

/-! ### Sources -/

namespace Line

variable {line : Line} {size : Nat}

/-- Holds of the lines of a text of the given size. -/
structure Within (size : Nat) (line : Line) : Prop where
  number : line.number.natAbs ≤ size + 1
  columns : ∀ column ∈ line.columns, column.natAbs ≤ size

theorem Within.location (h : line.Within size) : line.location.Within size := by
  refine ⟨h.number, ?_⟩
  show (line.columns.headD 0).natAbs ≤ size
  cases hcolumns : line.columns with
  | nil => exact Nat.zero_le _
  | cons column rest => exact h.columns column (by simp [hcolumns])

end Line

/-- A piece of a text is not longer than the text. -/
theorem Text.length_le_of_mem_splitOn {sep : Char} {t piece : Text} (h : piece ∈ splitOn sep t) :
    piece.length ≤ t.length := by
  induction t generalizing piece with
  | nil =>
      obtain rfl := List.mem_singleton.mp h
      exact Nat.le_refl _
  | cons c rest ih =>
      rw [splitOn] at h
      split at h
      · rcases List.mem_cons.mp h with rfl | hrest
        · exact Nat.zero_le _
        · exact Nat.le_succ_of_le (ih hrest)
      · cases hpieces : splitOn sep rest with
        | nil => exact absurd hpieces (splitOn_ne_nil sep rest)
        | cons first others =>
            rw [hpieces] at h ih
            rcases List.mem_cons.mp h with rfl | hothers
            · exact Nat.succ_le_succ (ih List.mem_cons_self)
            · exact Nat.le_succ_of_le (ih (List.mem_cons_of_mem _ hothers))

theorem Word.column_le_of_mem_scan {column : Nat} {text : Text} {word : Word}
    (h : word ∈ scan column text) : word.column < column + text.length := by
  obtain ⟨⟨hne, -⟩, before, after, rfl, hcolumn, -, -⟩ := standsIn_of_mem_scan h
  have hpos := List.length_pos_iff.mpr hne
  rw [List.length_append, List.length_append]
  omega

theorem Source.within_of_mem_lines {file source : Text} {line : Line}
    (h : line ∈ lines file source) : line.Within source.length := by
  obtain ⟨position, raw, hraw, -, rfl⟩ := mem_lines_iff.mp h
  refine ⟨?_, fun column hmem => ?_⟩
  · have hposition := (List.getElem?_eq_some_iff.mp hraw).1
    have hcount : source.count '\n' ≤ source.length := List.count_le_length
    rw [Text.length_splitOn] at hposition
    show ((position + 1 : Nat) : Int).natAbs ≤ _
    omega
  · obtain ⟨word, hword, rfl⟩ := List.mem_map.mp hmem
    have hcolumn := Word.column_le_of_mem_scan hword
    have hcode : (Line.code (Text.trimRight (· == '\r') raw)).length ≤
        (Text.trimRight (· == '\r') raw).length :=
      (List.takeWhile_sublist _).length_le
    have htrim : (Text.trimRight (· == '\r') raw).length ≤ raw.length := by
      obtain ⟨tail, heq, -⟩ := Text.exists_append_trimRight (· == '\r') raw
      have hlength := congrArg List.length heq
      rw [List.length_append] at hlength
      omega
    have hpiece := Text.length_le_of_mem_splitOn (List.mem_of_getElem? hraw)
    show ((word.column : Nat) : Int).natAbs ≤ _
    omega

/-! ### Instructions -/

namespace Instruction

variable {size : Nat} {instruction : Instruction} {diagnostic : Diagnostic}

/-- Every report of an instruction is of its line, at its own column or at that of a token. -/
theorem AtFault.location (h : instruction.AtFault diagnostic) :
    ∃ place, diagnostic.location = some place ∧ place.line = instruction.location.line ∧
      (place.column = instruction.location.column ∨ place.column ∈ instruction.columns) := by
  have hplace (position : Int) :
      (instruction.locationOf position).line = instruction.location.line ∧
        ((instruction.locationOf position).column = instruction.location.column ∨
          (instruction.locationOf position).column ∈ instruction.columns) := by
    unfold locationOf
    split
    · exact ⟨rfl, .inl rfl⟩
    · split
      · rename_i column hcolumn
        exact ⟨rfl, .inr (List.mem_of_getElem? hcolumn)⟩
      · exact ⟨rfl, .inl rfl⟩
  cases h with
  | missing _ => exact ⟨_, rfl, rfl, .inl rfl⟩
  | quoted _ _ => exact ⟨_, rfl, hplace _⟩
  | wrongCount _ _ _ => exact ⟨_, rfl, hplace _⟩

theorem AtFault.sourceLine (h : instruction.AtFault diagnostic) :
    diagnostic.sourceLine = instruction.sourceLine := by
  cases h <;> rfl

theorem AtFault.place?_eq_none (h : instruction.AtFault diagnostic) :
    diagnostic.cause.place? = none := by
  cases h with
  | missing _ => rfl
  | quoted _ hquotes => cases hquotes <;> rfl
  | wrongCount _ _ _ => rfl

/-- The reports of the instruction of a line show places of the text. -/
theorem AtFault.within {step : AddressStep} {address : Int} {index : Nat} {line : Line}
    (h : (ofLine step address index line).AtFault diagnostic) (hline : line.Within size) :
    diagnostic.Within size := by
  obtain ⟨place, hplace, hnumber, hcolumn⟩ := h.location
  refine ⟨fun found hfound => ?_, fun found hfound => ?_⟩
  · obtain rfl := Option.some.inj (hplace.symm.trans hfound)
    refine ⟨hnumber ▸ hline.location.1, ?_⟩
    rcases hcolumn with heq | hmem
    · exact heq ▸ hline.location.2
    · exact hline.columns _ (List.mem_of_mem_drop hmem)
  · rw [h.place?_eq_none] at hfound
    contradiction

end Instruction

/-! ### What is raised -/

/-- `Raises causes x` holds when `x` has a result, or fails with the written report of such a
cause. -/
inductive Raises {α : Type} (causes : Cause → Prop) : Except Raised α → Prop
  | ok (a : α) : Raises causes (.ok a)
  | failed {diagnostic : Diagnostic} (h : causes diagnostic.cause) :
      Raises causes (.error (.failed (.reported diagnostic) diagnostic.message))

/-- `instruction.Raises room x` holds when `x` has a result, fails with the written report that the
instruction cannot be encoded, or cannot write it at one of the places of the instruction. -/
inductive Instruction.Raises {α : Type} (room : Fin Text.lengthLimit) (instruction : Instruction) :
    Except Raised α → Prop
  | ok (a : α) : Raises room instruction (.ok a)
  | failed {diagnostic : Diagnostic} {place : Location} (hcause : diagnostic.cause.OfEncoding)
      (hplace : diagnostic.location = some place)
      (h : ∀ fault, ¬ place.Unwritable room instruction.sourceLine.isSome fault) :
      Raises room instruction (.error (.failed (.reported diagnostic) diagnostic.message))
  | unwritten {place : Location} {fault : WritingFault}
      (hline : place.line = instruction.location.line)
      (hcolumn : place.column = instruction.location.column ∨ place.column ∈ instruction.columns)
      (h : place.Unwritable room instruction.sourceLine.isSome fault) :
      Raises room instruction (.error (.unwritten fault))

section

variable {room : Fin Text.lengthLimit} {options : Options} {file source : Text}
  {diagnostic : Diagnostic}

/-- What would have resulted does not matter for what is raised. -/
theorem Instruction.Raises.of_error {α β : Type} {instruction : Instruction} {raised : Raised}
    (h : instruction.Raises room (.error raised : Except Raised α)) :
    instruction.Raises room (.error raised : Except Raised β) := by
  cases h with
  | failed hcause hplace h => exact .failed hcause hplace h
  | unwritten hline hcolumn h => exact .unwritten hline hcolumn h

/-- What an instruction fails with is raised as its report, unless that cannot be written. -/
theorem Instruction.encode_raises (room : Fin Text.lengthLimit) (labels : LabelTable Int)
    (instruction : Instruction) :
    instruction.Raises room ((instruction.encode labels).mapError (Failure.raised room)) := by
  have hreports := encode_reports labels instruction
  cases hencode : instruction.encode labels with
  | ok made => exact .ok made
  | error failure =>
      rw [hencode] at hreports
      cases hreports with
      | @reported diagnostic hcause =>
          have hfault := encode_blames labels instruction diagnostic hencode
          obtain ⟨place, hplace, hline, hcolumn⟩ := hfault.location
          simp only [Except.mapError, Failure.raised]
          rcases Diagnostic.write_of_place room hplace hfault.place?_eq_none with
            ⟨hwrite, hnone⟩ | ⟨fault, hwrite, hunwritable⟩
          · rw [hwrite]
            exact .failed hcause hplace (hfault.sourceLine ▸ hnone)
          · rw [hwrite]
            exact .unwritten hline hcolumn (hfault.sourceLine ▸ hunwritable)

/-- The reports of a source show places of its text. -/
theorem within_of_assemble (h : assemble options file source = .error (.reported diagnostic)) :
    diagnostic.Within source.length := by
  obtain hparse | ⟨parsed, hparse, hencoded⟩ := assemble_eq_error_iff.mp h
  · obtain ⟨step, strict⟩ := options
    cases strict with
    | false =>
        rw [Program.ofSource_eq_ok_iff.mpr ⟨.inl rfl, rfl⟩] at hparse
        contradiction
    | true =>
        obtain ⟨name, first, position, -, hfailure⟩ := Program.exists_repetition hparse
        obtain rfl := Failure.reported.inj hfailure
        have hplace (index : Nat) (place : Location)
            (hget : (Source.lines file source)[index]?.map Line.location = some place) :
            place.Within source.length := by
          obtain ⟨line, hline, rfl⟩ := Option.map_eq_some_iff.mp hget
          exact (Source.within_of_mem_lines (List.mem_of_getElem? hline)).location
        exact ⟨hplace position, hplace first⟩
  · obtain ⟨before, encodedBefore, instruction, after, hinstructions, -, hfails⟩ :=
      Program.encoded_eq_error_iff.mp hencoded
    have hfault := Instruction.encode_blames _ _ diagnostic hfails
    have hget : (Program.place options.addressStep programStart 0
        (Source.lines file source))[before.length]? = some instruction := by
      rw [← Program.instructions_of_ofSource hparse, hinstructions]
      simp
    rw [Program.getElem?_place] at hget
    obtain ⟨line, hline, rfl⟩ := Option.map_eq_some_iff.mp hget
    exact hfault.within (Source.within_of_mem_lines (List.mem_of_getElem? hline))

/-- Where there is memory for the blanks before a mark, a source raises nothing but written reports
that it cannot be parsed or encoded.  An instruction that is encoded on its own, and any program,
raises nothing but the report of an instruction, unless that cannot be written: because of a number
with more than 4300 digits, or of more blanks than a text can have or than there is memory for. -/
theorem assemble_raises (room : Fin Text.lengthLimit) :
    (∀ options file source, source.length + 4 ≤ room.val →
      Raises (Cause.OfAssembly options)
        ((assemble options file source).mapError (Failure.raised room))) ∧
    (∀ labels (instruction : Instruction),
      instruction.Raises room ((instruction.encode labels).mapError (Failure.raised room))) ∧
    ∀ (ι : Type) [DecidableEq ι] (program : SharedProgram ι) failure,
      program.encode.2 = some failure →
        ∃ object ∈ program.listed, (program.objects object).Raises room
          (.error (failure.raised room) : Except Raised (SharedProgram ι)) := by
  refine ⟨fun options file source hroom => ?source, Instruction.encode_raises room,
    fun ι _ program failure hfails => ?program⟩
  case source =>
    have hreports := (assemble_reports options file source).1
    cases hassemble : assemble options file source with
    | ok assembly => exact .ok assembly
    | error failure =>
        rw [hassemble] at hreports
        cases hreports with
        | @reported diagnostic hcause =>
            have hwrite := (within_of_assemble hassemble).write hroom
            simp only [Except.mapError, Failure.raised, hwrite]
            exact .failed hcause
  case program =>
    obtain ⟨before, object, after, hlisted, herror, -⟩ :=
      program.encode_stopsAt.first failure hfails
    have hraises := Instruction.encode_raises room program.addresses (program.objects object)
    rw [show (program.objects object).encode program.addresses = .error failure from herror]
      at hraises
    exact ⟨object, hlisted ▸ by simp, hraises.of_error⟩

/-- An unknown mnemonic in a source and one of an instruction that is put together by hand. -/
theorem assemble_raises_unknown :
    let room : Fin Text.lengthLimit := ⟨12, by decide⟩
    let program : SharedProgram Nat :=
      { objects := fun _ => { written := [], tokens := ["FOO".toList] }
        listed := [0]
        labels := {} }
    let diagnostic : Diagnostic :=
      ⟨.unknownMnemonic "FOO".toList, some ⟨[], 2, 1⟩, some "FOO".toList, some 1⟩
    (assemble {} [] "CLS\nFOO".toList).mapError (Failure.raised room) =
        .error (.failed (.reported diagnostic)
          ":2:1: error: unknown mnemonic 'FOO'\n    FOO\n    ^".toList) ∧
      Raises (Cause.OfAssembly {})
        ((assemble {} [] "CLS\nFOO".toList).mapError (Failure.raised room)) ∧
      ∃ failure, program.encode.2 = some failure ∧
        ∃ object ∈ program.listed, (program.objects object).Raises room
          (.error (failure.raised room) : Except Raised (SharedProgram Nat)) := by
  intro room program diagnostic
  obtain ⟨hsource, -, hprogram⟩ := assemble_raises room
  have hfails : program.encode.2.isSome = true := by
    decide +kernel
  obtain ⟨failure, hfailure⟩ := Option.isSome_iff_exists.mp hfails
  exact ⟨by decide +kernel, hsource {} [] _ (by decide), failure, hfailure,
    hprogram Nat program failure hfailure⟩

/-- Reports of places that are too far away: more blanks than a text can have, a number with more
than 4300 digits, and more blanks than there is memory for. -/
theorem encode_unwritten :
    let instruction (column : Int) : Instruction :=
      { written := ["FOO".toList], tokens := ["FOO".toList], sourceLine := some "FOO".toList,
        columns := [column] }
    ∀ room labels,
      ((instruction 0x8000000000000000).encode labels).mapError (Failure.raised room) =
        .error (.unwritten .length) ∧
      ((instruction (Text.valueIn 10 ('1' :: List.replicate 4300 '0'))).encode labels).mapError
        (Failure.raised room) = .error (.unwritten .digits) ∧
      (room.val + 4 < Text.lengthLimit →
        ((instruction (room.val + 1)).encode labels).mapError (Failure.raised room) =
          .error (.unwritten .memory)) := by
  intro instruction room labels
  have hunknown : Mnemonic.ofToken? "FOO".toList = none := by
    decide
  have hencode (column : Int) : (instruction column).encode labels =
      .error (.reported ⟨.unknownMnemonic "FOO".toList, some ⟨Location.unnamed, 0, column⟩,
        some "FOO".toList, some 0⟩) := by
    simp only [instruction, Instruction.encode, hunknown]
    rfl
  have hraised {column : Int} {fault : WritingFault}
      (h : (Location.mk Location.unnamed 0 column).Unwritable room true fault) :
      ((instruction column).encode labels).mapError (Failure.raised room) =
        .error (.unwritten fault) := by
    simp only [hencode, Except.mapError, Failure.raised]
    rw [Diagnostic.write_of_unwritable rfl rfl h]
  have hline : (Nat.toDigits 10 (0 : Int).natAbs).length ≤ 4300 := by
    decide
  refine ⟨hraised ?_, hraised ?_, fun hroom => hraised ?_⟩
  · exact .length hline (by decide +kernel) rfl (by decide)
  · exact .digits (.inr (by decide +kernel))
  · have hlimit : Text.lengthLimit = 0x8000000000000000 := rfl
    refine .memory hline ?_ rfl ?_ ?_ ?_
    · exact Location.length_toDigits_le (by simp only; omega)
    · simp only
      omega
    · simp only
      omega
    · simp only
      omega

end

end Chip8
