import Chip8.Proofs.Encoding
import Chip8.Proofs.References
import Chip8.SharedProgram

/-!
# Encoding instructions that are shared

What encoding sets of an object is never looked at when an object is encoded, neither by the object
itself nor through a label that is on it.  So what a run leaves is told by the set of the objects
that it has encoded: each of them is as encoding it alone makes it, all others are as they were.
-/

namespace Chip8

namespace Instruction

variable {labels : LabelTable Int} {instruction other encoded : Instruction}

/-- An instruction without what encoding sets. -/
def unencoded (instruction : Instruction) : Instruction :=
  { instruction with encoded := none, width := 0 }

/-- The number and the width that encoding sets depend on the tokens and the labels alone. -/
theorem encode_of_tokens_eq (htokens : other.tokens = instruction.tokens)
    (h : instruction.encode labels = .ok encoded) :
    other.encode labels =
      .ok { other with encoded := encoded.encoded, width := encoded.width } :=
  encode_of_resolves htokens h fun _ _ _ _ _ hvalue => hvalue

/-- Encoding sets nothing but the number and the width. -/
theorem unencoded_of_encode (h : instruction.encode labels = .ok encoded) :
    encoded.unencoded = instruction.unencoded := by
  rw [encode_eq_with h]
  rfl

/-- Encoding an encoded instruction leaves it as it is. -/
theorem encode_again (h : instruction.encode labels = .ok encoded) :
    encoded.encode labels = .ok encoded := by
  have htokens : encoded.tokens = instruction.tokens := by
    rw [encode_eq_with h]
  exact encode_of_tokens_eq htokens h

end Instruction

namespace SharedProgram

section Objects

variable {ι : Type} {program next last : SharedProgram ι} {object : ι} {list : List ι}

/-- What comes of encoding an object on its own. -/
def encodingOf (program : SharedProgram ι) (object : ι) : Except Failure Instruction :=
  (program.objects object).encode program.addresses

/-- Holds of an object that can be encoded. -/
def Encodes (program : SharedProgram ι) (object : ι) : Prop :=
  ∃ encoded, program.encodingOf object = .ok encoded

/-- What encoding an object fails with, if it does. -/
def failureOf? (program : SharedProgram ι) (object : ι) : Option Failure :=
  match program.encodingOf object with
  | .error failure => some failure
  | .ok _ => none

/-- What encoding the objects of a list on their own fails with first. -/
def firstFailure? (program : SharedProgram ι) (list : List ι) : Option Failure :=
  list.findSome? program.failureOf?

/-- The objects of a list before the first that cannot be encoded. -/
def reached (program : SharedProgram ι) (list : List ι) : List ι :=
  list.takeWhile fun object => (program.failureOf? object).isNone

/-- Holds of two programs when one is the other with the objects of a set encoded. -/
structure EncodedOn (program next : SharedProgram ι) (set : ι → Prop) : Prop where
  made : ∀ object, set object → program.encodingOf object = .ok (next.objects object)
  kept : ∀ object, ¬ set object → next.objects object = program.objects object
  listed : next.listed = program.listed
  labels : next.labels = program.labels

theorem failureOf?_eq_none_iff : program.failureOf? object = none ↔ program.Encodes object := by
  unfold failureOf? Encodes
  cases program.encodingOf object <;> simp

theorem failureOf?_eq_some_iff {failure : Failure} :
    program.failureOf? object = some failure ↔ program.encodingOf object = .error failure := by
  unfold failureOf?
  cases program.encodingOf object <;> simp

/-- An object that can be encoded comes before the first that cannot. -/
theorem encodes_of_mem_reached (h : object ∈ program.reached list) : program.Encodes object := by
  have hnone := List.all_eq_true.mp List.all_takeWhile object h
  exact failureOf?_eq_none_iff.mp (Option.isNone_iff_eq_none.mp hnone)

theorem reached_append {before : List ι} (h : ∀ earlier ∈ before, program.Encodes earlier)
    (after : List ι) : program.reached (before ++ after) = before ++ program.reached after := by
  unfold reached
  refine List.takeWhile_append_of_pos fun earlier hmem => ?_
  exact Option.isNone_iff_eq_none.mpr (failureOf?_eq_none_iff.mpr (h earlier hmem))

theorem reached_of_encodes (h : ∀ object ∈ list, program.Encodes object) :
    program.reached list = list := by
  simpa [reached] using reached_append h []

theorem reached_of_fails {before after : List ι} {failure : Failure}
    (hbefore : ∀ earlier ∈ before, program.Encodes earlier)
    (hfails : program.encodingOf object = .error failure) :
    program.reached (before ++ object :: after) = before := by
  have hsome := failureOf?_eq_some_iff.mpr hfails
  rw [reached_append hbefore]
  simp [reached, hsome]

theorem firstFailure?_eq_none_iff :
    program.firstFailure? list = none ↔ ∀ object ∈ list, program.Encodes object := by
  simp only [firstFailure?, List.findSome?_eq_none_iff, failureOf?_eq_none_iff]

theorem firstFailure?_eq_some_iff {failure : Failure} :
    program.firstFailure? list = some failure ↔
      ∃ before object after, list = before ++ object :: after ∧
        program.encodingOf object = .error failure ∧
        ∀ earlier ∈ before, program.Encodes earlier := by
  simp only [firstFailure?, List.findSome?_eq_some_iff, failureOf?_eq_none_iff,
    failureOf?_eq_some_iff]

/-! ### Sets of encoded objects -/

variable {set set' : ι → Prop}

theorem encodedOn_refl (program : SharedProgram ι) :
    program.EncodedOn program fun _ => False :=
  ⟨fun _ h => h.elim, fun _ _ => rfl, rfl, rfl⟩

/-- A set of encoded objects determines what is left of a program. -/
theorem EncodedOn.unique {other : SharedProgram ι} (h : program.EncodedOn next set)
    (hother : program.EncodedOn other set) : next = other := by
  have hobjects : next.objects = other.objects := by
    funext object
    by_cases hset : set object
    · exact Except.ok.inj ((h.made object hset).symm.trans (hother.made object hset))
    · exact (h.kept object hset).trans (hother.kept object hset).symm
  calc next
      = ⟨next.objects, next.listed, next.labels⟩ := rfl
    _ = ⟨other.objects, other.listed, other.labels⟩ := by
        rw [hobjects, h.listed, h.labels, hother.listed, hother.labels]

theorem EncodedOn.congr (h : program.EncodedOn next set)
    (hset : ∀ object, set object ↔ set' object) : program.EncodedOn next set' :=
  (funext fun object => propext (hset object) : set = set') ▸ h

/-- What encoding does not set is the same of all objects. -/
theorem EncodedOn.unencoded (h : program.EncodedOn next set) (object : ι) :
    (next.objects object).unencoded = (program.objects object).unencoded := by
  by_cases hset : set object
  · exact Instruction.unencoded_of_encode (h.made object hset)
  · rw [h.kept object hset]

theorem EncodedOn.addresses (h : program.EncodedOn next set) :
    next.addresses = program.addresses := by
  unfold SharedProgram.addresses
  rw [h.labels]
  refine congrArg (LabelTable.map · program.labels) (funext fun object => ?_)
  exact congrArg (·.address) (h.unencoded object)

/-- What comes of encoding an object is the same however much has been encoded. -/
theorem EncodedOn.encodingOf (h : program.EncodedOn next set) :
    next.encodingOf = program.encodingOf := by
  funext object
  unfold SharedProgram.encodingOf
  rw [h.addresses]
  by_cases hset : set object
  · have hmade := h.made object hset
    exact (Instruction.encode_again hmade).trans hmade.symm
  · rw [h.kept object hset]

/-- Encoding more objects encodes the objects of both sets. -/
theorem EncodedOn.trans (h : program.EncodedOn next set) (hlast : next.EncodedOn last set') :
    program.EncodedOn last fun object => set object ∨ set' object := by
  refine ⟨fun object hset => ?_, fun object hset => ?_, hlast.listed.trans h.listed,
    hlast.labels.trans h.labels⟩
  · by_cases hnew : set' object
    · rw [← h.encodingOf]
      exact hlast.made object hnew
    · rw [hlast.kept object hnew]
      exact h.made object (hset.resolve_right hnew)
  · rw [hlast.kept object fun hnew => hset (.inr hnew), h.kept object fun hold => hset (.inl hold)]

theorem failureOf?_congr (h : next.encodingOf = program.encodingOf) :
    next.failureOf? = program.failureOf? := by
  funext object
  unfold failureOf?
  rw [h]

theorem firstFailure?_congr (h : next.encodingOf = program.encodingOf) :
    next.firstFailure? = program.firstFailure? := by
  unfold firstFailure?
  rw [failureOf?_congr h]

theorem reached_congr (h : next.encodingOf = program.encodingOf) :
    next.reached = program.reached := by
  unfold reached
  rw [failureOf?_congr h]

/-- The instructions of a program are all encoded once every listed object has been. -/
theorem EncodedOn.isSome (h : program.EncodedOn next set)
    (hall : ∀ object ∈ program.listed, set object) :
    ∀ instruction ∈ next.instructions, instruction.encoded.isSome = true := by
  intro instruction hmem
  obtain ⟨object, hlisted, rfl⟩ := List.mem_map.mp hmem
  rw [h.listed] at hlisted
  exact (Instruction.encode_fits (h.made object (hall object hlisted))).isSome

end Objects

section Runs

variable {ι : Type} [DecidableEq ι] {program : SharedProgram ι} {object : ι}

/-- Putting what encoding makes of an object in its place encodes that object. -/
theorem encodedOn_replace {encoded : Instruction} (h : program.encodingOf object = .ok encoded) :
    program.EncodedOn (program.replace object encoded) (· = object) := by
  refine ⟨fun other heq => ?_, fun other hne => ?_, rfl, rfl⟩
  · subst heq
    simpa [replace] using h
  · simp [replace, hne]

theorem encodeObject_eq (program : SharedProgram ι) (object : ι) :
    program.encodeObject object =
      (program.encodingOf object).map fun encoded => program.replace object encoded := by
  unfold encodeObject encodingOf
  cases (program.objects object).encode program.addresses <;> rfl

/-- A run encodes the objects before the first that cannot be encoded, and fails as that one. -/
theorem encodeEach_encodedOn (program : SharedProgram ι) (list : List ι) :
    program.EncodedOn (program.encodeEach list).1 (· ∈ program.reached list) ∧
      (program.encodeEach list).2 = program.firstFailure? list := by
  induction list generalizing program with
  | nil => exact ⟨(encodedOn_refl program).congr fun object => by simp [reached], rfl⟩
  | cons object rest ih =>
      unfold encodeEach
      rw [encodeObject_eq]
      cases hencoding : program.encodingOf object with
      | error failure =>
          have hsome := failureOf?_eq_some_iff.mpr hencoding
          refine ⟨(encodedOn_refl program).congr fun other => ?_, ?_⟩
          · simp [reached, hsome]
          · simp [firstFailure?, hsome, Except.map]
      | ok encoded =>
          have hnone := failureOf?_eq_none_iff.mpr ⟨encoded, hencoding⟩
          have hfirst := encodedOn_replace hencoding
          obtain ⟨hrest, hfailed⟩ := ih (program.replace object encoded)
          rw [reached_congr hfirst.encodingOf] at hrest
          rw [firstFailure?_congr hfirst.encodingOf] at hfailed
          refine ⟨(hfirst.trans hrest).congr fun other => ?_, ?_⟩
          · simp [reached, hnone]
          · simpa [firstFailure?, hnone, Except.map] using hfailed

/-- Runs over one list end alike on programs that differ only in objects that both encode. -/
theorem encodeEach_congr {other : SharedProgram ι} {list : List ι}
    (hlisted : other.listed = program.listed) (hlabels : other.labels = program.labels)
    (hencodings : other.encodingOf = program.encodingOf)
    (hobjects : ∀ object, object ∈ program.reached list ∨
      other.objects object = program.objects object) :
    other.encodeEach list = program.encodeEach list := by
  obtain ⟨hother, hotherFailed⟩ := encodeEach_encodedOn other list
  obtain ⟨hprogram, hprogramFailed⟩ := encodeEach_encodedOn program list
  rw [reached_congr hencodings] at hother
  have hsame : program.EncodedOn (other.encodeEach list).1 (· ∈ program.reached list) := by
    refine ⟨fun object hmem => ?_, fun object hmem => ?_, hother.listed.trans hlisted,
      hother.labels.trans hlabels⟩
    · rw [← hencodings]
      exact hother.made object hmem
    · rw [hother.kept object hmem]
      exact (hobjects object).resolve_left hmem
  refine Prod.ext (hsame.unique hprogram) ?_
  rw [hotherFailed, hprogramFailed, firstFailure?_congr hencodings]

/-! ### The first object that fails -/

/-- Holds of what a run over the listed objects leaves and fails with, if it stops at the first of
them that fails on its own, and if it changes nothing but the numbers and widths of the objects that
are listed before. -/
structure StopsAtFirst (program made : SharedProgram ι) (failed : Option Failure) : Prop where
  fails_iff : (∃ failure, failed = some failure) ↔
    ∃ object ∈ program.listed, ∃ failure, program.encodingOf object = .error failure
  first : ∀ failure, failed = some failure →
    ∃ before object after, program.listed = before ++ object :: after ∧
      program.encodingOf object = .error failure ∧
      (∀ earlier ∈ before, program.encodingOf earlier = .ok (made.objects earlier)) ∧
      ∀ other, other ∉ before → made.objects other = program.objects other
  all : failed = none →
    (∀ object ∈ program.listed, program.encodingOf object = .ok (made.objects object)) ∧
      ∀ other, other ∉ program.listed → made.objects other = program.objects other
  kept : ∀ object, (made.objects object).unencoded = (program.objects object).unencoded
  listed : made.listed = program.listed
  labels : made.labels = program.labels
  addresses : made.addresses = program.addresses

theorem encode_stopsAt (program : SharedProgram ι) :
    program.StopsAtFirst program.encode.1 program.encode.2 := by
  obtain ⟨hencoded, hfailed⟩ := encodeEach_encodedOn program program.listed
  change program.EncodedOn program.encode.1 _ at hencoded
  change program.encode.2 = _ at hfailed
  rw [hfailed]
  refine ⟨?_, fun failure hfails => ?_, fun hnone => ?_, hencoded.unencoded, hencoded.listed,
    hencoded.labels, hencoded.addresses⟩
  · constructor
    · rintro ⟨failure, hfails⟩
      obtain ⟨before, object, after, hlisted, herror, -⟩ := firstFailure?_eq_some_iff.mp hfails
      exact ⟨object, hlisted ▸ by simp, failure, herror⟩
    · rintro ⟨object, hmem, failure, herror⟩
      rw [← Option.isSome_iff_exists, ← Option.ne_none_iff_isSome]
      intro hnone
      obtain ⟨encoded, hencoding⟩ := firstFailure?_eq_none_iff.mp hnone object hmem
      rw [herror] at hencoding
      contradiction
  · obtain ⟨before, object, after, hlisted, herror, hbefore⟩ :=
      firstFailure?_eq_some_iff.mp hfails
    rw [hlisted, reached_of_fails hbefore herror] at hencoded
    exact ⟨before, object, after, hlisted, herror, hencoded.made, hencoded.kept⟩
  · rw [reached_of_encodes (firstFailure?_eq_none_iff.mp hnone)] at hencoded
    exact ⟨hencoded.made, hencoded.kept⟩

end Runs

end SharedProgram

end Chip8
