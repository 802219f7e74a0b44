import Chip8.Proofs.FirstFailure

/-!
# Calls in any order

The instructions of a program may be encoded one at a time or all together, again and again, and
calls that fail may stand in between.  What encoding sets is never looked at by encoding, so every
call ends as it would on the program as it was at first.  After any calls an instruction is as it
was or as encoding it once makes it, and the order of the calls is forgotten.
-/

namespace Chip8

/-- A call that encodes one instruction, or all that are listed in order. -/
inductive Call (ι : Type)
  | one (object : ι)
  | all
  deriving DecidableEq, Repr

/-- The objects that a call goes through in a program that lists the given ones. -/
def Call.objects {ι : Type} (listed : List ι) : Call ι → List ι
  | .one object => [object]
  | .all => listed

namespace SharedProgram

/-- Gives an object other tokens. -/
def withTokens {ι : Type} [DecidableEq ι] (program : SharedProgram ι) (object : ι)
    (tokens : List Token) : SharedProgram ι :=
  program.replace object { program.objects object with tokens := tokens }

section

variable {ι : Type} [DecidableEq ι]

/-- What a call leaves of a program, and what it fails with. -/
def run (program : SharedProgram ι) : Call ι → SharedProgram ι × Option Failure
  | .one object =>
      match program.encodeObject object with
      | .ok made => (made, none)
      | .error failure => (program, some failure)
  | .all => program.encode

/-- What calls leave of a program, one made after the other whether or not they fail. -/
def runAll (program : SharedProgram ι) : List (Call ι) → SharedProgram ι
  | [] => program
  | call :: rest => (program.run call).1.runAll rest

end

variable {ι : Type} {program other : SharedProgram ι} {object : ι} {call : Call ι}
  {calls : List (Call ι)}

/-- Holds when a call encodes an object: a call for that object if it can be encoded, and a call for
all if it is listed before the first that cannot. -/
def Settles (program : SharedProgram ι) (object : ι) (call : Call ι) : Prop :=
  object ∈ program.reached (call.objects program.listed)

/-! ### One call -/

section

variable [DecidableEq ι]

/-- A call goes through its objects up to the first that cannot be encoded. -/
theorem run_eq_encodeEach (program : SharedProgram ι) (call : Call ι) :
    program.run call = program.encodeEach (call.objects program.listed) := by
  cases call with
  | one object =>
      simp only [run, Call.objects, encodeEach]
      cases program.encodeObject object <;> rfl
  | all => rfl

theorem run_encodedOn (program : SharedProgram ι) (call : Call ι) :
    program.EncodedOn (program.run call).1 fun object => program.Settles object call := by
  rw [run_eq_encodeEach]
  exact (encodeEach_encodedOn program _).1

theorem run_failure (program : SharedProgram ι) (call : Call ι) :
    (program.run call).2 = program.firstFailure? (call.objects program.listed) := by
  rw [run_eq_encodeEach]
  exact (encodeEach_encodedOn program _).2

end

/-- Which calls encode an object depends on what comes of encoding each on its own. -/
theorem settles_congr (hlisted : other.listed = program.listed)
    (hencodings : other.encodingOf = program.encodingOf) :
    other.Settles object call ↔ program.Settles object call := by
  unfold Settles
  rw [hlisted, reached_congr hencodings]

/-! ### Many calls -/

section

variable [DecidableEq ι]

/-- Calls encode the objects that one of them encodes. -/
theorem runAll_encodedOn (program : SharedProgram ι) (calls : List (Call ι)) :
    program.EncodedOn (program.runAll calls) fun object =>
      ∃ call ∈ calls, program.Settles object call := by
  induction calls generalizing program with
  | nil => exact (encodedOn_refl program).congr fun object => by simp
  | cons call rest ih =>
      have hfirst := run_encodedOn program call
      refine (hfirst.trans (ih _)).congr fun object => ?_
      simp only [settles_congr hfirst.listed hfirst.encodingOf, List.exists_mem_cons_iff]

/-- Calls that encode the same objects leave the same program. -/
theorem runAll_congr {others : List (Call ι)}
    (h : ∀ object, (∃ call ∈ calls, program.Settles object call) ↔
      ∃ call ∈ others, program.Settles object call) :
    program.runAll calls = program.runAll others :=
  ((runAll_encodedOn program calls).congr h).unique (runAll_encodedOn program others)

theorem runAll_failure (program : SharedProgram ι) (calls : List (Call ι)) (call : Call ι) :
    ((program.runAll calls).run call).2 = (program.run call).2 := by
  have hencoded := runAll_encodedOn program calls
  rw [run_failure, run_failure, hencoded.listed, firstFailure?_congr hencoded.encodingOf]

/-! ### Runs over all objects -/

theorem encode_again (program : SharedProgram ι) : program.encode.1.encode = program.encode := by
  have hencoded := run_encodedOn program .all
  show program.encode.1.encodeEach program.encode.1.listed = program.encodeEach program.listed
  rw [show program.encode.1.listed = program.listed from hencoded.listed]
  refine encodeEach_congr hencoded.listed hencoded.labels hencoded.encodingOf fun object => ?_
  by_cases hsettles : program.Settles object .all
  · exact .inl hsettles
  · exact .inr (hencoded.kept object hsettles)

/-- If every object can be encoded, single calls for all of them do what a run does. -/
theorem runAll_of_same_objects {order : List ι} (h : program.encode.2 = none)
    (horder : ∀ object, object ∈ order ↔ object ∈ program.listed) :
    program.runAll (order.map .one) = program.encode.1 := by
  have hencodes : ∀ object ∈ program.listed, program.Encodes object :=
    firstFailure?_eq_none_iff.mp ((run_failure program .all).symm.trans h)
  show program.runAll (order.map .one) = program.runAll [.all]
  refine runAll_congr fun object => ?_
  have hone {other : ι} (hmem : other ∈ order) : program.reached [other] = [other] :=
    reached_of_encodes fun found hfound =>
      List.mem_singleton.mp hfound ▸ hencodes other ((horder other).mp hmem)
  constructor
  · rintro ⟨call, hmem, hsettles⟩
    obtain ⟨other, hother, rfl⟩ := List.mem_map.mp hmem
    have heq : object ∈ [other] := hone hother ▸ hsettles
    obtain rfl := List.mem_singleton.mp heq
    refine ⟨.all, List.mem_singleton_self _, ?_⟩
    show object ∈ program.reached program.listed
    rw [reached_of_encodes hencodes]
    exact (horder object).mp hother
  · rintro ⟨call, hmem, hsettles⟩
    obtain rfl := List.mem_singleton.mp hmem
    have hlisted : object ∈ program.listed := List.takeWhile_subset _ hsettles
    have hordered := (horder object).mpr hlisted
    refine ⟨.one object, List.mem_map_of_mem hordered, ?_⟩
    show object ∈ program.reached [object]
    rw [hone hordered]
    exact List.mem_singleton_self object

theorem image_encode (h : program.encode.2 = none) :
    ∃ bytes, image program.encode.1.instructions = .ok bytes := by
  have hencodes : ∀ object ∈ program.listed, program.Encodes object :=
    firstFailure?_eq_none_iff.mp ((run_failure program .all).symm.trans h)
  refine ⟨_, image_of_encoded ((run_encodedOn program .all).isSome fun object hmem => ?_)⟩
  show object ∈ program.reached program.listed
  rwa [reached_of_encodes hencodes]

/-! ### Other tokens -/

theorem addresses_withTokens (program : SharedProgram ι) (object : ι) (tokens : List Token) :
    (program.withTokens object tokens).addresses = program.addresses := by
  unfold addresses
  refine congrArg (LabelTable.map · program.labels) (funext fun other => ?_)
  by_cases heq : other = object
  · simp [withTokens, replace, heq]
  · simp [withTokens, replace, heq]

theorem objects_withTokens_of_ne (program : SharedProgram ι) {tokens : List Token} {other : ι}
    (hne : other ≠ object) :
    (program.withTokens object tokens).objects other = program.objects other := by
  simp [withTokens, replace, hne]

theorem encodingOf_withTokens_of_ne (program : SharedProgram ι) {tokens : List Token} {other : ι}
    (hne : other ≠ object) :
    (program.withTokens object tokens).encodingOf other = program.encodingOf other := by
  unfold encodingOf
  rw [addresses_withTokens, objects_withTokens_of_ne program hne]

/-- After a run that failed, other tokens for the object that stopped it have the effect that they
would have had before. -/
theorem encode_mended {before after : List ι} {failure : Failure}
    (hlisted : program.listed = before ++ object :: after)
    (hfails : program.encodingOf object = .error failure)
    (hbefore : ∀ earlier ∈ before, program.Encodes earlier) (tokens : List Token) :
    (program.encode.1.withTokens object tokens).encode =
      (program.withTokens object tokens).encode := by
  have hencoded := run_encodedOn program .all
  have hset : program.EncodedOn program.encode.1 (· ∈ before) := by
    refine hencoded.congr fun other => ?_
    unfold Settles Call.objects
    rw [hlisted, reached_of_fails hbefore hfails]
  have hnot : object ∉ before := by
    intro hmem
    obtain ⟨encoded, hencoding⟩ := hbefore object hmem
    rw [hfails] at hencoding
    contradiction
  have hsame : (program.encode.1.withTokens object tokens).objects object =
      (program.withTokens object tokens).objects object := by
    simp only [withTokens, hset.kept object hnot, replace]
  have hencodings : (program.encode.1.withTokens object tokens).encodingOf =
      (program.withTokens object tokens).encodingOf := by
    funext other
    by_cases heq : other = object
    · subst heq
      unfold encodingOf
      rw [hsame, addresses_withTokens, addresses_withTokens, hset.addresses]
    · rw [encodingOf_withTokens_of_ne _ heq, encodingOf_withTokens_of_ne _ heq, hset.encodingOf]
  show (program.encode.1.withTokens object tokens).encodeEach program.encode.1.listed = _
  rw [show program.encode.1.listed = program.listed from hset.listed]
  refine encodeEach_congr hset.listed hset.labels hencodings fun other => ?_
  by_cases hmem : other ∈ before
  · -- what is listed before the mended object is encoded by both runs
    refine .inl ?_
    have hencodes : ∀ earlier ∈ before, (program.withTokens object tokens).Encodes earlier := by
      intro earlier hearlier
      obtain ⟨encoded, hencoding⟩ := hbefore earlier hearlier
      refine ⟨encoded, (encodingOf_withTokens_of_ne _ ?_).trans hencoding⟩
      rintro rfl
      exact hnot hearlier
    rw [hlisted, reached_append hencodes]
    exact List.mem_append_left _ hmem
  · refine .inr ?_
    by_cases heq : other = object
    · rw [heq, hsame]
    · rw [objects_withTokens_of_ne _ heq, objects_withTokens_of_ne _ heq, hset.kept other hmem]

/-! ### Calls in any order -/

/-- Holds of a program when it does not matter in which order its instructions are encoded, how
often, and what fails in between.  Every call fails as it does on the program itself, and leaves an
instruction as encoding it on its own makes it or untouched.  So a second run over all instructions
changes nothing, single calls in any order do what a run does, and a run that failed can be taken up
again once the instruction that stopped it has other tokens. -/
structure OrderFree (program : SharedProgram ι) : Prop where
  failure : ∀ calls call, ((program.runAll calls).run call).2 = (program.run call).2
  encoding : ∀ calls, (program.runAll calls).encodingOf = program.encodingOf
  settled : ∀ calls object, (∃ call ∈ calls, program.Settles object call) →
    program.encodingOf object = .ok ((program.runAll calls).objects object)
  unsettled : ∀ calls object, (∀ call ∈ calls, ¬ program.Settles object call) →
    (program.runAll calls).objects object = program.objects object
  labels : ∀ calls, (program.runAll calls).listed = program.listed ∧
    (program.runAll calls).labels = program.labels ∧
    (program.runAll calls).addresses = program.addresses
  again : program.encode.1.encode = program.encode
  permuted : program.encode.2 = none →
    ∀ order : List ι, (∀ object, object ∈ order ↔ object ∈ program.listed) →
      program.runAll (order.map .one) = program.encode.1 ∧
        ∃ bytes, image (program.runAll (order.map .one)).instructions = .ok bytes ∧
          image program.encode.1.instructions = .ok bytes
  mended : ∀ failure, program.encode.2 = some failure →
    ∃ before object after, program.listed = before ++ object :: after ∧
      program.encodingOf object = .error failure ∧
      (∀ earlier ∈ before, program.Encodes earlier) ∧
      ∀ tokens, (program.encode.1.withTokens object tokens).encode =
        (program.withTokens object tokens).encode

theorem orderFree (program : SharedProgram ι) : program.OrderFree where
  failure := runAll_failure program
  encoding calls := (runAll_encodedOn program calls).encodingOf
  settled calls object h := (runAll_encodedOn program calls).made object h
  unsettled calls object h := (runAll_encodedOn program calls).kept object
    fun ⟨call, hmem, hsettles⟩ => h call hmem hsettles
  labels calls :=
    have hencoded := runAll_encodedOn program calls
    ⟨hencoded.listed, hencoded.labels, hencoded.addresses⟩
  again := encode_again program
  permuted h order horder := by
    obtain ⟨bytes, hbytes⟩ := image_encode h
    have hsame := runAll_of_same_objects h horder
    exact ⟨hsame, bytes, hsame ▸ hbytes, hbytes⟩
  mended failure h := by
    obtain ⟨before, object, after, hlisted, hfails, hbefore⟩ :=
      firstFailure?_eq_some_iff.mp ((run_failure program .all).symm.trans h)
    exact ⟨before, object, after, hlisted, hfails, hbefore, encode_mended hlisted hfails hbefore⟩

end

/-- Instructions may be encoded in any order and any number of times, and what encoding sets is
decided by the tokens and the labels. -/
theorem encode_orderFree :
    (∀ (ι : Type) [DecidableEq ι] (program : SharedProgram ι), program.OrderFree) ∧
      ∀ labels (instruction other encoded : Instruction), other.tokens = instruction.tokens →
        instruction.encode labels = .ok encoded →
        other.encode labels =
          .ok { other with encoded := encoded.encoded, width := encoded.width } :=
  ⟨fun _ _ program => program.orderFree,
    fun _ _ _ _ htokens h => Instruction.encode_of_tokens_eq htokens h⟩

/-- An object that is listed twice and jumps to one that is not listed: calls before and after the
one that fails encode it, and the program is complete once the object that fails has been mended. -/
theorem encode_orderFree_interrupted :
    let program : SharedProgram Nat := {
      objects := fun object =>
        if object = 0 then { written := [], tokens := ["JP".toList, "A".toList] }
        else if object = 1 then { written := [], tokens := ["BAD".toList] }
        else { written := [], tokens := [], address := 0x300 }
      listed := [0, 1, 0]
      labels := { bindings := [⟨"A".toList, 2⟩] } }
    let calls : List (Call Nat) := [.one 1, .one 0, .all]
    ∃ made failure, made.encoded = some 0x1300 ∧
      (program.runAll calls).objects 0 = made ∧
      (program.runAll calls).objects 1 = program.objects 1 ∧
      (∀ address, Instruction.encode program.addresses
          { program.objects 0 with address := address } = .ok { made with address := address }) ∧
      program.encode.2 = some failure ∧
      (program.encode.1.withTokens 1 ["CLS".toList]).encode =
        (program.withTokens 1 ["CLS".toList]).encode := by
  intro program calls
  obtain ⟨horder, htokens⟩ := encode_orderFree
  have hfree := horder Nat program
  have hnumber : (program.encodingOf 0).toOption.map (·.encoded) = some (some 0x1300) := by
    decide +kernel
  obtain ⟨made, hmade, hencoded⟩ := Option.map_eq_some_iff.mp hnumber
  have hencoding : program.encodingOf 0 = .ok made := by
    cases hresult : program.encodingOf 0 with
    | error failure => simp [hresult, Except.toOption] at hmade
    | ok found => simpa [hresult, Except.toOption] using hmade
  have hsettled : program.Settles 0 (.one 0) := by
    have hnone := failureOf?_eq_none_iff.mpr ⟨made, hencoding⟩
    simp [Settles, Call.objects, reached, hnone]
  have hfails : (program.failureOf? 1).isSome = true := by decide +kernel
  obtain ⟨failure, hfailure⟩ := Option.isSome_iff_exists.mp hfails
  have hnever : ¬ program.Encodes 1 := fun hencodes => by
    rw [failureOf?_eq_none_iff.mpr hencodes] at hfailure
    contradiction
  have hencode : program.encode.2 = some failure := by
    rw [← hfailure]
    decide +kernel
  have hone := hfree.settled calls 0 ⟨.one 0, by simp [calls], hsettled⟩
  rw [hencoding] at hone
  obtain ⟨before, object, after, hlisted, herror, -, hmended⟩ := hfree.mended failure hencode
  have hobject : object = 1 := by
    have hmem : object ∈ program.listed := hlisted ▸ by simp
    have hne : object ≠ 0 := by
      rintro rfl
      rw [hencoding] at herror
      contradiction
    simpa [program, hne] using hmem
  refine ⟨made, failure, hencoded, (Except.ok.inj hone).symm, ?_, ?_, hencode, ?_⟩
  · exact hfree.unsettled calls 1 fun call _ hsettles => hnever (encodes_of_mem_reached hsettles)
  · intro address
    have heq := htokens program.addresses (program.objects 0)
      { program.objects 0 with address := address } made rfl hencoding
    have hkept := Instruction.encode_eq_with hencoding
    rw [heq, hkept]
  · exact hobject ▸ hmended _

end SharedProgram

end Chip8
