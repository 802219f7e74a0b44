import Chip8.Proofs.Desk

/-!
# What a run leaves behind

A run that succeeds writes the image and the listing of its source, and nothing else.  A run whose
program is to blame writes nothing.  Any other run that fails writes nothing either, unless its
source is assembled: the image is written before the listing, and neither is taken back.
-/

namespace Chip8.CommandLine

section

variable {σ F : Type} [Disk (StateM σ)] [Console (StateM σ)]

/-! ### Tasks -/

/-- Holds when a run is to assemble a source with some options: the front calls the command, the
options are those that are settled, and the source is the text that the bytes of the input spell,
with every end of a line as one line feed. -/
structure Task (view : FileView σ F) (front : Front (StateM σ)) (environment : Environment)
    (words : List Text) (s : σ) (call : Call) (options : Options) (source : Text) : Prop where
  called : ∃ s', (front environment words).run s = (.called call, s')
  settled : Settled environment call options
  sourced : view.Sourced s call.input source

variable {view : FileView σ F} {front : Front (StateM σ)} {environment : Environment}
  {words : List Text} {s s' t : σ} {status : Nat} {request : Request} {call other : Call}
  {options : Options} {source : Text} {assembly : Assembly} {diagnostic : Diagnostic}
  {result : Except Interruption Unit} {interruption : Interruption} {ending : Ending} {file : F}

omit [Disk (StateM σ)] [Console (StateM σ)] in
theorem Task.of_follows (hcalled : (front environment words).run s = (.called call, t))
    (hfollows : request.Follows environment call)
    (hsource : view.Sourced s request.input source) :
    Task view front environment words s call request.options source :=
  ⟨⟨t, hcalled⟩, hfollows.options, hfollows.input ▸ hsource⟩

omit [Disk (StateM σ)] [Console (StateM σ)] in
/-- The source of a file is one text. -/
theorem FileView.Sourced.unique {path : Path} {other : Text} (h : view.Sourced s path source)
    (h' : view.Sourced s path other) (hfile : view.entry s path = .file file) :
    source = other := by
  obtain ⟨bytes, text, hholds, hdecoded, rfl⟩ := h
  obtain ⟨bytes', text', hholds', hdecoded', rfl⟩ := h'
  obtain rfl := hholds.unique hholds' hfile
  rw [Except.ok.inj (hdecoded.symm.trans hdecoded')]

/-- A task that is refused is performed as such, unless its file cannot be read. -/
theorem Performed.cases_of_refused (hview : view.Lawful)
    (h : Performed view request s s' result)
    (hfollows : request.Follows environment call)
    (htask : Task view front environment words s call options source)
    (hfile : view.entry s call.input = .file file)
    (hfails : assemble options call.input.text source = .error (.reported diagnostic)) :
    result = .error (.trouble (.program (.reported diagnostic))) ∨
      ∃ before fault, view.Touched [] s before ∧
        (Disk.read call.input : StateM σ _).run before = (.error fault, s') ∧
        result = .error (.trouble (.file fault)) := by
  obtain rfl := hfollows.options.unique htask.settled
  rw [← hfollows.input] at hfile hfails
  have hsourced : view.Sourced s request.input source := hfollows.input ▸ htask.sourced
  have hrefuted {made : Text} {assembly : Assembly} (hmade : view.Sourced s request.input made)
      (h : assemble request.options request.input.text made = .ok assembly) : False := by
    obtain rfl := hmade.unique hsourced hfile
    rw [h] at hfails
    contradiction
  cases h with
  | @unread before cause hbefore hread =>
      rw [← hbefore.entry_eq] at hfile
      obtain ⟨fault, rfl, hfault⟩ :=
        exists_fault_of_readSource hview hfile (hbefore.sourced_iff.mpr hsourced) hread
      exact .inr ⟨before, fault, hbefore, hfollows.input ▸ hfault, rfl⟩
  | refused hsource hrefused =>
      obtain rfl := hsource.unique hsourced hfile
      rw [hfails] at hrefused
      rw [Except.error.inj hrefused]
      exact .inl rfl
  | stopped hsource hmade => exact (hrefuted hsource hmade).elim
  | done hsource hmade => exact (hrefuted hsource hmade).elim

/-- The program is to blame only when its source is read and refused, and nothing is written. -/
theorem Performed.exists_of_blamed (hview : view.Lawful)
    (h : Performed view request s s' (.error interruption))
    (hblamed : (Blame.ofInterruption interruption).exitCode.number = 1) :
    ∃ source diagnostic, view.Sourced s request.input source ∧
      assemble request.options request.input.text source = .error (.reported diagnostic) ∧
      view.Touched [] s s' := by
  obtain ⟨diagnostic, rfl⟩ := Blame.ofInterruption_eq_program_iff.mp
    (Blame.number_exitCode_eq_one_iff.mp hblamed)
  cases h with
  | unread _ hread =>
      exact absurd rfl ((touched_of_readSource hview hread).2.2 (.reported diagnostic))
  | refused hsource hfails htouched => exact ⟨_, diagnostic, hsource, hfails, htouched⟩
  | stopped _ _ hcause => exact absurd rfl (hcause (.reported diagnostic))

/-! ### Files that are written -/

/-- The ways in which a run fails after it has begun to write, with the rest of the run. -/
inductive Failed (view : FileView σ F) (s s' : σ) (call : Call) (output : Path)
    (assembly : Assembly) (status : Nat) : Prop
  /-- The run is interrupted, and complains. -/
  | interrupted {t : σ} {interruption : Interruption}
      (hspoiled : Spoiled view s t output call.listing assembly interruption)
      (hrest : (do finish (← abandon interruption call.verbose) : StateM σ Nat).run t =
        (status, s'))
      (hafter : view.Touched [] t s')
  /-- All is written, and the console cannot be closed. -/
  | unclosed {t : σ} {fault : ConsoleFault}
      (hwritten : Written view s t output call.listing assembly)
      (hclose : (Console.close : StateM σ _).run t = (.error fault, s'))
      (hstatus : status = unclosedStatus) (hafter : view.Touched [] t s')

/-- What is left by an interruption: nothing has changed, or some files are written. -/
theorem Performed.touched_or_spoiled (hview : view.Lawful)
    (h : Performed view request s s' (.error interruption)) :
    view.Touched [] s s' ∨
      ∃ source assembly, view.Sourced s request.input source ∧
        assemble request.options request.input.text source = .ok assembly ∧
        Spoiled view s s' request.output request.listing assembly interruption := by
  cases h with
  | unread hbefore hread => exact .inl (hbefore.trans (touched_of_readSource hview hread).1)
  | refused _ _ htouched => exact .inl htouched
  | stopped hsource hmade _ hleft =>
      exact hleft.imp_right fun hspoiled => ⟨_, _, hsource, hmade, hspoiled⟩

/-- A run changes no file, or its source is assembled; then the image and the listing are written if
it succeeds, and if it fails they may be written in part. -/
theorem cases_of_run (hview : view.Lawful) (hfront : front.Lawful view)
    (h : (run front environment words : StateM σ Nat).run s = (status, s')) :
    (view.Touched [] s s' ∧
        (status = 0 → ∃ t, (front environment words).run s = (.ended 0, t))) ∨
      ∃ call options source assembly output,
        Task view front environment words s call options source ∧
          assemble options call.input.text source = .ok assembly ∧
          call.imagePath? = some output ∧
          (status = 0 ∧ Written view s s' output call.listing assembly ∨
            status ≠ 0 ∧ Failed view s s' call output assembly status) := by
  unfold run at h
  obtain ⟨ending, t, hobey, hfinish⟩ := exists_of_run_bind h
  obtain ⟨hafter, hstatus⟩ := touched_of_finish hview hfinish
  have hnonzero (hending : ending.status ≠ 0) : status ≠ 0 := by
    rcases hstatus with rfl | ⟨rfl, -⟩
    · exact hending
    · decide
  cases obeyed_of_obey hview hfront hobey with
  | @answered code hended =>
      refine .inl ⟨(hfront.touched hended).trans hafter, fun hzero => ?_⟩
      rcases hstatus with hsame | ⟨hunclosed, -⟩
      · obtain rfl : code = 0 := hsame.symm.trans hzero
        exact ⟨t, hended⟩
      · rw [hunclosed] at hzero
        contradiction
  | unannounced htouched =>
      exact .inl ⟨htouched.trans hafter, fun hzero => absurd hzero (hnonzero (by decide))⟩
  | returned hcalled hfollows hperformed =>
      cases hperformed with
      | done hsource hmade hwritten =>
          rw [hfollows.listing] at hwritten
          refine .inr ⟨_, _, _, _, _, .of_follows hcalled hfollows hsource, hfollows.input ▸ hmade,
            hfollows.output, ?_⟩
          rcases hstatus with rfl | ⟨rfl, fault, hclose⟩
          · exact .inl ⟨rfl, hwritten.trans hafter⟩
          · -- nothing is left to be written, and yet the run fails
            exact .inr ⟨by decide, .unclosed hwritten hclose rfl hafter⟩
  | abandoned hcalled hfollows hperformed habandoned =>
      have htold := (touched_of_complain hview habandoned).1
      have hfails := hnonzero (status_ne_zero_of_abandon hview habandoned)
      rcases hperformed.touched_or_spoiled hview with
        htouched | ⟨source, assembly, hsource, hmade, hspoiled⟩
      · exact .inl ⟨(htouched.trans htold).trans hafter, fun hzero => absurd hzero hfails⟩
      · rw [hfollows.listing] at hspoiled
        refine .inr ⟨_, _, source, assembly, _, .of_follows hcalled hfollows hsource,
          hfollows.input ▸ hmade, hfollows.output,
          .inr ⟨hfails, .interrupted hspoiled ?_ (htold.trans hafter)⟩⟩
        -- the complaint and the end are what is left of the run
        rw [StateT.run_bind, habandoned]
        exact hfinish

/-! ### Runs that succeed, and programs that are to blame -/

theorem Obeyed.cases_of_one (hview : view.Lawful) (hfront : front.Lawful view)
    (h : Obeyed view front environment words s s' ending) (hone : ending.status = 1) :
    ((∃ t, (front environment words).run s = (.ended 1, t)) ∧ view.Touched [] s s') ∨
      ((∃ call options source diagnostic,
          Task view front environment words s call options source ∧
            assemble options call.input.text source = .error (.reported diagnostic)) ∧
        view.Touched [] s s') ∨
      ending = .raised ∧ Unprinted s' := by
  cases h with
  | @answered status hended =>
      obtain rfl : status = 1 := hone
      exact .inl ⟨⟨s', hended⟩, hfront.touched hended⟩
  | unannounced _ hunprinted => exact .inr (.inr ⟨rfl, hunprinted⟩)
  | returned => contradiction
  | abandoned hcalled hfollows hperformed habandoned =>
      obtain ⟨htold, rfl | ⟨rfl, hunprinted⟩⟩ := touched_of_complain hview habandoned
      · obtain ⟨source, diagnostic, hsource, hfails, htouched⟩ :=
          hperformed.exists_of_blamed hview hone
        exact .inr (.inl ⟨⟨_, _, source, diagnostic, .of_follows hcalled hfollows hsource,
          hfollows.input ▸ hfails⟩, htouched.trans htold⟩)
      · exact .inr (.inr ⟨rfl, hunprinted⟩)

theorem Obeyed.status_of_refused (hview : view.Lawful)
    (h : Obeyed view front environment words s s' ending)
    (htask : Task view front environment words s call options source)
    (hfile : view.entry s call.input = .file file)
    (hfails : assemble options call.input.text source = .error (.reported diagnostic)) :
    ending.status = 1 ∨
      ∃ before after fault, view.Touched [] s before ∧
        (Disk.read call.input : StateM σ _).run before = (.error fault, after) ∧
        (abandon (.trouble (.file fault)) call.verbose : StateM σ _).run after = (ending, s') := by
  obtain ⟨t, hcalled⟩ := htask.called
  have hsame {other : Call} {u : σ}
      (h : (front environment words).run s = (.called other, u)) : other = call :=
    Reading.called.inj (Prod.mk.inj (h.symm.trans hcalled)).1
  cases h with
  | answered hended => cases hended.symm.trans hcalled
  | unannounced => exact .inl rfl
  | returned hcalled' hfollows hperformed =>
      obtain rfl := hsame hcalled'
      rcases hperformed.cases_of_refused hview hfollows htask hfile hfails with
        hresult | ⟨_, _, -, -, hresult⟩
      · contradiction
      · contradiction
  | @abandoned _ _ after _ _ _ hcalled' hfollows hperformed habandoned =>
      obtain rfl := hsame hcalled'
      rcases hperformed.cases_of_refused hview hfollows htask hfile hfails with
        hresult | ⟨before, fault, hbefore, hread, hresult⟩
      · obtain rfl := Except.error.inj hresult
        obtain ⟨-, rfl | ⟨rfl, -⟩⟩ := touched_of_complain hview habandoned
        · exact .inl rfl
        · exact .inl rfl
      · obtain rfl := Except.error.inj hresult
        exact .inr ⟨before, after, fault, hbefore, hread, habandoned⟩

/-- What a run that succeeds has written, and when the program is to blame.  A run that succeeds
has been ended by its front, or it leaves the image and the listing of its source.  A run exits with
one only if its front ends it so, or its source is refused, or something could not be printed; and
if the source is refused, it does so unless the console cannot be closed or the input not be
read. -/
theorem run_assembles (hview : view.Lawful) (hfront : front.Lawful view)
    (h : (run front environment words : StateM σ Nat).run s = (status, s')) :
    (status = 0 →
      ((∃ t, (front environment words).run s = (.ended 0, t)) ∧ view.Touched [] s s') ∨
        ∃ call options source assembly output,
          Task view front environment words s call options source ∧
            assemble options call.input.text source = .ok assembly ∧
            call.imagePath? = some output ∧ Written view s s' output call.listing assembly) ∧
      (status = 1 →
        ((∃ t, (front environment words).run s = (.ended 1, t)) ∧ view.Touched [] s s') ∨
          ((∃ call options source diagnostic,
              Task view front environment words s call options source ∧
                assemble options call.input.text source = .error (.reported diagnostic)) ∧
            view.Touched [] s s') ∨
          ∃ t, (obey front environment words : StateM σ Ending).run s = (.raised, t) ∧
            Unprinted t) ∧
      ∀ call options source diagnostic file,
        Task view front environment words s call options source →
          view.entry s call.input = .file file →
          assemble options call.input.text source = .error (.reported diagnostic) →
          status = 1 ∨
            (∃ ending t fault, (obey front environment words : StateM σ Ending).run s = (ending, t) ∧
              (Console.close : StateM σ _).run t = (.error fault, s')) ∨
            ∃ before after fault, view.Touched [] s before ∧
              (Disk.read call.input : StateM σ _).run before = (.error fault, after) ∧
              (do finish (← abandon (.trouble (.file fault)) call.verbose) : StateM σ Nat).run
                after = (status, s') := by
  obtain ⟨ending, t, hobey, hfinish⟩ := exists_of_run_bind h
  obtain ⟨hafter, hstatus⟩ := touched_of_finish hview hfinish
  have hobeyed := obeyed_of_obey hview hfront hobey
  refine ⟨fun hzero => ?success, fun hone => ?blamed, ?refused⟩
  case success =>
    rcases cases_of_run hview hfront h with ⟨htouched, hended⟩ |
      ⟨call, options, source, assembly, output, htask, hmade, houtput,
        ⟨-, hwritten⟩ | ⟨hfails, -⟩⟩
    · exact .inl ⟨hended hzero, htouched⟩
    · exact .inr ⟨call, options, source, assembly, output, htask, hmade, houtput, hwritten⟩
    · exact absurd hzero hfails
  case blamed =>
    rcases hstatus with hsame | ⟨hunclosed, -⟩
    · rcases hobeyed.cases_of_one hview hfront (hsame.symm.trans hone) with
        ⟨hended, htouched⟩ | ⟨hrefused, htouched⟩ | ⟨rfl, hunprinted⟩
      · exact .inl ⟨hended, htouched.trans hafter⟩
      · exact .inr (.inl ⟨hrefused, htouched.trans hafter⟩)
      · exact .inr (.inr ⟨t, hobey, hunprinted⟩)
    · rw [hunclosed] at hone
      contradiction
  case refused =>
    intro call options source diagnostic file htask hfile hfails
    rcases hobeyed.status_of_refused hview htask hfile hfails with
      hone | ⟨before, after, fault, hbefore, hread, habandoned⟩
    · rcases hstatus with hsame | ⟨-, fault, hunclosed⟩
      · exact .inl (hsame.trans hone)
      · exact .inr (.inl ⟨ending, t, fault, hobey, hunclosed⟩)
    · refine .inr (.inr ⟨before, after, fault, hbefore, hread, ?_⟩)
      rw [StateT.run_bind, habandoned]
      exact hfinish

/-- A desk with files in the working directory, and nothing else. -/
def holding (files : List (Text × List UInt8)) : Desk :=
  { tree := { files := files.map fun (name, bytes) => ([name], bytes) } }

/-- The call wins over the environment, and so a label may be defined twice. -/
theorem run_assembles_redefined :
    ∃ later options source assembly,
      (holding [("a.asm".toList, Text.Utf8.encode "A: CLS\r\nA: JP A".toList)]).run
          [(Environment.strictLabelsVariable, "on".toList)]
          (["a.asm", "--no-strict-labels", "-l", "a.lst"].map String.toList) = (0, later) ∧
        options.strictLabels = false ∧
        assemble options "a.asm".toList source = .ok assembly ∧
        assembly.image = [0x00, 0xE0, 0x12, 0x02] ∧
        later.tree.read (Path.ofText "a.ch8".toList) = .ok assembly.image ∧
        later.tree.read (Path.ofText "a.lst".toList) =
          .ok (Text.Utf8.encode (assembly.listing ++ ['\n'])) := by
  let call : Call :=
    { input := Path.ofText "a.asm".toList
      listing := some (Path.ofText "a.lst".toList)
      strictLabels := some false }
  have hname : call.input.text = "a.asm".toList := by decide +kernel
  have hpath : call.imagePath? = some (Path.ofText "a.ch8".toList) := by decide +kernel
  have hreading : ((Desk.reader [(Environment.strictLabelsVariable, "on".toList)]
      (["a.asm", "--no-strict-labels", "-l", "a.lst"].map String.toList)).run
        (holding [("a.asm".toList, Text.Utf8.encode "A: CLS\r\nA: JP A".toList)])).1 =
      .called call := by
    decide +kernel
  cases h : (holding [("a.asm".toList, Text.Utf8.encode "A: CLS\r\nA: JP A".toList)]).run
      [(Environment.strictLabelsVariable, "on".toList)]
      (["a.asm", "--no-strict-labels", "-l", "a.lst"].map String.toList) with
  | mk status later =>
      have hsuccess : status = 0 := (congrArg Prod.fst h).symm.trans (by decide +kernel)
      have hbytes : later.tree.read (Path.ofText "a.ch8".toList) =
          .ok [0x00, 0xE0, 0x12, 0x02] := by
        rw [← congrArg (fun ending => ending.2.tree.read (Path.ofText "a.ch8".toList)) h]
        decide +kernel
      have himagefile : later.tree.entry (Path.ofText "a.ch8".toList) =
          .file ["a.ch8".toList] := by
        rw [← congrArg (fun ending => ending.2.tree.entry (Path.ofText "a.ch8".toList)) h]
        decide +kernel
      have hlistingfile : later.tree.entry (Path.ofText "a.lst".toList) =
          .file ["a.lst".toList] := by
        rw [← congrArg (fun ending => ending.2.tree.entry (Path.ofText "a.lst".toList)) h]
        decide +kernel
      rcases (run_assembles Desk.lawful Desk.reader_lawful h).1 hsuccess with
        ⟨⟨t, hended⟩, -⟩ |
        ⟨other, options, source, assembly, output, htask, hmade, hother, hwritten⟩
      · rw [hended] at hreading
        exact absurd hreading (by simp)
      · obtain ⟨t, hcalled⟩ := htask.called
        rw [hcalled] at hreading
        obtain rfl : other = call := Reading.called.inj hreading
        obtain rfl := Option.some.inj (hpath.symm.trans hother)
        rw [hname] at hmade
        have himage : later.tree.read (Path.ofText "a.ch8".toList) = .ok assembly.image := by
          refine Desk.read_of_holds (hwritten.image fun path heq file hfile hsame => ?_) himagefile
          obtain rfl := Option.some.inj heq
          have hplaces := (himagefile.symm.trans hfile).trans (hsame.symm.trans hlistingfile)
          exact absurd hplaces (by decide +kernel)
        exact ⟨later, options, source, assembly, by rw [hsuccess],
          htask.settled.strictGiven false rfl, hmade,
          Except.ok.inj (himage.symm.trans hbytes), himage,
          Desk.read_of_holds (hwritten.listing _ rfl) hlistingfile⟩

/-- A question is answered although the source would be refused, and a shell that is not known is
refused although the source could be assembled. -/
theorem run_without_assembling :
    (Arguments.ofList? (["bad.asm", "--version"].map String.toList)).bind Front.callOf? =
        some { input := Path.ofText "bad.asm".toList } ∧
      ((holding [("bad.asm".toList, Text.Utf8.encode "FOO".toList)]).run []
          (["bad.asm", "--version"].map String.toList)).1 = 0 ∧
      assemble {} "bad.asm".toList "FOO".toList = .error (.reported
        { cause := .unknownMnemonic "FOO".toList
          location := some ⟨"bad.asm".toList, 1, 1⟩
          sourceLine := some "FOO".toList
          index := some 0 }) ∧
      ((holding [("a.asm".toList, Text.Utf8.encode "CLS".toList)]).run
          [(Front.completionVariable, "1".toList)] ["a.asm".toList]).1 = 1 ∧
      (assemble {} "a.asm".toList "CLS".toList).map (·.image) = .ok [0x00, 0xE0] := by
  refine ⟨?_, ?_, ?_, ?_, ?_⟩ <;> decide +kernel

/-! ### Runs that fail -/

/-- A run that fails leaves every file as it was, unless its source is assembled and the image is
begun.  Then nothing else has changed but the listing, and that only after the image was written. -/
theorem run_keeps_files (hview : view.Lawful) (hfront : front.Lawful view)
    (h : (run front environment words : StateM σ Nat).run s = (status, s')) (hfails : status ≠ 0) :
    view.Touched [] s s' ∨
      ∃ call options source assembly output,
        Task view front environment words s call options source ∧
          assemble options call.input.text source = .ok assembly ∧
          call.imagePath? = some output ∧ Failed view s s' call output assembly status := by
  rcases cases_of_run hview hfront h with ⟨htouched, -⟩ |
    ⟨call, options, source, assembly, output, htask, hmade, houtput, ⟨hzero, -⟩ | ⟨-, hleft⟩⟩
  · exact .inl htouched
  · exact absurd hzero hfails
  · exact .inr ⟨call, options, source, assembly, output, htask, hmade, houtput, hleft⟩

/-- A program that cannot be assembled leaves the image of an earlier run. -/
theorem run_keeps_files_undefined :
    ∃ status later,
      (holding [("a.asm".toList, Text.Utf8.encode "JP A".toList),
          ("a.ch8".toList, [0x00, 0xE0])]).run [] ["a.asm".toList] = (status, later) ∧
        status = 1 ∧ later.tree.read (Path.ofText "a.ch8".toList) = .ok [0x00, 0xE0] := by
  have hreading : ((Desk.reader [] ["a.asm".toList]).run
      (holding [("a.asm".toList, Text.Utf8.encode "JP A".toList),
        ("a.ch8".toList, [0x00, 0xE0])])).1 = .called { input := Path.ofText "a.asm".toList } := by
    decide +kernel
  have hsource : Desk.files.Sourced
      (holding [("a.asm".toList, Text.Utf8.encode "JP A".toList),
        ("a.ch8".toList, [0x00, 0xE0])]) (Path.ofText "a.asm".toList) "JP A".toList :=
    ⟨Text.Utf8.encode "JP A".toList, "JP A".toList, Desk.holds_of_read (by decide +kernel),
      by decide +kernel, by decide +kernel⟩
  have hentry (name : Text) (hname : name = "a.asm".toList ∨ name = "a.ch8".toList) :
      Desk.files.entry (holding [("a.asm".toList, Text.Utf8.encode "JP A".toList),
        ("a.ch8".toList, [0x00, 0xE0])]) (Path.ofText name) = .file [name] := by
    rcases hname with rfl | rfl <;> decide +kernel
  have hrefused (options : Options) :
      (assemble options (Path.ofText "a.asm".toList).text "JP A".toList).toOption = none := by
    obtain ⟨step, strict⟩ := options
    cases step <;> cases strict <;> decide +kernel
  cases h : (holding [("a.asm".toList, Text.Utf8.encode "JP A".toList),
      ("a.ch8".toList, [0x00, 0xE0])]).run [] ["a.asm".toList] with
  | mk status later =>
      have hblamed : status = 1 := (congrArg Prod.fst h).symm.trans (by decide +kernel)
      refine ⟨status, later, rfl, hblamed, ?_⟩
      rcases run_keeps_files Desk.lawful Desk.reader_lawful h (by rw [hblamed]; decide) with
        htouched | ⟨call, options, source, assembly, output, htask, hmade, -⟩
      · have hbefore : Desk.files.Holds (holding [("a.asm".toList, Text.Utf8.encode "JP A".toList),
            ("a.ch8".toList, [0x00, 0xE0])]) (Path.ofText "a.ch8".toList) [0x00, 0xE0] :=
          Desk.holds_of_read (by decide +kernel)
        exact Desk.read_of_holds (htouched.holds_iff.mpr hbefore)
          ((htouched.entry_eq _).trans (hentry _ (.inr rfl)))
      · obtain ⟨t, hcalled⟩ := htask.called
        rw [hcalled] at hreading
        obtain rfl := Reading.called.inj hreading
        obtain rfl := htask.sourced.unique hsource (hentry _ (.inl rfl))
        have hnone := hrefused options
        rw [hmade] at hnone
        exact absurd hnone (by simp [Except.toOption])

/-- The image is written before the listing, so it stays when there is no place for the listing, and
when the line about it cannot be printed; and a file with too little room takes a part. -/
theorem run_fails_halfway :
    let desk := holding [("a.asm".toList, Text.Utf8.encode "CLS".toList)]
    let latin : Desk :=
      { desk with
        refusal? := fun line =>
          if line.contains '漢' then
            some (.encoding ("'latin-1' codec can't encode character '\\u6f22' in position 17: ".toList
              ++ "ordinal not in range(256)".toList))
          else
            none }
    let full : Desk := { desk with room := some 1 }
    let narrow : Desk := { desk with room := some 2 }
    desk.tree.kindOf? (Path.ofText "a.ch8".toList) = none ∧
      (desk.run [] (["a.asm", "-l", "missing/a.lst"].map String.toList)).1 = 2 ∧
      (desk.run [] (["a.asm", "-l", "missing/a.lst"].map String.toList)).2.tree.read
        (Path.ofText "a.ch8".toList) = .ok [0x00, 0xE0] ∧
      (latin.run [] (["a.asm", "-v", "-o", "漢.ch8"].map String.toList)).1 = 3 ∧
      (latin.run [] (["a.asm", "-v", "-o", "漢.ch8"].map String.toList)).2.tree.read
        (Path.ofText "漢.ch8".toList) = .ok [0x00, 0xE0] ∧
      (full.run [] ["a.asm".toList]).1 = 3 ∧
      (full.run [] ["a.asm".toList]).2.tree.read (Path.ofText "a.ch8".toList) = .ok [0x00] ∧
      (narrow.run [] (["a.asm", "-l", "a.lst"].map String.toList)).1 = 3 ∧
      (narrow.run [] (["a.asm", "-l", "a.lst"].map String.toList)).2.tree.read
        (Path.ofText "a.lst".toList) = .ok (Text.Utf8.encode "CH".toList) := by
  refine ⟨?_, ?_, ?_, ?_, ?_, ?_, ?_, ?_, ?_⟩ <;> decide +kernel

end

end Chip8.CommandLine
