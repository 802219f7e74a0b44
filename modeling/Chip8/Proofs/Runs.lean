import Chip8.Proofs.Failures
import Chip8.Proofs.Files
import Chip8.Proofs.Options

/-!
# Runs

What a run of the command does on a machine, by its stages.  A request is read, assembled and
written; it is performed to its end, or it stops at a stage, and each way tells what files are left.
-/

namespace Chip8.CommandLine

/-! ### Stages of a computation -/

section

variable {σ ε δ α β : Type} {s s'' : σ}

/-- A computation passes through the state that its first stage leaves. -/
theorem exists_of_run_bind {x : StateM σ α} {f : α → StateM σ β} {b : β}
    (h : (x >>= f).run s = (b, s'')) : ∃ a s', x.run s = (a, s') ∧ (f a).run s' = (b, s'') := by
  rw [StateT.run_bind] at h
  exact ⟨_, _, rfl, h⟩

/-- An interruption of the first stage interrupts the whole. -/
theorem cases_of_run_bind {x : ExceptT ε (StateM σ) α} {f : α → ExceptT ε (StateM σ) β}
    {result : Except ε β} (h : (x >>= f).run.run s = (result, s'')) :
    (∃ e, x.run.run s = (.error e, s'') ∧ result = .error e) ∨
      ∃ a s', x.run.run s = (.ok a, s') ∧ (f a).run.run s' = (result, s'') := by
  rw [ExceptT.run_bind] at h
  obtain ⟨first, s', hx, hrest⟩ := exists_of_run_bind h
  cases first with
  | error e =>
      cases hrest
      exact .inl ⟨e, hx, rfl⟩
  | ok a => exact .inr ⟨a, s', hx, hrest⟩

theorem exists_of_run_lift {x : StateM σ α} {result : Except ε α}
    (h : (ExceptT.lift x : ExceptT ε (StateM σ) α).run.run s = (result, s'')) :
    ∃ a, x.run s = (a, s'') ∧ result = .ok a := by
  rw [ExceptT.run_lift, StateT.run_map] at h
  cases hx : x.run s with
  | mk a s' =>
      rw [hx] at h
      cases h
      exact ⟨a, rfl, rfl⟩

/-- A request may be reported in another way than it fails. -/
theorem exists_of_run_mapError {x : StateM σ (Except ε α)} {f : ε → δ} {result : Except δ α}
    (h : (ExceptT.mk do return (← x).mapError f).run.run s = (result, s'')) :
    ∃ answer, x.run s = (answer, s'') ∧ result = answer.mapError f := by
  obtain ⟨answer, s', hx, hrest⟩ := exists_of_run_bind h
  cases hrest
  exact ⟨answer, hx, rfl⟩

end

/-! ### What is left behind -/

section

variable {σ F : Type} [Disk (StateM σ)] [Console (StateM σ)] (view : FileView σ F)

/-- Holds when an image and, if there is a path for it, a listing have been written: the files hold
them, and no other file has changed.  A listing that goes where the image is takes its place. -/
structure Written (s s' : σ) (output : Path) (listingPath : Option Path) (assembly : Assembly) :
    Prop where
  image : (∀ path, listingPath = some path → view.Apart s' output path) →
    view.Holds s' output assembly.image
  listing : ∀ path, listingPath = some path →
    view.Holds s' path (Text.Utf8.encode (assembly.listing ++ ['\n']))
  others : view.Touched (output :: listingPath.toList) s s'

/-- Holds of the state in which bytes have just not been written to a file. -/
def Unwritten (path : Path) (bytes : List UInt8) (fault : FileFault) (s' : σ) : Prop :=
  ∃ before, (Disk.write path bytes : StateM σ _).run before = (.error fault, s')

/-- Holds of the state in which a line of results has just not been printed. -/
def Unsaid (fault : ConsoleFault) (s' : σ) : Prop :=
  ∃ before line, (Console.say line : StateM σ _).run before = (.error fault, s')

/-- Holds of the state in which something has just not been printed. -/
def Unprinted (s' : σ) : Prop :=
  ∃ before fault, (∃ line, (Console.say line : StateM σ _).run before = (.error fault, s')) ∨
    (∃ line, (Console.warn line : StateM σ _).run before = (.error fault, s')) ∨
    (Console.trace : StateM σ _).run before = (.error fault, s')

/-- The ways in which a run is interrupted after it has begun to write, with the files as they are
then. -/
inductive Spoiled (s s' : σ) (output : Path) (listingPath : Option Path) (assembly : Assembly) :
    Interruption → Prop
  /-- The file of the image was opened, and written in part. -/
  | image {fault : FileFault} (htouched : view.Touched [output] s s')
      (hfails : Unwritten output assembly.image fault s') (hopened : fault.path = none) :
      Spoiled s s' output listingPath assembly (.trouble (.file fault))
  /-- The image was written, and the file of the listing could not be opened. -/
  | unopened {path : Path} {fault : FileFault} (hpath : listingPath = some path)
      (hwritten : Written view s s' output none assembly)
      (hfails : Unwritten path assembly.listingBytes fault s') (hopened : fault.path ≠ none) :
      Spoiled s s' output listingPath assembly (.trouble (.file fault))
  /-- The image was written, and the listing in part. -/
  | listing {path : Path} {fault : FileFault} (hpath : listingPath = some path)
      (htouched : view.Touched [output, path] s s')
      (himage : view.Apart s' output path → view.Holds s' output assembly.image)
      (hfails : Unwritten path assembly.listingBytes fault s') (hopened : fault.path = none) :
      Spoiled s s' output listingPath assembly (.trouble (.file fault))
  /-- The image was written, and maybe the listing, but a line could not be printed. -/
  | muted {path : Option Path} {fault : ConsoleFault} (hpath : path = none ∨ path = listingPath)
      (hwritten : Written view s s' output path assembly) (hmuted : Unsaid fault s') :
      Spoiled s s' output listingPath assembly (.console fault)

end

section

variable {σ F : Type} [Disk (StateM σ)] [Console (StateM σ)] {view : FileView σ F}
  {s s' s'' : σ} {output path : Path} {listingPath : Option Path} {assembly : Assembly}

omit [Disk (StateM σ)] [Console (StateM σ)] in
theorem Written.of_holds (htouched : view.Touched [output] s s')
    (himage : view.Holds s' output assembly.image) : Written view s s' output none assembly :=
  ⟨fun _ => himage, fun _ hnone => by contradiction, htouched⟩

omit [Disk (StateM σ)] [Console (StateM σ)] in
theorem Written.holds_image (h : Written view s s' output none assembly) :
    view.Holds s' output assembly.image :=
  h.image fun _ hnone => by contradiction

omit [Disk (StateM σ)] [Console (StateM σ)] in
theorem Written.trans (h : Written view s s' output listingPath assembly)
    (hafter : view.Touched [] s' s'') : Written view s s'' output listingPath assembly where
  image hapart :=
    hafter.holds_iff.mpr (h.image fun path hpath => hafter.apart_iff.mp (hapart path hpath))
  listing path hpath := hafter.holds_iff.mpr (h.listing path hpath)
  others := h.others.trans (hafter.of_nil _)

omit [Disk (StateM σ)] [Console (StateM σ)] in
/-- A listing that is written after its image. -/
theorem Written.with_listing (h : Written view s s' output none assembly)
    (htouched : view.Touched [path] s' s'')
    (hlisting : view.Holds s'' path assembly.listingBytes) :
    Written view s s'' output (some path) assembly where
  image hapart := h.holds_image.of_touched htouched (hapart path rfl)
  listing _ hpath := Option.some.inj hpath ▸ hlisting
  others := (h.others.mono (by simp)).trans (htouched.mono (by simp))

end

/-! ### Performing a request -/

section

variable {σ F : Type} [Disk (StateM σ)] [Console (StateM σ)]

/-- The ways in which a request is performed, each with what is said of it and with the files that
are left. -/
inductive Performed (view : FileView σ F) (request : Request) (s s' : σ) :
    Except Interruption Unit → Prop
  /-- There is no source. -/
  | unread {before : σ} {cause : Trouble} (hbefore : view.Touched [] s before)
      (hread : (readSource request.input : StateM σ _).run before = (.error cause, s')) :
      Performed view request s s' (.error (.trouble cause))
  /-- The source cannot be assembled. -/
  | refused {source : Text} {failure : Failure} (hsource : view.Sourced s request.input source)
      (hfails : assemble request.options request.input.text source = .error failure)
      (htouched : view.Touched [] s s') :
      Performed view request s s' (.error (.trouble (.program failure)))
  /-- The source is assembled, and something else goes wrong. -/
  | stopped {source : Text} {assembly : Assembly} {interruption : Interruption}
      (hsource : view.Sourced s request.input source)
      (hmade : assemble request.options request.input.text source = .ok assembly)
      (hcause : ∀ failure, interruption ≠ .trouble (.program failure))
      (hleft : view.Touched [] s s' ∨
        Spoiled view s s' request.output request.listing assembly interruption) :
      Performed view request s s' (.error interruption)
  /-- All that is asked is done. -/
  | done {source : Text} {assembly : Assembly} (hsource : view.Sourced s request.input source)
      (hmade : assemble request.options request.input.text source = .ok assembly)
      (hwritten : Written view s s' request.output request.listing assembly) :
      Performed view request s s' (.ok ())

variable {view : FileView σ F} {request : Request} {s s' t : σ} {path : Path} {source : Text}
  {assembly : Assembly} {lines : List Text}

/-- Reading a source gives what its file holds, or a trouble that is not the program's. -/
theorem touched_of_readSource (hview : view.Lawful) {result : Except Trouble Text}
    (h : (readSource path : StateM σ _).run s = (result, s')) :
    view.Touched [] s s' ∧ (∀ source, result = .ok source → view.Sourced s path source) ∧
      ∀ failure, result ≠ .error (.program failure) := by
  unfold readSource at h
  obtain ⟨answer, t, hread, hrest⟩ := exists_of_run_bind h
  cases answer with
  | error fault =>
      cases hrest
      exact ⟨hview.read hread, fun _ hok => by contradiction, fun _ herror => by cases herror⟩
  | ok bytes =>
      obtain ⟨rfl, rfl⟩ : (Source.ofBytes bytes).mapError .decoding = result ∧ t = s' := by
        cases hrest
        exact ⟨rfl, rfl⟩
      refine ⟨hview.read hread, fun source hok => ?_, fun failure herror => ?_⟩
      · obtain ⟨text, hdecoded, hunified⟩ := map_eq_ok_iff.mp (mapError_eq_ok_iff.mp hok)
        exact ⟨bytes, text, hview.read_ok hread, hdecoded, hunified⟩
      · cases hdecoded : Source.ofBytes bytes with
        | error fault => rw [hdecoded] at herror; cases herror
        | ok text => rw [hdecoded] at herror; contradiction

/-- A file that holds a source is not read only if the machine refuses to read it. -/
theorem exists_fault_of_readSource (hview : view.Lawful) {file : F} {cause : Trouble}
    (hfile : view.entry s path = .file file) (hsource : view.Sourced s path source)
    (h : (readSource path : StateM σ _).run s = (.error cause, s')) :
    ∃ fault, cause = .file fault ∧ (Disk.read path : StateM σ _).run s = (.error fault, s') := by
  unfold readSource at h
  obtain ⟨answer, t, hread, hrest⟩ := exists_of_run_bind h
  cases answer with
  | error fault =>
      cases hrest
      exact ⟨fault, rfl, hread⟩
  | ok bytes =>
      obtain ⟨bytes', text, hholds, hdecoded, rfl⟩ := hsource
      obtain rfl := (hview.read_ok hread).unique hholds hfile
      have hfails : (Source.ofBytes bytes).mapError .decoding = .error cause :=
        congrArg Prod.fst hrest
      unfold Source.ofBytes at hfails
      rw [hdecoded] at hfails
      contradiction

/-- Lines of a verbose run change no file, and only a console can interrupt them. -/
theorem touched_of_say (hview : view.Lawful) {result : Except Interruption Unit}
    (h : (request.say lines : ExceptT Interruption (StateM σ) Unit).run.run s = (result, s')) :
    view.Touched [] s s' ∧
      ∀ interruption, result = .error interruption →
        ∃ fault, interruption = .console fault ∧ Unsaid fault s' := by
  unfold Request.say at h
  split at h
  case isFalse =>
    cases h
    exact ⟨.refl [] _, fun _ herror => by contradiction⟩
  case isTrue =>
    induction lines generalizing s with
    | nil =>
        cases h
        exact ⟨.refl [] _, fun _ herror => by contradiction⟩
    | cons line rest ih =>
        -- the first line that is refused is the last
        rcases cases_of_run_bind h with ⟨e, hline, rfl⟩ | ⟨_, t, hline, hrest⟩
        · obtain ⟨answer, hsay, hanswer⟩ := exists_of_run_mapError hline
          refine ⟨hview.say hsay, ?_⟩
          rintro _ ⟨⟩
          cases answer with
          | ok => contradiction
          | error fault =>
              exact ⟨fault, Except.error.inj hanswer, s, line, hsay⟩
        · obtain ⟨answer, hsay, -⟩ := exists_of_run_mapError hline
          obtain ⟨htouched, herrors⟩ := ih hrest
          exact ⟨(hview.say hsay).trans htouched, herrors⟩

theorem touched_of_log (hview : view.Lawful)
    (h : (request.log source : StateM σ Unit).run s = ((), s')) : view.Touched [] s s' := by
  unfold Request.log at h
  split at h
  case isFalse =>
    cases h
    exact .refl [] _
  case isTrue =>
    generalize (progress request.options request.input.text source).events = events at h
    induction events generalizing s with
    | nil =>
        cases h
        exact .refl [] _
    | cons event rest ih =>
        obtain ⟨_, t, hlog, hrest⟩ := exists_of_run_bind h
        exact (hview.log hlog).trans (ih hrest)

/-- The input is assembled as its source is, unless it cannot be read. -/
theorem cases_of_assemble (hview : view.Lawful) {result : Except Interruption Assembly}
    (h : (request.assemble : ExceptT Interruption (StateM σ) Assembly).run.run s = (result, s')) :
    (∃ cause, result = .error (.trouble cause) ∧
        (readSource request.input : StateM σ _).run s = (.error cause, s')) ∨
      ∃ source, view.Sourced s request.input source ∧ view.Touched [] s s' ∧
        result = (assemble request.options request.input.text source).mapError
          fun failure => .trouble (.program failure) := by
  unfold Request.assemble at h
  rcases cases_of_run_bind h with ⟨e, hread, rfl⟩ | ⟨source, t, hread, hrest⟩
  · obtain ⟨answer, hanswer, herror⟩ := exists_of_run_mapError hread
    cases answer with
    | ok => contradiction
    | error cause =>
        obtain rfl := Except.error.inj herror
        exact .inl ⟨cause, rfl, hanswer⟩
  · obtain ⟨answer, hanswer, hok⟩ := exists_of_run_mapError hread
    cases answer with
    | error => contradiction
    | ok other =>
        obtain rfl := Except.ok.inj hok
        obtain ⟨hbefore, hsource, -⟩ := touched_of_readSource hview hanswer
        refine .inr ⟨source, hsource source rfl, ?_⟩
        rcases cases_of_run_bind hrest with ⟨e, hlog, -⟩ | ⟨_, u, hlog, hrest⟩
        · -- nothing interrupts a log
          obtain ⟨_, -, hlogged⟩ := exists_of_run_lift hlog
          contradiction
        · obtain ⟨_, hlogged, -⟩ := exists_of_run_lift hlog
          cases hrest
          exact ⟨hbefore.trans (touched_of_log hview hlogged), rfl⟩

/-- A file is written, or it is not; and if it could not be opened, nothing has changed. -/
theorem cases_of_write (hview : view.Lawful) {bytes : List UInt8}
    {result : Except Interruption Unit}
    (h : (Request.write path bytes : ExceptT Interruption (StateM σ) Unit).run.run s =
      (result, s')) :
    view.Touched [path] s s' ∧
      (result = .ok () ∧ view.Holds s' path bytes ∨
        ∃ fault, result = .error (.trouble (.file fault)) ∧ Unwritten path bytes fault s' ∧
          (fault.path ≠ none → view.Touched [] s s')) := by
  obtain ⟨answer, hwrite, rfl⟩ := exists_of_run_mapError h
  refine ⟨hview.write hwrite, ?_⟩
  cases answer with
  | ok => exact .inl ⟨rfl, hview.write_ok hwrite⟩
  | error fault =>
      exact .inr ⟨fault, rfl, ⟨s, hwrite⟩, hview.write_unopened hwrite⟩

theorem cases_of_writeListing (hview : view.Lawful) {result : Except Interruption Unit}
    (hbefore : Written view s t request.output none assembly)
    (h : (request.writeListing assembly : ExceptT Interruption (StateM σ) Unit).run.run t =
      (result, s')) :
    (result = .ok () ∧ Written view s s' request.output request.listing assembly) ∨
      ∃ interruption, result = .error interruption ∧
        (∀ failure, interruption ≠ .trouble (.program failure)) ∧
        Spoiled view s s' request.output request.listing assembly interruption := by
  unfold Request.writeListing at h
  split at h
  case h_1 hnone =>
    cases h
    exact .inl ⟨rfl, hnone.symm ▸ hbefore⟩
  case h_2 path hpath =>
    rcases cases_of_run_bind h with ⟨e, hwrite, rfl⟩ | ⟨_, u, hwrite, hnote⟩
    · obtain ⟨htouched, ⟨hok, -⟩ | ⟨fault, herror, hfails, hunopened⟩⟩ :=
        cases_of_write hview hwrite
      · contradiction
      · obtain rfl := Except.error.inj herror
        refine .inr ⟨_, rfl, by simp, ?_⟩
        by_cases hopened : fault.path = none
        · exact .listing hpath ((hbefore.others.mono (by simp)).trans (htouched.mono (by simp)))
            (hbefore.holds_image.of_touched htouched) hfails hopened
        · exact .unopened hpath (hbefore.trans (hunopened hopened)) hfails hopened
    · obtain ⟨htouched, ⟨-, hlisting⟩ | ⟨fault, herror, -⟩⟩ := cases_of_write hview hwrite
      · have hwritten := hbefore.with_listing htouched hlisting
        obtain ⟨hsaid, herrors⟩ := touched_of_say hview hnote
        cases result with
        | ok => exact .inl ⟨rfl, hpath ▸ hwritten.trans hsaid⟩
        | error interruption =>
            obtain ⟨fault, rfl, hunsaid⟩ := herrors interruption rfl
            exact .inr ⟨_, rfl, by simp,
              .muted (.inr hpath.symm) (hwritten.trans hsaid) hunsaid⟩
      · contradiction

/-- A console that refuses a line leaves what has been written. -/
theorem performed_of_unsaid (hview : view.Lawful) {written : Option Path}
    {interruption : Interruption} (hsource : view.Sourced s request.input source)
    (hmade : Chip8.assemble request.options request.input.text source = .ok assembly)
    (hpath : written = none ∨ written = request.listing)
    (hwritten : Written view s t request.output written assembly)
    (h : (request.say lines : ExceptT Interruption (StateM σ) Unit).run.run t =
      (.error interruption, s')) :
    Performed view request s s' (.error interruption) := by
  obtain ⟨hsaid, herrors⟩ := touched_of_say hview h
  obtain ⟨fault, rfl, hunsaid⟩ := herrors interruption rfl
  exact .stopped hsource hmade (by simp) (.inr (.muted hpath (hwritten.trans hsaid) hunsaid))

/-- After the image has been written, there are the line about it, the listing and the summary. -/
theorem performed_of_written (hview : view.Lawful) {result : Except Interruption Unit}
    (hsource : view.Sourced s request.input source)
    (hmade : Chip8.assemble request.options request.input.text source = .ok assembly)
    (hwritten : Written view s t request.output none assembly)
    (h : (do
        request.say [Request.imageNote assembly.image request.output]
        request.writeListing assembly
        request.say (Request.summary assembly) :
      ExceptT Interruption (StateM σ) Unit).run.run t = (result, s')) :
    Performed view request s s' result := by
  rcases cases_of_run_bind h with ⟨e, hnote, rfl⟩ | ⟨_, u, hnote, hrest⟩
  · exact performed_of_unsaid hview hsource hmade (.inl rfl) hwritten hnote
  · have hnoted := hwritten.trans (touched_of_say hview hnote).1
    rcases cases_of_run_bind hrest with ⟨e, hlisting, rfl⟩ | ⟨_, v, hlisting, hsummary⟩
    · rcases cases_of_writeListing hview hnoted hlisting with
        ⟨hok, -⟩ | ⟨interruption, herror, hcause, hspoiled⟩
      · contradiction
      · obtain rfl := Except.error.inj herror
        exact .stopped hsource hmade hcause (.inr hspoiled)
    · rcases cases_of_writeListing hview hnoted hlisting with ⟨-, hlisted⟩ | ⟨_, herror, -⟩
      · cases result with
        | ok => exact .done hsource hmade (hlisted.trans (touched_of_say hview hsummary).1)
        | error e => exact performed_of_unsaid hview hsource hmade (.inr rfl) hlisted hsummary
      · contradiction

/-- After the source has been assembled, the image is written, and then the rest. -/
theorem performed_of_assembled (hview : view.Lawful) {result : Except Interruption Unit}
    (hsource : view.Sourced s request.input source)
    (hmade : Chip8.assemble request.options request.input.text source = .ok assembly)
    (hbefore : view.Touched [] s t)
    (h : (do
        Request.write request.output assembly.image
        request.say [Request.imageNote assembly.image request.output]
        request.writeListing assembly
        request.say (Request.summary assembly) :
      ExceptT Interruption (StateM σ) Unit).run.run t = (result, s')) :
    Performed view request s s' result := by
  rcases cases_of_run_bind h with ⟨e, hwrite, rfl⟩ | ⟨_, u, hwrite, hrest⟩
  · obtain ⟨htouched, ⟨hok, -⟩ | ⟨fault, herror, hfails, hunopened⟩⟩ := cases_of_write hview hwrite
    · contradiction
    · obtain rfl := Except.error.inj herror
      refine .stopped hsource hmade (by simp) ?_
      by_cases hopened : fault.path = none
      · exact .inr (.image ((hbefore.of_nil _).trans htouched) hfails hopened)
      · exact .inl (hbefore.trans (hunopened hopened))
  · obtain ⟨htouched, ⟨-, himage⟩ | ⟨fault, herror, -⟩⟩ := cases_of_write hview hwrite
    · exact performed_of_written hview hsource hmade
        (.of_holds ((hbefore.of_nil _).trans htouched) himage) hrest
    · contradiction

theorem performed_of_perform (hview : view.Lawful) {result : Except Interruption Unit}
    (hbefore : view.Touched [] s t)
    (h : (request.perform : ExceptT Interruption (StateM σ) Unit).run.run t = (result, s')) :
    Performed view request s s' result := by
  unfold Request.perform at h
  rcases cases_of_run_bind h with ⟨e, hassemble, rfl⟩ | ⟨assembly, u, hassemble, hwrites⟩
  · rcases cases_of_assemble hview hassemble with
      ⟨cause, hcause, hread⟩ | ⟨source, hsource, htouched, hresult⟩
    · obtain rfl := Except.error.inj hcause
      exact .unread hbefore hread
    · cases hfails : Chip8.assemble request.options request.input.text source with
      | ok => rw [hfails] at hresult; contradiction
      | error failure =>
          rw [hfails] at hresult
          obtain rfl := Except.error.inj hresult
          exact .refused (hbefore.sourced_iff.mp hsource) hfails (hbefore.trans htouched)
  · rcases cases_of_assemble hview hassemble with
      ⟨cause, hcause, -⟩ | ⟨source, hsource, htouched, hresult⟩
    · contradiction
    · cases hmade : Chip8.assemble request.options request.input.text source with
      | error => rw [hmade] at hresult; contradiction
      | ok other =>
          rw [hmade] at hresult
          obtain rfl := Except.ok.inj hresult
          exact performed_of_assembled hview (hbefore.sourced_iff.mp hsource) hmade
            (hbefore.trans htouched) hwrites

end

/-! ### Exit codes -/

theorem Blame.number_exitCode_ne_zero (blame : Blame) : blame.exitCode.number ≠ 0 := by
  cases blame <;> decide

theorem Blame.number_exitCode_eq_one_iff {blame : Blame} :
    blame.exitCode.number = 1 ↔ blame = .program := by
  cases blame <;> decide

/-- Only a report about a source is the program's trouble. -/
theorem Blame.ofInterruption_eq_program_iff {interruption : Interruption} :
    Blame.ofInterruption interruption = .program ↔
      ∃ diagnostic, interruption = .trouble (.program (.reported diagnostic)) := by
  constructor
  · intro h
    match interruption, h with
    | .trouble (.program (.reported diagnostic)), _ => exact ⟨diagnostic, rfl⟩
    | .trouble (.file ⟨problem, _⟩), h => cases problem <;> contradiction
    | .console (.system ⟨problem, _⟩), h => cases problem <;> contradiction
  · rintro ⟨diagnostic, rfl⟩
    rfl

/-! ### Running the command -/

section

variable {σ F : Type} [Disk (StateM σ)] [Console (StateM σ)]

/-- The ways in which a run ends, up to the closing of the console. -/
inductive Obeyed (view : FileView σ F) (front : Front (StateM σ)) (environment : Environment)
    (words : List Text) (s s' : σ) : Ending → Prop
  /-- The front ends the run. -/
  | answered {status : Nat}
      (hended : (front environment words).run s = (.ended status, s')) :
      Obeyed view front environment words s s' (.answered status)
  /-- What is asked cannot be announced. -/
  | unannounced (htouched : view.Touched [] s s') (hunprinted : Unprinted s') :
      Obeyed view front environment words s s' .raised
  /-- The request is performed. -/
  | returned {call : Call} {t : σ} {request : Request}
      (hcalled : (front environment words).run s = (.called call, t))
      (hfollows : request.Follows environment call)
      (hperformed : Performed view request s s' (.ok ())) :
      Obeyed view front environment words s s' .returned
  /-- The request is interrupted. -/
  | abandoned {call : Call} {t u : σ} {request : Request} {interruption : Interruption}
      {ending : Ending}
      (hcalled : (front environment words).run s = (.called call, t))
      (hfollows : request.Follows environment call)
      (hperformed : Performed view request s u (.error interruption))
      (habandoned : (abandon interruption call.verbose : StateM σ _).run u = (ending, s')) :
      Obeyed view front environment words s s' ending

variable {view : FileView σ F} {front : Front (StateM σ)} {environment : Environment}
  {words : List Text} {s s' : σ} {ending : Ending}

/-- A complaint changes no file.  It ends in an exit, unless it cannot be printed. -/
theorem touched_of_complain (hview : view.Lawful) {blame : Blame} {message activity : Text}
    {verbose : Bool}
    (h : (complain blame message activity verbose : StateM σ Ending).run s = (ending, s')) :
    view.Touched [] s s' ∧ (ending = .exited blame.exitCode ∨ ending = .raised ∧ Unprinted s') := by
  unfold complain at h
  obtain ⟨answer, t, hwarn, hrest⟩ := exists_of_run_bind h
  cases answer with
  | error fault =>
      cases hrest
      exact ⟨hview.warn hwarn, .inr ⟨rfl, s, fault, .inr (.inl ⟨_, hwarn⟩)⟩⟩
  | ok =>
      dsimp only at hrest
      split at hrest
      case isFalse =>
        cases hrest
        exact ⟨hview.warn hwarn, .inl rfl⟩
      case isTrue =>
        obtain ⟨answer, u, htrace, hdone⟩ := exists_of_run_bind hrest
        have htouched := (hview.warn hwarn).trans (hview.trace htrace)
        cases answer with
        | error fault =>
            cases hdone
            exact ⟨htouched, .inr ⟨rfl, t, fault, .inr (.inr htrace)⟩⟩
        | ok =>
            cases hdone
            exact ⟨htouched, .inl rfl⟩

/-- A run that is abandoned does not succeed, whether or not it can say so. -/
theorem status_ne_zero_of_abandon (hview : view.Lawful) {interruption : Interruption}
    {verbose : Bool}
    (h : (abandon interruption verbose : StateM σ Ending).run s = (ending, s')) :
    ending.status ≠ 0 := by
  obtain ⟨-, rfl | ⟨rfl, -⟩⟩ := touched_of_complain hview h
  · exact Blame.number_exitCode_ne_zero _
  · decide

theorem obeyed_of_obey (hview : view.Lawful) (hfront : front.Lawful view)
    (h : (obey front environment words : StateM σ Ending).run s = (ending, s')) :
    Obeyed view front environment words s s' ending := by
  unfold obey at h
  obtain ⟨reading, t, hreading, hrest⟩ := exists_of_run_bind h
  cases reading with
  | ended status =>
      cases hrest
      exact .answered hreading
  | called call =>
      obtain ⟨request, hrequest⟩ : ∃ request, Request.ofCall? environment call = some request :=
        Request.exists_ofCall? (hfront.named hreading) fun _ hvalue => hfront.step hreading hvalue
      have hfollows := Request.follows_of_ofCall? hrequest
      simp only [hrequest] at hrest
      unfold Request.run at hrest
      obtain ⟨announced, u, hannounce, hrest⟩ := exists_of_run_bind hrest
      obtain ⟨hsaid, herrors⟩ := touched_of_say hview hannounce
      have hbefore := (hfront.touched hreading).trans hsaid
      cases announced with
      | error e =>
          cases hrest
          obtain ⟨fault, -, before, line, hunsaid⟩ := herrors e rfl
          exact .unannounced hbefore ⟨before, fault, .inl ⟨line, hunsaid⟩⟩
      | ok =>
          obtain ⟨result, v, hperform, hrest⟩ := exists_of_run_bind hrest
          have hperformed := performed_of_perform hview hbefore hperform
          cases result with
          | ok =>
              cases hrest
              exact .returned hreading hfollows hperformed
          | error interruption =>
              exact .abandoned hreading hfollows hperformed (hfollows.verbose ▸ hrest)

/-- To finish changes no file.  The status tells the ending, unless the console cannot be closed. -/
theorem touched_of_finish (hview : view.Lawful) {status : Nat}
    (h : (finish ending : StateM σ Nat).run s = (status, s')) :
    view.Touched [] s s' ∧ (status = ending.status ∨
      status = unclosedStatus ∧
        ∃ fault, (Console.close : StateM σ _).run s = (.error fault, s')) := by
  unfold finish at h
  obtain ⟨answer, u, hclose, hdone⟩ := exists_of_run_bind h
  cases answer with
  | ok =>
      cases hdone
      exact ⟨hview.close hclose, .inl rfl⟩
  | error fault =>
      cases hdone
      exact ⟨hview.close hclose, .inr ⟨rfl, fault, hclose⟩⟩

end

end Chip8.CommandLine
