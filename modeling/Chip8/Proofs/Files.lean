import Chip8.CommandLine.Run

/-!
# Files of a machine

The command runs on a machine that it knows little about: paths may lead to one file by several
ways, or to something that is no file; files may refuse to be read or to be written, also half-way;
lines may not get printed.  A view says which files a machine has, and its laws say what a request
does to them, whether or not it succeeds.
-/

namespace Chip8.CommandLine

/-- What a path leads to: nothing, a file, or something that is no file. -/
inductive Entry (F : Type)
  | absent
  | file (file : F)
  | other
  deriving DecidableEq

/-- The files of a machine with states in `σ`: what the paths lead to, and what the files hold.
Something that changes by itself, or when lines are printed, is no file of a view. -/
structure FileView (σ F : Type) where
  entry : σ → Path → Entry F
  content : σ → F → List UInt8

namespace FileView

variable {σ F : Type} (view : FileView σ F)

/-- Holds when no file has changed but for those that some paths lead to.  Paths lead where they
led; a path that led nowhere leads nowhere still, or to one of these files. -/
structure Touched (paths : List Path) (s s' : σ) : Prop where
  led : ∀ path, view.entry s path ≠ .absent → view.entry s' path = view.entry s path
  kept : ∀ path file, view.entry s path = .file file →
    (∀ other ∈ paths, view.entry s' other ≠ .file file) →
    view.content s' file = view.content s file
  created : ∀ path, view.entry s path = .absent →
    view.entry s' path = .absent ∨
      ∃ other ∈ paths, ∃ file, view.entry s' other = .file file ∧ view.entry s' path = .file file

/-- Holds when a path leads somewhere, and a file that it leads to holds some bytes. -/
def Holds (s : σ) (path : Path) (bytes : List UInt8) : Prop :=
  view.entry s path ≠ .absent ∧ ∀ file, view.entry s path = .file file → view.content s file = bytes

/-- Holds when two paths lead to no common file. -/
def Apart (s : σ) (path other : Path) : Prop :=
  ∀ file, view.entry s path = .file file → view.entry s other ≠ .file file

/-- Holds of the text that the bytes spell which a path leads to, with every end of a line as one
line feed. -/
def Sourced (s : σ) (path : Path) (source : Text) : Prop :=
  ∃ bytes text, view.Holds s path bytes ∧ Text.Utf8.decode bytes = .ok text ∧
    Text.unifyNewlines text = source

/-- The laws of a machine.  Reading and printing change no file.  Writing changes no file but the
one that the path leads to, and this one holds the bytes if all goes well; if it cannot be opened,
nothing changes.  A fault that names a path is met in opening it. -/
structure Lawful [Disk (StateM σ)] [Console (StateM σ)] : Prop where
  read {s s' : σ} {path : Path} {result : Except FileFault (List UInt8)} :
    (Disk.read path : StateM σ _).run s = (result, s') → view.Touched [] s s'
  read_ok {s s' : σ} {path : Path} {bytes : List UInt8} :
    (Disk.read path : StateM σ _).run s = (.ok bytes, s') → view.Holds s path bytes
  write {s s' : σ} {path : Path} {bytes : List UInt8} {result : Except FileFault Unit} :
    (Disk.write path bytes : StateM σ _).run s = (result, s') → view.Touched [path] s s'
  write_ok {s s' : σ} {path : Path} {bytes : List UInt8} :
    (Disk.write path bytes : StateM σ _).run s = (.ok (), s') → view.Holds s' path bytes
  write_unopened {s s' : σ} {path : Path} {bytes : List UInt8} {fault : FileFault} :
    (Disk.write path bytes : StateM σ _).run s = (.error fault, s') → fault.path ≠ none →
      view.Touched [] s s'
  say {s s' : σ} {line : Text} {result : Except ConsoleFault Unit} :
    (Console.say line : StateM σ _).run s = (result, s') → view.Touched [] s s'
  warn {s s' : σ} {line : Text} {result : Except ConsoleFault Unit} :
    (Console.warn line : StateM σ _).run s = (result, s') → view.Touched [] s s'
  trace {s s' : σ} {result : Except ConsoleFault Unit} :
    (Console.trace : StateM σ _).run s = (result, s') → view.Touched [] s s'
  log {s s' : σ} {line : Text} :
    (Console.log line : StateM σ _).run s = ((), s') → view.Touched [] s s'
  close {s s' : σ} {result : Except ConsoleFault Unit} :
    (Console.close : StateM σ _).run s = (result, s') → view.Touched [] s s'

end FileView

/-- The laws of a front.  It changes no file.  It calls the command with the path of something that
is there and no directory, so the path has a name; and with the name of an address step if any. -/
structure Front.Lawful {σ F : Type} (view : FileView σ F) (front : Front (StateM σ)) : Prop where
  touched {environment : Environment} {words : List Text} {s s' : σ} {reading : Reading} :
    (front environment words).run s = (reading, s') → view.Touched [] s s'
  named {environment : Environment} {words : List Text} {s s' : σ} {call : Call} :
    (front environment words).run s = (.called call, s') → call.input.parts ≠ []
  step {environment : Environment} {words : List Text} {s s' : σ} {call : Call} {value : Text} :
    (front environment words).run s = (.called call, s') → call.addressStep = some value →
      ∃ step : AddressStep, value = step.name

namespace FileView

section

variable {σ F : Type} {view : FileView σ F} {s s' s'' : σ} {paths others : List Path}
  {path other : Path} {file : F} {bytes : List UInt8} {source : Text}

namespace Touched

theorem refl (paths : List Path) (s : σ) : view.Touched paths s s :=
  ⟨fun _ _ => rfl, fun _ _ _ _ => rfl, fun _ habsent => .inl habsent⟩

theorem mono (h : view.Touched paths s s') (hmore : paths ⊆ others) : view.Touched others s s' where
  led := h.led
  kept path file hfile hothers := h.kept path file hfile fun other hmem => hothers other (hmore hmem)
  created path habsent :=
    (h.created path habsent).imp_right fun ⟨other, hmem, hfile⟩ => ⟨other, hmore hmem, hfile⟩

theorem entry_eq_file (h : view.Touched paths s s') (hfile : view.entry s path = .file file) :
    view.entry s' path = .file file := by
  rw [h.led path (by rw [hfile]; exact fun heq => by contradiction), hfile]

/-- What two requests after each other change. -/
theorem trans (h : view.Touched paths s s') (h' : view.Touched paths s' s'') :
    view.Touched paths s s'' where
  led path hled := by
    have hsame := h.led path hled
    rw [h'.led path (by rwa [hsame]), hsame]
  kept path file hfile hothers := by
    have hbefore : view.content s' file = view.content s file :=
      h.kept path file hfile fun other hmem heq => hothers other hmem (h'.entry_eq_file heq)
    rw [h'.kept path file (h.entry_eq_file hfile) hothers, hbefore]
  created path habsent := by
    rcases h.created path habsent with hstill | ⟨other, hmem, file, hother, hpath⟩
    · exact h'.created path hstill
    · exact .inr ⟨other, hmem, file, h'.entry_eq_file hother, h'.entry_eq_file hpath⟩

theorem of_nil (h : view.Touched [] s s') (paths : List Path) : view.Touched paths s s' :=
  h.mono (List.nil_subset paths)

theorem entry_eq (h : view.Touched [] s s') (path : Path) :
    view.entry s' path = view.entry s path := by
  by_cases habsent : view.entry s path = .absent
  · rcases h.created path habsent with hstill | ⟨_, hmem, -⟩
    · rw [hstill, habsent]
    · exact absurd hmem List.not_mem_nil
  · exact h.led path habsent

theorem holds_iff (h : view.Touched [] s s') : view.Holds s' path bytes ↔ view.Holds s path bytes := by
  unfold Holds
  rw [h.entry_eq path]
  refine and_congr_right fun _ => forall_congr' fun file => imp_congr_right fun hfile => ?_
  rw [h.kept path file hfile fun _ hmem => absurd hmem List.not_mem_nil]

theorem apart_iff (h : view.Touched [] s s') : view.Apart s' path other ↔ view.Apart s path other := by
  unfold Apart
  rw [h.entry_eq path, h.entry_eq other]

theorem sourced_iff (h : view.Touched [] s s') :
    view.Sourced s' path source ↔ view.Sourced s path source := by
  unfold Sourced
  simp only [h.holds_iff]

end Touched

/-- A file holds what it held after another has been written. -/
theorem Holds.of_touched (h : view.Holds s path bytes) (htouched : view.Touched [other] s s')
    (hapart : view.Apart s' path other) : view.Holds s' path bytes := by
  have hsame := htouched.led path h.1
  refine ⟨by rw [hsame]; exact h.1, fun file hfile => ?_⟩
  have hbefore : view.entry s path = .file file := hsame ▸ hfile
  rw [htouched.kept path file hbefore ?_, h.2 file hbefore]
  intro _ hmem
  rw [List.mem_singleton.mp hmem]
  exact hapart file hfile

/-- A file holds one row of bytes. -/
theorem Holds.unique (h : view.Holds s path bytes) {bytes' : List UInt8}
    (h' : view.Holds s path bytes') (hfile : view.entry s path = .file file) : bytes = bytes' :=
  (h.2 file hfile).symm.trans (h'.2 file hfile)

end

end FileView

end Chip8.CommandLine
