import Chip8.CommandLine.Desk
import Chip8.Proofs.FileTree
import Chip8.Proofs.Runs

/-!
# Desks

A desk is a machine that keeps the laws, and its reader of arguments is a front that keeps the laws
of fronts.
-/

namespace Chip8

namespace FileTree

open CommandLine (Entry)

/-- What stands at a place, where files are known by their places. -/
def entryAt (place : Place) : Option EntryKind → Entry Place
  | none => .absent
  | some .file => .file place
  | some .directory => .other

/-- What a path leads to in a tree. -/
def entry (tree : FileTree) (path : Path) : Entry Place :=
  match tree.placeOf path with
  | .error _ => .absent
  | .ok place => entryAt place (tree.kindAt? place)

section

variable {tree : FileTree} {path : Path} {place : Place} {bytes : List UInt8}
  {kind : Option EntryKind}

theorem entry_eq (hplace : tree.placeOf path = .ok place) (hkind : tree.kindAt? place = kind) :
    tree.entry path = entryAt place kind := by
  unfold entry
  rw [hplace, ← hkind]

/-- What a path leads to has a place. -/
theorem exists_place_of_entry (h : tree.entry path ≠ .absent) :
    ∃ place kind, tree.placeOf path = .ok place ∧ tree.kindAt? place = some kind := by
  unfold entry at h
  split at h
  case h_1 => exact absurd rfl h
  case h_2 place hplace =>
    cases hkind : tree.kindAt? place with
    | none => exact absurd (by rw [hkind]; rfl) h
    | some kind => exact ⟨place, kind, hplace, hkind⟩

theorem entry_eq_file_iff :
    tree.entry path = .file place ↔
      tree.placeOf path = .ok place ∧ tree.kindAt? place = some .file := by
  refine ⟨fun h => ?_, fun ⟨hplace, hkind⟩ => entry_eq hplace hkind⟩
  obtain ⟨other, kind, hplace, hkind⟩ := exists_place_of_entry (by rw [h]; simp)
  rw [entry_eq hplace hkind] at h
  cases kind with
  | file => exact Entry.file.inj h ▸ ⟨hplace, hkind⟩
  | directory => contradiction

/-- What is read from a path is in the file that it leads to. -/
theorem exists_file_of_read (h : tree.read path = .ok bytes) :
    ∃ place, tree.entry path = .file place ∧ tree.files.lookup place = some bytes := by
  unfold read at h
  split at h
  case h_1 => contradiction
  case h_2 place hplace =>
    split at h
    case h_1 => contradiction
    case h_3 => contradiction
    case h_2 hlookup hkind =>
      obtain rfl := Except.ok.inj h
      exact ⟨place, entry_eq_file_iff.mpr ⟨hplace, kindAt?_eq_file_of_lookup hkind hlookup⟩, hlookup⟩

theorem exists_read_of_entry (h : tree.entry path = .file place) :
    ∃ bytes, tree.files.lookup place = some bytes ∧ tree.read path = .ok bytes := by
  obtain ⟨hplace, hkind⟩ := entry_eq_file_iff.mp h
  have hfile : (tree.files.lookup place).isSome = true := by
    unfold kindAt? at hkind
    split at hkind
    case isTrue => contradiction
    case isFalse =>
      split at hkind
      case isTrue hsome => exact hsome
      case isFalse => contradiction
  obtain ⟨bytes, hbytes⟩ := Option.isSome_iff_exists.mp hfile
  refine ⟨bytes, hbytes, ?_⟩
  unfold read
  rw [hplace]
  dsimp only
  rw [hkind, hbytes]

end

end FileTree

namespace CommandLine

namespace Desk

/-- The files of a desk are those in its tree. -/
def files : FileView Desk Place where
  entry desk path := desk.tree.entry path
  content desk place := (desk.tree.files.lookup place).getD []

section

variable {desk later : Desk} {path : Path} {bytes : List UInt8}

theorem holds_of_entry {place : Place} (hentry : desk.tree.entry path = .file place)
    (hcontent : files.content desk place = bytes) : files.Holds desk path bytes := by
  have hfile : files.entry desk path = .file place := hentry
  refine ⟨by rw [hfile]; simp, fun other hother => ?_⟩
  obtain rfl := Entry.file.inj (hfile.symm.trans hother)
  exact hcontent

theorem touched_of_tree_eq (h : later.tree = desk.tree) : files.Touched [] desk later where
  led _ _ := by simp only [files, h]
  kept _ _ _ _ := by simp only [files, h]
  created _ habsent := .inl (by simpa only [files, h] using habsent)

/-- Writing into the tree changes the file at the place that the path leads to. -/
theorem touched_of_write (h : desk.tree.write path bytes = .ok later.tree) :
    files.Touched [path] desk later ∧ files.Holds later path bytes := by
  obtain ⟨place, hplace, hagree, hkind, hlookup⟩ := FileTree.exists_place_of_write h
  have hwritten : later.tree.entry path = .file place :=
    FileTree.entry_eq_file_iff.mpr ⟨hagree.placeOf_eq_ok_iff.mpr hplace, hkind⟩
  refine ⟨⟨?led, ?kept, ?created⟩, ?holds⟩
  case led =>
    intro other hled
    obtain ⟨here, kind, hhere, hkindhere⟩ := FileTree.exists_place_of_entry hled
    have hsame : later.tree.kindAt? here = some kind := by
      cases kind with
      | directory => exact hagree.kindAt?_eq_directory_iff.mpr hkindhere
      | file =>
          by_cases hwrote : here = place
          · rw [hwrote, hkind]
          · rw [hagree.kindAt?_eq hwrote, hkindhere]
    exact (FileTree.entry_eq (hagree.placeOf_eq_ok_iff.mpr hhere) hsame).trans
      (FileTree.entry_eq hhere hkindhere).symm
  case kept =>
    intro other here hother hothers
    have hne : here ≠ place := fun heq => hothers path List.mem_cons_self (heq ▸ hwritten)
    exact congrArg (Option.getD · []) (hagree.files here hne)
  case created =>
    intro other habsent
    by_cases hled : later.tree.entry other = .absent
    · exact .inl hled
    · obtain ⟨here, kind, hhere, hkindhere⟩ := FileTree.exists_place_of_entry hled
      by_cases hwrote : here = place
      · subst hwrote
        exact .inr ⟨path, List.mem_cons_self, here, hwritten,
          FileTree.entry_eq_file_iff.mpr ⟨hhere, hkind⟩⟩
      · -- nothing has come but the file that was written
        rw [hagree.kindAt?_eq hwrote] at hkindhere
        have hentry := FileTree.entry_eq (hagree.placeOf_eq_ok_iff.mp hhere) hkindhere
        cases kind with
        | file => exact absurd (hentry.symm.trans habsent) (by simp [FileTree.entryAt])
        | directory => exact absurd (hentry.symm.trans habsent) (by simp [FileTree.entryAt])
  case holds => exact holds_of_entry hwritten (by simp [files, hlookup])

theorem holds_of_read (h : desk.tree.read path = .ok bytes) : files.Holds desk path bytes := by
  obtain ⟨place, hentry, hlookup⟩ := FileTree.exists_file_of_read h
  exact holds_of_entry hentry (by simp [files, hlookup])

theorem read_of_holds {place : Place} (h : files.Holds desk path bytes)
    (hentry : desk.tree.entry path = .file place) : desk.tree.read path = .ok bytes := by
  obtain ⟨content, hlookup, hread⟩ := FileTree.exists_read_of_entry hentry
  have hbytes : (desk.tree.files.lookup place).getD [] = bytes := h.2 place hentry
  rw [hread, ← hbytes, hlookup, Option.getD_some]

/-- A file is written, or it cannot be opened, or it is written in part. -/
theorem cases_of_write {result : Except FileFault Unit}
    (h : desk.write path bytes = (result, later)) :
    (∃ fault, result = .error fault ∧ later = desk) ∨
      files.Touched [path] desk later ∧
        (result = .ok () ∧ files.Holds later path bytes ∨ result = .error noRoom) := by
  unfold write at h
  dsimp only at h
  split at h
  case h_1 fault _ =>
    obtain ⟨rfl, rfl⟩ := Prod.mk.inj h
    exact .inl ⟨fault, rfl, rfl⟩
  case h_2 tree hwrite =>
    obtain ⟨rfl, rfl⟩ := Prod.mk.inj h
    obtain ⟨htouched, hholds⟩ : files.Touched [path] desk { desk with tree := tree } ∧
        files.Holds { desk with tree := tree } path _ :=
      touched_of_write hwrite
    refine .inr ⟨htouched, ?_⟩
    split
    case isTrue hfits => exact .inl ⟨rfl, hfits ▸ hholds⟩
    case isFalse => exact .inr rfl

end

theorem say_tree (line : Text) (desk : Desk) : (desk.say line).2.tree = desk.tree := by
  unfold say
  split <;> rfl

/-- A desk keeps the laws of machines. -/
theorem lawful : files.Lawful where
  read h := by
    cases h
    exact .refl [] _
  read_ok h := holds_of_read (congrArg Prod.fst h)
  write h := by
    rcases cases_of_write h with ⟨_, -, rfl⟩ | ⟨htouched, -⟩
    · exact .refl _ _
    · exact htouched
  write_ok h := by
    rcases cases_of_write h with ⟨_, hfails, -⟩ | ⟨-, ⟨-, hholds⟩ | hfails⟩
    · contradiction
    · exact hholds
    · contradiction
  write_unopened h hfault := by
    rcases cases_of_write h with ⟨_, -, rfl⟩ | ⟨-, ⟨hok, -⟩ | hfails⟩
    · exact .refl [] _
    · contradiction
    · rw [Except.error.inj hfails] at hfault
      exact absurd rfl hfault
  say h := by
    have hlater : _ = _ := congrArg Prod.snd h
    exact touched_of_tree_eq ((congrArg tree hlater.symm).trans (say_tree _ _))
  warn h := by
    cases h
    exact touched_of_tree_eq rfl
  trace h := by
    cases h
    exact touched_of_tree_eq rfl
  log h := by
    cases h
    exact touched_of_tree_eq rfl
  close h := by
    cases h
    exact .refl [] _

/-! ### Reading arguments -/

section

variable {desk later : Desk} {argument file : Text} {path : Path} {arguments : Arguments}
  {call : Call}

theorem run_kindOfArgument? (argument : Text) (desk : Desk) :
    (Front.kindOfArgument? argument : Session _).run desk =
      ((Path.literal? argument).bind desk.tree.kindOf?, desk) := by
  unfold Front.kindOfArgument?
  cases Path.literal? argument with
  | none => rfl
  | some path => rfl

theorem eq_of_mayBeWritten {argument : Option Text} {answer : Bool}
    (h : (Front.mayBeWritten argument : Session Bool).run desk = (answer, later)) :
    later = desk := by
  unfold Front.mayBeWritten at h
  cases argument with
  | none =>
      cases h
      rfl
  | some value =>
      obtain ⟨_, _, hkind, hrest⟩ := exists_of_run_bind h
      cases hrest
      rw [run_kindOfArgument?] at hkind
      cases hkind
      rfl

/-- An argument that leads to a file ends in a name that is more than a dot. -/
theorem parts_ne_nil_of_file (hliteral : Path.literal? file = some path)
    (hkind : desk.tree.kindOf? path = some .file) : (Path.ofText file).parts ≠ [] := by
  obtain ⟨place, hplace, hfile⟩ : ∃ place, desk.tree.placeOf path = .ok place ∧
      desk.tree.kindAt? place = some .file := by
    unfold FileTree.kindOf? at hkind
    split at hkind
    case h_1 place hplace => exact ⟨place, hplace, hkind⟩
    case h_2 => contradiction
  obtain ⟨names, name, -, hparts, -, -, hdot, -⟩ := FileTree.exists_name_of_file hplace hfile
  have hname : name ∈ Path.names file := by
    unfold Path.literal? at hliteral
    split at hliteral
    case isTrue => contradiction
    case isFalse =>
      rw [← Option.some.inj hliteral] at hparts
      have hmem : name ∈ names ++ [name] := by simp
      rw [← hparts] at hmem
      rcases List.mem_append.mp hmem with hmem | hmem
      · exact hmem
      · split at hmem
        case isTrue => exact absurd (List.mem_singleton.mp hmem) hdot
        case isFalse => exact absurd hmem List.not_mem_nil
  exact List.ne_nil_of_mem (List.mem_filter.mpr ⟨hname, by simpa using hdot⟩)

/-- To look at the files changes nothing, and a file that is found has a name. -/
theorem of_filesAreUsable (hfiles : arguments.files = [file]) {answer : Bool}
    (h : (Front.filesAreUsable arguments : Session Bool).run desk = (answer, later)) :
    later = desk ∧ (answer = true → (Path.ofText file).parts ≠ []) := by
  unfold Front.filesAreUsable at h
  rw [hfiles, List.mapM_cons, List.mapM_nil] at h
  obtain ⟨kinds, _, hkinds, h⟩ := exists_of_run_bind h
  obtain ⟨kind, _, hkind, hkinds⟩ := exists_of_run_bind hkinds
  rw [run_kindOfArgument?] at hkind
  cases hkind
  cases hkinds
  obtain ⟨output, _, houtput, h⟩ := exists_of_run_bind h
  obtain rfl := eq_of_mayBeWritten houtput
  obtain ⟨listing, _, hlisting, h⟩ := exists_of_run_bind h
  obtain rfl := eq_of_mayBeWritten hlisting
  cases h
  refine ⟨rfl, fun husable => ?_⟩
  simp only [List.all_cons, List.all_nil, Bool.and_true, Bool.and_eq_true, beq_iff_eq,
    Option.bind_eq_some_iff] at husable
  obtain ⟨⟨⟨path, hliteral, hkind⟩, -⟩, -⟩ := husable
  exact parts_ne_nil_of_file hliteral hkind

/-- The call of arguments names their file, and a step by its name. -/
theorem of_callOf? (h : Front.callOf? arguments = some call) :
    (∃ file, arguments.files = [file] ∧ call.input = Path.ofText file) ∧
      ∀ value, call.addressStep = some value → ∃ step : AddressStep, value = step.name := by
  unfold Front.callOf? at h
  split at h
  case h_1 => contradiction
  case h_3 => contradiction
  case h_2 file hfiles _ =>
    obtain rfl := Option.some.inj h
    refine ⟨⟨file, hfiles, rfl⟩, fun value hvalue => ?_⟩
    obtain ⟨step, -, hname⟩ := Option.map_eq_some_iff.mp hvalue
    exact ⟨step, hname.symm⟩

/-- A front keeps the laws if it leaves the tree as it is and calls with what the arguments say. -/
theorem of_reader {environment : Environment} {words : List Text} {reading : Reading}
    (h : (reader environment words).run desk = (reading, later)) :
    later.tree = desk.tree ∧
      ∀ call, reading = .called call → call.input.parts ≠ [] ∧
        ∀ value, call.addressStep = some value → ∃ step : AddressStep, value = step.name := by
  have htell {line : Text}
      (htells : (Front.tell line : Session Reading).run desk = (reading, later)) :
      later.tree = desk.tree ∧ ∃ status, reading = .ended status := by
    unfold Front.tell at htells
    obtain ⟨answer, t, hsay, hrest⟩ := exists_of_run_bind htells
    have ht : t.tree = desk.tree :=
      (congrArg (fun ending => ending.2.tree) hsay).symm.trans (say_tree line desk)
    cases answer <;> cases hrest <;> exact ⟨ht, _, rfl⟩
  unfold reader Front.reader at h
  dsimp only at h
  split at h
  case h_1 =>
    cases h
    exact ⟨rfl, by simp⟩
  case h_2 =>
    cases h
    exact ⟨rfl, by simp⟩
  case h_3 arguments _ _ =>
    split at h
    case h_1 =>
      obtain ⟨htree, _, rfl⟩ := htell h
      exact ⟨htree, by simp⟩
    case h_2 =>
      obtain ⟨htree, _, rfl⟩ := htell h
      exact ⟨htree, by simp⟩
    case h_3 =>
      cases h
      exact ⟨rfl, by simp⟩
    case h_4 call _ hcall =>
      obtain ⟨⟨file, hfiles, hinput⟩, hstep⟩ := of_callOf? hcall
      obtain ⟨answer, t, husable, hrest⟩ := exists_of_run_bind h
      obtain ⟨rfl, hnamed⟩ := of_filesAreUsable hfiles husable
      cases answer with
      | false =>
          cases hrest
          exact ⟨rfl, by simp⟩
      | true =>
          cases hrest
          refine ⟨rfl, ?_⟩
          rintro _ ⟨⟩
          exact ⟨hinput ▸ hnamed rfl, hstep⟩

/-- The reader of a desk keeps the laws of fronts. -/
theorem reader_lawful : reader.Lawful files where
  touched h := touched_of_tree_eq (of_reader h).1
  named h := ((of_reader h).2 _ rfl).1
  step h := ((of_reader h).2 _ rfl).2 _

end

end Desk

end CommandLine

end Chip8
