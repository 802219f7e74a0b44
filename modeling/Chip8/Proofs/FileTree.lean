import Chip8.File.Assembly
import Chip8.File.Tree
import Chip8.Proofs.Forms

/-!
# File trees

A file that has been written is in the tree, and nothing else in the tree is different.  No
directory comes or goes, so paths lead where they led before.  What a path leads to a file by is a
name in a directory.
-/

namespace Chip8.FileTree

/-- Holds when two trees have the same directories, and the same files but for those at some
places. -/
structure AgreeOutside (places : Place → Prop) (tree later : FileTree) : Prop where
  home : later.home = tree.home
  directories : later.directories = tree.directories
  files : ∀ place, ¬places place → later.files.lookup place = tree.files.lookup place

namespace AgreeOutside

variable {places others : Place → Prop} {tree later last : FileTree} {here place : Place}
  {path : Path}

theorem mono (h : AgreeOutside places tree later) (hmore : ∀ place, places place → others place) :
    AgreeOutside others tree later :=
  ⟨h.home, h.directories, fun place hplace =>
    h.files place fun hsame => hplace (hmore place hsame)⟩

theorem trans (h : AgreeOutside places tree later) (h' : AgreeOutside others later last) :
    AgreeOutside (fun place => places place ∨ others place) tree last where
  home := h'.home.trans h.home
  directories := h'.directories.trans h.directories
  files place hplace :=
    (h'.files place fun hother => hplace (.inr hother)).trans
      (h.files place fun hsame => hplace (.inl hsame))

/-- The directories are the same, also those on the way to the working directory. -/
theorem kindAt?_eq_directory_iff (h : AgreeOutside places tree later) :
    later.kindAt? place = some .directory ↔ tree.kindAt? place = some .directory := by
  unfold kindAt?
  rw [h.home, h.directories]
  by_cases hdirectory : (place.isPrefixOf tree.home || tree.directories.contains place) = true
  · rw [if_pos hdirectory, if_pos hdirectory]
  · rw [if_neg hdirectory, if_neg hdirectory]
    refine iff_of_false ?_ ?_ <;>
    · intro hfile
      split at hfile <;> contradiction

theorem kindAt?_eq (h : AgreeOutside places tree later) (hplace : ¬places place) :
    later.kindAt? place = tree.kindAt? place := by
  unfold kindAt?
  rw [h.home, h.directories, h.files place hplace]

/-- Only directories are passed on the way, so names lead to the same places. -/
theorem follow_eq_ok_iff (h : AgreeOutside places tree later) (names : List Text) :
    later.follow here names = .ok place ↔ tree.follow here names = .ok place := by
  induction names generalizing here with
  | nil => exact Iff.rfl
  | cons name rest ih =>
      have hdirectory : later.kindAt? here = some .directory ↔ tree.kindAt? here = some .directory :=
        h.kindAt?_eq_directory_iff
      unfold follow
      by_cases hkind : tree.kindAt? here = some .directory
      · rw [hkind, hdirectory.mpr hkind]
        exact ih
      · have hkind' : later.kindAt? here ≠ some .directory := fun heq => hkind (hdirectory.mp heq)
        refine iff_of_false ?_ ?_ <;>
        · intro hfound
          split at hfound <;> contradiction

theorem placeOf_eq_ok_iff (h : AgreeOutside places tree later) :
    later.placeOf path = .ok place ↔ tree.placeOf path = .ok place := by
  have hstart : later.start path = tree.start path := by
    unfold start
    rw [h.home]
  unfold placeOf
  rw [hstart]
  exact h.follow_eq_ok_iff path.parts

end AgreeOutside

section

variable {tree later : FileTree} {path : Path} {place : Place} {bytes : List UInt8}

theorem kindAt?_eq_file_of_lookup (hkind : tree.kindAt? place ≠ some .directory)
    (hbytes : tree.files.lookup place = some bytes) : tree.kindAt? place = some .file := by
  unfold kindAt? at hkind ⊢
  split
  case isTrue hdirectory => exact absurd (if_pos hdirectory) hkind
  case isFalse => rw [hbytes]; rfl

/-- What writing does: the bytes are in a file at the place that the path leads to, and nothing else
is different. -/
theorem exists_place_of_write (h : tree.write path bytes = .ok later) :
    ∃ place, tree.placeOf path = .ok place ∧ AgreeOutside (· = place) tree later ∧
      later.kindAt? place = some .file ∧ later.files.lookup place = some bytes := by
  unfold write at h
  split at h
  case h_1 => contradiction
  case h_2 place hpath =>
    split at h
    case h_1 => contradiction
    case h_2 hkind =>
      obtain rfl := Except.ok.inj h
      have hagree : AgreeOutside (· = place) tree
          { tree with files := put place bytes tree.files } := by
        refine ⟨rfl, rfl, fun other hother => ?_⟩
        rw [lookup_put, if_neg hother]
      have hlookup : (put place bytes tree.files).lookup place = some bytes := by
        rw [lookup_put, if_pos rfl]
      exact ⟨place, hpath, hagree,
        kindAt?_eq_file_of_lookup (fun hdirectory => hkind (hagree.kindAt?_eq_directory_iff.mp hdirectory))
          hlookup, hlookup⟩

end

/-! ### Sources -/

/-- The source in the file that a path leads to. -/
def source (tree : FileTree) (path : Path) : Except Trouble Text :=
  match tree.read path with
  | .error fault => .error (.file fault)
  | .ok bytes => (Source.ofBytes bytes).mapError .decoding

/-- Holds of a computation that only looks at a tree. -/
def Asks {α : Type} (x : Session α) (answer : FileTree → α) : Prop :=
  ∀ tree, x.run tree = (answer tree, tree)

section

variable {α β : Type} {x : Session α} {answer : FileTree → α}

theorem Asks.run_bind (h : Asks x answer) (f : α → Session β) (tree : FileTree) :
    (x >>= f).run tree = (f (answer tree)).run tree := by
  rw [StateT.run_bind, h tree]
  rfl

theorem source_eq_ok_iff {tree : FileTree} {path : Path} {source : Text} :
    tree.source path = .ok source ↔
      ∃ bytes text, tree.read path = .ok bytes ∧ Text.Utf8.decode bytes = .ok text ∧
        Text.unifyNewlines text = source := by
  unfold FileTree.source
  cases tree.read path with
  | error fault => simp
  | ok bytes =>
      unfold Source.ofBytes
      simp only [mapError_eq_ok_iff, map_eq_ok_iff, Except.ok.injEq, exists_and_left,
        exists_eq_left']

theorem asks_read (path : Path) : Asks (Disk.read path) (·.read path) :=
  fun _ => rfl

theorem asks_readSource (path : Path) : Asks (readSource path) (·.source path) := by
  intro tree
  show _ = (tree.source path, tree)
  unfold readSource source
  rw [(asks_read path).run_bind]
  cases tree.read path with
  | error fault => rfl
  | ok bytes => rfl

end

/-! ### Places of files -/

section

variable {tree : FileTree} {here place above : Place} {name : Text} {names : List Text}
  {path : Path}

/-- Holds of places above which there are directories only. -/
def Rooted (tree : FileTree) (place : Place) : Prop :=
  ∀ above, above <+: place → above ≠ place → tree.kindAt? above = some .directory

theorem kindAt?_of_prefix_home (h : above <+: tree.home) :
    tree.kindAt? above = some .directory := by
  unfold kindAt?
  rw [if_pos (by rw [List.isPrefixOf_iff_prefix.mpr h, Bool.true_or])]

theorem rooted_start (path : Path) : tree.Rooted (tree.start path) := by
  intro above hbelow hne
  unfold start at hbelow hne
  split at hbelow
  case isTrue => exact kindAt?_of_prefix_home hbelow
  case isFalse hslash =>
    rw [if_neg hslash] at hne
    exact absurd (List.prefix_nil.mp hbelow) hne

theorem Rooted.kindAt?_above (h : tree.Rooted here)
    (hkind : tree.kindAt? here = some .directory) (hbelow : above <+: here) :
    tree.kindAt? above = some .directory := by
  by_cases hsame : above = here
  · rwa [hsame]
  · exact h above hbelow hsame

theorem Rooted.step (h : tree.Rooted here) (hkind : tree.kindAt? here = some .directory)
    (name : Text) : tree.Rooted (step here name) := by
  intro above hbelow hne
  unfold FileTree.step at hbelow hne
  split at hbelow
  case isTrue => exact h.kindAt?_above hkind hbelow
  case isFalse =>
    split at hbelow
    case isTrue => exact h.kindAt?_above hkind (hbelow.trans (List.dropLast_prefix here))
    case isFalse hdot hdots =>
      rw [if_neg hdot, if_neg hdots] at hne
      exact h.kindAt?_above hkind ((List.prefix_concat_iff.mp hbelow).resolve_left hne)

theorem Rooted.follow (hrooted : tree.Rooted here) (h : tree.follow here names = .ok place) :
    tree.Rooted place := by
  induction names generalizing here with
  | nil => exact Except.ok.inj h ▸ hrooted
  | cons name rest ih =>
      unfold FileTree.follow at h
      split at h
      case h_1 => contradiction
      case h_2 => contradiction
      case h_3 hkind => exact ih (hrooted.step hkind name) h

/-- The last name is followed from the directory that the names before it lead to. -/
theorem follow_concat_eq_ok_iff :
    tree.follow here (names ++ [name]) = .ok place ↔
      ∃ above, tree.follow here names = .ok above ∧ tree.kindAt? above = some .directory ∧
        place = step above name := by
  induction names generalizing here with
  | nil =>
      rw [List.nil_append]
      unfold follow
      cases hkind : tree.kindAt? here with
      | none => simp [hkind]
      | some kind =>
          cases kind with
          | file => simp [hkind]
          | directory => simp [follow, hkind, eq_comm]
  | cons first rest ih =>
      rw [List.cons_append]
      unfold follow
      cases tree.kindAt? here with
      | none => simp
      | some kind =>
          cases kind with
          | file => simp
          | directory => exact ih

/-- A path to a file ends in a name that the file has in a directory: dots lead to directories. -/
theorem exists_name_of_file (hpath : tree.placeOf path = .ok place)
    (hfile : tree.kindAt? place = some .file) :
    ∃ names name above, path.parts = names ++ [name] ∧
      tree.follow (tree.start path) names = .ok above ∧
      tree.kindAt? above = some .directory ∧ name ≠ ['.'] ∧ place = above ++ [name] := by
  have hdirectory {other : Place} (hkind : tree.kindAt? other = some .directory) :
      place ≠ other := by
    rintro rfl
    rw [hkind] at hfile
    contradiction
  unfold placeOf at hpath
  rcases List.eq_nil_or_concat path.parts with hnone | ⟨names, name, hparts⟩
  · -- no name is followed, and a path starts from a directory
    rw [hnone] at hpath
    refine absurd (Except.ok.inj hpath).symm (hdirectory (kindAt?_of_prefix_home ?_))
    unfold start
    split
    · exact List.prefix_rfl
    · exact List.nil_prefix
  · rw [List.concat_eq_append] at hparts
    rw [hparts] at hpath
    obtain ⟨above, hnames, hkind, rfl⟩ := follow_concat_eq_ok_iff.mp hpath
    have hdot : name ≠ ['.'] := fun hsame => hdirectory hkind (if_pos hsame)
    refine ⟨names, name, above, hparts, hnames, hkind, hdot, ?_⟩
    by_cases hdots : name = ['.', '.']
    · have hup : tree.kindAt? above.dropLast = some .directory :=
        ((rooted_start path).follow hnames).kindAt?_above hkind (List.dropLast_prefix above)
      refine absurd ?_ (hdirectory hup)
      unfold step
      rw [if_neg hdot, if_pos hdots]
    · unfold step
      rw [if_neg hdot, if_neg hdots]

end

end Chip8.FileTree
