import Chip8.File.Disk

/-!
# File trees

Files and directories as a value, and the working directory among them.  A tree is a disk whose
requests can be reasoned about.
-/

namespace Chip8

/-- Where something stands in a tree: the names on the way from the root. -/
abbrev Place := List Text

/-- Directories, and files with their bytes.  Paths that do not start with a slash are followed from
`home`, the working directory; the directories on the way to it need not be listed. -/
structure FileTree where
  home : Place := []
  directories : List Place := []
  files : List (Place × List UInt8) := []
  deriving DecidableEq, Repr

namespace FileTree

/-- What stands at a place. -/
def kindAt? (tree : FileTree) (place : Place) : Option EntryKind :=
  if place.isPrefixOf tree.home || tree.directories.contains place then some .directory
  else if (tree.files.lookup place).isSome then some .file
  else none

/-- The place that a name leads to from a directory.  The root is its own parent. -/
def step (here : Place) (name : Text) : Place :=
  if name = ['.'] then here
  else if name = ['.', '.'] then here.dropLast
  else here ++ [name]

/-- The place that names lead to from a place, if all but the last lead to directories. -/
def follow (tree : FileTree) (here : Place) : List Text → Except FileProblem Place
  | [] => .ok here
  | name :: rest =>
      match tree.kindAt? here with
      | none => .error .notFound
      | some .file => .error .notDirectory
      | some .directory => tree.follow (step here name) rest

/-- The place that a path starts from. -/
def start (tree : FileTree) (path : Path) : Place :=
  if path.slashes = 0 then tree.home else []

/-- The place that a path leads to. -/
def placeOf (tree : FileTree) (path : Path) : Except FileProblem Place :=
  tree.follow (tree.start path) path.parts

/-- What a path leads to, if it leads anywhere. -/
def kindOf? (tree : FileTree) (path : Path) : Option EntryKind :=
  match tree.placeOf path with
  | .ok place => tree.kindAt? place
  | .error _ => none

/-- The bytes of the file that a path leads to. -/
def read (tree : FileTree) (path : Path) : Except FileFault (List UInt8) :=
  match tree.placeOf path with
  | .error problem => .error ⟨problem, some path.text⟩
  | .ok place =>
      match tree.kindAt? place, tree.files.lookup place with
      | some .directory, _ => .error ⟨.isDirectory, some path.text⟩
      | _, some bytes => .ok bytes
      | _, none => .error ⟨.notFound, some path.text⟩

/-- The files after the one at a place has been given new bytes. -/
def put (place : Place) (bytes : List UInt8) :
    List (Place × List UInt8) → List (Place × List UInt8)
  | [] => [(place, bytes)]
  | (other, content) :: rest =>
      if other = place then (place, bytes) :: rest else (other, content) :: put place bytes rest

/-- The tree after a file has been written. -/
def write (tree : FileTree) (path : Path) (bytes : List UInt8) : Except FileFault FileTree :=
  match tree.placeOf path with
  | .error problem => .error ⟨problem, some path.text⟩
  | .ok place =>
      match tree.kindAt? place with
      | some .directory => .error ⟨.isDirectory, some path.text⟩
      | _ => .ok { tree with files := put place bytes tree.files }

/-- Adds the directories that names lead to from a place, where nothing stands yet. -/
def addFrom (tree : FileTree) (here : Place) : List Text → FileTree
  | [] => tree
  | name :: rest =>
      let next := step here name
      let grown :=
        if (tree.kindAt? next).isSome then tree
        else { tree with directories := tree.directories ++ [next] }
      grown.addFrom next rest

/-- Adds the directory that a path names and those above it. -/
def addDirectory (tree : FileTree) (path : Path) : FileTree :=
  tree.addFrom (tree.start path) path.parts

/-- The files below the working directory that `earlier` does not have with the same bytes, by the
texts of their paths. -/
def changes (earlier later : FileTree) : List (Text × List UInt8) :=
  let changed := later.files.filter fun (place, bytes) =>
    later.home.isPrefixOf place && earlier.files.lookup place != some bytes
  let named := changed.map fun (place, bytes) =>
    (Text.join ['/'] (place.drop later.home.length), bytes)
  named.mergeSort fun a b => !List.lex b.1 a.1 fun c d => c.toNat < d.toNat

/-- A computation that reads and writes a tree. -/
abbrev Session := StateM FileTree

instance : Disk Session where
  kind? path := do return (← get).kindOf? path
  read path := do return (← get).read path
  write path bytes := do
    match (← get).write path bytes with
    | .ok tree => set tree; return .ok ()
    | .error fault => return .error fault

theorem lookup_put (place other : Place) (bytes : List UInt8)
    (files : List (Place × List UInt8)) :
    (put place bytes files).lookup other =
      if other = place then some bytes else files.lookup other := by
  have lookup_of_ne {here : Place} (h : ¬other = here) (content : List UInt8)
      (rest : List (Place × List UInt8)) :
      ((here, content) :: rest).lookup other = rest.lookup other := by
    simp [List.lookup_cons, beq_eq_false_iff_ne.mpr h]
  induction files with
  | nil =>
      by_cases h : other = place
      · simp [put, h]
      · simp [put, h, lookup_of_ne h]
  | cons entry rest ih =>
      obtain ⟨here, content⟩ := entry
      by_cases hp : here = place
      · subst hp
        by_cases h : other = here
        · simp [put, h]
        · simp [put, h, lookup_of_ne h]
      · by_cases h : other = here
        · have hne : other ≠ place := fun heq => hp (h.symm.trans heq)
          simp [put, h, hp]
        · simp only [put, hp, if_false, lookup_of_ne h]
          exact ih

end FileTree

end Chip8
