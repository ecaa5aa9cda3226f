import ImmichDoctor.Library.Text
/-!
# Directory trees

What the file system shows of a storage root while nothing changes there. A
`DirectoryTree` carries the rules every file system keeps: a name is not empty, is
not `.` or `..`, has no `/` and no NUL, and no two entries of a directory share it.
A name that is not valid UTF-8 is decoded with low surrogates only.
-/

namespace ImmichDoctor.Catalog

open ImmichDoctor.Library

/-- The fields of `os.stat_result` that are read; times are in microseconds. -/
structure FileStat where
  stSize : Nat
  stMtime : Int
  stCtime : Int
  stDev : Nat
  stIno : Nat

/-- An entry without visible entries of its own: a regular file, whose `stat` is
`none` when the call fails; a directory that cannot be listed; or anything else,
links included. -/
inductive Leaf
  | file (stat : Option FileStat)
  | locked
  | other

/-- The entries of a directory in the order in which `os.scandir` yields them. -/
inductive Entries
  | nil
  | leaf (name : PyStr) (leaf : Leaf) (rest : Entries)
  | directory (name : PyStr) (entries : Entries) (rest : Entries)

/-- `Path(base) / name` relative to the root; the root itself is the empty text. -/
def childPath (base name : PyStr) : PyStr :=
  if base = [] then name else base ++ 47 :: name

/-- What `os.fsdecode` makes of a byte sequence. -/
def decodedChar (c : Nat) : Bool :=
  c < 0xD800 || (0xDC80 ≤ c && c ≤ 0xDCFF) || (0xE000 ≤ c && c ≤ 0x10FFFF)

def validName (name : PyStr) : Bool :=
  name ≠ [] && name ≠ [46] && name ≠ [46, 46] && !name.contains 47 && !name.contains 0 &&
    name.all decodedChar

/-- A directory with the regular files in it; none are seen when it cannot be listed. -/
structure Directory where
  path : PyStr
  listed : Bool
  files : List PyStr

namespace Leaf

/-- The regular files an entry at `path` stands for. -/
def files (path : PyStr) : Leaf → List PyStr
  | file _ => [path]
  | _ => []

/-- The directories an entry at `path` stands for. -/
def directories (path : PyStr) : Leaf → List Directory
  | locked => [⟨path, false, []⟩]
  | _ => []

/-- The subdirectories to visit an entry at `path` stands for. -/
def subdirectories (path : PyStr) : Leaf → List (PyStr × Option Entries)
  | locked => [(path, none)]
  | _ => []

end Leaf

namespace Entries

/-- The names in a directory, without what is below it. -/
def names : Entries → List PyStr
  | nil => []
  | leaf name _ rest => name :: rest.names
  | directory name _ rest => name :: rest.names

def wellFormed : Entries → Bool
  | nil => true
  | leaf name _ rest => validName name && !rest.names.contains name && rest.wellFormed
  | directory name entries rest =>
      validName name && !rest.names.contains name && rest.wellFormed && entries.wellFormed

/-- The regular files of the directory `base` and of all directories below. -/
def regularFiles (base : PyStr) : Entries → List PyStr
  | nil => []
  | leaf name kind rest => kind.files (childPath base name) ++ rest.regularFiles base
  | directory name entries rest =>
      entries.regularFiles (childPath base name) ++ rest.regularFiles base

/-- The regular files of the directory itself. -/
def ownFiles (base : PyStr) : Entries → List PyStr
  | nil => []
  | leaf name kind rest => kind.files (childPath base name) ++ rest.ownFiles base
  | directory _ _ rest => rest.ownFiles base

/-- The directories right below; `none` for one that cannot be listed. -/
def subdirectories (base : PyStr) : Entries → List (PyStr × Option Entries)
  | nil => []
  | leaf name kind rest => kind.subdirectories (childPath base name) ++ rest.subdirectories base
  | directory name entries rest =>
      (childPath base name, some entries) :: rest.subdirectories base

/-- All directories strictly below `base`. -/
def directoriesBelow (base : PyStr) : Entries → List Directory
  | nil => []
  | leaf name kind rest => kind.directories (childPath base name) ++ rest.directoriesBelow base
  | directory name entries rest =>
      ⟨childPath base name, true, entries.ownFiles (childPath base name)⟩ ::
        (entries.directoriesBelow (childPath base name) ++ rest.directoriesBelow base)

end Entries

/-- The tree of a storage root; `none` when the root itself cannot be listed. -/
structure DirectoryTree where
  root : Option Entries
  wellFormed : root.all Entries.wellFormed = true

/-- A directory and all directories below it. -/
def directoriesFrom : PyStr × Option Entries → List Directory
  | (path, none) => [⟨path, false, []⟩]
  | (path, some entries) => ⟨path, true, entries.ownFiles path⟩ :: entries.directoriesBelow path

namespace DirectoryTree

def regularFiles (tree : DirectoryTree) : List PyStr :=
  tree.root.elim [] (Entries.regularFiles [])

def directories (tree : DirectoryTree) : List Directory :=
  directoriesFrom ([], tree.root)

end DirectoryTree

/-! ## Paths -/

theorem childPath_ne_nil {base name : PyStr} (hname : name ≠ []) : childPath base name ≠ [] := by
  unfold childPath
  split
  · exact hname
  · simp

/-- The path is that of the entry or of something below it. -/
def Under (path : PyStr) (other : PyStr) : Prop :=
  other = path ∨ ∃ rest, other = path ++ 47 :: rest

theorem under_self (path : PyStr) : Under path path :=
  Or.inl rfl

theorem under_childPath {path name : PyStr} (hpath : path ≠ []) :
    Under path (childPath path name) := by
  unfold childPath
  rw [if_neg hpath]
  exact Or.inr ⟨name, rfl⟩

theorem Under.trans {a b c : PyStr} (hab : Under a b) (hbc : Under b c) : Under a c := by
  rcases hab with rfl | ⟨first, rfl⟩
  · exact hbc
  · rcases hbc with rfl | ⟨second, rfl⟩
    · exact Or.inr ⟨first, rfl⟩
    · exact Or.inr ⟨first ++ 47 :: second, by rw [List.append_assoc, List.cons_append]⟩

end ImmichDoctor.Catalog
