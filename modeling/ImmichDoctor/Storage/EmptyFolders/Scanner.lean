import ImmichDoctor.Catalog.RootRegistry
/-!
# The empty-folder scan

`EmptyFolderScanner`: the effective roots, the walk of each root and the report. The walk
is over what `os.scandir` shows, with the entries of a directory in the order of their
names; the texts of the checks and the progress reports are left out.
-/

namespace ImmichDoctor.Storage

open ImmichDoctor.Library
open ImmichDoctor.Catalog (configuredImmichPaths rootSpecs)
open ImmichDoctor.Catalog.CatalogRootRegistry (isChildPath)

/-! ## What the file system shows -/

/-- An entry that is not a directory. -/
inductive EntryKind
  | symlink
  | file
  | other
  /-- Its kind cannot be read. -/
  | unreadable (message : PyStr)
  deriving DecidableEq

/-- What a finding keeps of `stat`. -/
structure DirectoryStat where
  sizeBytes : Nat
  lastModifiedAt : PyStr
  deriving DecidableEq

/-- The entries of a directory. A subdirectory comes with its `stat`, with the error that
ends its listing, and with the entries it shows before. -/
inductive Listing
  | nil
  | entry (name : PyStr) (kind : EntryKind) (rest : Listing)
  | directory (name : PyStr) (stat : Option DirectoryStat) (error : Option PyStr)
      (entries rest : Listing)
  deriving DecidableEq

/-- A directory without its name. -/
structure DirectoryView where
  stat : Option DirectoryStat
  error : Option PyStr
  entries : Listing
  deriving DecidableEq

namespace Listing

def names : Listing → List PyStr
  | nil => []
  | entry name _ rest => name :: rest.names
  | directory name _ _ _ rest => name :: rest.names

def wellFormed : Listing → Bool
  | nil => true
  | entry name _ rest => validPart name && !rest.names.contains name && rest.wellFormed
  | directory name _ _ entries rest =>
      validPart name && !rest.names.contains name && rest.wellFormed && entries.wellFormed

/-- The subdirectory of a name. -/
def child (name : PyStr) : Listing → Option DirectoryView
  | nil => none
  | entry _ _ rest => rest.child name
  | directory other stat error entries rest =>
      if other = name then some ⟨stat, error, entries⟩ else rest.child name

end Listing

/-- The directory at a path below a directory. -/
def DirectoryView.descend (view : DirectoryView) : List PyStr → Option DirectoryView
  | [] => some view
  | name :: rest => (view.entries.child name).bind fun below => below.descend rest

/-! ## Roots -/

/-- `_effective_roots` before the filter: the configured roots by their slugs. -/
def configuredRoots (settings : StorageSettings) : List (PyStr × PurePath) :=
  (configuredImmichPaths settings).map fun (settingName, path) =>
    (((rootSpecs.lookup settingName).map Prod.fst).getD settingName, path)

/-- `_effective_roots`; `resolvePath` stands for `Path.resolve`. -/
def effectiveRoots (resolvePath : PurePath → PurePath) (settings : StorageSettings)
    (rootSlug : Option PyStr) : List (PyStr × PurePath) :=
  let roots := configuredRoots settings
  let effective := roots.filter fun (slug, path) =>
    rootSlug.all (· = slug) &&
      !(roots.any (fun (otherSlug, otherPath) =>
          otherSlug ≠ slug && isChildPath resolvePath path otherPath) && slug = py "library")
  effective.insertionSort fun a b => a.1 ≤ b.1

/-! ## The walk of a root -/

structure EmptyDirectoryFinding where
  rootSlug : PyStr
  relativePath : PyStr
  absolutePath : PurePath
  depth : Nat
  sizeBytes : Option Nat
  lastModifiedAt : Option PyStr
  childCountBefore : Nat
  isOrphanParent : Bool
  deriving DecidableEq

structure SymlinkDirectory where
  rootSlug : PyStr
  relativePath : PyStr
  absolutePath : PyStr

structure EntryError where
  rootSlug : PyStr
  relativePath : PyStr
  message : PyStr

structure RootScanState where
  directoryCount : Nat
  findings : List EmptyDirectoryFinding
  orphanParents : List EmptyDirectoryFinding
  symlinkDirectories : List SymlinkDirectory
  entryErrors : List EntryError
  errorMessage : Option PyStr

def RootScanState.initial : RootScanState :=
  ⟨0, [], [], [], [], none⟩

structure ScannedRoot where
  rootSlug : PyStr
  rootPath : PurePath

/-- `Path(entry.path)`. -/
def entryPath (path : PurePath) (name : PyStr) : PurePath :=
  path.joinParts (PurePath.partsOf name) (PurePath.valid_partsOf name)

/-- The directories that the walk goes through below a path, each after those below it. -/
def Listing.walk (path : PurePath) : Listing → List (PurePath × DirectoryView)
  | .nil => []
  | .entry _ _ rest => rest.walk path
  | .directory name stat error entries rest =>
      (if error.isSome then [] else entries.walk (entryPath path name)) ++
        (entryPath path name, ⟨stat, error, entries⟩) :: rest.walk path

/-- A directory and those that the walk goes through below it. -/
def DirectoryView.walk (path : PurePath) (view : DirectoryView) :
    List (PurePath × DirectoryView) :=
  (if view.error.isSome then [] else view.entries.walk path) ++ [(path, view)]

/-- What the loop over the entries has seen. -/
structure SeenEntries where
  childDirectories : Nat
  hasRegularFile : Bool
  hasBlockingEntries : Bool

namespace ScannedRoot

/-- The names from the root to a path below it. -/
def relativeParts (root : ScannedRoot) (path : PurePath) : List PyStr :=
  path.parts.drop root.rootPath.parts.length

/-- `_relative_path`. -/
def relativePath (root : ScannedRoot) (path : PurePath) : PyStr :=
  PurePath.joined (root.relativeParts path)

/-- The loop over the entries of a directory. -/
def readEntries (root : ScannedRoot) (path : PurePath) :
    Listing → RootScanState × SeenEntries → RootScanState × SeenEntries
  | .nil, acc => acc
  | .entry name kind rest, (state, seen) =>
      let relativePath := root.relativePath (entryPath path name)
      root.readEntries path rest <|
        match kind with
        | .symlink =>
            ({ state with
                symlinkDirectories := state.symlinkDirectories ++
                  [⟨root.rootSlug, relativePath, (entryPath path name).text⟩] },
              { seen with hasBlockingEntries := true })
        | .file => (state, { seen with hasRegularFile := true })
        | .other => (state, { seen with hasBlockingEntries := true })
        | .unreadable message =>
            ({ state with
                entryErrors := state.entryErrors ++ [⟨root.rootSlug, relativePath, message⟩] },
              { seen with hasBlockingEntries := true })
  | .directory _ _ _ _ rest, (state, seen) =>
      root.readEntries path rest
        (state, { seen with childDirectories := seen.childDirectories + 1 })

/-- `_build_finding`. -/
def buildFinding (root : ScannedRoot) (path : PurePath) (stat : Option DirectoryStat)
    (childCount : Nat) : EmptyDirectoryFinding where
  rootSlug := root.rootSlug
  relativePath := root.relativePath path
  absolutePath := path
  depth := (root.relativeParts path).length
  sizeBytes := stat.map (·.sizeBytes)
  lastModifiedAt := stat.map (·.lastModifiedAt)
  childCountBefore := childCount
  isOrphanParent := childCount ≠ 0

/-- `_scan_directory`, with the walk of the subdirectories as `below`. -/
def scanListed (root : ScannedRoot) (path : PurePath) (view : DirectoryView)
    (below : RootScanState → Bool × RootScanState) (state : RootScanState) :
    Bool × RootScanState :=
  let relativePath := root.relativePath path
  let (state, seen) := root.readEntries path view.entries
    ({ state with directoryCount := state.directoryCount + 1 }, ⟨0, false, false⟩)
  match view.error with
  | some message =>
      (false, { state with
        errorMessage := state.errorMessage <|> some message
        entryErrors := state.entryErrors ++ [⟨root.rootSlug, relativePath, message⟩] })
  | none =>
      let (childrenAllEmpty, state) := below state
      let isEmpty := !seen.hasRegularFile && !seen.hasBlockingEntries && childrenAllEmpty
      let finding := root.buildFinding path view.stat seen.childDirectories
      if isEmpty && relativePath ≠ [] then
        if seen.childDirectories ≠ 0 then
          (isEmpty, { state with orphanParents := state.orphanParents ++ [finding] })
        else (isEmpty, { state with findings := state.findings ++ [finding] })
      else (isEmpty, state)

/-- The walk of the subdirectories; the first component says whether all are empty. -/
def scanSubdirectories (root : ScannedRoot) (path : PurePath) :
    Listing → RootScanState → Bool × RootScanState
  | .nil, state => (true, state)
  | .entry _ _ rest, state => root.scanSubdirectories path rest state
  | .directory name stat error entries rest, state =>
      let (childEmpty, state) := root.scanListed (entryPath path name) ⟨stat, error, entries⟩
        (root.scanSubdirectories (entryPath path name) entries) state
      let (othersEmpty, state) := root.scanSubdirectories path rest state
      (childEmpty && othersEmpty, state)

/-- `_scan_directory` of the root. -/
def scanDirectory (root : ScannedRoot) (view : DirectoryView) : RootScanState :=
  (root.scanListed root.rootPath view (root.scanSubdirectories root.rootPath view.entries)
    .initial).2

end ScannedRoot

/-! ## The report -/

structure EmptyFolderScanReport where
  findings : List EmptyDirectoryFinding
  orphanParents : List EmptyDirectoryFinding
  symlinkDirectories : List SymlinkDirectory
  entryErrors : List EntryError
  rootsScanned : List PyStr
  rootsWithErrors : List (PyStr × PyStr)
  directoriesScanned : Nat

def EmptyFolderScanReport.empty : EmptyFolderScanReport :=
  ⟨[], [], [], [], [], [], 0⟩

/-- The order of the report: by slug, the deepest first, by path. -/
def EmptyDirectoryFinding.before (a b : EmptyDirectoryFinding) : Prop :=
  a.rootSlug < b.rootSlug ∨ a.rootSlug = b.rootSlug ∧
    (b.depth < a.depth ∨ a.depth = b.depth ∧ a.relativePath ≤ b.relativePath)

instance : DecidableRel EmptyDirectoryFinding.before := fun _ _ =>
  inferInstanceAs (Decidable (_ ∨ _))

/-- What a root shows: the message of a check that fails, or the directory. -/
abbrev RootView := PyStr ⊕ DirectoryView

/-- The iteration of `scan` for a root. -/
def scanRoot (view : PyStr × PurePath → RootView) (report : EmptyFolderScanReport)
    (root : PyStr × PurePath) : EmptyFolderScanReport :=
  match view root with
  | .inl message =>
      { report with rootsWithErrors := report.rootsWithErrors ++ [(root.1, message)] }
  | .inr directory =>
      let state := ScannedRoot.scanDirectory ⟨root.1, root.2⟩ directory
      { findings := report.findings ++ state.findings
        orphanParents := report.orphanParents ++ state.orphanParents
        symlinkDirectories := report.symlinkDirectories ++ state.symlinkDirectories
        entryErrors := report.entryErrors ++ state.entryErrors
        rootsScanned := report.rootsScanned ++ [root.1]
        rootsWithErrors := report.rootsWithErrors ++
          (state.errorMessage.filter (· ≠ [])).toList.map fun message => (root.1, message)
        directoriesScanned := report.directoriesScanned + state.directoryCount }

/-- `scan`, for the effective roots and what each of them shows. -/
def scan (roots : List (PyStr × PurePath)) (view : PyStr × PurePath → RootView) :
    EmptyFolderScanReport :=
  let report := roots.foldl (scanRoot view) .empty
  { report with
    findings := report.findings.insertionSort EmptyDirectoryFinding.before
    orphanParents := report.orphanParents.insertionSort EmptyDirectoryFinding.before }

end ImmichDoctor.Storage
