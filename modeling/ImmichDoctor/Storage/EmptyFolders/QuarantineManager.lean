import ImmichDoctor.Library.FileSystem
import ImmichDoctor.Storage.EmptyFolders.Scanner
/-!
# The quarantine of empty folders

`EmptyDirQuarantineManager` as the steps of one request after the other, each of which may
go wrong, with files and directories that others create in between. Paths are without
links and `..`, so a path text stands for its place; the reasons and the times of the
items, and what a session file holds, are left out.
-/

namespace ImmichDoctor.Storage

open ImmichDoctor.Library

/-! ## Selection -/

structure QuarantineSelection where
  rootSlugs : List PyStr
  paths : List PyStr
  quarantineAll : Bool

/-- `f"{slug}:{path}"`. -/
def colonJoined (slug path : PyStr) : PyStr :=
  slug ++ 58 :: path

/-- The condition of `_select_findings`. -/
def QuarantineSelection.covers (selection : QuarantineSelection)
    (finding : EmptyDirectoryFinding) : Bool :=
  let normalizedRoots := selection.rootSlugs.filter (· ≠ [])
  let normalizedPaths := selection.paths.filter (· ≠ [])
  let rootMatches := normalizedRoots.isEmpty || normalizedRoots.contains finding.rootSlug
  let pathMatches := normalizedPaths.isEmpty ||
    (normalizedPaths.contains finding.relativePath ||
      normalizedPaths.contains finding.absolutePath.text ||
      normalizedPaths.contains (colonJoined finding.rootSlug finding.relativePath))
  selection.quarantineAll ||
    (rootMatches && pathMatches && (!normalizedRoots.isEmpty || !normalizedPaths.isEmpty))

/-- `_select_findings`. -/
def selectFindings (findings : List EmptyDirectoryFinding) (selection : QuarantineSelection) :
    List EmptyDirectoryFinding :=
  findings.filter selection.covers

/-! ## Items and their index -/

inductive EmptyDirState
  | active
  | restored
  | deleted
  deriving DecidableEq

structure EmptyDirQuarantineItem where
  quarantineItemId : PyStr
  sessionId : PyStr
  rootSlug : PyStr
  relativePath : PyStr
  originalPath : PurePath
  quarantinePath : PurePath
  sizeBytes : Option Nat
  lastModifiedAt : Option PyStr
  mode : Option Nat
  state : EmptyDirState
  deriving DecidableEq

abbrev EmptyDirIndex := Table EmptyDirQuarantineItem EmptyDirQuarantineItem.quarantineItemId

abbrev FsPath := List PyStr

/-- What a regular file holds: an index, or anything else. -/
inductive FileContent
  | index (items : EmptyDirIndex)
  | other

/-- A regular file; a file that is moved or written to again stays the same file. -/
structure FileData where
  fileId : Nat
  content : FileContent

abbrev Files := FileSystem PyStr FileData

structure EmptyFolderConfig where
  storage : StorageSettings
  quarantinePath : PurePath

namespace EmptyFolderConfig

def roots (config : EmptyFolderConfig) : List (PyStr × PurePath) :=
  effectiveRoots id config.storage none

/-- `_quarantine_root`. -/
def quarantineRoot (config : EmptyFolderConfig) : PurePath :=
  entryPath config.quarantinePath (py "empty-folders")

/-- The directory with the quarantined directories of all sessions. -/
def sessionsRoot (config : EmptyFolderConfig) : PurePath :=
  entryPath config.quarantineRoot (py "sessions")

/-- `_quarantine_destination`. -/
def quarantineDestination (config : EmptyFolderConfig) (sessionId : PyStr)
    (finding : EmptyDirectoryFinding) : PurePath :=
  let relative := if finding.relativePath = [] then py "_root" else finding.relativePath
  entryPath (entryPath (entryPath config.sessionsRoot sessionId) finding.rootSlug) relative

/-- `_session_file`; it is below the directory of the session files. -/
def sessionFile (config : EmptyFolderConfig) (sessionId : PyStr) : FsPath :=
  (entryPath config.quarantineRoot (py "session-index")).parts ++ [sessionId ++ py ".json"]

/-- `_index_file`. -/
def indexFile (config : EmptyFolderConfig) : FsPath :=
  (entryPath config.quarantineRoot (py "index.json")).parts

/-- The item of a directory that was moved. -/
def quarantinedItem (config : EmptyFolderConfig) (sessionId : PyStr)
    (finding : EmptyDirectoryFinding) (mode : Option Nat) : EmptyDirQuarantineItem where
  quarantineItemId := colonJoined (colonJoined sessionId finding.rootSlug) finding.relativePath
  sessionId := sessionId
  rootSlug := finding.rootSlug
  relativePath := finding.relativePath
  originalPath := finding.absolutePath
  quarantinePath := config.quarantineDestination sessionId finding
  sizeBytes := finding.sizeBytes
  lastModifiedAt := finding.lastModifiedAt
  mode := mode
  state := .active

/-- `_read_index`; `none` when the file cannot be read as an index. -/
def readIndex (config : EmptyFolderConfig) (files : Files) : Option EmptyDirIndex :=
  match files.lookup config.indexFile with
  | none => some .empty
  | some (.file ⟨_, .index items⟩) => some items
  | some _ => none

end EmptyFolderConfig

/-- `list_quarantined` of a session and `_select_quarantine_items`. -/
def selectQuarantineItems (index : EmptyDirIndex) (sessionId : PyStr) (paths : List PyStr)
    (selectAll : Bool) : List EmptyDirQuarantineItem :=
  let items := (index.rows.filter fun item =>
    item.sessionId = sessionId && item.state = .active).insertionSort fun a b =>
      a.rootSlug < b.rootSlug ∨ a.rootSlug = b.rootSlug ∧ a.relativePath ≤ b.relativePath
  let normalizedPaths := paths.filter (· ≠ [])
  items.filter fun item =>
    selectAll || (normalizedPaths.contains item.relativePath ||
      normalizedPaths.contains item.originalPath.text ||
      normalizedPaths.contains item.quarantineItemId ||
      normalizedPaths.contains (colonJoined item.rootSlug item.relativePath))

/-! ## Calls of the file system -/

/-- How `shutil.move` goes on when it gets to the rename. -/
inductive MoveHow
  | renamed
  /-- The rename is refused and the copy is complete; the source is still there. -/
  | copied
  /-- The copy raises, with these paths below the source copied. -/
  | cutOff (left : List FsPath)
  /-- It raises without an effect. -/
  | refused
  deriving DecidableEq

inductive MoveResult
  | failed
  | moved
  | copied
  deriving DecidableEq

/-- `shutil.move` up to the removal of a source that was copied. -/
def beginMove (files : Files) (how : MoveHow) (source destination : FsPath) :
    Files × MoveResult :=
  if source = destination ∧ (files.lookup source).isSome then (files, .moved)
  else
    match files.realDestination source destination with
    | none => (files, .failed)
    | some target =>
        if (files.lookup source).isNone ∨ ¬ FileSystem.Apart source target ∨
            files.isDirectory source = true ∧ files.vacant target = false then
          (files, .failed)
        else
          match how with
          | .renamed => (files.moveTree source target, .moved)
          | .copied => (files.copyTree source target fun _ => true, .copied)
          | .cutOff left => (files.copyTree source target fun rest => left.contains rest, .failed)
          | .refused => (files, .failed)

/-- `shutil.rmtree`; when it raises it leaves the directory itself and some of what is below. -/
def removeDirectory (files : Files) (kept : Option (List FsPath)) (path : FsPath) :
    Files × Bool :=
  match kept with
  | none => (files.removeTree path, true)
  | some kept =>
      (files.keep fun other => !decide (path <+: other) || other = path || kept.contains other,
        false)

/-- `mkdir(parents=True, exist_ok=True)`, which may raise after it has made some. -/
def makeDirectories (files : Files) (made : Option Nat) (path : FsPath) : Files × Bool :=
  match made with
  | none =>
      match files.mkdirs path with
      | none => (files, false)
      | some files => (files, true)
  | some made => (((path.inits.tail.take made).foldlM FileSystem.mkdir files).getD files, false)

/-- `write_text`; a new file gets the id. -/
def writeText (files : Files) (path : FsPath) (fileId : Nat) (content : FileContent) :
    Option Files :=
  match files.lookup path with
  | none => some (files.set path (.file ⟨fileId, content⟩))
  | some (.file data) => some (files.set path (.file ⟨data.fileId, content⟩))
  | some _ => none

/-- How a write of the index goes wrong: before it, or after the file was truncated. -/
inductive WriteFault
  | unwritten
  | cutOff
  deriving DecidableEq

namespace EmptyFolderConfig

/-- `_write_index`. -/
def writeIndex (config : EmptyFolderConfig) (files : Files) (fault : Option WriteFault)
    (fileId : Nat) (index : EmptyDirIndex) : Option Files :=
  match fault with
  | some .unwritten => some files
  | some .cutOff => do
      writeText (← files.mkdirs config.quarantineRoot.parts) config.indexFile fileId .other
  | none => do
      writeText (← files.mkdirs config.quarantineRoot.parts) config.indexFile fileId (.index index)

/-- `_ensure_storage_root` and `_write_session`, as far as they come. -/
def writeSession (config : EmptyFolderConfig) (files : Files) (steps : Nat) (sessionId : PyStr)
    (fileId : Nat) : Option Files :=
  ([fun files => FileSystem.mkdirs files config.quarantineRoot.parts,
      fun files => FileSystem.mkdirs files (config.sessionFile sessionId).dropLast,
      fun files => writeText files (config.sessionFile sessionId) fileId .other].take
    steps).foldlM (fun files step => step files) files

end EmptyFolderConfig

/-! ## What a scan reads -/

/-- The entries of a directory are what stands in it. -/
def Listing.shows (files : Files) (path : FsPath) : Listing → Bool
  | .nil => true
  | .entry name kind rest =>
      (match kind, files.lookup (path ++ [name]) with
        | .file, some (.file _) => true
        | .symlink, some .other => true
        | .other, some .other => true
        | .unreadable _, some _ => true
        | _, _ => false) && rest.shows files path
  | .directory name _ _ _ rest =>
      files.isDirectory (path ++ [name]) && rest.shows files path

/-- A directory is listed: it shows what is in it, and all of it unless an error ends the
listing. The subdirectories are shown as they will be when they are listed themselves. -/
def DirectoryView.shows (files : Files) (path : FsPath) (view : DirectoryView) : Bool :=
  files.isDirectory path && view.entries.shows files path &&
    (view.error.isSome || (files.names path).all (view.entries.names.contains ·))

/-! ## The workflow -/

inductive RestoreStage
  | check
  | move
  /-- The directory was copied and is still in quarantine. -/
  | remove
  deriving DecidableEq

/-- Where the request that is running stands; the first of what is pending is its turn. -/
inductive EmptyFolderPhase
  | idle
  /-- With the directories that the scan has listed. -/
  | scanning (selection : QuarantineSelection) (dryRun : Bool)
      (listed : List (PurePath × DirectoryView))
  /-- `copied` when the first directory was copied and is still in its place. -/
  | quarantining (sessionId : PyStr) (pending : List EmptyDirectoryFinding) (copied : Bool)
      (items : List EmptyDirQuarantineItem)
  | restoring (pending : List EmptyDirQuarantineItem) (stage : RestoreStage)
      (updated : EmptyDirIndex)
  | deleting (pending : List EmptyDirQuarantineItem) (updated : EmptyDirIndex)

structure EmptyFolderSystem where
  files : Files
  phase : EmptyFolderPhase

inductive EmptyFolderEvent
  /-- Someone else creates a file or a directory. -/
  | createFile (path : FsPath) (fileId : Nat)
  | createDirectory (path : FsPath)
  /-- A scan on its own, a dry run of a restore or a deletion: nothing is changed. -/
  | scan
  | quarantine (selection : QuarantineSelection) (dryRun : Bool)
  | list (path : PurePath) (view : DirectoryView)
  /-- The scan ends with what it has seen of the roots, or raises. -/
  | select (views : List (PyStr × RootView)) (sessionId : PyStr)
  | abortScan
  | moveFinding (made : Option Nat) (how : MoveHow) (mode : Option Nat)
  | removeSource (kept : Option (List FsPath)) (mode : Option Nat)
  /-- The session file and the index are written; after so many steps it may raise. -/
  | recordSession (steps : Nat) (fault : Option WriteFault) (sessionFileId indexFileId : Nat)
  | restore (sessionId : PyStr) (paths : List PyStr) (restoreAll : Bool)
  | checkPaths (raises : Bool)
  | moveBack (how : MoveHow) (metadataRaises : Bool)
  | removeQuarantined (kept : Option (List FsPath)) (metadataRaises : Bool)
  | delete (sessionId : PyStr) (paths : List PyStr) (deleteAll : Bool)
  | removeItem (kept : Option (List FsPath))
  | writeIndex (fault : Option WriteFault) (fileId : Nat)

/-- What the scan has seen of a root. -/
def viewOf (views : List (PyStr × RootView)) (root : PyStr × PurePath) : RootView :=
  (views.lookup root.1).getD (.inl [])

/-- The views are of listed directories, and no directory has two entries of a name. -/
def viewsListed (config : EmptyFolderConfig) (listed : List (PurePath × DirectoryView))
    (views : List (PyStr × RootView)) : Bool :=
  config.roots.all fun root =>
    match viewOf views root with
    | .inl _ => true
    | .inr view => view.entries.wellFormed && (view.walk root.2).all (listed.contains ·)

/-- Nothing knows of the session yet. -/
def freshSession (config : EmptyFolderConfig) (files : Files) (sessionId : PyStr) : Bool :=
  validPart sessionId && files.vacant (config.sessionsRoot.parts ++ [sessionId]) &&
    (config.readIndex files).all fun index => index.rows.all fun item =>
      item.sessionId ≠ sessionId

/-- The directory of an item is back; `os.utime` or `chmod` may still raise. -/
def afterMoveBack (item : EmptyDirQuarantineItem) (metadataRaises : Bool)
    (updated : EmptyDirIndex) : Option EmptyDirIndex :=
  if !metadataRaises then some (updated.put { item with state := .restored })
  else if item.lastModifiedAt.isSome || item.mode.isSome then some updated
  else none

/-- A step of `quarantine` for the first of the findings. -/
def quarantineStep (config : EmptyFolderConfig) (files : Files) (sessionId : PyStr)
    (finding : EmptyDirectoryFinding) (rest : List EmptyDirectoryFinding) (copied : Bool)
    (items : List EmptyDirQuarantineItem) : EmptyFolderEvent → Option EmptyFolderSystem
  | .moveFinding made how mode =>
      if copied then none
      else
        let source := finding.absolutePath.parts
        let destination := (config.quarantineDestination sessionId finding).parts
        let (prepared, ready) := makeDirectories files made destination.dropLast
        if !ready then some ⟨prepared, .quarantining sessionId rest false items⟩
        else
          let (after, result) := beginMove prepared how source destination
          match result with
          | .failed => some ⟨after, .quarantining sessionId rest false items⟩
          | .copied => some ⟨after, .quarantining sessionId (finding :: rest) true items⟩
          | .moved =>
              some ⟨after, .quarantining sessionId rest false
                (items ++ [config.quarantinedItem sessionId finding mode])⟩
  | .removeSource kept mode =>
      if !copied then none
      else
        let (after, removed) := removeDirectory files kept finding.absolutePath.parts
        some ⟨after, .quarantining sessionId rest false
          (if removed then items ++ [config.quarantinedItem sessionId finding mode] else items)⟩
  | _ => none

/-- A step of `restore` for the first of the items. -/
def restoreStep (files : Files) (item : EmptyDirQuarantineItem)
    (rest : List EmptyDirQuarantineItem) (stage : RestoreStage) (updated : EmptyDirIndex) :
    EmptyFolderEvent → Option EmptyFolderSystem
  | .checkPaths raises =>
      if stage ≠ .check then none
      else if raises then some ⟨files, .idle⟩
      else if (files.lookup item.originalPath.parts.dropLast).isNone ||
          (files.lookup item.originalPath.parts).isSome then
        some ⟨files, .restoring rest .check updated⟩
      else some ⟨files, .restoring (item :: rest) .move updated⟩
  | .moveBack how metadataRaises =>
      if stage ≠ .move then none
      else
        let (after, result) :=
          beginMove files how item.quarantinePath.parts item.originalPath.parts
        match result with
        | .failed => some ⟨after, .restoring rest .check updated⟩
        | .copied => some ⟨after, .restoring (item :: rest) .remove updated⟩
        | .moved => do
            let updated ← afterMoveBack item metadataRaises updated
            some ⟨after, .restoring rest .check updated⟩
  | .removeQuarantined kept metadataRaises =>
      if stage ≠ .remove then none
      else
        let (after, removed) := removeDirectory files kept item.quarantinePath.parts
        if !removed then some ⟨after, .restoring rest .check updated⟩
        else do
          let updated ← afterMoveBack item metadataRaises updated
          some ⟨after, .restoring rest .check updated⟩
  | _ => none

/-- A step of `finalize_delete` for the first of the items. -/
def deleteStep (files : Files) (item : EmptyDirQuarantineItem)
    (rest : List EmptyDirQuarantineItem) (updated : EmptyDirIndex) :
    EmptyFolderEvent → Option EmptyFolderSystem
  | .removeItem kept =>
      if files.isDirectory item.quarantinePath.parts then
        let (after, removed) := removeDirectory files kept item.quarantinePath.parts
        some ⟨after, .deleting rest
          (if removed then updated.put { item with state := .deleted } else updated)⟩
      else some ⟨files, .deleting rest updated⟩
  | _ => none

/-- A step of the scan of a quarantine request. -/
def scanStep (config : EmptyFolderConfig) (files : Files) (selection : QuarantineSelection)
    (dryRun : Bool) (listed : List (PurePath × DirectoryView)) :
    EmptyFolderEvent → Option EmptyFolderSystem
  | .list path view =>
      if view.shows files path.parts then
        some ⟨files, .scanning selection dryRun (listed ++ [(path, view)])⟩
      else none
  | .abortScan => some ⟨files, .idle⟩
  | .select views sessionId =>
      if viewsListed config listed views then
        let selected := selectFindings (scan config.roots (viewOf views)).findings selection
        if selected.isEmpty || dryRun then some ⟨files, .idle⟩
        else if freshSession config files sessionId then
          some ⟨files, .quarantining sessionId selected false []⟩
        else none
      else none
  | _ => none

/-- The end of a quarantine request. -/
def recordStep (config : EmptyFolderConfig) (files : Files) (sessionId : PyStr)
    (items : List EmptyDirQuarantineItem) : EmptyFolderEvent → Option EmptyFolderSystem
  | .recordSession steps fault sessionFileId indexFileId => do
      let written ← config.writeSession files steps sessionId sessionFileId
      if steps < 3 then some ⟨written, .idle⟩
      else
        match config.readIndex written with
        | none => some ⟨written, .idle⟩
        | some index =>
            let written ← config.writeIndex written fault indexFileId
              (items.foldl (fun existing item => existing.put item) index)
            some ⟨written, .idle⟩
  | _ => none

/-- The start of a request. -/
def startStep (config : EmptyFolderConfig) (files : Files) :
    EmptyFolderEvent → Option EmptyFolderSystem
  | .scan => some ⟨files, .idle⟩
  | .quarantine selection dryRun => some ⟨files, .scanning selection dryRun []⟩
  | .restore sessionId paths restoreAll =>
      match config.readIndex files with
      | none => some ⟨files, .idle⟩
      | some index =>
          match selectQuarantineItems index sessionId paths restoreAll with
          | [] => some ⟨files, .idle⟩
          | items => some ⟨files, .restoring items .check index⟩
  | .delete sessionId paths deleteAll =>
      match config.readIndex files with
      | none => some ⟨files, .idle⟩
      | some index =>
          match selectQuarantineItems index sessionId paths deleteAll with
          | [] => some ⟨files, .idle⟩
          | items => some ⟨files, .deleting items index⟩
  | _ => none

/-- The index is written at the end of a restore or a deletion. -/
def finishStep (config : EmptyFolderConfig) (files : Files) (updated : EmptyDirIndex) :
    EmptyFolderEvent → Option EmptyFolderSystem
  | .writeIndex fault fileId => do
      some ⟨← config.writeIndex files fault fileId updated, .idle⟩
  | _ => none

/-- A step of the request that is running. -/
def EmptyFolderPhase.step (config : EmptyFolderConfig) (files : Files) (event : EmptyFolderEvent) :
    EmptyFolderPhase → Option EmptyFolderSystem
  | .idle => startStep config files event
  | .scanning selection dryRun listed => scanStep config files selection dryRun listed event
  | .quarantining sessionId (finding :: rest) copied items =>
      quarantineStep config files sessionId finding rest copied items event
  | .quarantining sessionId [] _ items => recordStep config files sessionId items event
  | .restoring (item :: rest) stage updated => restoreStep files item rest stage updated event
  | .restoring [] _ updated | .deleting [] updated => finishStep config files updated event
  | .deleting (item :: rest) updated => deleteStep files item rest updated event

/-- A step of the workflow, or a file or directory of someone else in an existing one. -/
def EmptyFolderSystem.step (config : EmptyFolderConfig) (s : EmptyFolderSystem) :
    EmptyFolderEvent → Option EmptyFolderSystem
  | .createFile path fileId =>
      if s.files.isDirectory path.dropLast && s.files.vacant path then
        some { s with files := s.files.set path (.file ⟨fileId, .other⟩) }
      else none
  | .createDirectory path =>
      if s.files.isDirectory path.dropLast && s.files.vacant path then
        some { s with files := s.files.set path .directory }
      else none
  | event => s.phase.step config s.files event

end ImmichDoctor.Storage
