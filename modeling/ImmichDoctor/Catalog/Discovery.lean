import ImmichDoctor.Catalog.DirectoryTree
import ImmichDoctor.Catalog.ScanProcess
import ImmichDoctor.Library.Chunks
import ImmichDoctor.Library.JsonText
import Mathlib.Data.List.Sort
/-!
# Directory discovery

`_prepare_directory_queue` up to the seeding: the walk over the directories, the
work items of each, and the order in which they are queued. The tree does not
change meanwhile, so the stack of the walk holds the listings themselves.
-/

namespace ImmichDoctor.Catalog

open ImmichDoctor.Library

/-- `_DIRECTORY_FILE_CHUNK_SIZE`. -/
def directoryFileChunkSize : Nat := 256

/-- A work item before the items are ordered. -/
structure WorkItem where
  relativePath : PyStr
  sourceRelativePath : PyStr
  fileRelativePaths : List PyStr
  payloadErrorCount : Nat

/-! ## Work items of a directory -/

def directoryWorkItemKey (relativePath : PyStr) (chunkIndex chunkCount : Nat) : PyStr :=
  if chunkCount = 1 then relativePath
  else
    (if relativePath = [] then py "__root__" else relativePath) ++ py "::batch-" ++
      PyStr.zeroPad 6 chunkIndex

def directoryWorkItems (relativePath : PyStr) (fileRelativePaths : List PyStr)
    (errorCount : Nat) : List WorkItem :=
  if fileRelativePaths = [] then
    [{ relativePath := directoryWorkItemKey relativePath 0 1
       sourceRelativePath := relativePath
       fileRelativePaths := []
       payloadErrorCount := errorCount }]
  else
    let count := chunkCount directoryFileChunkSize fileRelativePaths.length
    (List.range count).map fun index =>
      { relativePath := directoryWorkItemKey relativePath index count
        sourceRelativePath := relativePath
        fileRelativePaths := chunk directoryFileChunkSize fileRelativePaths index
        payloadErrorCount := if index = 0 then errorCount else 0 }

/-! ## The walk -/

/-- The locals of a round of the walk, filled while the directory is listed. -/
structure ListedDirectory where
  seenRelativePaths : List PyStr
  childDirectories : List (PyStr × Option Entries)
  fileRelativePaths : List PyStr

namespace ListedDirectory

def addDirectory (listed : ListedDirectory) (path : PyStr) (entries : Option Entries) :
    ListedDirectory :=
  if path ∈ listed.seenRelativePaths then listed
  else
    { listed with
      seenRelativePaths := path :: listed.seenRelativePaths
      childDirectories := listed.childDirectories ++ [(path, entries)] }

def addFile (listed : ListedDirectory) (path : PyStr) : ListedDirectory :=
  { listed with fileRelativePaths := listed.fileRelativePaths ++ [path] }

/-- The loop over `os.scandir`. -/
def scandir (base : PyStr) : Entries → ListedDirectory → ListedDirectory
  | .nil, listed => listed
  | .leaf name (.file _) rest, listed =>
      scandir base rest (listed.addFile (childPath base name))
  | .leaf name .locked rest, listed =>
      scandir base rest (listed.addDirectory (childPath base name) none)
  | .leaf _ .other rest, listed => scandir base rest listed
  | .directory name entries rest, listed =>
      scandir base rest (listed.addDirectory (childPath base name) (some entries))

end ListedDirectory

/-- `list.sort()` of paths. -/
def sortPaths (paths : List PyStr) : List PyStr :=
  paths.insertionSort (· ≤ ·)

/-- The state of the walk; the top of the stack comes first. -/
structure Walk where
  stack : List (PyStr × Option Entries)
  seenRelativePaths : List PyStr
  workItems : List WorkItem

namespace Walk

/-- A round for the directory on top of the stack. -/
def visit (walk : Walk) (current : PyStr × Option Entries) (below : List (PyStr × Option Entries)) :
    Walk :=
  match current.2 with
  | none =>
      { walk with
        stack := below
        workItems := walk.workItems ++ directoryWorkItems current.1 [] 1 }
  | some entries =>
      let listed := ListedDirectory.scandir current.1 entries
        ⟨walk.seenRelativePaths, [], []⟩
      let children := listed.childDirectories.insertionSort fun a b => b.1 ≤ a.1
      { stack := children.reverse ++ below
        seenRelativePaths := listed.seenRelativePaths
        workItems :=
          walk.workItems ++ directoryWorkItems current.1 (sortPaths listed.fileRelativePaths) 0 }

/-- The loop of the walk. `control` answers the successive polls of the job control,
and `last` is the answer to the previous one; the result is `none` out of fuel. -/
def run (control : Nat → ControlState) (last : ControlState) (walk : Walk) :
    Nat → Option (ControlState × Walk)
  | 0 => if walk.stack.isEmpty then some (last, walk) else none
  | fuel + 1 =>
      match walk.stack with
      | [] => some (last, walk)
      | current :: below =>
          match (control 0).reason with
          | some _ => some (control 0, walk)
          | none => run (fun poll => control (poll + 1)) (control 0) (walk.visit current below) fuel

def start (tree : DirectoryTree) : Walk where
  stack := [([], tree.root)]
  seenRelativePaths := [[]]
  workItems := []

end Walk

/-! ## The order of the queue -/

/-- `relative_path.split("/", maxsplit=1)[0]`. -/
def topLevelSegment (relativePath : PyStr) : PyStr :=
  relativePath.takeWhile (· ≠ 47)

/-- The sort key: large items first, then by top-level directory and key. -/
def WorkItem.before (a b : WorkItem) : Prop :=
  b.fileRelativePaths.length < a.fileRelativePaths.length ∨
    a.fileRelativePaths.length = b.fileRelativePaths.length ∧
      (topLevelSegment a.sourceRelativePath < topLevelSegment b.sourceRelativePath ∨
        topLevelSegment a.sourceRelativePath = topLevelSegment b.sourceRelativePath ∧
          a.relativePath ≤ b.relativePath)

instance : DecidableRel WorkItem.before := fun _ _ => inferInstanceAs (Decidable (_ ∨ _))

def WorkItem.queued (item : WorkItem) (priority : Nat) : QueuedWorkItem where
  relativePath := item.relativePath
  payloadJson := Json.dumps item.fileRelativePaths
  payloadFileCount := item.fileRelativePaths.length
  payloadErrorCount := item.payloadErrorCount
  payloadBytesDelta := 0
  payloadLastRelativePath := item.fileRelativePaths.getLast?
  queuePriority := priority

def balancedDirectoryWorkItems (workItems : List WorkItem) : List QueuedWorkItem :=
  (workItems.insertionSort WorkItem.before).zipIdx.map fun entry => entry.1.queued entry.2

/-- The rounds a walk of the tree can take. -/
def DirectoryTree.rounds (tree : DirectoryTree) : Nat :=
  tree.directories.length

/-- What `_prepare_directory_queue` hands to the store, and the request it has seen. -/
def discover (tree : DirectoryTree) (control : Nat → ControlState) :
    Option (List QueuedWorkItem × Option StopReason) :=
  (Walk.run control ⟨false, false⟩ (Walk.start tree) tree.rounds).map fun result =>
    (balancedDirectoryWorkItems result.2.workItems, result.1.reason)

/-- `_prepare_directory_queue`, as what it does to the catalog. -/
def CatalogDb.prepareDirectoryQueue (now : Instant) (sessionId : SessionId)
    (tree : DirectoryTree) (control : Nat → ControlState) (db : CatalogDb) : Option CatalogDb := do
  let (workItems, _) ← discover tree control
  db.seedDirectoryWorkQueue now sessionId workItems

/-! ## Payloads -/

/-- `_file_paths_from_payload`. -/
def filePathsFromPayload (payloadJson : PyStr) : List PyStr :=
  match Json.loads payloadJson with
  | none => []
  | some paths => paths.filter fun path => !path.blank

/-- The file lists the workers obtain from the queue rows of a session. -/
def CatalogDb.plannedFiles (db : CatalogDb) (sessionId : SessionId) : List (List PyStr) :=
  (db.scanDirectoryQueue.rows.filter fun row => row.scanSessionId = sessionId).map fun row =>
    row.payloadJson.elim [] filePathsFromPayload

end ImmichDoctor.Catalog
