import ImmichDoctor.Catalog.Observation
import ImmichDoctor.Catalog.ScanProcess
import Mathlib.Logic.Function.Basic
/-!
# Scan runs of several processes

`CatalogInventoryScanService.run` as any number of processes call it on one catalog, also
for one session. A run keeps the root path it has read before it opened its session; its
workers hold the rows they have claimed. A label is one store call, or a read of the roots;
a process that dies takes no further steps.
-/

namespace ImmichDoctor.Catalog

open ImmichDoctor.Library

/-- What a worker has read for a row; each file adds its size once. -/
structure ReadBatch where
  batch : ObservedBatch
  bytes : batch.bytesDelta = (batch.files.map (·.sizeBytes)).sum

/-- The locals of a run, and the rows its workers have claimed and not applied yet. -/
structure ScanRun where
  sessionId : SessionId
  storageRootId : Nat
  snapshotId : Nat
  rootPath : PyStr
  claimed : List DirectoryQueueRow

def ScanRun.application (run : ScanRun) (row : DirectoryQueueRow) (observed : ObservedBatch) :
    DirectoryApplication where
  sessionId := run.sessionId
  storageRootId := run.storageRootId
  snapshotId := run.snapshotId
  relativePath := row.relativePath
  fileObservations := observed.files
  errorCount := observed.errorCount
  bytesDelta := observed.bytesDelta
  lastRelativePath := observed.lastRelativePath

structure ScanRuns where
  catalog : CatalogState
  /-- What `sync` has returned to the processes that are about to run. -/
  listings : List (List StorageRoot)
  runs : List ScanRun
  /-- The root path under which a file was last observed; the code does not keep it. -/
  observedUnder : Nat × PyStr → PyStr

inductive RunEvent
  | upsertStorageRoot (root : CatalogRootSpec)
  | listStorageRoots
  /-- `run` for a slug, with the roots of an earlier listing. -/
  | create (listing : Nat) (slug : PyStr) (sessionId : SessionId) (maxFiles : Option Int)
  /-- `run` for an existing session. -/
  | resume (listing : Nat) (sessionId : SessionId)
  | seed (run : Nat) (workItems : List QueuedWorkItem)
  | claim (run : Nat) (workerId : PyStr)
  /-- The worker that holds a claimed row applies what it has read for it. -/
  | apply (run index : Nat) (read : ReadBatch)
  | requeueForWorker (run : Nat) (workerId : PyStr)
  | requeueCollecting (run : Nat)
  | requeue (run : Nat)
  | pause (run : Nat)
  | stop (run : Nat)
  | fail (run : Nat)
  | commit (run : Nat)

namespace ScanRuns

def start (clock : Instant) : ScanRuns where
  catalog := .start clock
  listings := []
  runs := []
  observedUnder := fun _ => []

/-- A store call. -/
def call (s : ScanRuns) (now : Instant) (op : StoreOp) : Option ScanRuns :=
  (s.catalog.step (now, op)).map fun catalog => { s with catalog }

/-- A store call of a run for its session. -/
def callOf (s : ScanRuns) (now : Instant) (run : Nat) (op : SessionId → StoreOp) :
    Option ScanRuns :=
  s.runs[run]?.bind fun scan => s.call now (op scan.sessionId)

/-- The run of a session that has just been opened; it takes the root's path from the listing. -/
def openRun (s : ScanRuns) (root : StorageRoot) (session : ScanSession) : ScanRuns :=
  { s with runs := s.runs ++ [⟨session.id, root.id, session.snapshotId, root.absolutePath, []⟩] }

/-- `_select_session_or_root` for a new session. -/
def create (s : ScanRuns) (now : Instant) (listing : Nat) (slug : PyStr) (sessionId : SessionId)
    (maxFiles : Option Int) : Option ScanRuns := do
  let roots ← s.listings[listing]?
  let root ← roots.find? (·.slug = slug)
  let created ← s.call now (.createScanSession sessionId root.id maxFiles)
  let session ← created.catalog.db.getScanSession sessionId
  some (created.openRun root session)

/-- `_select_session_or_root` for an existing session. -/
def resume (s : ScanRuns) (now : Instant) (listing : Nat) (sessionId : SessionId) :
    Option ScanRuns := do
  let roots ← s.listings[listing]?
  let reopened ← s.call now (.reopenScanSession sessionId)
  let session ← reopened.catalog.db.getScanSession sessionId
  match roots.find? (·.id = session.storageRootId) with
  | none => some reopened
  | some root => some (reopened.openRun root session)

def updateRun (s : ScanRuns) (run : Nat) (scan : ScanRun) : ScanRuns :=
  { s with runs := s.runs.set run scan }

def claim (s : ScanRuns) (now : Instant) (run : Nat) (workerId : PyStr) : Option ScanRuns := do
  let scan ← s.runs[run]?
  let called ← s.call now (.claimNextDirectory scan.sessionId workerId)
  match s.catalog.db.claimNextDirectory scan.sessionId workerId with
  | none => some called
  | some (row, _) => some (called.updateRun run { scan with claimed := scan.claimed ++ [row] })

/-- The files of an application are observed under the path of its run. -/
def noteObserved (rootPath : PyStr) (application : DirectoryApplication)
    (observedUnder : Nat × PyStr → PyStr) : Nat × PyStr → PyStr :=
  application.fileObservations.foldl
    (fun noted observation =>
      Function.update noted (application.storageRootId, observation.relativePath) rootPath)
    observedUnder

def apply (s : ScanRuns) (now : Instant) (run index : Nat) (read : ReadBatch) :
    Option ScanRuns := do
  let scan ← s.runs[run]?
  let row ← scan.claimed[index]?
  let application := scan.application row (RootScan.observedOf row read.batch)
  let applied ← s.call now (.applyDirectoryFiles application)
  some { applied.updateRun run { scan with claimed := scan.claimed.eraseIdx index } with
    observedUnder := noteObserved scan.rootPath application s.observedUnder }

def step (s : ScanRuns) (label : Instant × RunEvent) : Option ScanRuns :=
  match label with
  | (now, .upsertStorageRoot root) => s.call now (.upsertStorageRoot root)
  | (_, .listStorageRoots) =>
      some { s with listings := s.listings ++ [s.catalog.db.listStorageRoots] }
  | (now, .create listing slug sessionId maxFiles) => s.create now listing slug sessionId maxFiles
  | (now, .resume listing sessionId) => s.resume now listing sessionId
  | (now, .seed run workItems) => s.callOf now run (.seedDirectoryWorkQueue · workItems)
  | (now, .claim run workerId) => s.claim now run workerId
  | (now, .apply run index read) => s.apply now run index read
  | (now, .requeueForWorker run workerId) =>
      s.callOf now run (.requeueProcessingDirectoriesForWorker · workerId)
  | (now, .requeueCollecting run) => s.callOf now run .requeueCollectingDirectories
  | (now, .requeue run) => s.callOf now run .requeueProcessingDirectories
  | (now, .pause run) => s.callOf now run .markSessionPaused
  | (now, .stop run) => s.callOf now run .markSessionStopped
  | (now, .fail run) => s.callOf now run .markSessionFailed
  | (now, .commit run) => s.callOf now run .commitScanSession

end ScanRuns

/-! ## What a worker reads -/

/-- The sizes of the observed files add up to the bytes of the batch. -/
theorem bytesDelta_observeFileBatch {lower : PyStr → PyStr} {tree : DirectoryTree}
    {paths : List PyStr} :
    (observeFileBatch lower tree paths).bytesDelta
      = ((observeFileBatch lower tree paths).files.map (·.sizeBytes)).sum := by
  have hfold : ∀ batch : ObservedBatch,
      batch.bytesDelta = (batch.files.map (·.sizeBytes)).sum →
      (paths.foldl (observePath lower tree) batch).bytesDelta
        = ((paths.foldl (observePath lower tree) batch).files.map (·.sizeBytes)).sum := by
    induction paths with
    | nil => exact fun _ h => h
    | cons path rest ih =>
        intro batch h
        apply ih
        unfold observePath
        split
        · exact h
        · exact h
        · simp [h]
  have hsorted := (List.perm_insertionSort
    (fun a b : CatalogFileObservation => a.relativePath ≤ b.relativePath)
    (paths.foldl (observePath lower tree) ⟨[], 0, 0, none⟩).files).map (·.sizeBytes)
  calc (observeFileBatch lower tree paths).bytesDelta
      = ((paths.foldl (observePath lower tree) ⟨[], 0, 0, none⟩).files.map (·.sizeBytes)).sum :=
        hfold _ rfl
    _ = ((observeFileBatch lower tree paths).files.map (·.sizeBytes)).sum := hsorted.sum_nat.symm

/-- `_observe_file_batch` of a tree, as the batch of a worker. -/
def ReadBatch.ofTree (lower : PyStr → PyStr) (tree : DirectoryTree) (paths : List PyStr) :
    ReadBatch :=
  ⟨observeFileBatch lower tree paths, bytesDelta_observeFileBatch⟩

end ImmichDoctor.Catalog
