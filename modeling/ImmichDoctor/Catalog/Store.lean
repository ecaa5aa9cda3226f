import ImmichDoctor.Catalog.Models
/-!
# The catalog store

`CatalogStore` as functions on `CatalogDb`. `none` is a failed statement: a
violated constraint, or text that has no UTF-8 encoding; the transaction is then
rolled back. `now` is the `_utcnow()` the method reads. The collector's statements
(`seed_collect_queue`, `claim_next_collect_directories`,
`complete_collected_directories`) and `seed_directory_queue` have no caller and are
left out.
-/

namespace ImmichDoctor.Catalog

open ImmichDoctor.Library

/-- Work item handed to `seed_directory_work_queue`. -/
structure QueuedWorkItem where
  relativePath : PyStr
  payloadJson : PyStr
  payloadFileCount : Nat
  payloadErrorCount : Nat
  payloadBytesDelta : Nat
  payloadLastRelativePath : Option PyStr
  queuePriority : Nat
  deriving DecidableEq

/-- Arguments of `apply_directory_files`. -/
structure DirectoryApplication where
  sessionId : SessionId
  storageRootId : Nat
  snapshotId : Nat
  relativePath : PyStr
  fileObservations : List CatalogFileObservation
  errorCount : Nat
  bytesDelta : Nat
  lastRelativePath : Option PyStr

/-! ## Text that can be bound to a column -/

def QueuedWorkItem.bindable (item : QueuedWorkItem) : Bool :=
  item.relativePath.encodable && item.payloadJson.encodable &&
    item.payloadLastRelativePath.all PyStr.encodable

def CatalogRootSpec.bindable (root : CatalogRootSpec) : Bool :=
  root.slug.encodable && root.settingName.encodable && root.rootType.encodable &&
    root.path.encodable

def CatalogFileObservation.bindable (observation : CatalogFileObservation) : Bool :=
  observation.relativePath.encodable && observation.parentRelativePath.encodable &&
    observation.fileName.encodable && observation.extension.all PyStr.encodable

/-! ## Row updates and orders -/

def ScanSession.reopened (now : Instant) (session : ScanSession) : ScanSession :=
  if session.status = .paused ∨ session.status = .stopped ∨ session.status = .failed ∨
      session.status = .running then
    { session with status := .running, heartbeatAt := now }
  else session

/-- The session is left for a later resume. -/
def ScanSession.halted (now : Instant) (session : ScanSession) : ScanSession :=
  { session with status := .paused, heartbeatAt := now }

/-- The session is given a final status. -/
def ScanSession.ended (status : SessionStatus) (now : Instant) (session : ScanSession) :
    ScanSession :=
  { session with status := status, heartbeatAt := now, completedAt := some now }

@[simp] theorem ScanSession.id_reopened (now : Instant) (session : ScanSession) :
    (session.reopened now).id = session.id := by
  unfold reopened
  split <;> rfl

@[simp] theorem ScanSession.id_halted (now : Instant) (session : ScanSession) :
    (session.halted now).id = session.id := rfl

@[simp] theorem ScanSession.id_ended (status : SessionStatus) (now : Instant)
    (session : ScanSession) : (session.ended status now).id = session.id := rfl

def DirectoryQueueRow.claimedBy (workerId : PyStr) (row : DirectoryQueueRow) :
    DirectoryQueueRow :=
  { row with status := .processing, workerId := some workerId }

@[simp] theorem DirectoryQueueRow.key_claimedBy (workerId : PyStr) (row : DirectoryQueueRow) :
    (row.claimedBy workerId).key = row.key := rfl

def DirectoryQueueRow.requeued (row : DirectoryQueueRow) : DirectoryQueueRow :=
  { row with status := .pending, workerId := none }

@[simp] theorem DirectoryQueueRow.key_requeued (row : DirectoryQueueRow) :
    row.requeued.key = row.key := rfl

def DirectoryQueueRow.finished (now : Instant) (row : DirectoryQueueRow) : DirectoryQueueRow :=
  { row with status := .done, workerId := none, payloadJson := none, completedAt := some now }

@[simp] theorem DirectoryQueueRow.key_finished (now : Instant) (row : DirectoryQueueRow) :
    (row.finished now).key = row.key := rfl

/-- `ORDER BY queue_priority ASC, id ASC`. -/
def DirectoryQueueRow.before (a b : DirectoryQueueRow) : Prop :=
  a.queuePriority < b.queuePriority ∨ a.queuePriority = b.queuePriority ∧ a.id ≤ b.id

instance : DecidableRel DirectoryQueueRow.before := fun _ _ =>
  inferInstanceAs (Decidable (_ ∨ _))

/-- A row of `list_latest_snapshots`. -/
structure LatestSnapshotRow where
  root : StorageRoot
  snapshot : Option ScanSnapshot
  snapshotCurrent : Bool

/-- A row of `list_latest_snapshot_files`. -/
structure SnapshotFileRow where
  rootSlug : PyStr
  rootType : PyStr
  snapshotId : Nat
  generation : Nat
  relativePath : PyStr
  parentRelativePath : PyStr
  fileName : PyStr
  extension : Option PyStr
  sizeBytes : Nat
  modifiedAtFs : Option Instant
  fileTypeGuess : PyStr
  mediaClassGuess : PyStr
  zeroByteFlag : Bool

/-- `ORDER BY root.slug ASC, file.relative_path ASC`. -/
def SnapshotFileRow.before (a b : SnapshotFileRow) : Prop :=
  a.rootSlug < b.rootSlug ∨ a.rootSlug = b.rootSlug ∧ a.relativePath ≤ b.relativePath

instance : DecidableRel SnapshotFileRow.before := fun _ _ =>
  inferInstanceAs (Decidable (_ ∨ _))

namespace CatalogDb

/-! ## Storage roots -/

/-- The row `upsert_storage_root` writes over an existing one with the same slug. -/
def mergeStorageRoot (now : Instant) (root : CatalogRootSpec) (old : StorageRoot) : StorageRoot :=
  { old with
    settingName := root.settingName
    rootType := root.rootType
    absolutePath := root.path
    updatedAt :=
      if old.settingName ≠ root.settingName ∨ old.rootType ≠ root.rootType ∨
          old.absolutePath ≠ root.path ∨ old.enabled ≠ true then now
      else old.updatedAt
    enabled := true }

@[simp] theorem slug_mergeStorageRoot (now : Instant) (root : CatalogRootSpec)
    (old : StorageRoot) : (mergeStorageRoot now root old).slug = old.slug := rfl

def upsertStorageRoot (now : Instant) (root : CatalogRootSpec) (db : CatalogDb) :
    Option CatalogDb :=
  -- `absolute_path` is unique as well, and only `slug` has a conflict clause
  if !root.bindable || db.storageRoot.rows.any fun old =>
      old.slug ≠ root.slug && old.absolutePath = root.path then
    none
  else
    some { db with
      storageRoot := db.storageRoot.upsert
        { id := maxColumn StorageRoot.id db.storageRoot.rows + 1
          slug := root.slug
          settingName := root.settingName
          rootType := root.rootType
          absolutePath := root.path
          enabled := true
          createdAt := now
          updatedAt := now }
        (mergeStorageRoot now root) (slug_mergeStorageRoot now root) }

/-- Only the table of the roots is written. -/
theorem of_upsertStorageRoot {db db' : CatalogDb} {now : Instant} {root : CatalogRootSpec}
    (h : db.upsertStorageRoot now root = some db') :
    ∃ storageRoot, db' = { db with storageRoot } := by
  unfold upsertStorageRoot at h
  split at h
  · cases h
  · cases h
    exact ⟨_, rfl⟩

def listStorageRoots (db : CatalogDb) : List StorageRoot :=
  (db.storageRoot.rows.filter fun root => root.enabled).insertionSort fun a b => a.slug ≤ b.slug

/-- The root a foreign key refers to. -/
def storageRootById (db : CatalogDb) (id : Nat) : Option StorageRoot :=
  db.storageRoot.rows.find? fun root => root.id = id

/-! ## Sessions -/

def getScanSession (db : CatalogDb) (sessionId : SessionId) : Option ScanSession :=
  db.scanSession.find? sessionId

def getSnapshot (db : CatalogDb) (snapshotId : Nat) : Option ScanSnapshot :=
  db.scanSnapshot.find? snapshotId

def nextGeneration (db : CatalogDb) (storageRootId : Nat) : Nat :=
  maxColumn ScanSnapshot.generation
    (db.scanSnapshot.rows.filter fun snapshot => snapshot.storageRootId = storageRootId) + 1

/-- `create_scan_session`, when no other call comes between its read of the generations and its
insert; `sessionId` is the fresh `uuid4().hex`. -/
def createScanSession (now : Instant) (sessionId : SessionId) (storageRootId : Nat)
    (maxFiles : Option Int) (db : CatalogDb) : Option CatalogDb := do
  let _ ← db.storageRootById storageRootId
  let snapshotId := maxColumn ScanSnapshot.id db.scanSnapshot.rows + 1
  let scanSnapshot ← db.scanSnapshot.insert?
    { id := snapshotId
      storageRootId := storageRootId
      sourceScanSessionId := sessionId
      generation := db.nextGeneration storageRootId
      status := .running
      startedAt := now
      committedAt := none
      itemCount := 0
      zeroByteCount := 0 }
  let scanSession ← db.scanSession.insert?
    { id := sessionId
      storageRootId := storageRootId
      snapshotId := snapshotId
      status := .running
      startedAt := now
      heartbeatAt := now
      completedAt := none
      maxFiles := maxFiles
      filesSeen := 0
      bytesSeen := 0
      directoriesCompleted := 0
      errorCount := 0
      lastRelativePath := none }
  let scanCollectQueue ← db.scanCollectQueue.insert?
    { id := maxColumn CollectQueueRow.id db.scanCollectQueue.rows + 1
      scanSessionId := sessionId
      relativePath := []
      status := .pending
      discoveredAt := now
      completedAt := none }
  some { db with scanSnapshot, scanSession, scanCollectQueue }

/-- `UPDATE scan_session SET … WHERE id = ?`. -/
def updateSession (sessionId : SessionId) (f : ScanSession → ScanSession)
    (hkey : ∀ session, (f session).id = session.id) (db : CatalogDb) : CatalogDb :=
  { db with
    scanSession := db.scanSession.updateWhere (fun session => session.id = sessionId) f hkey }

/-! ## Requeueing -/

def requeueProcessingDirectories (sessionId : SessionId) (db : CatalogDb) : CatalogDb :=
  { db with
    scanDirectoryQueue := db.scanDirectoryQueue.updateWhere
      (fun row => row.scanSessionId = sessionId && row.status = .processing)
      DirectoryQueueRow.requeued DirectoryQueueRow.key_requeued }

def requeueProcessingDirectoriesForWorker (sessionId : SessionId) (workerId : PyStr)
    (db : CatalogDb) : CatalogDb :=
  { db with
    scanDirectoryQueue := db.scanDirectoryQueue.updateWhere
      (fun row => row.scanSessionId = sessionId && row.status = .processing &&
        row.workerId = some workerId)
      DirectoryQueueRow.requeued DirectoryQueueRow.key_requeued }

def requeueCollectingDirectories (sessionId : SessionId) (db : CatalogDb) : CatalogDb :=
  { db with
    scanCollectQueue := db.scanCollectQueue.updateWhere
      (fun row => row.scanSessionId = sessionId && row.status = .processing)
      (fun row => { row with status := .pending }) fun _ => rfl }

def reopenScanSession (now : Instant) (sessionId : SessionId) (db : CatalogDb) : CatalogDb :=
  ((db.requeueProcessingDirectories sessionId).requeueCollectingDirectories sessionId).updateSession
    sessionId (ScanSession.reopened now) (ScanSession.id_reopened now)

/-! ## The work queue -/

def pendingDirectories (db : CatalogDb) (sessionId : SessionId) : List DirectoryQueueRow :=
  db.scanDirectoryQueue.rows.filter fun row =>
    row.scanSessionId = sessionId && row.status = .pending

/-- `claim_next_directory`; `none` when no row of the session is pending. -/
def claimNextDirectory (sessionId : SessionId) (workerId : PyStr) (db : CatalogDb) :
    Option (DirectoryQueueRow × CatalogDb) := do
  let row ← firstBy DirectoryQueueRow.before (db.pendingDirectories sessionId)
  some (row, { db with
    scanDirectoryQueue := db.scanDirectoryQueue.updateWhere
      (fun other => other.key = (sessionId, row.relativePath))
      (DirectoryQueueRow.claimedBy workerId) (DirectoryQueueRow.key_claimedBy workerId) })

def queueRowOf (now : Instant) (sessionId : SessionId) (id : Nat) (item : QueuedWorkItem) :
    DirectoryQueueRow where
  id := id
  scanSessionId := sessionId
  relativePath := item.relativePath
  status := .pending
  workerId := none
  discoveredAt := now
  payloadJson := some item.payloadJson
  payloadFileCount := item.payloadFileCount
  payloadErrorCount := item.payloadErrorCount
  payloadBytesDelta := item.payloadBytesDelta
  payloadLastRelativePath := item.payloadLastRelativePath
  queuePriority := item.queuePriority
  completedAt := none

/-- `ON CONFLICT(scan_session_id, relative_path) DO NOTHING`. -/
def seedWorkItem (now : Instant) (sessionId : SessionId)
    (queue : Table DirectoryQueueRow DirectoryQueueRow.key) (item : QueuedWorkItem) :
    Table DirectoryQueueRow DirectoryQueueRow.key :=
  queue.insertOrIgnore
    (queueRowOf now sessionId (maxColumn DirectoryQueueRow.id queue.rows + 1) item)

def seedDirectoryWorkQueue (now : Instant) (sessionId : SessionId)
    (workItems : List QueuedWorkItem) (db : CatalogDb) : Option CatalogDb :=
  if workItems.isEmpty then some db
  else if (db.getScanSession sessionId).isNone || !workItems.all QueuedWorkItem.bindable then none
  else
    some { db with
      scanDirectoryQueue := workItems.foldl (seedWorkItem now sessionId) db.scanDirectoryQueue
      scanCollectQueue := db.scanCollectQueue.updateWhere
        (fun row => row.scanSessionId = sessionId)
        (fun row =>
          { row with status := .done, completedAt := some (row.completedAt.getD now) })
        fun _ => rfl }

/-! ## Applying a batch of observed files -/

def recordOf (now : Instant) (application : DirectoryApplication) (id : Nat)
    (observation : CatalogFileObservation) : FileRecord where
  id := id
  storageRootId := application.storageRootId
  relativePath := observation.relativePath
  parentRelativePath := observation.parentRelativePath
  fileName := observation.fileName
  extension := observation.extension
  sizeBytes := observation.sizeBytes
  createdAtFs := observation.createdAtFs
  modifiedAtFs := observation.modifiedAtFs
  firstSeenAt := now
  lastSeenAt := now
  firstSeenSnapshotId := application.snapshotId
  lastSeenSnapshotId := application.snapshotId
  lastScanSessionId := application.sessionId
  fileTypeGuess := observation.fileTypeGuess
  mediaClassGuess := observation.mediaClassGuess
  zeroByteFlag := observation.zeroByteFlag
  statDevice := observation.statDevice
  statInode := observation.statInode
  presenceStatus := .present

/-- The `DO UPDATE` branch: what was first seen stays, the rest is overwritten in place. -/
def mergeObservation (now : Instant) (application : DirectoryApplication)
    (observation : CatalogFileObservation) (old : FileRecord) : FileRecord :=
  { old with
    parentRelativePath := observation.parentRelativePath
    fileName := observation.fileName
    extension := observation.extension
    sizeBytes := observation.sizeBytes
    createdAtFs := old.createdAtFs <|> observation.createdAtFs
    modifiedAtFs := observation.modifiedAtFs
    lastSeenAt := now
    lastSeenSnapshotId := application.snapshotId
    lastScanSessionId := application.sessionId
    fileTypeGuess := observation.fileTypeGuess
    mediaClassGuess := observation.mediaClassGuess
    zeroByteFlag := observation.zeroByteFlag
    statDevice := observation.statDevice
    statInode := observation.statInode
    presenceStatus := .present }

@[simp] theorem key_mergeObservation (now : Instant) (application : DirectoryApplication)
    (observation : CatalogFileObservation) (old : FileRecord) :
    (mergeObservation now application observation old).key = old.key := rfl

def recordObservation (now : Instant) (application : DirectoryApplication)
    (records : Table FileRecord FileRecord.key) (observation : CatalogFileObservation) :
    Table FileRecord FileRecord.key :=
  records.upsert
    (recordOf now application (maxColumn FileRecord.id records.rows + 1) observation)
    (mergeObservation now application observation)
    (key_mergeObservation now application observation)

def addProgress (now : Instant) (application : DirectoryApplication) (session : ScanSession) :
    ScanSession :=
  { session with
    heartbeatAt := now
    filesSeen := session.filesSeen + application.fileObservations.length
    bytesSeen := session.bytesSeen + application.bytesDelta
    directoriesCompleted := session.directoriesCompleted + 1
    errorCount := session.errorCount + application.errorCount
    lastRelativePath := application.lastRelativePath <|> session.lastRelativePath }

@[simp] theorem id_addProgress (now : Instant) (application : DirectoryApplication)
    (session : ScanSession) : (addProgress now application session).id = session.id := rfl

/-- Whether every value binds and every foreign key of the written rows has its target. -/
def applicable (application : DirectoryApplication) (db : CatalogDb) : Bool :=
  (application.fileObservations.isEmpty ||
    ((db.storageRootById application.storageRootId).isSome &&
      (db.getSnapshot application.snapshotId).isSome &&
      (db.getScanSession application.sessionId).isSome)) &&
  application.fileObservations.all CatalogFileObservation.bindable &&
  application.lastRelativePath.all PyStr.encodable

def applyDirectoryFiles (now : Instant) (application : DirectoryApplication) (db : CatalogDb) :
    Option CatalogDb :=
  if db.applicable application then
    some <| updateSession application.sessionId (addProgress now application)
      (id_addProgress now application)
      { db with
        fileRecord :=
          application.fileObservations.foldl (recordObservation now application) db.fileRecord
        scanDirectoryQueue := db.scanDirectoryQueue.updateWhere
          (fun row => row.key = (application.sessionId, application.relativePath))
          (DirectoryQueueRow.finished now) (DirectoryQueueRow.key_finished now) }
  else none

/-! ## Ending a session -/

def markSessionPaused (now : Instant) (sessionId : SessionId) (db : CatalogDb) : CatalogDb :=
  db.updateSession sessionId (ScanSession.halted now) (ScanSession.id_halted now)

def markSessionStopped (now : Instant) (sessionId : SessionId) (db : CatalogDb) : CatalogDb :=
  db.updateSession sessionId (ScanSession.ended .stopped now) (ScanSession.id_ended .stopped now)

/-- `UPDATE scan_snapshot SET … WHERE id = ?`. -/
def updateSnapshot (snapshotId : Nat) (f : ScanSnapshot → ScanSnapshot)
    (hkey : ∀ snapshot, (f snapshot).id = snapshot.id) (db : CatalogDb) : CatalogDb :=
  { db with
    scanSnapshot := db.scanSnapshot.updateWhere (fun snapshot => snapshot.id = snapshotId) f hkey }

def failSnapshot (snapshot : ScanSnapshot) : ScanSnapshot :=
  { snapshot with status := .failed }

@[simp] theorem id_failSnapshot (snapshot : ScanSnapshot) :
    (failSnapshot snapshot).id = snapshot.id := rfl

def markSessionFailed (now : Instant) (sessionId : SessionId) (db : CatalogDb) : CatalogDb :=
  let failed := db.updateSession sessionId (ScanSession.ended .failed now)
    (ScanSession.id_ended .failed now)
  match db.getScanSession sessionId with
  | none => failed
  | some session =>
      failed.updateSnapshot session.snapshotId failSnapshot id_failSnapshot

def zeroByteCount (db : CatalogDb) (storageRootId snapshotId : Nat) : Nat :=
  db.fileRecord.rows.countP fun file =>
    file.storageRootId = storageRootId && file.lastSeenSnapshotId = snapshotId && file.zeroByteFlag

def presenceOf (snapshotId : Nat) (file : FileRecord) : FileRecord :=
  { file with
    presenceStatus :=
      if file.lastSeenSnapshotId = snapshotId then .present else .notSeenInLatestSnapshot }

@[simp] theorem key_presenceOf (snapshotId : Nat) (file : FileRecord) :
    (presenceOf snapshotId file).key = file.key := rfl

def markPresence (storageRootId snapshotId : Nat) (db : CatalogDb) : CatalogDb :=
  { db with
    fileRecord := db.fileRecord.updateWhere
      (fun file => file.storageRootId = storageRootId && file.presenceStatus ≠ .quarantined)
      (presenceOf snapshotId) (key_presenceOf snapshotId) }

def commitSnapshot (now : Instant) (itemCount zeroByteCount : Nat) (snapshot : ScanSnapshot) :
    ScanSnapshot :=
  { snapshot with
    status := .committed
    committedAt := some now
    itemCount := itemCount
    zeroByteCount := zeroByteCount }

@[simp] theorem id_commitSnapshot (now : Instant) (itemCount zeroByteCount : Nat)
    (snapshot : ScanSnapshot) :
    (commitSnapshot now itemCount zeroByteCount snapshot).id = snapshot.id := rfl

/-- `commit_scan_session`; `none` when there is no such session. -/
def commitScanSession (now : Instant) (sessionId : SessionId) (db : CatalogDb) :
    Option CatalogDb := do
  let session ← db.getScanSession sessionId
  let committed := db.updateSnapshot session.snapshotId
    (commitSnapshot now session.filesSeen
      (db.zeroByteCount session.storageRootId session.snapshotId))
    (id_commitSnapshot now session.filesSeen
      (db.zeroByteCount session.storageRootId session.snapshotId))
  some ((committed.markPresence session.storageRootId session.snapshotId).updateSession sessionId
    (ScanSession.ended .completed now) (ScanSession.id_ended .completed now))

/-! ## Queries -/

/-- `committed_at >= updated_at`, which is not true of a null `committed_at`. -/
def committedSince (snapshot : ScanSnapshot) (updatedAt : Instant) : Bool :=
  snapshot.committedAt.any fun committedAt => updatedAt ≤ committedAt

/-- `ORDER BY generation DESC`. -/
def newerGeneration (a b : ScanSnapshot) : Prop :=
  b.generation ≤ a.generation

instance : DecidableRel newerGeneration := fun _ _ => inferInstanceAs (Decidable (_ ≤ _))

theorem newerGeneration_total (a b : ScanSnapshot) : newerGeneration a b ∨ newerGeneration b a :=
  Nat.le_total b.generation a.generation

theorem newerGeneration_trans (a b c : ScanSnapshot) (hab : newerGeneration a b)
    (hbc : newerGeneration b c) : newerGeneration a c :=
  Nat.le_trans hbc hab

/-- The committed snapshot of a root with the highest generation. -/
def latestCommitted (db : CatalogDb) (root : StorageRoot) : Option ScanSnapshot :=
  firstBy newerGeneration (db.scanSnapshot.rows.filter fun snapshot =>
    snapshot.storageRootId = root.id && snapshot.status = .committed)

/-- The same, among the snapshots committed since the root was last configured. -/
def latestCurrent (db : CatalogDb) (root : StorageRoot) : Option ScanSnapshot :=
  firstBy newerGeneration (db.scanSnapshot.rows.filter fun snapshot =>
    snapshot.storageRootId = root.id && snapshot.status = .committed &&
      committedSince snapshot root.updatedAt)

def listLatestSnapshots (slug : Option PyStr) (db : CatalogDb) : List LatestSnapshotRow :=
  (db.listStorageRoots.filter fun root => slug.all (root.slug = ·)).map fun root =>
    let snapshot := db.latestCommitted root
    { root := root
      snapshot := snapshot
      snapshotCurrent := snapshot.any (committedSince · root.updatedAt) }

def joinedFileRow (root : StorageRoot) (snapshot : ScanSnapshot) (file : FileRecord) :
    SnapshotFileRow where
  rootSlug := root.slug
  rootType := root.rootType
  snapshotId := snapshot.id
  generation := snapshot.generation
  relativePath := file.relativePath
  parentRelativePath := file.parentRelativePath
  fileName := file.fileName
  extension := file.extension
  sizeBytes := file.sizeBytes
  modifiedAtFs := file.modifiedAtFs
  fileTypeGuess := file.fileTypeGuess
  mediaClassGuess := file.mediaClassGuess
  zeroByteFlag := file.zeroByteFlag

/-- The joined row of a file, when its last snapshot is the current one of its root. -/
def snapshotFileRow (db : CatalogDb) (file : FileRecord) : Option SnapshotFileRow := do
  let root ← db.storageRootById file.storageRootId
  let snapshot ← db.getSnapshot file.lastSeenSnapshotId
  if snapshot.status = .committed ∧ committedSince snapshot root.updatedAt = true ∧
      (db.latestCurrent root).map (·.id) = some file.lastSeenSnapshotId then
    some (joinedFileRow root snapshot file)
  else none

def limitRows {α : Type} (limit : Option Nat) (rows : List α) : List α :=
  match limit with
  | none => rows
  | some count => rows.take count

def listLatestSnapshotFiles (slug : Option PyStr) (limit : Option Nat) (db : CatalogDb) :
    List SnapshotFileRow :=
  limitRows limit
    (((db.fileRecord.rows.filterMap db.snapshotFileRow).filter
      fun row => slug.all (row.rootSlug = ·)).insertionSort SnapshotFileRow.before)

def listZeroByteFiles (slug : Option PyStr) (limit : Nat) (db : CatalogDb) :
    List SnapshotFileRow :=
  ((((db.fileRecord.rows.filter (·.zeroByteFlag)).filterMap db.snapshotFileRow).filter
    fun row => slug.all (row.rootSlug = ·)).insertionSort SnapshotFileRow.before).take limit

/-- Rows of the session that are still to be applied. -/
def countPendingDirectories (db : CatalogDb) (sessionId : SessionId) : Nat :=
  db.scanDirectoryQueue.rows.countP fun row =>
    row.scanSessionId = sessionId && (row.status = .pending || row.status = .processing)

/-- `ORDER BY started_at DESC`. -/
def startedLater (a b : ScanSession) : Prop :=
  b.startedAt ≤ a.startedAt

instance : DecidableRel startedLater := fun _ _ => inferInstanceAs (Decidable (_ ≤ _))

def findLatestIncompleteScanSession (db : CatalogDb) : Option ScanSession :=
  firstBy startedLater (db.scanSession.rows.filter fun session =>
    session.status = .running || session.status = .paused || session.status = .stopped)

/-- `list_scan_sessions`, each session with its root. -/
def listScanSessions (slug : Option PyStr) (db : CatalogDb) : List (ScanSession × StorageRoot) :=
  (db.scanSession.rows.filterMap fun session =>
    ((db.storageRootById session.storageRootId).filter fun root => slug.all (root.slug = ·)).map
      fun root => (session, root)).insertionSort fun a b => startedLater a.1 b.1

end CatalogDb

end ImmichDoctor.Catalog
