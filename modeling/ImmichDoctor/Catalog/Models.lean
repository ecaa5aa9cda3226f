import ImmichDoctor.Library.Table
import ImmichDoctor.Library.Text
/-!
# Catalog rows

The rows of the catalog database (`catalog/models.py` and the schema at the end of
`catalog/store.py`), with the columns that the modelled statements read or write.
Timestamps are UTC instants in microseconds; the code stores them as ISO text,
whose order is the order of the instants.
-/

namespace ImmichDoctor.Catalog

open ImmichDoctor.Library

/-- A UTC instant in microseconds. -/
abbrev Instant := Int

/-- `uuid4().hex` of a scan session, or whatever text a caller passes for one. -/
abbrev SessionId := PyStr

structure CatalogRootSpec where
  slug : PyStr
  settingName : PyStr
  rootType : PyStr
  path : PyStr

structure CatalogFileObservation where
  relativePath : PyStr
  parentRelativePath : PyStr
  fileName : PyStr
  extension : Option PyStr
  sizeBytes : Nat
  createdAtFs : Option Instant
  modifiedAtFs : Option Instant
  fileTypeGuess : PyStr
  mediaClassGuess : PyStr
  zeroByteFlag : Bool
  statDevice : Option PyStr
  statInode : Option PyStr
  deriving DecidableEq

inductive SnapshotStatus
  | running
  | committed
  | failed
  deriving DecidableEq

inductive SessionStatus
  | running
  | paused
  | stopped
  | failed
  | completed
  deriving DecidableEq

inductive QueueStatus
  | pending
  | processing
  | done
  deriving DecidableEq

inductive PresenceStatus
  | present
  | notSeenInLatestSnapshot
  | quarantined
  deriving DecidableEq

/-! ## Tables -/

structure StorageRoot where
  id : Nat
  slug : PyStr
  settingName : PyStr
  rootType : PyStr
  absolutePath : PyStr
  enabled : Bool
  createdAt : Instant
  updatedAt : Instant

structure ScanSnapshot where
  id : Nat
  storageRootId : Nat
  sourceScanSessionId : SessionId
  generation : Nat
  status : SnapshotStatus
  startedAt : Instant
  committedAt : Option Instant
  itemCount : Nat
  zeroByteCount : Nat

structure ScanSession where
  id : SessionId
  storageRootId : Nat
  snapshotId : Nat
  status : SessionStatus
  startedAt : Instant
  heartbeatAt : Instant
  completedAt : Option Instant
  maxFiles : Option Int
  filesSeen : Nat
  bytesSeen : Nat
  directoriesCompleted : Nat
  errorCount : Nat
  lastRelativePath : Option PyStr

/-- One unit of scan work; the payload lists its files and is dropped when it is done. -/
structure DirectoryQueueRow where
  id : Nat
  scanSessionId : SessionId
  relativePath : PyStr
  status : QueueStatus
  workerId : Option PyStr
  discoveredAt : Instant
  payloadJson : Option PyStr
  payloadFileCount : Nat
  payloadErrorCount : Nat
  payloadBytesDelta : Nat
  payloadLastRelativePath : Option PyStr
  queuePriority : Nat
  completedAt : Option Instant

structure CollectQueueRow where
  id : Nat
  scanSessionId : SessionId
  relativePath : PyStr
  status : QueueStatus
  discoveredAt : Instant
  completedAt : Option Instant

structure FileRecord where
  id : Nat
  storageRootId : Nat
  relativePath : PyStr
  parentRelativePath : PyStr
  fileName : PyStr
  extension : Option PyStr
  sizeBytes : Nat
  createdAtFs : Option Instant
  modifiedAtFs : Option Instant
  firstSeenAt : Instant
  lastSeenAt : Instant
  firstSeenSnapshotId : Nat
  lastSeenSnapshotId : Nat
  lastScanSessionId : SessionId
  fileTypeGuess : PyStr
  mediaClassGuess : PyStr
  zeroByteFlag : Bool
  statDevice : Option PyStr
  statInode : Option PyStr
  presenceStatus : PresenceStatus

abbrev DirectoryQueueRow.key (row : DirectoryQueueRow) : SessionId × PyStr :=
  (row.scanSessionId, row.relativePath)

abbrev CollectQueueRow.key (row : CollectQueueRow) : SessionId × PyStr :=
  (row.scanSessionId, row.relativePath)

abbrev FileRecord.key (row : FileRecord) : Nat × PyStr :=
  (row.storageRootId, row.relativePath)

/-- The catalog database; each table carries its `UNIQUE` key. -/
structure CatalogDb where
  storageRoot : Table StorageRoot StorageRoot.slug
  scanSnapshot : Table ScanSnapshot ScanSnapshot.id
  scanSession : Table ScanSession ScanSession.id
  scanDirectoryQueue : Table DirectoryQueueRow DirectoryQueueRow.key
  scanCollectQueue : Table CollectQueueRow CollectQueueRow.key
  fileRecord : Table FileRecord FileRecord.key

def CatalogDb.empty : CatalogDb where
  storageRoot := .empty
  scanSnapshot := .empty
  scanSession := .empty
  scanDirectoryQueue := .empty
  scanCollectQueue := .empty
  fileRecord := .empty

end ImmichDoctor.Catalog
