import ImmichDoctor.Library.DateTexts
import ImmichDoctor.Library.JsonRecords
/-!
# Backup snapshots

`BackupSnapshot` with its `to_dict` and `from_dict`, and `BackupSnapshotStore`. A file is what
was written to it; `Path.resolve` and the local time zone are parameters, and so is whether the
calls that prepare and write a file go through.
-/

namespace ImmichDoctor.Backup

open ImmichDoctor.Library

/-! ## Models -/

inductive SnapshotKind
  | preRepair
  | postRepair
  | periodic
  | manual
  deriving DecidableEq

def SnapshotKind.value : SnapshotKind → PyStr
  | .preRepair => py "pre_repair"
  | .postRepair => py "post_repair"
  | .periodic => py "periodic"
  | .manual => py "manual"

/-- `SnapshotKind(value)`; `none` for a `ValueError`. -/
def SnapshotKind.of? (value : PyStr) : Option SnapshotKind :=
  [.preRepair, .postRepair, .periodic, .manual].find? fun kind => kind.value = value

inductive SnapshotCoverage
  | filesOnly
  | dbOnly
  | paired
  deriving DecidableEq

def SnapshotCoverage.value : SnapshotCoverage → PyStr
  | .filesOnly => py "files_only"
  | .dbOnly => py "db_only"
  | .paired => py "paired"

/-- `SnapshotCoverage(value)`; `none` for a `ValueError`. -/
def SnapshotCoverage.of? (value : PyStr) : Option SnapshotCoverage :=
  [.filesOnly, .dbOnly, .paired].find? fun coverage => coverage.value = value

/-- The values of the `Literal` types are not checked. -/
structure BackupTarget where
  kind : PyStr
  reference : PyStr
  displayName : PyStr
  writableRequired : Bool := true
  deriving DecidableEq

structure BackupArtifact where
  name : PyStr
  kind : PyStr
  target : BackupTarget
  relativePath : PurePath
  sizeBytes : Option Int := none
  checksum : Option PyStr := none
  deriving DecidableEq

structure BackupSnapshot where
  snapshotId : PyStr
  kind : SnapshotKind
  createdAt : DateTime
  sourceFingerprint : PyStr
  coverage : SnapshotCoverage
  fileArtifacts : List BackupArtifact
  dbArtifact : Option BackupArtifact
  manifestPath : PurePath
  verified : Bool
  repairRunId : Option PyStr := none
  deriving DecidableEq

/-! ## Writing -/

def BackupTarget.toDict (target : BackupTarget) : JsonValue :=
  .obj [
    (py "kind", .str target.kind),
    (py "reference", .str target.reference),
    (py "display_name", .str target.displayName),
    (py "writable_required", .bool target.writableRequired)]

def BackupArtifact.toDict (artifact : BackupArtifact) : JsonValue :=
  .obj [
    (py "name", .str artifact.name),
    (py "kind", .str artifact.kind),
    (py "target", artifact.target.toDict),
    (py "relative_path", .str artifact.relativePath.text),
    (py "size_bytes", .ofInt? artifact.sizeBytes),
    (py "checksum", .ofText? artifact.checksum)]

def BackupSnapshot.toDict (snapshot : BackupSnapshot) : JsonValue :=
  .obj [
    (py "snapshot_id", .str snapshot.snapshotId),
    (py "kind", .str snapshot.kind.value),
    (py "created_at", .str snapshot.createdAt.isoformat),
    (py "source_fingerprint", .str snapshot.sourceFingerprint),
    (py "coverage", .str snapshot.coverage.value),
    (py "file_artifacts", .list (snapshot.fileArtifacts.map BackupArtifact.toDict)),
    (py "db_artifact", snapshot.dbArtifact.elim .null BackupArtifact.toDict),
    (py "manifest_path", .str snapshot.manifestPath.text),
    (py "verified", .bool snapshot.verified),
    (py "repair_run_id", .ofText? snapshot.repairRunId)]

/-! ## Reading -/

/-- A text, as it is. -/
def textOf : JsonValue → Option PyStr
  | .str text => some text
  | _ => none

def optionalTextOf : JsonValue → Option (Option PyStr)
  | .null => some none
  | .str text => some (some text)
  | _ => none

def boolOf : JsonValue → Option Bool
  | .bool value => some value
  | _ => none

/-- `BackupTarget(**payload)`. -/
def BackupTarget.fromDict (payload : JsonValue) : Option BackupTarget := do
  let kind ← textOf (← payload.field? (py "kind"))
  let reference ← textOf (← payload.field? (py "reference"))
  let displayName ← textOf (← payload.field? (py "display_name"))
  let writableRequired ← boolOf (← payload.field? (py "writable_required"))
  return { kind, reference, displayName, writableRequired }

def BackupArtifact.fromDict (payload : JsonValue) : Option BackupArtifact := do
  let name ← textOf (← payload.field? (py "name"))
  let kind ← textOf (← payload.field? (py "kind"))
  let target ← BackupTarget.fromDict (← payload.field? (py "target"))
  let relativePath ← textOf (← payload.field? (py "relative_path"))
  let sizeBytes ← ((payload.field? (py "size_bytes")).getD .null).toOptionalInt?
  let checksum ← optionalTextOf ((payload.field? (py "checksum")).getD .null)
  return { name, kind, target, relativePath := .parse relativePath, sizeBytes, checksum }

/-- The items of `payload["file_artifacts"]`. -/
def artifactItems : JsonValue → Option (List JsonValue)
  | .list items => some items
  | _ => none

def dbArtifactOf : JsonValue → Option (Option BackupArtifact)
  | .null => some none
  | payload => (BackupArtifact.fromDict payload).map some

/-- `BackupSnapshot.from_dict` of a payload with the types that `to_dict` writes; `none` when it
raises. -/
def BackupSnapshot.fromDict (localOffset : CivilTime → Option UtcOffset) (payload : JsonValue) :
    Option BackupSnapshot := do
  let snapshotId ← textOf (← payload.field? (py "snapshot_id"))
  let kind ← SnapshotKind.of? (← textOf (← payload.field? (py "kind")))
  let createdAt ← DateTime.fromisoformat (← textOf (← payload.field? (py "created_at")))
  let createdAt ← createdAt.astimezoneUtc localOffset
  let sourceFingerprint ← textOf (← payload.field? (py "source_fingerprint"))
  let coverage ← SnapshotCoverage.of? (← textOf (← payload.field? (py "coverage")))
  let items ← artifactItems (← payload.field? (py "file_artifacts"))
  let fileArtifacts ← items.mapM BackupArtifact.fromDict
  let dbArtifact ← dbArtifactOf ((payload.field? (py "db_artifact")).getD .null)
  let manifestPath ← textOf (← payload.field? (py "manifest_path"))
  let verified ← boolOf (← payload.field? (py "verified"))
  let repairRunId ← optionalTextOf ((payload.field? (py "repair_run_id")).getD .null)
  return { snapshotId, kind, createdAt, sourceFingerprint, coverage, fileArtifacts, dbArtifact,
           manifestPath := .parse manifestPath, verified, repairRunId }

/-! ## The store -/

/-- `path / text`. -/
def joinText (path : PurePath) (text : PyStr) : PurePath :=
  let other := PurePath.parse text
  if other.anchor = .relative then path.joinParts other.parts other.valid else other

/-- `backup_snapshot_root`. -/
def backupSnapshotRoot (manifestsPath : PurePath) : PurePath :=
  joinText (joinText manifestsPath (py "backup")) (py "snapshots")

/-- `backup_snapshot_manifest_path`. -/
def backupSnapshotManifestPath (manifestsPath : PurePath) (snapshotId : PyStr) : PurePath :=
  joinText (backupSnapshotRoot manifestsPath) (snapshotId ++ py ".json")

/-- What the store works with. -/
structure SnapshotStore where
  manifestsPath : PurePath
  resolvePath : PurePath → PurePath
  localOffset : CivilTime → Option UtcOffset
  /-- The directory of the file can be made and the file be written. -/
  writable : PurePath → Bool

/-- What was written to the files, by their resolved path. -/
abbrev ManifestFiles := PurePath → Option JsonValue

namespace SnapshotStore

def place (store : SnapshotStore) (snapshotId : PyStr) : PurePath :=
  store.resolvePath (backupSnapshotManifestPath store.manifestsPath snapshotId)

/-- `persist_snapshot`: the files after it, and what it returns. -/
def persistSnapshot (store : SnapshotStore) (files : ManifestFiles) (snapshot : BackupSnapshot) :
    ManifestFiles × Option BackupSnapshot :=
  let path := backupSnapshotManifestPath store.manifestsPath snapshot.snapshotId
  if store.writable path then
    (Function.update files (store.place snapshot.snapshotId) (some snapshot.toDict),
      BackupSnapshot.fromDict store.localOffset
        (snapshot.toDict.withField (py "manifest_path") (.str path.text)))
  else (files, none)

/-- `load_snapshot`; `none` when it raises. -/
def loadSnapshot (store : SnapshotStore) (files : ManifestFiles) (snapshotId : PyStr) :
    Option BackupSnapshot := do
  let written ← files (store.place snapshotId)
  BackupSnapshot.fromDict store.localOffset written.reread

end SnapshotStore

end ImmichDoctor.Backup
