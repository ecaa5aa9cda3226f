import ImmichDoctor.Backup.Snapshots
import ImmichDoctor.Library.Table
import ImmichDoctor.Repair.Guards
/-!
# Backups that leave a snapshot

`BackupFilesService.run` and the end of `ManualBackupExecutionService`: the snapshot that is
persisted once the files are at their destination. The folder of the snapshots holds manifests
only, and the writing of a manifest may end at any place. Which plan the files had, whether it
is carried out and how the writing ends are parts of a run.
-/

namespace ImmichDoctor.Backup

open ImmichDoctor.Library
open ImmichDoctor.Repair (fingerprintPayload)

/-! ## The folder -/

/-- What a manifest holds: all that was written, or a beginning of it that is not JSON. -/
inductive ManifestText
  | whole (payload : JsonValue)
  | cut

/-- `backup_snapshot_root`, by the names of its files. -/
abbrev SnapshotFolder := Table (PyStr × ManifestText) Prod.fst

def manifestName (snapshotId : PyStr) : PyStr :=
  snapshotId ++ py ".json"

/-- The folder without the files of some names. -/
def removeFiles (folder : SnapshotFolder) (names : List PyStr) : SnapshotFolder where
  rows := folder.rows.filter fun file => file.1 ∉ names
  unique := folder.unique.sublist (List.filter_sublist.map _)

/-- How the writing of a manifest ends. -/
inductive Written
  | whole
  /-- It is stopped with all of the document in the file. -/
  | unreturned
  /-- It is stopped with a part of the document in the file. -/
  | cut
  /-- It is stopped before there is a file. -/
  | nothing
  deriving DecidableEq

/-- `persist_snapshot`, of an id that is a name: the folder after it, and what it returns. -/
def SnapshotStore.persistIn (store : SnapshotStore) (folder : SnapshotFolder)
    (snapshot : BackupSnapshot) : Written → SnapshotFolder × Option BackupSnapshot
  | .whole =>
      let path := backupSnapshotManifestPath store.manifestsPath snapshot.snapshotId
      (folder.put (manifestName snapshot.snapshotId, .whole snapshot.toDict),
        BackupSnapshot.fromDict store.localOffset
          (snapshot.toDict.withField (py "manifest_path") (.str path.text)))
  | .unreturned =>
      (folder.put (manifestName snapshot.snapshotId, .whole snapshot.toDict), none)
  | .cut => (folder.put (manifestName snapshot.snapshotId, .cut), none)
  | .nothing => (folder, none)

/-! ## Runs -/

/-- `uuid4().hex`. -/
structure HexId where
  text : PyStr
  digits : ∀ c ∈ text, 48 ≤ c ∧ c ≤ 57 ∨ 97 ≤ c ∧ c ≤ 102
  length : text.length = 32

/-- `path.name`. -/
def nameOf (path : PurePath) : PyStr :=
  path.parts.getLastD []

/-- `FileBackupExecutionPlan`, without the path that only the transfer uses. -/
structure FileBackupExecutionPlan where
  backupRootPath : PurePath
  artifactRelativePath : PurePath

/-- A call of `BackupFilesService.run` on configured paths. -/
structure FilesRun where
  snapshotKind : SnapshotKind := .manual
  repairRunId : Option JsonStr := none
  sourceFingerprint : Option PyStr := none
  sourcePath : PurePath
  targetPath : PurePath
  startedAt : CivilTime
  /-- `_configuration_issues` finds some. -/
  hasIssues : Bool := false
  plan : FileBackupExecutionPlan
  /-- The executor does not raise. -/
  executed : Bool
  snapshotId : HexId
  written : Written

/-- The artifact of `LocalFileBackupExecutor.execute`. -/
def executedArtifact (plan : FileBackupExecutionPlan) : BackupArtifact where
  name := py "immich-library"
  kind := py "file_archive"
  target := {
    kind := py "local"
    reference := plan.backupRootPath.text
    displayName := nameOf plan.backupRootPath }
  relativePath := plan.artifactRelativePath

/-- `_default_source_fingerprint`. -/
def FilesRun.defaultSourceFingerprint (run : FilesRun) (digest : PyStr → PyStr) : PyStr :=
  fingerprintPayload digest (.obj [
    (py "job_name", .str (py "backup-files")),
    (py "requested_components", .list [.str (py "files")]),
    (py "target_reference", .str run.targetPath.text),
    (py "started_at", .str (DateTime.isoformat ⟨run.startedAt, some .utc⟩)),
    (py "source_path", .str run.sourcePath.text)])

/-- The snapshot of `_attach_snapshot`. -/
def FilesRun.snapshot (run : FilesRun) (digest : PyStr → PyStr) : BackupSnapshot where
  snapshotId := run.snapshotId.text
  kind := run.snapshotKind
  createdAt := ⟨run.startedAt, some .utc⟩
  sourceFingerprint :=
    match run.sourceFingerprint with
    | some fingerprint =>
        if fingerprint = [] then run.defaultSourceFingerprint digest else fingerprint
    | none => run.defaultSourceFingerprint digest
  coverage := .filesOnly
  fileArtifacts := [executedArtifact run.plan]
  dbArtifact := none
  manifestPath := .parse (py "pending")
  verified := false
  repairRunId := run.repairRunId.map (·.text)

/-- A manual backup whose files were transferred. -/
structure ManualRun where
  snapshotKind : SnapshotKind
  targetId : PyStr
  targetName : PyStr
  /-- `is_path_like_usable_destination`. -/
  pathLike : Bool
  startedAt : CivilTime
  backupRootReference : PyStr
  artifactRelativePath : PurePath
  totalSizeBytes : Option Int
  snapshotId : HexId
  written : Written

/-- The snapshot of `_persist_snapshot`. -/
def ManualRun.snapshot (run : ManualRun) : BackupSnapshot where
  snapshotId := run.snapshotId.text
  kind := run.snapshotKind
  createdAt := ⟨run.startedAt, some .utc⟩
  sourceFingerprint := py "manual-backup:" ++ run.targetId ++ py ":" ++
    DateTime.isoformat ⟨run.startedAt, some .utc⟩
  coverage := .filesOnly
  fileArtifacts := [{
    name := py "immich-library"
    kind := py "file_archive"
    target := {
      kind := if run.pathLike then py "local" else py "remote"
      reference := run.backupRootReference
      displayName := run.targetName }
    relativePath := run.artifactRelativePath
    sizeBytes := run.totalSizeBytes }]
  dbArtifact := none
  manifestPath := .parse (py "pending")
  verified := false

/-! ## The system -/

/-- The folder, the snapshots that were handed to the store and those that it returned. -/
structure SnapshotSystem where
  folder : SnapshotFolder
  handed : List BackupSnapshot
  returned : List BackupSnapshot

def SnapshotSystem.empty : SnapshotSystem where
  folder := .empty
  handed := []
  returned := []

inductive BackupEvent
  | backupFiles (run : FilesRun)
  | manualBackup (run : ManualRun)
  /-- Someone removes files of the folder. -/
  | clear (names : List PyStr)

namespace SnapshotStore

variable (store : SnapshotStore) (digest : PyStr → PyStr)

def persist (s : SnapshotSystem) (snapshot : BackupSnapshot) (written : Written) :
    SnapshotSystem where
  folder := (store.persistIn s.folder snapshot written).1
  handed := s.handed ++ [snapshot]
  returned := s.returned ++ (store.persistIn s.folder snapshot written).2.toList

def step (s : SnapshotSystem) : BackupEvent → SnapshotSystem
  | .backupFiles run =>
      if run.hasIssues then s
      else if !run.executed then s
      else store.persist s (run.snapshot digest) run.written
  | .manualBackup run => store.persist s run.snapshot run.written
  | .clear names => { s with folder := removeFiles s.folder names }

/-- The state after some events, from an empty folder. -/
def after (events : List BackupEvent) : SnapshotSystem :=
  events.foldl (store.step digest) .empty

end SnapshotStore

end ImmichDoctor.Backup
