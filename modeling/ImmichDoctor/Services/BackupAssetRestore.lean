import ImmichDoctor.Catalog.QuarantineItems
/-!
# Restoring a backed up asset

`BackupAssetWorkflowService._restore_one`: the file at the source path is moved to
quarantine, the backup is copied to a temporary file, which replaces the source, and both
are hashed. Each call may raise an `OSError`, and a read may return something else than
what was stored. Paths are without links.
-/

namespace ImmichDoctor.Services

open ImmichDoctor.Library
open ImmichDoctor.Catalog

/-! ## Results -/

/-- The statuses of the result of a restore. -/
inductive RestoreStatus
  | restored
  | failed
  deriving DecidableEq

structure RestoreResult where
  resultStatus : RestoreStatus
  outcome : PyStr
  reason : PyStr
  quarantinePath : Option FsPath
  /-- `details["rollbackRestoredSource"]`. -/
  rollbackRestoredSource : Option Bool
  deriving DecidableEq

/-! ## Places -/

/-- The roots and the parts of the asset id. -/
structure RestorePlaces where
  sourceRoot : FsPath
  backupRoot : FsPath
  /-- With the folder of the time of the restore. -/
  quarantineRoot : FsPath
  folder : FsPath
  name : PyStr

namespace RestorePlaces

variable (places : RestorePlaces)

def sourceParent : FsPath :=
  places.sourceRoot ++ places.folder

def sourcePath : FsPath :=
  places.sourceParent ++ [places.name]

def backupPath : FsPath :=
  places.backupRoot ++ places.folder ++ [places.name]

def quarantinePath : FsPath :=
  places.quarantineRoot ++ places.folder ++ [places.name]

def tempRestorePath : FsPath :=
  places.sourceParent ++ [places.name ++ py ".immich-doctor-restore.tmp"]

end RestorePlaces

/-! ## Errors -/

/-- How a copy goes wrong: with an error and what is left at its destination, or with other
content than that of the file. -/
inductive CopyFault
  | raises (left : Option Nat)
  | alters (content : Nat)

/-- How a file is read wrongly. -/
inductive ReadFault
  | raises
  | reads (content : Nat)

structure RestoreFaults where
  /-- `backup_path.exists()` or the `mkdir` after it raises. -/
  start : Bool
  /-- `source_path.exists()` raises. -/
  sourceExists : Bool
  move : Option MoveFault
  copy : Option CopyFault
  replace : Bool
  hashSource : Option ReadFault
  hashBackup : Option ReadFault
  /-- The temporary file cannot be deleted. -/
  unlinkTemp : Bool
  /-- One of the checks before the move back raises. -/
  rollbackCheck : Bool
  rollback : Option MoveFault
  /-- The text of the error that ends the attempt. -/
  error : PyStr

/-! ## Calls -/

/-- Where a copy is written: in a directory that is there under the name of the source. -/
def copyTarget (files : FileSystem PyStr Nat) (source destination : FsPath) : FsPath :=
  if files.isDirectory destination then destination ++ source.getLast?.toList else destination

/-- `shutil.copy2`. -/
def copy2 (files : FileSystem PyStr Nat) (fault : Option CopyFault) (source destination : FsPath) :
    FileSystem PyStr Nat × Bool :=
  let target := copyTarget files source destination
  match files.lookup source with
  | some (.file content) =>
      if source = target ∨ files.lookup target = some .directory ∨
          files.lookup target = some .other then (files, false)
      else
        match fault with
        | none => (files.set target (.file content), true)
        | some (.alters other) => (files.set target (.file other), true)
        | some (.raises none) => (files, false)
        | some (.raises (some left)) => (files.set target (.file left), false)
  | _ => (files, false)

/-- Whether a rename may put the source there: a directory in place of an empty one, anything
else in place of what is no directory. -/
def replaceable (files : FileSystem PyStr Nat) (source destination : FsPath) : Bool :=
  match files.lookup destination with
  | none => true
  | some .directory => files.isDirectory source && (files.names destination).isEmpty
  | some _ => !files.isDirectory source

/-- `os.replace`. -/
def osReplace (files : FileSystem PyStr Nat) (fault : Bool) (source destination : FsPath) :
    FileSystem PyStr Nat × Bool :=
  if fault = false ∧ (files.lookup source).isSome = true ∧ FileSystem.Apart source destination ∧
      replaceable files source destination = true then
    (files.moveTree source destination, true)
  else (files, false)

/-- `_hash_file`; `none` for an `OSError`. -/
def hashFile (hash : Nat → PyStr) (files : FileSystem PyStr Nat) (fault : Option ReadFault)
    (path : FsPath) : Option PyStr :=
  match files.lookup path, fault with
  | some (.file content), none => some (hash content)
  | some (.file _), some (.reads content) => some (hash content)
  | _, _ => none

/-! ## The attempt -/

section Attempt

variable (hash : Nat → PyStr) (faults : RestoreFaults) (places : RestorePlaces)
  (files : FileSystem PyStr Nat)

/-- The move of what stands at the source path, with the quarantine path there is then. -/
def quarantineSource : FileSystem PyStr Nat × Option FsPath × Bool :=
  if faults.sourceExists then (files, none, false)
  else if (files.lookup places.sourcePath).isSome then
    let (moved, returned) := moveFile files faults.move places.sourcePath places.quarantinePath
    (moved, some places.quarantinePath, returned)
  else (files, none, true)

def copyBackup : FileSystem PyStr Nat × Bool :=
  copy2 files faults.copy places.backupPath places.tempRestorePath

def replaceSource : FileSystem PyStr Nat × Bool :=
  osReplace files faults.replace places.tempRestorePath places.sourcePath

/-- Both files can be hashed, and the hashes are equal. -/
def hashesAgree : Bool :=
  match hashFile hash files faults.hashSource places.sourcePath,
      hashFile hash files faults.hashBackup places.backupPath with
  | some sourceHash, some backupHash => sourceHash = backupHash
  | _, _ => false

/-- The body of the `try`: the files it leaves, the quarantine path, and whether it comes to
its end. -/
def restoreAttempt : FileSystem PyStr Nat × Option FsPath × Bool :=
  match quarantineSource faults places files with
  | (quarantined, quarantinePath, false) => (quarantined, quarantinePath, false)
  | (quarantined, quarantinePath, true) =>
      match copyBackup faults places quarantined with
      | (copied, false) => (copied, quarantinePath, false)
      | (copied, true) =>
          match replaceSource faults places copied with
          | (replaced, false) => (replaced, quarantinePath, false)
          | (replaced, true) =>
              (replaced, quarantinePath, hashesAgree hash faults places replaced)

/-- The handler of an `OSError`; `none` when it raises itself. -/
def restoreHandler (quarantinePath : Option FsPath) :
    FileSystem PyStr Nat × Option RestoreResult :=
  let cleaned := (deleteFile files faults.unlinkTemp places.tempRestorePath).1
  let result (rollbackRestoredSource : Bool) : RestoreResult :=
    ⟨.failed, py "restore_failed", faults.error, quarantinePath, some rollbackRestoredSource⟩
  match quarantinePath with
  | none => (cleaned, some (result false))
  | some path =>
      if faults.rollbackCheck then (cleaned, none)
      else if (cleaned.lookup path).isSome && (cleaned.lookup places.sourcePath).isNone then
        let (restored, returned) := moveFile cleaned faults.rollback path places.sourcePath
        (restored, some (result returned))
      else (cleaned, some (result false))

/-- `_restore_one`; `none` for an exception. -/
def restoreOne : FileSystem PyStr Nat × Option RestoreResult :=
  if faults.start then (files, none)
  else if (files.lookup places.backupPath).isNone then
    (files, some ⟨.failed, py "backup_missing", py "Backup copy is missing.", none, none⟩)
  else
    match files.mkdirs places.sourceParent with
    | none => (files, none)
    | some prepared =>
        match restoreAttempt hash faults places prepared with
        | (restored, quarantinePath, true) =>
            (restored, some ⟨.restored, py "restored",
              py "Backup file restored into source storage.", quarantinePath, none⟩)
        | (left, quarantinePath, false) => restoreHandler faults places left quarantinePath

end Attempt

end ImmichDoctor.Services
