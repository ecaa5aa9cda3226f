import ImmichDoctor.Services.BackupAssetWorkflow
import ImmichDoctor.Services.BackupTargetJobs
/-!
# Manual backup executions

`ManualBackupExecutionService._run_execution`: the run of a job, from the target it loads to the
copy of it that it saves, whole or cut off. The validation of a target, the transfer to a remote
host and the snapshot store are what they turn out to be; ids and times of a result, its planned
metrics and the references of a prepared context are left out.
-/

namespace ImmichDoctor.Services

open ImmichDoctor.Library
open ImmichDoctor.Backup
open ImmichDoctor.Catalog

/-! ## Prepared contexts -/

inductive PreparedBackupAccessKind
  | pathLike
  | transportPrepared
  deriving DecidableEq

inductive PreparedBackupDestinationSemantics
  | mirrorSync
  | versionedSnapshot
  deriving DecidableEq

inductive PreparedBackupExecutionMode
  | assetAwareSync
  | versionedTransfer
  deriving DecidableEq

structure PreparedBackupExecutionContext where
  accessKind : PreparedBackupAccessKind
  destinationSemantics : PreparedBackupDestinationSemantics
  executionMode : PreparedBackupExecutionMode
  restoreReadiness : BackupRestoreReadiness
  warnings : List PyStr
  deriving DecidableEq

/-- `prepare_execution_context`; an error is the text of a `ValueError`. -/
def prepareExecutionContext (target : BackupTargetConfig) :
    Except PyStr PreparedBackupExecutionContext :=
  let pathLike : PreparedBackupExecutionContext :=
    ⟨.pathLike, .mirrorSync, .assetAwareSync, target.restoreReadiness, target.warnings⟩
  let transportPrepared : PreparedBackupExecutionContext :=
    ⟨.transportPrepared, .versionedSnapshot, .versionedTransfer, target.restoreReadiness,
      target.warnings⟩
  let unprepared := py "Selected target does not expose a prepared execution context for " ++
    py "the currently implemented backup flow."
  match target.targetType with
  | .local_ => if target.transport.path.isSome then .ok pathLike else .error unprepared
  | .smb =>
      if target.transport.mountStrategy = some .preMountedPath ∧
          target.transport.mountedPath.isSome then .ok pathLike
      else .error unprepared
  | .ssh | .rsync => .ok transportPrepared

/-! ## What a run meets -/

/-- What `validate_target_now` returns. -/
structure TargetValidation where
  state : BackgroundJobState
  warnings : List PyStr
  /-- `executionSupport["supported"]`. -/
  supported : Option Bool
  /-- `executionSupport["summary"]`. -/
  supportSummary : Option PyStr

/-- How a transfer through `ManagedRsyncTransferExecutor` ends. -/
inductive TransferOutcome
  /-- With a `FileBackupExecutionError`. -/
  | executionError (message : PyStr)
  | raised
  /-- With the bytes it has transferred, and whether the destination is found afterwards. -/
  | transferred (bytesTransferred : Option Int) (destinationExists : Bool)

/-- How `save_target` ends. -/
inductive TargetSave
  | returns
  /-- It raises before `write_text` opens the file. -/
  | raisesBefore
  /-- `write_text` raises: the file was emptied when it was opened, and holds a part of the text
  or all of it. -/
  | raisesWriting (whole : Bool)
  deriving DecidableEq

/-- What the calls of a run come to; `none` for an exception. -/
structure ExecutionCalls where
  validation : Option TargetValidation
  /-- `validate_readable_directory` on the library root, with its message where it fails. -/
  sourceCheck : Option (Except PyStr Unit)
  plannedMetrics : Option Unit
  /-- The update of the job to the running state. -/
  update : Option Unit
  /-- The target that `sync_missing` loads. -/
  reloaded : Option BackupTargetConfig
  sync : WorkflowFaults
  transfer : TransferOutcome
  /-- The id of the persisted snapshot. -/
  snapshot : Option PyStr
  save : TargetSave
  versionId : PyStr
  completedAt : PyStr

/-! ## Results -/

structure ExecutionResult where
  state : BackgroundJobState
  summary : PyStr
  restoreReadiness : BackupRestoreReadiness
  verificationLevel : VerificationLevel
  bytesTransferred : Option Int
  snapshotId : Option PyStr
  warnings : List PyStr
  deriving DecidableEq

/-- What a run has put into the file of the targets. -/
inductive SavedTarget
  | nothing
  /-- The document with this copy of a target. -/
  | whole (target : BackupTargetConfig)
  /-- The beginning of its text. -/
  | cut
  deriving DecidableEq

/-- What a run leaves: the files, what it has saved, and its result unless it raises. -/
structure ExecutionRun where
  files : FileSystem PyStr Nat
  saved : SavedTarget
  result : Option ExecutionResult

/-- What `load_document` gives after the run, which has saved to the document there was at that
time; it raises for a text without its last bracket. -/
def ExecutionRun.document (run : ExecutionRun) (current : BackupTargetsDocument) :
    Option BackupTargetsDocument :=
  match run.saved with
  | .nothing => some current
  | .whole target => some (putTarget target current)
  | .cut => none

/-- A result without a backup. -/
def unsuccessfulResult (target : BackupTargetConfig) (state : BackgroundJobState) (summary : PyStr)
    (warnings : List PyStr) : ExecutionResult :=
  ⟨state, summary, target.restoreReadiness, .none, none, none, warnings⟩

/-- `"canceled" in message.lower()`; no other letters than those of ASCII become letters of the
word. -/
def isCanceled (message : PyStr) : Bool :=
  decide (py "canceled" <:+: message.map fun c => if 65 ≤ c ∧ c ≤ 90 then c + 32 else c)

/-- The sum of the sizes of the restored results. -/
def restoredBytes (results : List CopyResult) : Nat :=
  ((results.filter (·.resultStatus = .restored)).map fun result => result.targetSize.getD 0).sum

/-! ## Runs -/

section Runs

variable (settings : WorkflowSettings) (facts : FileFacts) (calls : ExecutionCalls)
  (target : BackupTargetConfig)

/-- The metadata of a successful backup. -/
def backupMetadata (bytesTransferred : Option Int) (verificationLevel : VerificationLevel)
    (snapshotId : Option PyStr) : BackupTargetLastBackupMetadata :=
  ⟨calls.versionId, calls.completedAt, py "files_only", bytesTransferred, verificationLevel,
    snapshotId⟩

/-- The end of a run, which saves the copy of its target and returns. -/
def saveTarget (files : FileSystem PyStr Nat) (updated : BackupTargetConfig)
    (result : ExecutionResult) : ExecutionRun :=
  match calls.save with
  | .returns => ⟨files, .whole updated, some result⟩
  | .raisesBefore => ⟨files, .nothing, none⟩
  | .raisesWriting whole => ⟨files, if whole then .whole updated else .cut, none⟩

/-- The branch of `_run_execution` for an asset-aware sync. -/
def executeSync (context : PreparedBackupExecutionContext) (files : FileSystem PyStr Nat) :
    ExecutionRun :=
  match calls.reloaded with
  | none => ⟨files, .nothing, none⟩
  | some reloaded =>
      match syncMissing settings facts calls.sync reloaded files with
      | (left, none) => ⟨left, .nothing, none⟩
      | (left, some report) =>
          let bytesTransferred := some (restoredBytes report.results : Int)
          saveTarget calls left
            ((TargetWrite.backedUp
              (backupMetadata calls bytesTransferred .copiedFilesSha256 none)).copyOf target)
            ⟨report.state, report.summary, target.restoreReadiness, .copiedFilesSha256,
              bytesTransferred, none, context.warnings⟩

/-- `_execute_transfer`. -/
def executeTransfer (context : PreparedBackupExecutionContext) : TransferOutcome :=
  if context.accessKind ≠ .transportPrepared then
    .executionError (py "Prepared backup execution context does not support " ++
      py "transport-based versioned transfer.")
  else calls.transfer

/-- The branch of `_run_execution` for a versioned transfer. -/
def executeVersioned (context : PreparedBackupExecutionContext) (files : FileSystem PyStr Nat) :
    ExecutionRun :=
  match executeTransfer calls context with
  | .raised => ⟨files, .nothing, none⟩
  | .executionError message =>
      ⟨files, .nothing, some (unsuccessfulResult target
        (if isCanceled message then .canceled else .failed) message [message])⟩
  | .transferred bytesTransferred destinationExists =>
      let verificationLevel : VerificationLevel :=
        if destinationExists then .destinationExists else .transportSuccessOnly
      match calls.snapshot with
      | none => ⟨files, .nothing, none⟩
      | some snapshotId =>
          saveTarget calls files
            ((TargetWrite.backedUp
              (backupMetadata calls bytesTransferred verificationLevel (some snapshotId))).copyOf
                target)
            ⟨.completed,
              py "Manual files-only backup completed. Restore execution remains unavailable.",
              target.restoreReadiness, verificationLevel, bytesTransferred, some snapshotId,
              target.warnings⟩

/-- `_run_execution` after the validation has passed. -/
def executeValidated (files : FileSystem PyStr Nat) : ExecutionRun :=
  match settings.immichLibraryRoot with
  | none =>
      ⟨files, .nothing, some (unsuccessfulResult target .failed
        (py "Backup execution failed because IMMICH library root is not configured.") [])⟩
  | some _ =>
      match calls.sourceCheck with
      | none => ⟨files, .nothing, none⟩
      | some (.error message) =>
          ⟨files, .nothing, some (unsuccessfulResult target .failed message [])⟩
      | some (.ok ()) =>
          match calls.plannedMetrics with
          | none => ⟨files, .nothing, none⟩
          | some () =>
              match prepareExecutionContext target with
              | .error message =>
                  ⟨files, .nothing,
                    some (unsuccessfulResult target .unsupported message [message])⟩
              | .ok context =>
                  match calls.update with
                  | none => ⟨files, .nothing, none⟩
                  | some () =>
                      if context.executionMode = .assetAwareSync then
                        executeSync settings facts calls target context files
                      else executeVersioned calls target context files

/-- `_run_execution` on a loaded target. -/
def executeTarget (files : FileSystem PyStr Nat) : ExecutionRun :=
  match calls.validation with
  | none => ⟨files, .nothing, none⟩
  | some validation =>
      if validation.state ≠ .completed ∧ validation.state ≠ .partial_ then
        ⟨files, .nothing, some (unsuccessfulResult target validation.state
          (py "Backup execution cannot start because target validation did not pass.")
          validation.warnings)⟩
      else if validation.supported = some false ∧
          (target.targetType = .ssh ∨ target.targetType = .rsync) then
        let summary := if (validation.supportSummary.getD []).isEmpty then
            py "Remote execution readiness is unavailable."
          else validation.supportSummary.getD []
        ⟨files, .nothing, some (unsuccessfulResult target .unsupported summary [summary])⟩
      else executeValidated settings facts calls target files

end Runs

/-- `_run_execution`. -/
def runExecution (settings : WorkflowSettings) (facts : FileFacts) (calls : ExecutionCalls)
    (document : BackupTargetsDocument) (targetId : TargetId) (files : FileSystem PyStr Nat) :
    ExecutionRun :=
  match findTarget targetId document with
  | none => ⟨files, .nothing, none⟩
  | some target => executeTarget settings facts calls target files

end ImmichDoctor.Services
