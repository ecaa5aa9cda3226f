import ImmichDoctor.Backup.Targets
import ImmichDoctor.Library.IndependentSteps
import ImmichDoctor.Services.BackupAssetRestore
import ImmichDoctor.Services.JobRuntime
import Mathlib.Data.List.Dedup
/-!
# The asset workflow of a backup target

`BackupAssetWorkflowService`: the roots of a target, the comparison of the files below them,
`sync_missing` and `restore_items`. An asset id is the list of the names of a relative path.
Paths are without links and `..`; the side details and the times of a record, and the hashes,
times and paths of a result are left out.
-/

namespace ImmichDoctor.Services

open ImmichDoctor.Library
open ImmichDoctor.Backup
open ImmichDoctor.Catalog

/-! ## Settings and errors -/

structure WorkflowSettings where
  /-- `Path(text).expanduser()`, from the root of the file system. -/
  place : PyStr → FsPath
  immichLibraryRoot : Option FsPath
  quarantinePath : FsPath

structure FileStat where
  size : Nat
  mtimeNs : Int
  deriving DecidableEq

/-- What the contents of files stand for: bytes with the time of their last modification. -/
structure FileFacts where
  hash : Nat → PyStr
  stat : Nat → FileStat
  /-- The `stat` of what is neither a file nor a directory; `none` when it raises. -/
  otherStat : FsPath → Option FileStat

/-- The errors a copy meets. -/
structure CopyItemFaults where
  /-- The `mkdir` raises after it has made so many directories. -/
  parents : Option Nat
  copy : Option CopyFault
  hashSource : Bool
  hashTarget : Bool
  /-- A `stat` for the details raises. -/
  details : Bool
  error : PyStr

structure WorkflowFaults where
  /-- `is_child_path` raises. -/
  resolve : Bool
  backupRoot : Option Nat
  workflowRoot : Option Nat
  /-- The directories that `os.walk` cannot list and leaves out. -/
  unlisted : FsPath → Bool
  /-- `exists` or `stat` raises in the comparison. -/
  stat : FsPath → Bool
  /-- The file cannot be read in the comparison. -/
  hash : FsPath → Bool
  copies : FsPath → CopyItemFaults

/-- `path.mkdir(parents=True, exist_ok=True)`; the second component says whether it returns. -/
def makeDirs (files : FileSystem PyStr Nat) (fault : Option Nat) (path : FsPath) :
    FileSystem PyStr Nat × Bool :=
  match fault with
  | some made => (((path.inits.tail.take made).foldlM FileSystem.mkdir files).getD files, false)
  | none =>
      match files.mkdirs path with
      | none => (files, false)
      | some made => (made, true)

/-! ## Roots -/

/-- `_path_like_target_root`. -/
def pathLikeTargetRoot (settings : WorkflowSettings) (target : BackupTargetConfig) :
    Option FsPath :=
  match target.targetType with
  | .local_ => target.transport.path.map settings.place
  | .smb =>
      if target.transport.mountStrategy = some .preMountedPath then
        target.transport.mountedPath.map settings.place
      else none
  | .ssh | .rsync => none

/-- `backup_workflow_root`. -/
def backupWorkflowRoot (targetRoot : FsPath) : FsPath :=
  targetRoot ++ [py "_immich-doctor"]

/-- `backup_workflow_current_library_root`. -/
def backupWorkflowCurrentLibraryRoot (targetRoot : FsPath) : FsPath :=
  backupWorkflowRoot targetRoot ++ [py "current", py "immich-library"]

/-- The roots of a workflow, neither of them below the other. -/
structure WorkflowRoots where
  sourceRoot : FsPath
  backupRoot : FsPath
  apart : FileSystem.Apart sourceRoot backupRoot

namespace WorkflowRoots

variable (roots : WorkflowRoots)

def sourcePath (assetId : FsPath) : FsPath :=
  roots.sourceRoot ++ assetId

def backupPath (assetId : FsPath) : FsPath :=
  roots.backupRoot ++ assetId

end WorkflowRoots

theorem apart_backupWorkflowCurrentLibraryRoot {sourceRoot targetRoot : FsPath}
    (h : ¬ (sourceRoot <+: targetRoot ∨ targetRoot <+: sourceRoot)) :
    FileSystem.Apart sourceRoot (backupWorkflowCurrentLibraryRoot targetRoot) := by
  have hbelow : targetRoot <+: backupWorkflowCurrentLibraryRoot targetRoot :=
    (List.prefix_append _ _).trans (List.prefix_append _ _)
  constructor
  · intro hsource
    exact h (List.prefix_or_prefix_of_prefix hsource hbelow)
  · intro hbackup
    exact h (.inr (hbelow.trans hbackup))

/-- What `_resolve_roots` returns. -/
inductive ResolvedRoots
  | unsupported (warnings : List PyStr)
  | roots (roots : WorkflowRoots) (warnings : List PyStr)

/-- `_resolve_roots`; `none` for an exception. -/
def resolveRoots (settings : WorkflowSettings) (faults : WorkflowFaults)
    (target : BackupTargetConfig) (files : FileSystem PyStr Nat) :
    FileSystem PyStr Nat × Option ResolvedRoots :=
  match pathLikeTargetRoot settings target, settings.immichLibraryRoot with
  | none, _ =>
      (files, some (.unsupported (target.warnings ++
        [py "Asset-aware workflow is unavailable because the selected target does " ++
          py "not expose a usable path-like destination."])))
  | some _, none =>
      (files, some (.unsupported (target.warnings ++
        [py "IMMICH library root is not configured."])))
  | some targetRoot, some sourceRoot =>
      if faults.resolve then (files, none)
      else if h : sourceRoot <+: targetRoot ∨ targetRoot <+: sourceRoot then
        (files, some (.unsupported (target.warnings ++
          [py "Source and backup target paths overlap. Asset-aware sync/restore " ++
            py "is blocked to avoid recursive or destructive copies."])))
      else
        let roots : WorkflowRoots :=
          ⟨sourceRoot, backupWorkflowCurrentLibraryRoot targetRoot,
            apart_backupWorkflowCurrentLibraryRoot h⟩
        match makeDirs files faults.backupRoot roots.backupRoot with
        | (made, false) => (made, none)
        | (made, true) =>
            match makeDirs made faults.workflowRoot (backupWorkflowRoot targetRoot) with
            | (left, false) => (left, none)
            | (left, true) => (left, some (.roots roots target.warnings))

/-! ## Listing -/

/-- `os.walk` comes from the root to the directory of the asset and lists it. -/
def walked (unlisted : FsPath → Bool) (files : FileSystem PyStr Nat) (root assetId : FsPath) :
    Bool :=
  assetId.dropLast.inits.all fun above =>
    files.isDirectory (root ++ above) && !unlisted (root ++ above)

/-- `_collect_file_entries`; `none` for an exception. -/
def collectFileEntries (faults : WorkflowFaults) (files : FileSystem PyStr Nat) (root : FsPath) :
    Option (List FsPath) :=
  if faults.stat root then none
  else some (files.rows.filterMap fun entry =>
    let assetId := entry.1.drop root.length
    if root <+: entry.1 ∧ assetId ≠ [] ∧ entry.2 ≠ .directory ∧
        walked faults.unlisted files root assetId = true then some assetId
    else none)

/-! ## Comparison -/

inductive BackupAssetComparisonStatus
  | pending
  | identical
  | missingInBackup
  | mismatch
  | conflict
  | restoreCandidate
  | restored
  | skipped
  | failed
  deriving DecidableEq

def BackupAssetComparisonStatus.value : BackupAssetComparisonStatus → PyStr
  | pending => py "pending"
  | identical => py "identical"
  | missingInBackup => py "missing_in_backup"
  | mismatch => py "mismatch"
  | conflict => py "conflict"
  | restoreCandidate => py "restore_candidate"
  | restored => py "restored"
  | skipped => py "skipped"
  | failed => py "failed"

/-- `RESTORE_ELIGIBLE_STATUSES`. -/
def restoreEligibleStatuses : List BackupAssetComparisonStatus :=
  [.restoreCandidate, .mismatch, .conflict]

structure AssetComparisonRecord where
  assetId : FsPath
  status : BackupAssetComparisonStatus
  comparisonMethod : PyStr
  decision : PyStr
  sourceHash : Option PyStr
  backupHash : Option PyStr
  deriving DecidableEq

/-- The `stat` of what stands at a path. -/
def FileFacts.statOf (facts : FileFacts) (path : FsPath) : FsNode Nat → Option FileStat
  | .file content => some (facts.stat content)
  | .other => facts.otherStat path
  | .directory => none

section Comparison

variable (facts : FileFacts) (faults : WorkflowFaults) (files : FileSystem PyStr Nat)

/-- `path.stat()`. -/
def statPath (path : FsPath) : Option FileStat :=
  if faults.stat path then none else (files.lookup path).bind (facts.statOf path)

/-- `_hash_file` in the comparison. -/
def comparedHash (path : FsPath) : Option PyStr :=
  hashFile facts.hash files (if faults.hash path then some .raises else none) path

/-- The end of `_compare_one`, for two paths. -/
def compareBoth (assetId source backup : FsPath) (sourceStat backupStat : FileStat) :
    AssetComparisonRecord :=
  if sourceStat.size ≠ backupStat.size then
    ⟨assetId, .mismatch, py "size", py "size_mismatch", none, none⟩
  else if sourceStat.mtimeNs = backupStat.mtimeNs then
    ⟨assetId, .identical, py "size+mtime", py "skip_identical", none, none⟩
  else
    match comparedHash facts faults files source, comparedHash facts faults files backup with
    | some sourceHash, some backupHash =>
        if sourceHash = backupHash then
          ⟨assetId, .identical, py "size+mtime+sha256", py "skip_identical_after_hash",
            some sourceHash, some backupHash⟩
        else
          ⟨assetId, .mismatch, py "size+mtime+sha256", py "hash_mismatch",
            some sourceHash, some backupHash⟩
    | _, _ =>
        ⟨assetId, .conflict, py "size+mtime+hash", py "hash_failed_manual_review", none, none⟩

/-- `_compare_one`; `none` for an exception. -/
def compareOne (assetId : FsPath) (source backup : Option FsPath) :
    Option AssetComparisonRecord :=
  match source, backup with
  | none, some backup =>
      if faults.stat backup then none
      else some ⟨assetId, .restoreCandidate, py "existence", py "backup_only_restore_candidate",
        none, none⟩
  | some source, none =>
      if faults.stat source then none
      else some ⟨assetId, .missingInBackup, py "existence", py "copy_missing_to_backup", none, none⟩
  | none, none =>
      some ⟨assetId, .conflict, py "existence", py "manual_review_required", none, none⟩
  | some source, some backup =>
      match statPath facts faults files source, statPath facts faults files backup with
      | some sourceStat, some backupStat =>
          some (compareBoth facts faults files assetId source backup sourceStat backupStat)
      | _, _ => none

/-- The text of an asset id. -/
def assetText (assetId : FsPath) : PyStr :=
  [47].intercalate assetId

/-- `_compare_entries`; `none` for an exception. -/
def compareEntries (roots : WorkflowRoots) (sourceEntries backupEntries : List FsPath) :
    Option (List AssetComparisonRecord) :=
  let assetIds := (sourceEntries ++ backupEntries).dedup.insertionSort fun a b =>
    assetText a ≤ assetText b
  assetIds.mapM fun assetId =>
    compareOne facts faults files assetId
      (if assetId ∈ sourceEntries then some (roots.sourcePath assetId) else none)
      (if assetId ∈ backupEntries then some (roots.backupPath assetId) else none)

/-- Both listings, compared. -/
def compareRoots (roots : WorkflowRoots) : Option (List AssetComparisonRecord) := do
  let sourceEntries ← collectFileEntries faults files roots.sourceRoot
  let backupEntries ← collectFileEntries faults files roots.backupRoot
  compareEntries facts faults files roots sourceEntries backupEntries

end Comparison

/-- The number of the records with a status. -/
def statusCount (records : List AssetComparisonRecord) (status : BackupAssetComparisonStatus) :
    Nat :=
  (records.filter (·.status = status)).length

/-! ## `sync_missing` -/

structure CopyResult where
  assetId : FsPath
  actionOutcome : PyStr
  resultStatus : BackupAssetComparisonStatus
  copied : Bool
  verified : Bool
  error : Option PyStr
  /-- `details["targetSize"]`. -/
  targetSize : Option Nat
  deriving DecidableEq

/-- The result of a copy in which a call raises an `OSError`. -/
def raisedCopy (faults : WorkflowFaults) (assetId : FsPath) : CopyResult :=
  ⟨assetId, py "failed", .failed, false, false, some (faults.copies assetId).error, none⟩

/-- The result of a copy after `copy2` has returned. -/
def verifiedCopy (facts : FileFacts) (faults : WorkflowFaults) (roots : WorkflowRoots)
    (assetId : FsPath) (copied : FileSystem PyStr Nat) : CopyResult :=
  let source := roots.sourcePath assetId
  let target := roots.backupPath assetId
  let fault := faults.copies assetId
  match hashFile facts.hash copied (if fault.hashSource then some .raises else none) source,
      hashFile facts.hash copied (if fault.hashTarget then some .raises else none) target,
      (copied.lookup target).bind (facts.statOf target) with
  | some sourceHash, some targetHash, some targetStat =>
      if fault.details then raisedCopy faults assetId
      else if sourceHash = targetHash then
        ⟨assetId, py "copied", .restored, true, true, none, some targetStat.size⟩
      else
        ⟨assetId, py "copied_with_hash_mismatch", .failed, true, false,
          some (py "Hash verification failed after copy."), some targetStat.size⟩
  | _, _, _ => raisedCopy faults assetId

/-- `_copy_with_verification`; `none` for an exception. -/
def copyWithVerification (facts : FileFacts) (faults : WorkflowFaults) (roots : WorkflowRoots)
    (assetId : FsPath) (files : FileSystem PyStr Nat) :
    FileSystem PyStr Nat × Option CopyResult :=
  let source := roots.sourcePath assetId
  let target := roots.backupPath assetId
  let fault := faults.copies assetId
  match makeDirs files fault.parents target.dropLast with
  | (made, false) => (made, none)
  | (made, true) =>
      match copy2 made fault.copy source target with
      | (copied, false) => (copied, some (raisedCopy faults assetId))
      | (copied, true) => (copied, some (verifiedCopy facts faults roots assetId copied))

structure SyncReport where
  state : BackgroundJobState
  summary : PyStr
  warnings : List PyStr
  /-- `None` where the sync is not supported. -/
  roots : Option WorkflowRoots
  statusCounts : BackupAssetComparisonStatus → Nat
  copiedCount : Nat
  verifiedCount : Nat
  results : List CopyResult
  reviewItems : List AssetComparisonRecord

/-- `_sync_summary`. -/
def syncSummary
    (copiedCount verifiedCount mismatchCount conflictCount restoreCandidateCount : Nat) :
    PyStr :=
  py "Check/sync copied " ++ PyStr.decimal copiedCount ++ py " missing assets and verified " ++
    PyStr.decimal verifiedCount ++ py ". " ++ PyStr.decimal mismatchCount ++ py " mismatches, " ++
    PyStr.decimal conflictCount ++ py " conflicts, and " ++
    PyStr.decimal restoreCandidateCount ++ py " restore candidates still require review."

/-- The state of a sync. -/
def syncState (failures copiedCount mismatchCount conflictCount restoreCandidateCount : Nat) :
    BackgroundJobState :=
  if failures > 0 then
    if copiedCount = 0 then .failed else .partial_
  else if mismatchCount ≠ 0 ∨ conflictCount ≠ 0 ∨ restoreCandidateCount ≠ 0 then .partial_
  else .completed

/-- The report of a sync that was not supported. -/
def unsupportedSync (warnings : List PyStr) : SyncReport where
  state := .unsupported
  summary := py "Asset-aware check/sync is only available for targets with a usable " ++
    py "path-like destination."
  warnings := warnings
  roots := none
  statusCounts := fun _ => 0
  copiedCount := 0
  verifiedCount := 0
  results := []
  reviewItems := []

/-- The report of a sync from its records and the results of its copies. -/
def syncReport (roots : WorkflowRoots) (warnings : List PyStr)
    (records : List AssetComparisonRecord) (results : List CopyResult) : SyncReport :=
  let copied := results.filter (·.resultStatus = .restored)
  let failures := (results.filter (·.resultStatus = .failed)).length
  let verifiedCount := (copied.filter (·.verified)).length
  let mismatchCount := statusCount records .mismatch
  let conflictCount := statusCount records .conflict
  let restoreCandidateCount := statusCount records .restoreCandidate
  { state := syncState failures copied.length mismatchCount conflictCount restoreCandidateCount
    summary := syncSummary copied.length verifiedCount mismatchCount conflictCount
      restoreCandidateCount
    warnings := warnings
    roots := some roots
    statusCounts := statusCount records
    copiedCount := copied.length
    verifiedCount := verifiedCount
    results := results
    reviewItems := (records.filter fun record => record.status = .mismatch ∨
      record.status = .conflict ∨ record.status = .restoreCandidate).take 25 }

/-- The ids a sync copies, in their order. -/
def missingAssets (records : List AssetComparisonRecord) : List FsPath :=
  (records.filter (·.status = .missingInBackup)).map (·.assetId)

/-- `sync_missing`; `none` for an exception. -/
def syncMissing (settings : WorkflowSettings) (facts : FileFacts) (faults : WorkflowFaults)
    (target : BackupTargetConfig) (files : FileSystem PyStr Nat) :
    FileSystem PyStr Nat × Option SyncReport :=
  match resolveRoots settings faults target files with
  | (left, none) => (left, none)
  | (left, some (.unsupported warnings)) => (left, some (unsupportedSync warnings))
  | (prepared, some (.roots roots warnings)) =>
      match compareRoots facts faults prepared roots with
      | none => (prepared, none)
      | some records =>
          let run := runAll (copyWithVerification facts faults roots) (missingAssets records)
            prepared
          (run.1, run.2.map (syncReport roots warnings records))

/-! ## `restore_items` -/

/-- A requested id, with the time of its restore and the errors that it meets. -/
structure RestoreRequest where
  assetId : FsPath
  /-- `datetime.now(UTC).strftime("%Y%m%dT%H%M%SZ")`. -/
  time : PyStr
  faults : RestoreFaults

structure RestoreItem where
  assetId : FsPath
  actionAttempted : PyStr
  actionOutcome : PyStr
  resultStatus : BackupAssetComparisonStatus
  reason : PyStr
  quarantinePath : Option FsPath
  /-- `details["rollbackRestoredSource"]`. -/
  rollbackRestoredSource : Option Bool
  deriving DecidableEq

def RestoreStatus.value : RestoreStatus → BackupAssetComparisonStatus
  | restored => .restored
  | failed => .failed

/-- The places of the restore of an asset. -/
def restorePlaces (settings : WorkflowSettings) (roots : WorkflowRoots)
    (request : RestoreRequest) : RestorePlaces where
  sourceRoot := roots.sourceRoot
  backupRoot := roots.backupRoot
  quarantineRoot := settings.quarantinePath ++ [py "backup-restore-overwrite", request.time]
  folder := request.assetId.dropLast
  name := request.assetId.getLast?.getD []

/-- A result for an item that is skipped. -/
def skippedItem (request : RestoreRequest) (apply : Bool) (outcome reason : PyStr) : RestoreItem :=
  ⟨request.assetId, if apply then py "restore_overwrite" else py "restore_dry_run", outcome,
    .skipped, reason, none, none⟩

/-- One pass of the loop of `restore_items`; `none` for an exception. -/
def restoreRequested (settings : WorkflowSettings) (facts : FileFacts) (roots : WorkflowRoots)
    (records : List AssetComparisonRecord) (apply : Bool) (request : RestoreRequest)
    (files : FileSystem PyStr Nat) : FileSystem PyStr Nat × Option RestoreItem :=
  match records.find? (·.assetId = request.assetId) with
  | none =>
      (files, some (skippedItem request apply (py "not_found_in_review")
        (py "Selected item is no longer present in the current review result.")))
  | some record =>
      if record.status ∉ restoreEligibleStatuses then
        (files, some (skippedItem request apply (py "not_eligible")
          (py "Status `" ++ record.status.value ++ py "` is not eligible for restore.")))
      else if !apply then
        (files, some (skippedItem request false (py "planned")
          (py "Dry-run only. No source file was modified.")))
      else
        match restoreOne facts.hash request.faults (restorePlaces settings roots request) files with
        | (left, none) => (left, none)
        | (left, some result) =>
            (left, some ⟨request.assetId, py "restore_overwrite", result.outcome,
              result.resultStatus.value, result.reason, result.quarantinePath,
              result.rollbackRestoredSource⟩)

/-- `_restore_summary`. -/
def restoreSummary (apply : Bool) (selectedCount restoredCount failedCount skippedCount : Nat) :
    PyStr :=
  if apply then
    py "Selective restore processed " ++ PyStr.decimal selectedCount ++ py " selected items: " ++
      PyStr.decimal restoredCount ++ py " restored, " ++ PyStr.decimal failedCount ++
      py " failed, " ++ PyStr.decimal skippedCount ++ py " skipped."
  else
    py "Restore dry-run reviewed " ++ PyStr.decimal selectedCount ++ py " selected items. " ++
      PyStr.decimal skippedCount ++ py " items were planned only; no source files were changed."

/-- Where the loop of `restore_items` is. -/
structure RestoreProgress where
  files : FileSystem PyStr Nat
  results : List RestoreItem
  /-- An exception has ended the loop. -/
  raised : Bool

/-- The loop goes on to the next id. -/
def RestoreProgress.next (settings : WorkflowSettings) (facts : FileFacts) (roots : WorkflowRoots)
    (records : List AssetComparisonRecord) (apply : Bool) (s : RestoreProgress)
    (request : RestoreRequest) : RestoreProgress :=
  if s.raised then s
  else
    match restoreRequested settings facts roots records apply request s.files with
    | (left, none) => ⟨left, s.results, true⟩
    | (left, some item) => ⟨left, s.results ++ [item], false⟩

structure RestoreReport where
  supported : Bool
  /-- An exception ends the request, and what follows here is lost. -/
  raised : Bool
  summary : PyStr
  warnings : List PyStr
  results : List RestoreItem

/-- `restore_items`. -/
def restoreItems (settings : WorkflowSettings) (facts : FileFacts) (faults : WorkflowFaults)
    (target : BackupTargetConfig) (requests : List RestoreRequest) (apply : Bool)
    (files : FileSystem PyStr Nat) : FileSystem PyStr Nat × RestoreReport :=
  match resolveRoots settings faults target files with
  | (left, none) => (left, ⟨true, true, [], [], []⟩)
  | (left, some (.unsupported warnings)) =>
      (left, ⟨false, false, py "Selective restore is only available for targets with a usable " ++
        py "path-like destination.", warnings, []⟩)
  | (prepared, some (.roots roots warnings)) =>
      match compareRoots facts faults prepared roots with
      | none => (prepared, ⟨true, true, [], [], []⟩)
      | some records =>
          let final := requests.foldl (RestoreProgress.next settings facts roots records apply)
            ⟨prepared, [], false⟩
          let count (status : BackupAssetComparisonStatus) :=
            (final.results.filter (·.resultStatus = status)).length
          (final.files, ⟨true, final.raised,
            restoreSummary apply requests.length (count .restored) (count .failed) (count .skipped),
            warnings, final.results⟩)

end ImmichDoctor.Services
