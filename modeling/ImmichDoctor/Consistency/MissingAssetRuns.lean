import ImmichDoctor.Consistency.MissingAssetApply
/-!
# Runs of missing asset applies and restores

`apply` and `restore` with the exceptions that may come from the work on one asset: only the
delete and the reinsert stand in a `try`. An exception anywhere else leaves the loop, and the
run as it was last written.
-/

namespace ImmichDoctor.Consistency

open ImmichDoctor.Library
open ImmichDoctor.Db
open ImmichDoctor.Repair

/-! ## One asset -/

inductive MissingAssetRestorePointStatus
  | available
  | restored
  deriving DecidableEq

structure StoredRestorePoint extends MissingAssetRestorePoint where
  status : MissingAssetRestorePointStatus

/-- What became of an asset: its item, none when an exception leaves the loop, the journal
entry that was written, the restore point that is kept, and the database after the
transaction that was committed. -/
structure AssetAttempt where
  item : Option MissingAssetOperationItem
  journal : Option RepairJournalEntryStatus
  restorePoint : Option StoredRestorePoint
  committed : Option Postgres

def AssetAttempt.raised : AssetAttempt :=
  ⟨none, none, none, none⟩

/-- `_record_journal` and the item that is returned after it. -/
def AssetAttempt.record (attempt : AssetAttempt) (raises : Bool)
    (status : RepairJournalEntryStatus) (item : MissingAssetOperationItem) : AssetAttempt :=
  if raises then attempt else { attempt with item := some item, journal := some status }

/-- The operations that raise while an asset is removed. -/
structure RemovalFaults where
  capture : Bool
  createRestorePoint : Bool
  delete : Bool
  deleteRestorePoint : Bool
  appendJournalEntry : Bool

/-- `_apply_single_asset`. -/
def removeAsset (faults : RemovalFaults) (runId restorePointId assetId : PyStr)
    (finding : Option MissingAssetReferenceFinding) (relations : List AssetReferenceRelation)
    (views : AssetViews) : AssetAttempt :=
  let item (status : MissingAssetOperationStatus) (message : PyStr) :
      MissingAssetOperationItem := { assetId, status, restorePointId := none, message }
  match finding with
  | none =>
      AssetAttempt.raised.record faults.appendJournalEntry .skipped
        (item .alreadyRemoved
          (py "Selected asset is no longer present in the current scan scope."))
  | some finding =>
      if finding.repairReadiness ≠ .ready then
        AssetAttempt.raised.record faults.appendJournalEntry .skipped
          (item .skipped (py "Finding is not repair-ready."))
      else if faults.capture then .raised
      else
        let records := captureRecords views assetId relations
        if records.isEmpty then
          AssetAttempt.raised.record faults.appendJournalEntry .skipped
            (item .alreadyRemoved (py "Asset row was already removed before apply."))
        else if faults.createRestorePoint || !serializableRecords records then .raised
        else
          let restorePoint : StoredRestorePoint :=
            { restorePointId := restorePointId
              repairRunId := runId
              assetId := assetId
              recordCount := (records.map (·.rows.length)).sum
              logicalPath := finding.logicalPath
              records := records
              status := .available }
          match if faults.delete then none
              else deleteAssetReferenceRecords assetId relations views.delete with
          | none =>
              if faults.deleteRestorePoint then
                { AssetAttempt.raised with restorePoint := some restorePoint }
              else
                AssetAttempt.raised.record faults.appendJournalEntry .failed
                  (item .failed (py "Deletion failed."))
          | some (_, after) =>
              AssetAttempt.record ⟨none, none, some restorePoint, some after⟩
                faults.appendJournalEntry .applied
                { assetId := assetId
                  status := .applied
                  restorePointId := some restorePointId
                  message := py ("Asset row and supported direct references were removed " ++
                    "after restore point capture.")
                  recordCount := restorePoint.recordCount }

/-- The operations that raise while a restore point is restored. -/
structure RestoreFaults where
  insert : Bool
  updateRestorePoint : Bool
  appendJournalEntry : Bool

/-- `_restore_single_point`. -/
def restoreSinglePoint (parseDocument : PyStr → Option PyStr) (faults : RestoreFaults)
    (point : StoredRestorePoint) (db : Postgres) : AssetAttempt :=
  let item (status : MissingAssetOperationStatus) (message : PyStr) (recordCount : Nat) :
      MissingAssetOperationItem :=
    { assetId := point.assetId
      status := status
      restorePointId := some point.restorePointId
      message := message
      recordCount := recordCount }
  if point.status = .restored then
    AssetAttempt.record ⟨none, none, some point, none⟩ faults.appendJournalEntry .skipped
      (item .skipped (py "Restore point was already restored.") 0)
  else
    match if faults.insert then none
        else restoreAssetReferenceRecords parseDocument point.records db with
    | none =>
        AssetAttempt.record ⟨none, none, some point, none⟩ faults.appendJournalEntry .failed
          (item .failed (py "Restore failed.") 0)
    | some after =>
        if faults.updateRestorePoint then ⟨none, none, some point, some after⟩
        else
          AssetAttempt.record ⟨none, none, some { point with status := .restored }, some after⟩
            faults.appendJournalEntry .applied
            (item .restored (py "Restore point rows were reinserted into PostgreSQL.")
              (point.records.map (·.rows.length)).sum)

/-! ## Runs -/

/-- The attempts at the assets, up to the first that raises. -/
def attempts {α : Type} (attempt : Nat → α → AssetAttempt) : Nat → List α → List AssetAttempt
  | _, [] => []
  | index, asset :: assets =>
      let first := attempt index asset
      if first.item.isSome then first :: attempts attempt (index + 1) assets else [first]

/-- The status of a run by its items; `done` is what an item is that succeeded. -/
def finalStatus (done : MissingAssetOperationStatus) (items : List MissingAssetOperationItem) :
    RepairRunStatus :=
  if items.any (·.status = .failed) then
    if items.any (·.status = done) then .partial_ else .failed
  else .completed

/-- `_final_run_status`. -/
def finalRunStatus (items : List MissingAssetOperationItem) : RepairRunStatus :=
  finalStatus .applied items

/-- `_final_restore_status`. -/
def finalRestoreStatus (items : List MissingAssetOperationItem) : RepairRunStatus :=
  finalStatus .restored items

/-- How a run ends: its items, none when an exception has left the loop, the status it is
finished with, and the status that is stored. -/
structure RunEnd where
  attempts : List AssetAttempt
  items : Option (List MissingAssetOperationItem)
  finished : Option RepairRunStatus
  stored : RepairRunStatus

/-- The end of a run that is running. -/
def RunEnd.ofAttempts (final : List MissingAssetOperationItem → RepairRunStatus)
    (attempts : List AssetAttempt) : RunEnd :=
  match attempts.mapM (·.item) with
  | none => ⟨attempts, none, none, .running⟩
  | some items => ⟨attempts, some items, some (final items), final items⟩

/-- `apply`, for the run and the token that are stored; none when the scan raises. -/
def applyRun (digest : PyStr → PyStr) (batchLimit : Int) (now : Int) (run : RepairRun)
    (planToken : PlanToken) (state : ScanState) (environment : ApplyEnvironment)
    (faults : Nat → RemovalFaults) : Option RunEnd := do
  let selectedAssetIds := run.scope.assetIds
  let findings ← scan batchLimit (some run.scope.limit) run.scope.offset state
  let selected := findings.filter fun finding => selectedAssetIds.contains finding.assetId
  let guardResult := validatePlanToken digest now planToken run.scope.toDict
    (dbFingerprint digest selected) (fileFingerprint digest selected)
  if !guardResult.valid then some ⟨[], some [], some .failed, .failed⟩
  else if !environment.configured then some ⟨[], some [], none, run.status⟩
  else
    let relations := (detectProfile environment.schema).relations
    some (.ofAttempts finalRunStatus (attempts
      (fun index assetId =>
        removeAsset (faults index) run.repairRunId (environment.restorePointIds index) assetId
          (selected.find? (·.assetId = assetId)) relations (environment.views index))
      0 selectedAssetIds))

/-- What a restore meets. -/
structure RestoreEnvironment where
  configured : Bool
  parseDocument : PyStr → Option PyStr
  /-- The database when the point with this place in the selection is restored. -/
  databases : Nat → Postgres

/-- The points a restore selects. -/
def selectedPoints (points : List StoredRestorePoint) (restorePointIds : List PyStr)
    (restoreAll : Bool) : List StoredRestorePoint :=
  if restoreAll then points
  else points.filter fun point => restorePointIds.contains point.restorePointId

/-- `restore`, once its run is created. -/
def restoreRun (points : List StoredRestorePoint) (restorePointIds : List PyStr)
    (restoreAll : Bool) (environment : RestoreEnvironment) (faults : Nat → RestoreFaults) :
    RunEnd :=
  if !environment.configured then ⟨[], some [], some .failed, .failed⟩
  else
    .ofAttempts finalRestoreStatus (attempts
      (fun index point =>
        restoreSinglePoint environment.parseDocument (faults index) point
          (environment.databases index))
      0 (selectedPoints points restorePointIds restoreAll))

end ImmichDoctor.Consistency
