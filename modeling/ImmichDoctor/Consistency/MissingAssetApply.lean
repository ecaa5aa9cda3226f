import ImmichDoctor.Consistency.MissingAssetScan
import ImmichDoctor.Repair.Guards
import ImmichDoctor.Repair.Models
/-!
# Preview and apply for missing assets

`MissingAssetReferenceService.preview`, `apply` and `restore`. A preview issues a token for
the findings it has selected; an apply scans again, compares, and deletes one asset after
the other, each behind a restore point. Other writers may be at work between any two
queries. Journal entries are left out.
-/

namespace ImmichDoctor.Consistency

open ImmichDoctor.Library
open ImmichDoctor.Db
open ImmichDoctor.Repair

/-! ## Selection and fingerprints -/

/-- `_selected_findings`. -/
def selectedFindings (findings : List MissingAssetReferenceFinding) (assetIds : List PyStr)
    (selectAll : Bool) : List MissingAssetReferenceFinding :=
  findings.filter fun finding =>
    finding.repairReadiness = .ready && finding.status = .missingOnDisk &&
      (selectAll || assetIds.contains finding.assetId)

def dbFields (finding : MissingAssetReferenceFinding) : JsonValue :=
  .obj [(py "asset_id", .str finding.assetId),
    (py "status", .str finding.status.value),
    (py "logical_path", .str finding.logicalPath),
    (py "repair_readiness", .str finding.repairReadiness.value)]

def fileFields (finding : MissingAssetReferenceFinding) : JsonValue :=
  .obj [(py "asset_id", .str finding.assetId),
    (py "resolved_physical_path", .str finding.resolvedPhysicalPath),
    (py "repair_blockers", .list (finding.repairBlockerDetails.map (·.toDict)))]

/-- `_db_fingerprint`. -/
def dbFingerprint (digest : PyStr → PyStr) (findings : List MissingAssetReferenceFinding) :
    PyStr :=
  fingerprintPayload digest (.list (findings.map dbFields))

/-- `_file_fingerprint`. -/
def fileFingerprint (digest : PyStr → PyStr) (findings : List MissingAssetReferenceFinding) :
    PyStr :=
  fingerprintPayload digest (.list (findings.map fileFields))

/-! ## Preview -/

/-- The scope a preview writes to its run and its token. -/
structure MissingAssetScope where
  assetIds : List PyStr
  selectAll : Bool
  limit : Int
  offset : Int

def MissingAssetScope.toDict (scope : MissingAssetScope) : JsonValue :=
  .obj [(py "domain", .str (py "consistency.missing_asset_references")),
    (py "action", .str (py "preview_remove")),
    (py "asset_ids", textItems scope.assetIds),
    (py "select_all", .bool scope.selectAll),
    (py "limit", .int scope.limit),
    (py "offset", .int scope.offset)]

structure RepairRun where
  repairRunId : PyStr
  scope : MissingAssetScope
  status : RepairRunStatus
  planTokenId : PyStr

structure PreviewResult where
  selectedFindings : List MissingAssetReferenceFinding
  run : RepairRun
  planToken : PlanToken

structure PreviewRequest where
  assetIds : List PyStr
  selectAll : Bool
  limit : Option Int
  offset : Int

/-- The scope of a request and the findings it selects. -/
def previewScope (batchLimit : Int) (request : PreviewRequest)
    (selected : List MissingAssetReferenceFinding) : MissingAssetScope where
  assetIds := selected.map (·.assetId)
  selectAll := request.selectAll
  limit := limitOr batchLimit request.limit
  offset := request.offset

/-- `preview`, with the ids it draws. -/
def preview (digest : PyStr → PyStr) (batchLimit : Int) (runId tokenId : PyStr) (now : Int)
    (request : PreviewRequest) (state : ScanState) : Option PreviewResult := do
  let findings ← scan batchLimit request.limit request.offset state
  let selected := selectedFindings findings request.assetIds request.selectAll
  let scope := previewScope batchLimit request selected
  let token := createPlanToken tokenId now scope.toDict (dbFingerprint digest selected)
    (fileFingerprint digest selected)
  some ⟨selected, ⟨runId, scope, .planned, tokenId⟩, token⟩

/-! ## One asset -/

/-- The database as the queries for one asset find it. -/
structure AssetViews where
  asset : Postgres
  /-- The query of the relation with this index. -/
  relation : Nat → Postgres
  delete : Postgres

/-- `_capture_records`. -/
def captureRecords (views : AssetViews) (assetId : PyStr)
    (relations : List AssetReferenceRelation) : List TableRecord :=
  let assetRows := listRowsByColumnValue views.asset assetTable (py "id") assetId
  let relationRecords := relations.mapIdx fun index relation =>
    (⟨relation.table,
      listRowsByColumnValue (views.relation index) relation.table relation.columnName assetId⟩ :
      TableRecord)
  ((⟨assetTable, assetRows⟩ :: relationRecords).filter fun record => !record.rows.isEmpty)

/-- Whether `json.dumps` writes the records. -/
def serializableRecords (records : List TableRecord) : Bool :=
  records.all fun record => record.rows.all fun row =>
    row.all fun field => field.2.all SqlValue.serializable

/-- What an apply makes of an asset: the item, the restore point that is kept, and the
database after the delete that was committed. -/
structure AssetOutcome where
  item : MissingAssetOperationItem
  restorePoint : Option MissingAssetRestorePoint
  deleted : Option Postgres

def AssetOutcome.untouched (assetId : PyStr) (status : MissingAssetOperationStatus)
    (message : PyStr) : AssetOutcome where
  item := { assetId, status, restorePointId := none, message }
  restorePoint := none
  deleted := none

/-- `_apply_single_asset`; `none` when the restore point cannot be written. -/
def applySingleAsset (runId restorePointId assetId : PyStr)
    (finding : Option MissingAssetReferenceFinding) (relations : List AssetReferenceRelation)
    (views : AssetViews) : Option AssetOutcome :=
  match finding with
  | none =>
      some (.untouched assetId .alreadyRemoved
        (py "Selected asset is no longer present in the current scan scope."))
  | some finding =>
      if finding.repairReadiness ≠ .ready then
        some (.untouched assetId .skipped (py "Finding is not repair-ready."))
      else
        let records := captureRecords views assetId relations
        if records.isEmpty then
          some (.untouched assetId .alreadyRemoved
            (py "Asset row was already removed before apply."))
        else if !serializableRecords records then none
        else
          let restorePoint : MissingAssetRestorePoint :=
            { restorePointId := restorePointId
              repairRunId := runId
              assetId := assetId
              recordCount := (records.map (·.rows.length)).sum
              logicalPath := finding.logicalPath
              records := records }
          match deleteAssetReferenceRecords assetId relations views.delete with
          | none => some (.untouched assetId .failed (py "Deletion failed."))
          | some (_, after) =>
              some
                { item :=
                    { assetId := assetId
                      status := .applied
                      restorePointId := some restorePointId
                      message := py ("Asset row and supported direct references were removed " ++
                        "after restore point capture.")
                      recordCount := restorePoint.recordCount }
                  restorePoint := some restorePoint
                  deleted := some after }

/-! ## Apply -/

/-- What an apply meets after its scan. -/
structure ApplyEnvironment where
  configured : Bool
  /-- The schema when the relations are read. -/
  schema : Postgres
  views : Nat → AssetViews
  restorePointIds : Nat → PyStr

/-- The outcomes for the assets, up to the first that raises. -/
def applyAssets (apply : Nat → PyStr → Option AssetOutcome) :
    Nat → List PyStr → List AssetOutcome
  | _, [] => []
  | index, assetId :: assetIds =>
      match apply index assetId with
      | none => []
      | some outcome => outcome :: applyAssets apply (index + 1) assetIds

structure ApplyResult where
  /-- The findings of the scan. -/
  findings : List MissingAssetReferenceFinding
  guardResult : ApplyGuardResult
  outcomes : List AssetOutcome

/-- The assets whose rows were deleted. -/
def ApplyResult.deletedAssets (result : ApplyResult) : List PyStr :=
  (result.outcomes.filter (·.deleted.isSome)).map (·.item.assetId)

/-- `apply`, for the run and the token that are stored. -/
def apply (digest : PyStr → PyStr) (batchLimit : Int) (now : Int) (run : RepairRun)
    (planToken : PlanToken) (state : ScanState) (environment : ApplyEnvironment) :
    Option ApplyResult := do
  let selectedAssetIds := run.scope.assetIds
  let findings ← scan batchLimit (some run.scope.limit) run.scope.offset state
  let selected := findings.filter fun finding => selectedAssetIds.contains finding.assetId
  let guardResult := validatePlanToken digest now planToken run.scope.toDict
    (dbFingerprint digest selected) (fileFingerprint digest selected)
  if !guardResult.valid || !environment.configured then some ⟨findings, guardResult, []⟩
  else
    let relations := (detectProfile environment.schema).relations
    some ⟨findings, guardResult,
      applyAssets
        (fun index assetId =>
          applySingleAsset run.repairRunId (environment.restorePointIds index) assetId
            (selected.find? (·.assetId = assetId)) relations (environment.views index))
        0 selectedAssetIds⟩

end ImmichDoctor.Consistency
