import ImmichDoctor.Catalog.BrokenOriginals
import ImmichDoctor.Repair.RepairRuns
/-!
# Path fixes

The previews and applies of `broken_db_path_fix`: a preview stores a run with the found
originals that are selected; an apply scans again, and when the plan token lets it go on it
writes the path of each found file to `originalPath` of its asset. Writes of run files
succeed; a statement of the database and a journal entry may fail for each finding.
-/

namespace ImmichDoctor.Catalog

open ImmichDoctor.Library
open ImmichDoctor.Repair

/-- `public.asset`. -/
abbrev AssetTable := Table AssetRow fun asset => asset.id

/-! ## What a request meets -/

/-- What becomes of the update of one asset. -/
inductive FixUpdate
  | done
  | updateFails
  /-- The path is written, its journal entry is not. -/
  | journalFails
  deriving DecidableEq

structure FixEnvironment where
  context : RemediationContext
  resolvePath : PurePath → PurePath
  /-- The times at which the configured roots are written to the catalog. -/
  rootTimes : PyStr → Instant
  catalog : CatalogDb
  /-- A DSN is configured. -/
  configured : Bool
  /-- `validate_connection` succeeds. -/
  reachable : Bool
  assetFiles : List AssetFileRow
  digest : PyStr → PyStr
  now : Int
  /-- By the id of the asset. -/
  updates : PyStr → FixUpdate
  entryIds : PyStr → PyStr

/-! ## The scan -/

/-- The state the findings of `scan` are built from; the inner `none` is a scan that ends
before there is one, the outer one a scan that raises. -/
def scanState (environment : FixEnvironment) (assets : AssetTable) :
    Option (Option CatalogConsistencyState) :=
  match prepareSnapshotState environment.resolvePath environment.context.settings
      environment.rootTimes environment.catalog with
  | none => none
  | some (synced, snapshotState) =>
      if !snapshotState.ready || !environment.configured || !environment.reachable then some none
      else
        match collect environment.resolvePath environment.context.settings
            environment.context.text environment.rootTimes
            (.tables (assets.rows.insertionSort fun a b => a.id ≤ b.id) environment.assetFiles)
            synced with
        | .error _ => none
        | .ok (_, state) => some (some state)

/-- `scan(settings).broken_db_originals`. -/
def scanBrokenDbOriginals (environment : FixEnvironment) (assets : AssetTable) :
    Option (List BrokenDbOriginalFinding) :=
  (scanState environment assets).map fun state =>
    (state.map (buildBrokenDbOriginalFindings environment.context)).getD []

/-- `_select_broken_db_originals`. -/
def selectBrokenDbOriginals (findings : List BrokenDbOriginalFinding) (assetIds : List PyStr)
    (selectAll : Bool) (actionKind : CatalogRemediationActionKind) :
    List BrokenDbOriginalFinding :=
  findings.filter fun finding =>
    finding.supportsAction actionKind && (selectAll || assetIds.contains finding.assetId)

/-- `_db_fingerprint` and `_file_fingerprint`. -/
def findingsFingerprint (digest : PyStr → PyStr) (findings : List BrokenDbOriginalFinding) :
    PyStr :=
  fingerprintPayload digest (.list (findings.map (·.toDict)))

/-! ## Preview -/

/-- The scope of `_preview_result`. -/
def previewScope (assetIds : List PyStr) (selectAll : Bool) : JsonValue :=
  .obj
    [(py "domain", .str (py "consistency.catalog_remediation")),
      (py "action", .str (py "preview")),
      (py "finding_kind", .str CatalogRemediationFindingKind.brokenDbOriginal.value),
      (py "action_kind", .str CatalogRemediationActionKind.brokenDbPathFix.value),
      (py "asset_ids", .list (assetIds.map .str)),
      (py "select_all", .bool selectAll)]

def previewRecord (environment : FixEnvironment) (repairRunId tokenId : PyStr) (selectAll : Bool)
    (selected : List BrokenDbOriginalFinding) : RunRecord :=
  let scope := previewScope (selected.map (·.assetId)) selectAll
  let fingerprint := findingsFingerprint environment.digest selected
  ⟨⟨repairRunId, .planned, []⟩, scope,
    createPlanToken tokenId environment.now scope fingerprint fingerprint⟩

/-! ## Apply -/

/-- `run.scope.get("asset_ids", [])`; the ids of a preview are texts. -/
def scopeAssetIds (scope : JsonValue) : List PyStr :=
  match scopeField scope (py "asset_ids") with
  | some (.list items) =>
      items.filterMap fun item =>
        match item with
        | .str text => some text
        | _ => none
  | _ => []

/-- `bool(run.scope.get("select_all", False))`. -/
def scopeSelectAll (scope : JsonValue) : Bool :=
  match scopeField scope (py "select_all") with
  | some (.bool value) => value
  | _ => false

/-- `update_asset_original_path`; `none` when no row is returned. -/
def updateAssetOriginalPath (assets : AssetTable) (assetId newOriginalPath : PyStr) :
    Option AssetTable :=
  if assets.rows.any fun asset => asset.id = assetId then
    some (assets.updateWhere (fun asset => asset.id = assetId)
      (fun asset => { asset with originalPath := some newOriginalPath }) fun _ => rfl)
  else none

/-- `str(update_row["oldOriginalPath"])` of an asset there is. -/
def oldOriginalPath (assets : AssetTable) (assetId : PyStr) : PyStr :=
  ((assets.find? assetId).bind (·.originalPath)).getD (py "None")

def fixOutcome (environment : FixEnvironment) (assets : AssetTable)
    (finding : BrokenDbOriginalFinding) (status : OperationStatus) : OperationOutcome where
  operation := .fixAssetOriginalPath
  entryId := environment.entryIds finding.assetId
  assetId := some finding.assetId
  originalPath := some (oldOriginalPath assets finding.assetId)
  status := status

/-- A round of the loop over the findings. -/
def applyFinding (environment : FixEnvironment) (assets : AssetTable)
    (finding : BrokenDbOriginalFinding) : AssetTable × OperationOutcome :=
  match truthyPath finding.foundAbsolutePath with
  | none => (assets, fixOutcome environment assets finding .skipped)
  | some targetPath =>
      if environment.updates finding.assetId = .updateFails then
        (assets, fixOutcome environment assets finding .failed)
      else
        match updateAssetOriginalPath assets finding.assetId targetPath with
        | none => (assets, fixOutcome environment assets finding .failed)
        | some updated =>
            if environment.updates finding.assetId = .journalFails then
              (updated, fixOutcome environment assets finding .failed)
            else (updated, fixOutcome environment assets finding .applied)

/-- `_apply_broken_db_path_fix`. -/
def applyBrokenDbPathFix (environment : FixEnvironment) (assets : AssetTable) :
    List BrokenDbOriginalFinding → AssetTable × List OperationOutcome
  | [] => (assets, [])
  | finding :: rest =>
      let (updated, outcome) := applyFinding environment assets finding
      let (final, outcomes) := applyBrokenDbPathFix environment updated rest
      (final, outcome :: outcomes)

/-- What the repair runs see of an apply. -/
def applyEnvironment (environment : FixEnvironment) (selected : List BrokenDbOriginalFinding)
    (outcomes : List OperationOutcome) : ApplyEnvironment where
  digest := environment.digest
  now := environment.now
  configured := environment.configured
  dbFingerprint := findingsFingerprint environment.digest selected
  fileFingerprint := findingsFingerprint environment.digest selected
  currentIds := selected.map (·.assetId)
  preconditions := true
  outcomes := outcomes

/-- Whether the plan token of the run lets the apply go on to the database. -/
def applyAdmitted (record : RunRecord) (environment : FixEnvironment)
    (selected : List BrokenDbOriginalFinding) : Bool :=
  environment.configured &&
    match validatedScope record (applyEnvironment environment selected []) .catalogRemediation with
    | none => false
    | some scope =>
        guardPasses record (applyEnvironment environment selected []) .catalogRemediation scope

/-- The findings an apply of the run selects among those of its scan. -/
def selectedFor (record : RunRecord) (findings : List BrokenDbOriginalFinding) :
    List BrokenDbOriginalFinding :=
  selectBrokenDbOriginals findings (scopeAssetIds record.scope) (scopeSelectAll record.scope)
    .brokenDbPathFix

/-! ## The system -/

structure FixState where
  assets : AssetTable
  store : RepairStore

inductive FixRequest
  /-- `preview_broken_db_path_fix`; the ids of the run and of its token are new. -/
  | preview (environment : FixEnvironment) (assetIds : List PyStr) (selectAll : Bool)
      (repairRunId tokenId : PyStr)
  /-- `apply` of a run of this action. -/
  | apply (environment : FixEnvironment) (repairRunId : PyStr)

/-- Several writes to the store. -/
def runWrites (store : RepairStore) (writes : List StoreWrite) : Option RepairStore :=
  writes.foldlM StoreWrite.run store

/-- The scope is that of a path fix. -/
def isPathFix (scope : JsonValue) : Bool :=
  scopeKey scope = some (py "asset_ids") && actionKind scope = some .fixAssetOriginalPath

def FixState.step (s : FixState) : FixRequest → Option FixState
  | .preview environment assetIds selectAll repairRunId tokenId => do
      let findings ← scanBrokenDbOriginals environment s.assets
      let selected := selectBrokenDbOriginals findings assetIds selectAll .brokenDbPathFix
      let store ← runWrites s.store
        [.createRun (previewRecord environment repairRunId tokenId selectAll selected)]
      some { s with store }
  | .apply environment repairRunId => do
      let record ← s.store.find? repairRunId
      if !isPathFix record.scope then none
      let findings ← scanBrokenDbOriginals environment s.assets
      let selected := selectedFor record findings
      let (assets, outcomes) :=
        if applyAdmitted record environment selected then
          applyBrokenDbPathFix environment s.assets selected
        else (s.assets, [])
      let store ← runWrites s.store
        (applyWrites record (applyEnvironment environment selected outcomes) .catalogRemediation)
      some ⟨assets, store⟩

end ImmichDoctor.Catalog
