import ImmichDoctor.Consistency.MissingAssetModels
import ImmichDoctor.Db.AssetDependencies
import ImmichDoctor.Storage.PathMapping
/-!
# The scan for missing assets

`MissingAssetReferenceService.scan`: the profile of the schema, and what is found out about
each asset row of a page. The checks and texts that only report are left out.
-/

namespace ImmichDoctor.Consistency

open ImmichDoctor.Library
open ImmichDoctor.Db
open ImmichDoctor.Storage

/-! ## The profile -/

/-- `SUPPORTED_RELATION_TABLE_NAMES`. -/
def supportedRelationTableNames : List PyStr :=
  [py "public.album_asset", py "public.asset_file", py "public.asset_job_status"]

def optionalAssetColumns : List PyStr :=
  [py "ownerId", py "createdAt", py "updatedAt"]

structure MissingAssetProfile where
  assetTablePresent : Bool
  detectedAssetColumns : List PyStr
  supportedOptionalColumns : List PyStr
  relations : List AssetReferenceRelation
  blockingIssues : List MissingAssetRepairBlocker

def MissingAssetProfile.supported (profile : MissingAssetProfile) : Bool :=
  profile.assetTablePresent && profile.detectedAssetColumns.contains (py "originalPath")

/-- `len(source_columns) != 1 or target_columns != ("id",)`. -/
def unsupportedColumns (dependency : AssetDependencyState) : Bool :=
  dependency.key.sourceColumns.length ≠ 1 || dependency.key.targetColumns ≠ [py "id"]

/-- The relation of a dependency that a delete covers. -/
def coveredRelation (dependency : AssetDependencyState) : Option AssetReferenceRelation :=
  match dependency.coverageStatus, dependency.key.sourceColumns with
  | .coveredSafeForAnalysis, [column] =>
      if dependency.key.targetColumns = [py "id"] then some ⟨dependency.key.source, column⟩
      else none
  | _, _ => none

/-- `source_columns[0] if len(source_columns) == 1 else None`. -/
def fkColumn (columns : List PyStr) : JsonValue :=
  match columns with
  | [column] => .str column
  | _ => .null

/-- The entry of `unsupported_foreign_keys`. -/
def unsupportedForeignKey (dependency : AssetDependencyState) : JsonValue :=
  .obj [(py "constraint_name", .str dependency.key.constraintName),
    (py "table", .str (qualifiedName dependency.key.source)),
    (py "column_names", textItems dependency.key.sourceColumns),
    (py "referenced_column_names", textItems dependency.key.targetColumns),
    (py "delete_action", .str (deleteActionText dependency.key.deleteAction)),
    (py "risk_class", .str dependency.riskClass.value),
    (py "coverage_status", .str dependency.coverageStatus.value)]

/-- The blocker of a dependency that blocks the apply. -/
def dependencyBlocker (dependency : AssetDependencyState) : MissingAssetRepairBlocker where
  blockerCode := py "asset_dependency:" ++ qualifiedName dependency.key.source
  blockerType := .schema
  summary := qualifiedName dependency.key.source ++ py " blocks apply: " ++
    dependency.riskClass.value
  details :=
    [(py "reason", .str dependency.reason),
      (py "constraint_name", .str dependency.key.constraintName),
      (py "fk_column", fkColumn dependency.key.sourceColumns),
      (py "column_names", textItems dependency.key.sourceColumns),
      (py "referenced_column_names", textItems dependency.key.targetColumns),
      (py "delete_action", .str (deleteActionText dependency.key.deleteAction)),
      (py "risk_class", .str dependency.riskClass.value),
      (py "coverage_status", .str dependency.coverageStatus.value),
      (py "blocks_apply", .bool dependency.blocksApply),
      (py "notes", textItems dependency.notes)]
  affectedTables := [qualifiedName dependency.key.source]
  repairCoveredTables := supportedRelationTableNames

/-- The blocker of the keys that no delete covers. -/
def unsupportedKeysBlocker (dependencies : List AssetDependencyState) :
    MissingAssetRepairBlocker where
  blockerCode := py "unsupported_dependency_foreign_keys"
  blockerType := .schema
  summary := py "Unsupported asset foreign key definitions detected"
  details :=
    [(py "reason", .str (py
        "Repair only covers single-column foreign keys that point to public.asset.id.")),
      (py "constraints", .list (dependencies.map unsupportedForeignKey)),
      (py "blocks_apply", .bool true)]
  affectedTables :=
    (dependencies.map fun dependency => qualifiedName dependency.key.source).dedup.insertionSort
      (· ≤ ·)
  repairCoveredTables := supportedRelationTableNames

/-- The order `(affected_tables[0], blocker_code)`. -/
def blockerOrder (a b : MissingAssetRepairBlocker) : Prop :=
  a.affectedTables.headD [] < b.affectedTables.headD [] ∨
    a.affectedTables.headD [] = b.affectedTables.headD [] ∧ a.blockerCode ≤ b.blockerCode

instance : DecidableRel blockerOrder :=
  fun a b => inferInstanceAs (Decidable (a.affectedTables.headD [] < b.affectedTables.headD [] ∨
    a.affectedTables.headD [] = b.affectedTables.headD [] ∧ a.blockerCode ≤ b.blockerCode))

/-- `_detect_profile`. -/
def detectProfile (db : Postgres) : MissingAssetProfile :=
  let columns := db.tables.lookup assetTable
  let dependencies := deriveAssetDependencies db
  let uncovered := dependencies.filter fun dependency => (coveredRelation dependency).isNone
  let unsupported := uncovered.filter unsupportedColumns
  let blockers := (uncovered.filter (·.blocksApply)).map dependencyBlocker ++
    if unsupported.isEmpty then [] else [unsupportedKeysBlocker unsupported]
  { assetTablePresent := columns.isSome
    detectedAssetColumns := columns.getD []
    supportedOptionalColumns := optionalAssetColumns.filter (columns.getD []).contains
    relations := (dependencies.filterMap coveredRelation).insertionSort fun a b =>
      qualifiedName a.table ≤ qualifiedName b.table
    blockingIssues := blockers.insertionSort blockerOrder }

/-! ## One row -/

/-- What `stat_path` and `read_probe` of a path come to. -/
inductive ProbeResult
  | readable
  | fileNotFound
  | permissionDenied
  /-- Another `OSError`, with `exc.strerror or str(exc)`. -/
  | osError (errno : Nat) (reason : PyStr)
  deriving DecidableEq

/-- `errno.EPERM` and `errno.EACCES`. -/
def permissionErrnos : List Nat :=
  [1, 13]

/-- `value or other`, as a text. -/
def textOr (value : Option SqlValue) (other : PyStr) : PyStr :=
  match value with
  | none => other
  | some (.bool false) => other
  | some (.int 0) => other
  | some (.text []) => other
  | some (.textArray []) => other
  | some value => value.str

structure PathInspection where
  status : MissingAssetReferenceStatus
  blockers : List MissingAssetRepairBlocker
  message : PyStr

def pathBlocker (code : PyStr) (type : MissingAssetRepairBlockerType) (summary reason : PyStr) :
    MissingAssetRepairBlocker where
  blockerCode := code
  blockerType := type
  summary := summary
  details := [(py "reason", .str reason)]

/-- What the probe of a path says about the row. -/
def inspectProbe : ProbeResult → PathInspection
  | .readable =>
      ⟨.present, [], py "Original asset path exists in the current runtime filesystem."⟩
  | .fileNotFound => ⟨.missingOnDisk, [], py "Asset originalPath does not exist on disk."⟩
  | .permissionDenied =>
      ⟨.permissionError,
        [pathBlocker (py "asset_path_permission_error") .filesystem
          (py "Asset path cannot be accessed")
          (py "The current process cannot access the asset path.")],
        py "Asset originalPath exists but is not accessible to the current process."⟩
  | .osError errno reason =>
      ⟨if errno ∈ permissionErrnos then .permissionError else .unreadablePath,
        [pathBlocker (py "asset_path_unreadable") .filesystem
          (py "Asset path could not be inspected") reason],
        py "Asset originalPath could not be inspected: " ++ reason ++ py "."⟩

/-- `resolved_path.absolute_path if resolved_path is not None else Path(logical_path)`. -/
def assetPath (settings : StorageSettings) (logicalPath : PyStr) : PurePath :=
  match resolve settings logicalPath with
  | some resolved => resolved.absolutePath
  | none => .parse logicalPath

/-- What is found out about a path. -/
def inspectPath (settings : StorageSettings) (files : PurePath → ProbeResult)
    (logicalPath : PyStr) : PathInspection :=
  if logicalPath.blank then
    ⟨.unsupported,
      [pathBlocker (py "empty_original_path") .path (py "Original path is empty")
        (py "Asset originalPath is empty and cannot be resolved safely.")],
      py "Asset originalPath is empty."⟩
  else if (resolve settings logicalPath).isNone ∧ looksLikeLegacyImmichPath logicalPath then
    ⟨.unsupported,
      [pathBlocker (py "asset_path_unmapped") .path
        (py "Asset path does not map into configured runtime roots")
        (py ("The legacy Immich database path could not be mapped into the configured " ++
          "runtime storage roots."))],
      py "Asset originalPath could not be mapped into the configured runtime roots."⟩
  else inspectProbe (files (assetPath settings logicalPath))

/-- `_inspect_asset_row`. -/
def inspectAssetRow (settings : StorageSettings) (files : PurePath → ProbeResult)
    (scanTimestamp : PyStr) (blockingIssues : List MissingAssetRepairBlocker)
    (row : Row SqlValue) : MissingAssetReferenceFinding :=
  let assetId := ((row.value (py "id")).map SqlValue.str).getD (py "None")
  let logicalPath := textOr (row.value (py "originalPath")) []
  let inspection := inspectPath settings files logicalPath
  let blockers := inspection.blockers ++ blockingIssues
  { findingId := py "missing_asset_reference:" ++ assetId
    assetId := assetId
    assetType := textOr (row.value (py "type")) (py "unknown")
    status := inspection.status
    logicalPath := logicalPath
    resolvedPhysicalPath :=
      if logicalPath.blank then [] else (assetPath settings logicalPath).text
    ownerId := (row.value (py "ownerId")).map SqlValue.str
    createdAt := (row.value (py "createdAt")).map SqlValue.str
    updatedAt := (row.value (py "updatedAt")).map SqlValue.str
    scanTimestamp := scanTimestamp
    repairReadiness :=
      if inspection.status = .missingOnDisk ∧ blockingIssues.isEmpty then .ready else .blocked
    repairBlockers := (blockers.map (·.summary)).eraseDups
    repairBlockerDetails := blockers
    message := inspection.message }

/-! ## A page of rows -/

/-- What a scan meets: the settings, the database at its two queries, and the files. -/
structure ScanState where
  configured : Bool
  reachable : Bool
  storage : StorageSettings
  schema : Postgres
  assets : Postgres
  files : PurePath → ProbeResult
  timestamp : PyStr

/-- `limit or self.batch_limit`. -/
def limitOr (batchLimit : Int) (limit : Option Int) : Int :=
  match limit with
  | none => batchLimit
  | some limit => if limit = 0 then batchLimit else limit

/-- The findings of `scan`; `none` when a query raises. -/
def scan (batchLimit : Int) (limit : Option Int) (offset : Int) (state : ScanState) :
    Option (List MissingAssetReferenceFinding) :=
  let profile := detectProfile state.schema
  if !state.configured || !state.reachable || !profile.supported then some []
  else do
    let rows ← listAssetsForMissingReferences state.assets (limitOr batchLimit limit) offset
      profile.supportedOptionalColumns
    some (rows.map
      (inspectAssetRow state.storage state.files state.timestamp profile.blockingIssues))

end ImmichDoctor.Consistency
