import ImmichDoctor.Db.CorruptionRepair
import ImmichDoctor.Repair.Guards
/-!
# Preview and apply of a corruption repair

`DbCorruptionRepairService.preview` and `apply`: a preview stores the choices of an operator with
a token for the damage it has found, and an apply plans again from what it finds. Other writers
may be at work between the two. Reports are left out but for the plan they show, and so are
writes to the journal, which may raise.
-/

namespace ImmichDoctor.Db

open ImmichDoctor.Library
open ImmichDoctor.Repair

/-- A text without high surrogates, as those of a database and of a form are. -/
structure ReadableStr where
  text : PyStr
  readable : Json.Readable text
  deriving DecidableEq

def ReadableStr.json (text : ReadableStr) : JsonValue :=
  .str text.text

/-! ## What the queries read -/

/-- `read_pg_statistic_toast_health`: the error of the query, or how many rows it has read. -/
inductive ToastHealth
  | failed (detected : Bool) (exceptionText : ReadableStr)
  | readOk (rowCount : Nat)
  deriving DecidableEq

def ToastHealth.detected : ToastHealth → Bool
  | failed detected _ => detected
  | readOk _ => false

def ToastHealth.toDict : ToastHealth → JsonValue
  | failed detected exceptionText =>
      .obj [(py "detected", .bool detected), (py "exception_text", exceptionText.json),
        (py "read_ok", .bool false)]
  | readOk rowCount =>
      .obj [(py "detected", .bool false), (py "exception_text", .null), (py "read_ok", .bool true),
        (py "row_count", .int rowCount)]

/-- A row of `LIST_INVALID_SYSTEM_INDEXES_QUERY` or `LIST_INVALID_USER_INDEXES_QUERY`. -/
structure InvalidIndexRow where
  schemaName : ReadableStr
  indexName : ReadableStr
  tableName : ReadableStr
  indisvalid : Bool
  indisready : Bool
  deriving DecidableEq

def InvalidIndexRow.toDict (row : InvalidIndexRow) : JsonValue :=
  .obj [(py "schema_name", row.schemaName.json), (py "index_name", row.indexName.json),
    (py "table_name", row.tableName.json), (py "indisvalid", .bool row.indisvalid),
    (py "indisready", .bool row.indisready)]

/-- A row of `LIST_DUPLICATE_ASSET_CHECKSUM_GROUPS_QUERY`. -/
structure DuplicateGroupRow where
  ownerId : ReadableStr
  checksumHex : ReadableStr
  rowCount : Nat
  deriving DecidableEq

/-- A row of `LIST_DUPLICATE_ASSET_CHECKSUM_ROWS_QUERY`; the other columns are for reports. -/
structure DuplicateAssetRow where
  id : ReadableStr
  ownerId : ReadableStr
  checksumHex : ReadableStr
  deriving DecidableEq

/-- A row of `LIST_ASSET_REFERENCING_FOREIGN_KEYS_QUERY`. -/
structure AssetForeignKeyRow where
  constraintName : ReadableStr
  referencingSchema : ReadableStr
  referencingTable : ReadableStr
  referencingColumn : ReadableStr
  cascadeRule : ReadableStr
  deriving DecidableEq

def AssetForeignKeyRow.toDict (row : AssetForeignKeyRow) : JsonValue :=
  .obj [(py "constraint_name", row.constraintName.json),
    (py "referencing_schema", row.referencingSchema.json),
    (py "referencing_table", row.referencingTable.json),
    (py "referencing_column", row.referencingColumn.json),
    (py "cascade_rule", row.cascadeRule.json)]

/-- What the queries of `_collect_snapshot` return, each on its own. -/
structure CorruptionReads where
  databaseName : ReadableStr
  toast : ToastHealth
  invalidSystemIndexes : List InvalidIndexRow
  invalidUserIndexes : List InvalidIndexRow
  duplicateGroups : List DuplicateGroupRow
  duplicateRows : List DuplicateAssetRow
  fkConstraintsOnAsset : List AssetForeignKeyRow

/-- A group with the ids of its `candidate_rows`. -/
structure EnrichedGroup extends DuplicateGroupRow where
  candidateIds : List ReadableStr
  deriving DecidableEq

structure CollectedSnapshot where
  databaseName : ReadableStr
  toast : ToastHealth
  invalidSystemIndexes : List InvalidIndexRow
  invalidUserIndexes : List InvalidIndexRow
  duplicateAssetGroups : List EnrichedGroup
  fkConstraintsOnAsset : List AssetForeignKeyRow
  deriving DecidableEq

/-- `_collect_snapshot`. -/
def collectSnapshot (reads : CorruptionReads) : CollectedSnapshot where
  databaseName := reads.databaseName
  toast := reads.toast
  invalidSystemIndexes := reads.invalidSystemIndexes
  invalidUserIndexes := reads.invalidUserIndexes
  duplicateAssetGroups := reads.duplicateGroups.map fun group =>
    { group with
      candidateIds := (reads.duplicateRows.filter fun row =>
        row.ownerId = group.ownerId ∧ row.checksumHex = group.checksumHex).map (·.id) }
  fkConstraintsOnAsset := reads.fkConstraintsOnAsset

/-- What a plan is made of. -/
def CollectedSnapshot.damage (snapshot : CollectedSnapshot) : CorruptionSnapshot where
  databaseName := snapshot.databaseName.text
  toastDetected := snapshot.toast.detected
  invalidSystemIndexes := snapshot.invalidSystemIndexes.map fun row =>
    ⟨row.schemaName.text, row.indexName.text⟩
  invalidUserIndexes := snapshot.invalidUserIndexes.map fun row =>
    ⟨row.schemaName.text, row.indexName.text⟩
  duplicateAssetGroups := snapshot.duplicateAssetGroups.map fun group =>
    ⟨group.ownerId.text, group.checksumHex.text, group.candidateIds.map (·.text)⟩

/-! ## Choices -/

/-- What an operator asks for. -/
structure RepairChoices where
  selectedDeleteIds : List ReadableStr
  backupConfirmed : Bool
  overrideBackupRequirement : Bool
  maintenanceModeConfirmed : Bool
  systemIndexDuplicateErrorText : Option ReadableStr
  highRiskClearPgStatisticApproval : Bool
  forceReindexDatabase : Bool

/-- The scope of a run: the choices, without an error text it has the empty one. -/
structure RepairScope where
  selectedDeleteIds : List ReadableStr
  backupConfirmed : Bool
  overrideBackupRequirement : Bool
  maintenanceModeConfirmed : Bool
  systemIndexDuplicateErrorText : ReadableStr
  highRiskClearPgStatisticApproval : Bool
  forceReindexDatabase : Bool
  deriving DecidableEq

def scopeOf (choices : RepairChoices) : RepairScope where
  selectedDeleteIds := choices.selectedDeleteIds
  backupConfirmed := choices.backupConfirmed
  overrideBackupRequirement := choices.overrideBackupRequirement
  maintenanceModeConfirmed := choices.maintenanceModeConfirmed
  systemIndexDuplicateErrorText :=
    choices.systemIndexDuplicateErrorText.getD ⟨[], Json.readable_nil⟩
  highRiskClearPgStatisticApproval := choices.highRiskClearPgStatisticApproval
  forceReindexDatabase := choices.forceReindexDatabase

def RepairScope.toDict (scope : RepairScope) : JsonValue :=
  .obj [(py "domain", .str (py "db.corruption")),
    (py "action", .str (py "repair.apply")),
    (py "selected_delete_ids", .list (scope.selectedDeleteIds.map ReadableStr.json)),
    (py "backup_confirmed", .bool scope.backupConfirmed),
    (py "override_backup_requirement", .bool scope.overrideBackupRequirement),
    (py "maintenance_mode_confirmed", .bool scope.maintenanceModeConfirmed),
    (py "system_index_duplicate_error_text", scope.systemIndexDuplicateErrorText.json),
    (py "high_risk_clear_pg_statistic_approval", .bool scope.highRiskClearPgStatisticApproval),
    (py "force_reindex_database", .bool scope.forceReindexDatabase)]

def RepairScope.options (scope : RepairScope) : RepairOptions where
  systemIndexDuplicateErrorText := some scope.systemIndexDuplicateErrorText.text
  highRiskClearPgStatisticApproval := scope.highRiskClearPgStatisticApproval
  forceReindexDatabase := scope.forceReindexDatabase

def RepairChoices.options (choices : RepairChoices) : RepairOptions where
  systemIndexDuplicateErrorText := choices.systemIndexDuplicateErrorText.map (·.text)
  highRiskClearPgStatisticApproval := choices.highRiskClearPgStatisticApproval
  forceReindexDatabase := choices.forceReindexDatabase

/-! ## Fingerprints -/

def EnrichedGroup.fingerprintFields (group : EnrichedGroup) : JsonValue :=
  .obj [(py "owner_id", group.ownerId.json), (py "checksum_hex", group.checksumHex.json),
    (py "row_count", .int group.rowCount),
    (py "candidate_ids", .list (group.candidateIds.map ReadableStr.json))]

/-- The payload of `_db_fingerprint`. -/
def CollectedSnapshot.dbPayload (snapshot : CollectedSnapshot) : JsonValue :=
  .obj [(py "toast", snapshot.toast.toDict),
    (py "invalid_system_indexes",
      .list (snapshot.invalidSystemIndexes.map InvalidIndexRow.toDict)),
    (py "invalid_user_indexes", .list (snapshot.invalidUserIndexes.map InvalidIndexRow.toDict)),
    (py "duplicate_asset_groups",
      .list (snapshot.duplicateAssetGroups.map EnrichedGroup.fingerprintFields)),
    (py "fk_constraints_on_asset",
      .list (snapshot.fkConstraintsOnAsset.map AssetForeignKeyRow.toDict))]

/-- `_db_fingerprint`. -/
def CollectedSnapshot.dbFingerprint (digest : PyStr → PyStr) (snapshot : CollectedSnapshot) :
    PyStr :=
  fingerprintPayload digest snapshot.dbPayload

/-- `_file_fingerprint_from_scope`. -/
def RepairScope.fileFingerprint (digest : PyStr → PyStr) (scope : RepairScope) : PyStr :=
  fingerprintPayload digest
    (.obj [(py "selected_delete_ids", .list (scope.selectedDeleteIds.map ReadableStr.json)),
      (py "force_reindex_database", .bool scope.forceReindexDatabase),
      (py "system_index_duplicate_error_text", scope.systemIndexDuplicateErrorText.json),
      (py "high_risk_clear_pg_statistic_approval",
        .bool scope.highRiskClearPgStatisticApproval)])

/-! ## Preconditions -/

/-- What the queries say of the role and of the other sessions. -/
structure SessionReads where
  isSuperuser : Bool
  activeNonIdleSessions : Int

structure PreconditionRow where
  name : PyStr
  passed : Bool
  message : PyStr

def preconditionRow (name passedMessage failedMessage : String) (passed : Bool) :
    PreconditionRow where
  name := py name
  passed := passed
  message := if passed then py passedMessage else py failedMessage

/-- `_preconditions`. -/
def preconditions (session : SessionReads)
    (backupConfirmed overrideBackupRequirement maintenanceModeConfirmed : Bool) :
    List PreconditionRow :=
  [preconditionRow "superuser_privileges" "Current PostgreSQL role is superuser."
      "Current PostgreSQL role is not superuser." session.isSuperuser,
    preconditionRow "backup_confirmation" "Backup requirement satisfied."
      "A recent database backup must be confirmed or explicitly overridden."
      (backupConfirmed || overrideBackupRequirement),
    preconditionRow "maintenance_mode"
      "Maintenance mode confirmation is present and no non-idle peer sessions were found."
      "Maintenance mode is not confirmed or non-idle peer sessions are still active."
      (maintenanceModeConfirmed && session.activeNonIdleSessions == 0)]

/-- `apply_allowed`. -/
def RepairScope.applyAllowed (scope : RepairScope) (session : SessionReads) : Bool :=
  (preconditions session scope.backupConfirmed scope.overrideBackupRequirement
    scope.maintenanceModeConfirmed).all (·.passed)

/-! ## Preview and apply -/

/-- A run with its token, as they are stored. -/
structure StoredRepair where
  scope : RepairScope
  status : RepairRunStatus
  token : PlanToken

/-- `preview`: what it stores, with the token it draws. -/
def previewRepair (digest : PyStr → PyStr) (tokenId : PyStr) (now : Int) (choices : RepairChoices)
    (snapshot : CollectedSnapshot) : StoredRepair where
  scope := scopeOf choices
  status := .planned
  token := createPlanToken tokenId now (scopeOf choices).toDict (snapshot.dbFingerprint digest)
    ((scopeOf choices).fileFingerprint digest)

section Apply

variable {σ : Type}

/-- The plan of a run is made again and executed. -/
def executeRun (run : σ → Statement → Option σ) (database : σ) (scope : RepairScope)
    (snapshot : CollectedSnapshot) : AppliedPlan σ :=
  applyPlan run database snapshot.damage (scope.selectedDeleteIds.map (·.text)) scope.options

/-- Whether `_cascade_counts` returns, by whether the query for a key does. -/
def cascadeCountsReturn (returns : AssetForeignKeyRow → Bool) (snapshot : CollectedSnapshot)
    (selectedDeleteIds : List ReadableStr) : Bool :=
  selectedDeleteIds.isEmpty || snapshot.fkConstraintsOnAsset.all fun row =>
    row.referencingColumn.text.isEmpty || row.referencingColumn.text.contains 44 || returns row

/-- `apply` of a stored run; none when the cascades cannot be counted. -/
def applyRepair (digest : PyStr → PyStr) (now : Int) (stored : StoredRepair)
    (session : SessionReads) (snapshot : CollectedSnapshot) (returns : AssetForeignKeyRow → Bool)
    (run : σ → Statement → Option σ) (database : σ) : Option (AppliedPlan σ) :=
  let guardResult := validatePlanToken digest now stored.token stored.scope.toDict
    (snapshot.dbFingerprint digest) (stored.scope.fileFingerprint digest)
  if !guardResult.valid || !stored.scope.applyAllowed session then some ⟨database, [], .failed⟩
  else if !cascadeCountsReturn returns snapshot stored.scope.selectedDeleteIds then none
  else some (executeRun run database stored.scope snapshot)

/-! ## Requests -/

/-- A preview, with the ids it draws and what it reads, none when it cannot read. -/
structure PreviewRequest where
  runId : PyStr
  tokenId : PyStr
  now : Int
  choices : RepairChoices
  reads : Option CorruptionReads

/-- An apply, with what it reads, whether the rows behind a key can be read, and the database its
statements find. -/
structure ApplyRequest (σ : Type) where
  runId : PyStr
  now : Int
  session : SessionReads
  reads : Option CorruptionReads
  returns : AssetForeignKeyRow → Bool
  run : σ → Statement → Option σ
  database : σ

inductive RepairRequest (σ : Type)
  | preview (request : PreviewRequest)
  | apply (request : ApplyRequest σ)

/-- The runs that are stored, by their ids. -/
abbrev StoredRepairs := PyStr → Option StoredRepair

/-- What an apply makes of its run, none when no run is stored or a query raises before the first
statement. -/
def ApplyRequest.outcome (digest : PyStr → PyStr) (repairs : StoredRepairs)
    (request : ApplyRequest σ) : Option (AppliedPlan σ) := do
  let stored ← repairs request.runId
  let reads ← request.reads
  applyRepair digest request.now stored request.session (collectSnapshot reads) request.returns
    request.run request.database

def StoredRepairs.store (runId : PyStr) (stored : StoredRepair) (repairs : StoredRepairs) :
    StoredRepairs :=
  fun id => if id = runId then some stored else repairs id

/-- The runs after a request. -/
def RepairRequest.perform (digest : PyStr → PyStr) (repairs : StoredRepairs) :
    RepairRequest σ → StoredRepairs
  | preview request =>
      match request.reads with
      | none => repairs
      | some reads => repairs.store request.runId
          (previewRepair digest request.tokenId request.now request.choices (collectSnapshot reads))
  | apply request =>
      match repairs request.runId, request.outcome digest repairs with
      | some stored, some outcome =>
          repairs.store request.runId { stored with status := outcome.status }
      | _, _ => repairs

end Apply

end ImmichDoctor.Db
