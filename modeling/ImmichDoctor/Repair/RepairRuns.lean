import ImmichDoctor.Library.Table
import ImmichDoctor.Library.Transition
import ImmichDoctor.Repair.UndoService
/-!
# Stored repair runs

`RepairJournalStore`, and what the services write to it that create repair runs and apply
them: missing asset references, catalog remediation, database corruption and undo. A
request is the list of its writes; what it finds in the database and on disk is given to
it, and an exception may end it before any of them. Post-repair snapshots are left out.
-/

namespace ImmichDoctor.Repair

open ImmichDoctor.Library
open ImmichDoctor.Storage

/-! ## The store -/

/-- The directory of a run: its run file, its token file and its journal. -/
structure RunRecord extends StoredRun where
  scope : JsonValue
  planToken : PlanToken

abbrev RepairStore := Table RunRecord fun record => record.repairRunId

inductive StoreWrite
  | createRun (record : RunRecord)
  | updateRun (repairRunId : PyStr) (status : RepairRunStatus)
  | appendJournalEntry (entry : RepairJournalEntry)

/-- `TERMINAL`: the statuses `finish` is called with. -/
def RepairRunStatus.terminal : RepairRunStatus → Bool
  | .completed | .partial_ | .failed => true
  | .planned | .running => false

/-- A new run has a new id; the other files are of a run that was loaded before. -/
def StoreWrite.run (store : RepairStore) : StoreWrite → Option RepairStore
  | .createRun record => store.insert? record
  | .updateRun repairRunId status =>
      some (store.updateWhere (fun record => record.repairRunId = repairRunId)
        (fun record => { record with status }) fun _ => rfl)
  | .appendJournalEntry entry =>
      some (store.updateWhere (fun record => record.repairRunId = entry.repairRunId)
        (fun record => { record with journal := record.journal ++ [entry] }) fun _ => rfl)

/-! ## Items -/

inductive OperationStatus
  | applied
  | restored
  | alreadyRemoved
  | skipped
  | failed
  deriving DecidableEq

/-- What a request does to each of its items. -/
inductive RepairOperation
  | removeMissingAssetReference
  | restoreMissingAssetReference
  | fixAssetOriginalPath
  | zeroByteDelete
  | fuseHiddenDelete
  /-- A step of the plan, by its key. -/
  | corruptionStep (stepKey : PyStr)
  deriving DecidableEq

def RepairOperation.operationType : RepairOperation → PyStr
  | .removeMissingAssetReference => py "remove_missing_asset_reference"
  | .restoreMissingAssetReference => py "restore_missing_asset_reference"
  | .fixAssetOriginalPath => py "fix_asset_original_path"
  | .zeroByteDelete => py "zero_byte_delete"
  | .fuseHiddenDelete => py "fuse_hidden_delete"
  | .corruptionStep stepKey => stepKey

/-- The status of the entry an operation leaves in the journal, if it leaves any. -/
def RepairOperation.journalStatus :
    RepairOperation → OperationStatus → Option RepairJournalEntryStatus
  | .removeMissingAssetReference, status | .restoreMissingAssetReference, status =>
      match status with
      | .applied | .restored => some .applied
      | .alreadyRemoved | .skipped => some .skipped
      | .failed => some .failed
  | .corruptionStep _, status =>
      match status with
      | .applied => some .applied
      | .failed => some .failed
      | _ => none
  | .fixAssetOriginalPath, status | .zeroByteDelete, status | .fuseHiddenDelete, status =>
      if status = .applied then some .applied else none

def RepairOperation.undoType : RepairOperation → UndoType
  | .fixAssetOriginalPath => .restoreDbValues
  | _ => .none

/-- What became of an item. -/
structure OperationOutcome where
  operation : RepairOperation
  entryId : PyStr
  assetId : Option PyStr
  originalPath : Option PyStr
  status : OperationStatus

def OperationOutcome.journalEntry (repairRunId : PyStr) (outcome : OperationOutcome) :
    Option RepairJournalEntry :=
  (outcome.operation.journalStatus outcome.status).map fun status =>
    { entryId := outcome.entryId
      repairRunId := repairRunId
      operationType := outcome.operation.operationType
      status := status
      assetId := outcome.assetId
      originalPath := outcome.originalPath
      undoType := outcome.operation.undoType
      undoPayload := ⟨none, none, none⟩ }

/-- `_final_run_status` and `_final_restore_status`. -/
def finalRunStatus (outcomes : List OperationOutcome) : RepairRunStatus :=
  if outcomes.any (·.status = .failed) then
    if outcomes.any fun outcome => outcome.status = .applied || outcome.status = .restored then
      .partial_
    else .failed
  else .completed

/-- The entries of the items and the status the run ends with. -/
def itemWrites (repairRunId : PyStr) (outcomes : List OperationOutcome) : List StoreWrite :=
  (outcomes.filterMap (·.journalEntry repairRunId)).map .appendJournalEntry ++
    [.updateRun repairRunId (finalRunStatus outcomes)]

/-! ## Apply -/

inductive ApplyFlow
  | missingAsset
  | catalogRemediation
  | dbCorruption
  deriving DecidableEq

/-- What an apply finds. -/
structure ApplyEnvironment where
  digest : PyStr → PyStr
  now : Int
  /-- A DSN is configured, and PostgreSQL reached where that is checked first. -/
  configured : Bool
  /-- The fingerprints of what the scan selects for the scope of the run. -/
  dbFingerprint : PyStr
  fileFingerprint : PyStr
  /-- The ids of the findings that are selected now. -/
  currentIds : List PyStr
  /-- The preconditions of a database repair are met. -/
  preconditions : Bool
  outcomes : List OperationOutcome

/-- `scope.get(key)`. -/
def scopeField (scope : JsonValue) (key : PyStr) : Option JsonValue :=
  match scope with
  | .obj fields => (fields.find? fun field => field.1 = key).map (·.2)
  | _ => none

/-- `scope[key] = value` on a copy. -/
def withScopeField (scope : JsonValue) (key : PyStr) (value : JsonValue) : JsonValue :=
  match scope with
  | .obj fields =>
      if fields.any fun field => field.1 = key then
        .obj (fields.map fun field => if field.1 = key then (key, value) else field)
      else .obj (fields ++ [(key, value)])
  | _ => scope

/-- The field of the scope with the ids, by `finding_kind`. -/
def scopeKey (scope : JsonValue) : Option PyStr :=
  match scopeField scope (py "finding_kind") with
  | some (.str kind) =>
      if kind = py "broken_db_original" then some (py "asset_ids")
      else if kind = py "zero_byte_file" ∨ kind = py "fuse_hidden_orphan" then
        some (py "finding_ids")
      else none
  | _ => none

/-- `CatalogRemediationActionKind(scope["action_kind"])`. -/
def actionKind (scope : JsonValue) : Option RepairOperation :=
  match scopeField scope (py "action_kind") with
  | some (.str kind) =>
      if kind = py "broken_db_cleanup" then some .removeMissingAssetReference
      else if kind = py "broken_db_path_fix" then some .fixAssetOriginalPath
      else if kind = py "zero_byte_delete" then some .zeroByteDelete
      else if kind = py "fuse_hidden_delete" then some .fuseHiddenDelete
      else none
  | _ => none

/-- The scope an apply validates; `none` when the run's scope raises. -/
def validatedScope (record : RunRecord) (environment : ApplyEnvironment) :
    ApplyFlow → Option JsonValue
  | .missingAsset | .dbCorruption => some record.scope
  | .catalogRemediation => do
      let key ← scopeKey record.scope
      let _ ← actionKind record.scope
      some (withScopeField record.scope key (.list (environment.currentIds.map .str)))

/-- Whether the guard of the apply lets it go on, given the scope it validates. -/
def guardPasses (record : RunRecord) (environment : ApplyEnvironment) (flow : ApplyFlow)
    (scope : JsonValue) : Bool :=
  (validatePlanToken environment.digest environment.now record.planToken scope
    environment.dbFingerprint environment.fileFingerprint).valid &&
  match flow with
  | .dbCorruption => environment.preconditions
  | _ => true

/-- The items an apply goes through; without a database some actions have none. -/
def appliedOutcomes (record : RunRecord) (environment : ApplyEnvironment) :
    ApplyFlow → List OperationOutcome
  | .missingAsset | .dbCorruption => environment.outcomes
  | .catalogRemediation =>
      match actionKind record.scope with
      | some .removeMissingAssetReference | some .fixAssetOriginalPath =>
          if environment.configured then environment.outcomes else []
      | _ => environment.outcomes

/-- `apply` of the three services, for a run that was loaded. -/
def applyWrites (record : RunRecord) (environment : ApplyEnvironment) (flow : ApplyFlow) :
    List StoreWrite :=
  match validatedScope record environment flow with
  | none => []
  | some scope =>
      if flow = .dbCorruption ∧ environment.configured = false then []
      else if !guardPasses record environment flow scope then
        [.updateRun record.repairRunId .failed]
      else if flow = .missingAsset ∧ environment.configured = false then []
      else
        .updateRun record.repairRunId .running ::
          itemWrites record.repairRunId (appliedOutcomes record environment flow)

/-! ## Requests -/

inductive RepairRequest
  /-- A preview of any service. -/
  | preview (repairRunId : PyStr) (scope : JsonValue) (planToken : PlanToken)
  | apply (flow : ApplyFlow) (repairRunId : PyStr) (environment : ApplyEnvironment)
  /-- A restore of restore points. -/
  | restore (repairRunId : PyStr) (scope : JsonValue) (planToken : PlanToken) (configured : Bool)
      (outcomes : List OperationOutcome)
  /-- An undo of a run, as a run of its own with an entry for each item. -/
  | undo (repairRunId target : PyStr) (entryIds : List PyStr) (context : UndoContext)
      (files : FileModes) (scope : JsonValue) (planToken : PlanToken)
      (journalIds : Nat → PyStr)

/-- The entry of an undone item, whose details have none of the fields of a payload. -/
def undoEntry (repairRunId entryId : PyStr) (source : RepairJournalEntry)
    (item : UndoExecutionItem) : RepairJournalEntry where
  entryId := entryId
  repairRunId := repairRunId
  operationType := py "undo_restore_permissions"
  status := if item.status = .applied then .applied else .failed
  assetId := source.assetId
  originalPath := source.undoPayload.path.map fun path => (PurePath.parse path).text
  undoType := .none
  undoPayload := ⟨none, none, none⟩

/-- The journal of an undo run. -/
def undoEntries (repairRunId : PyStr) (journalIds : Nat → PyStr)
    (sources : List RepairJournalEntry) (items : List UndoExecutionItem) :
    List RepairJournalEntry :=
  (sources.zip items).mapIdx fun index pair => undoEntry repairRunId
    (journalIds index) pair.1 pair.2

/-- The writes of a request, one after the other. -/
def RepairRequest.writes (store : RepairStore) : RepairRequest → List StoreWrite
  | .preview repairRunId scope planToken =>
      [.createRun ⟨⟨repairRunId, .planned, []⟩, scope, planToken⟩]
  | .apply flow repairRunId environment =>
      match store.find? repairRunId with
      | none => []
      | some record => applyWrites record environment flow
  | .restore repairRunId scope planToken configured outcomes =>
      .createRun ⟨⟨repairRunId, .running, []⟩, scope, planToken⟩ ::
        if configured then itemWrites repairRunId outcomes else [.updateRun repairRunId .failed]
  | .undo repairRunId target entryIds context files scope planToken journalIds =>
      match store.find? target with
      | none => []
      | some record =>
          let result := executeUndo context files record.toStoredRun entryIds
          let plan := undoPlan files record.toStoredRun entryIds
          let sources := selectEntries record.journal plan.selectedEntryIds
          match result.status with
          | none => []
          | some status =>
              .createRun ⟨⟨repairRunId, .running, []⟩, scope, planToken⟩ ::
                ((undoEntries repairRunId journalIds sources result.items).map
                  .appendJournalEntry ++ [.updateRun repairRunId status])

/-- The store, and what the request that is being handled still writes. -/
structure RepairSystem where
  store : RepairStore
  pending : List StoreWrite

def RepairSystem.start : RepairSystem where
  store := .empty
  pending := []

inductive RepairEvent
  | request (request : RepairRequest)
  /-- The next write of the request. -/
  | write
  /-- An exception ends the request. -/
  | raise

/-- One request after the other. -/
def RepairSystem.step (s : RepairSystem) : RepairEvent → Option RepairSystem
  | .request request =>
      if s.pending.isEmpty then some { s with pending := request.writes s.store } else none
  | .write =>
      match s.pending with
      | [] => none
      | write :: rest => (write.run s.store).map fun store => ⟨store, rest⟩
  | .raise => some { s with pending := [] }

end ImmichDoctor.Repair
