import ImmichDoctor.Library.JsonLines
import ImmichDoctor.Library.Table
import ImmichDoctor.Library.TextFiles
import ImmichDoctor.Repair.Models
/-!
# The files of repair runs

`RepairJournalStore` over the files it keeps: two documents and two files of lines for each run,
and the quarantine index of all runs. Texts are those that JSON gives back; the id of a run is
one component of a path. Directories are left out, since every call makes those it needs.
-/

namespace ImmichDoctor.Repair.Journal

open ImmichDoctor.Library

/-! ## Records -/

/-- The id of a run, by which its directory is named. -/
structure RunId where
  text : PlainStr
  component : validPart text.text = true
  deriving DecidableEq

@[ext] theorem RunId.ext {a b : RunId} (h : a.text = b.text) : a = b := by
  cases a
  cases b
  cases h
  rfl

def toRunId? (payload : JsonValue) : Option RunId := do
  let text ← payload.toPlain?
  if h : validPart text.text = true then some ⟨text, h⟩ else none

@[simp] theorem toRunId?_str (id : RunId) : toRunId? (.str id.text.text) = some id := by
  rw [toRunId?, JsonValue.toPlain?_str]
  exact dif_pos id.component

/-- The text of a member of an enumeration, and the member with a text. -/
def runStatusTexts : List (RepairRunStatus × PyStr) :=
  [(.planned, py "planned"), (.running, py "running"), (.completed, py "completed"),
    (.partial_, py "partial"), (.failed, py "failed")]

def entryStatusTexts : List (RepairJournalEntryStatus × PyStr) :=
  [(.planned, py "planned"), (.applied, py "applied"), (.skipped, py "skipped"),
    (.failed, py "failed")]

def undoTypeTexts : List (UndoType × PyStr) :=
  [(.none, py "none"), (.restorePermissions, py "restore_permissions"),
    (.restoreDbValues, py "restore_db_values"),
    (.restoreQuarantineFile, py "restore_quarantine_file")]

/-- `member.value`. -/
def valueOf {α : Type} [DecidableEq α] (texts : List (α × PyStr)) (member : α) : PyStr :=
  (texts.lookup member).getD []

/-- `Enum(value)`; `none` when no member has the value. -/
def memberOf {α : Type} (texts : List (α × PyStr)) : JsonValue → Option α
  | .str text => (texts.find? fun pair => pair.2 = text).map (·.1)
  | _ => none

structure RepairRun where
  repairRunId : RunId
  startedAt : PlainStr
  endedAt : Option PlainStr
  scope : JsonDict
  status : RepairRunStatus
  liveStateFingerprint : PlainStr
  planTokenId : PlainStr
  preRepairSnapshotId : Option PlainStr := none
  postRepairSnapshotId : Option PlainStr := none

structure PlanToken where
  tokenId : PlainStr
  createdAt : PlainStr
  scope : JsonDict
  dbFingerprint : PlainStr
  fileFingerprint : PlainStr
  expiresAt : Option PlainStr := none

structure RepairJournalEntry where
  entryId : PlainStr
  repairRunId : RunId
  operationType : PlainStr
  status : RepairJournalEntryStatus
  assetId : Option PlainStr
  table : Option PlainStr
  oldDbValues : Option JsonDict
  newDbValues : Option JsonDict
  originalPath : Option PlainStr
  quarantinePath : Option PlainStr
  undoType : UndoType
  undoPayload : JsonDict
  errorDetails : Option JsonDict := none
  createdAt : PlainStr

structure QuarantineItem where
  quarantineItemId : PlainStr
  repairRunId : RunId
  assetId : Option PlainStr
  sourcePath : PlainStr
  quarantinePath : PlainStr
  reason : PlainStr
  checksum : Option PlainStr := none
  sizeBytes : Option Int := none
  restorable : Bool := true
  ownerId : Option PlainStr := none
  ownerLabel : Option PlainStr := none
  categoryKey : Option PlainStr := none
  findingId : Option PlainStr := none
  sourceKind : Option PlainStr := none
  rootSlug : Option PlainStr := none
  relativePath : Option PlainStr := none
  originalRelativePath : Option PlainStr := none
  dbReferenceKind : Option PlainStr := none
  state : PlainStr
  stateChangedAt : Option PlainStr := none
  deletedAt : Option PlainStr := none
  createdAt : PlainStr

namespace RepairRun

/-- `RepairRun.to_dict`. -/
def toDict (run : RepairRun) : JsonValue :=
  .obj [
    (py "repair_run_id", .str run.repairRunId.text.text),
    (py "started_at", .str run.startedAt.text),
    (py "ended_at", .ofPlain? run.endedAt),
    (py "scope", .obj run.scope.fields),
    (py "status", .str (valueOf runStatusTexts run.status)),
    (py "live_state_fingerprint", .str run.liveStateFingerprint.text),
    (py "plan_token_id", .str run.planTokenId.text),
    (py "pre_repair_snapshot_id", .ofPlain? run.preRepairSnapshotId),
    (py "post_repair_snapshot_id", .ofPlain? run.postRepairSnapshotId)]

/-- `RepairRun.from_dict`, of fields with the types that `to_dict` writes. -/
def fromDict (payload : JsonValue) : Option RepairRun := do
  let repairRunId ← toRunId? (← payload.field? (py "repair_run_id"))
  let startedAt ← (← payload.field? (py "started_at")).toPlain?
  let endedAt ← ((payload.field? (py "ended_at")).getD .null).toOptionalPlain?
  let scope ← (← payload.field? (py "scope")).toDict?
  let status ← memberOf runStatusTexts (← payload.field? (py "status"))
  let liveStateFingerprint ← (← payload.field? (py "live_state_fingerprint")).toPlain?
  let planTokenId ← (← payload.field? (py "plan_token_id")).toPlain?
  let preRepairSnapshotId ←
    ((payload.field? (py "pre_repair_snapshot_id")).getD .null).toOptionalPlain?
  let postRepairSnapshotId ←
    ((payload.field? (py "post_repair_snapshot_id")).getD .null).toOptionalPlain?
  return { repairRunId, startedAt, endedAt, scope, status, liveStateFingerprint, planTokenId,
           preRepairSnapshotId, postRepairSnapshotId }

end RepairRun

namespace PlanToken

/-- `PlanToken.to_dict`. -/
def toDict (token : PlanToken) : JsonValue :=
  .obj [
    (py "token_id", .str token.tokenId.text),
    (py "created_at", .str token.createdAt.text),
    (py "scope", .obj token.scope.fields),
    (py "db_fingerprint", .str token.dbFingerprint.text),
    (py "file_fingerprint", .str token.fileFingerprint.text),
    (py "expires_at", .ofPlain? token.expiresAt)]

/-- `PlanToken.from_dict`. -/
def fromDict (payload : JsonValue) : Option PlanToken := do
  let tokenId ← (← payload.field? (py "token_id")).toPlain?
  let createdAt ← (← payload.field? (py "created_at")).toPlain?
  let scope ← (← payload.field? (py "scope")).toDict?
  let dbFingerprint ← (← payload.field? (py "db_fingerprint")).toPlain?
  let fileFingerprint ← (← payload.field? (py "file_fingerprint")).toPlain?
  let expiresAt ← ((payload.field? (py "expires_at")).getD .null).toOptionalPlain?
  return { tokenId, createdAt, scope, dbFingerprint, fileFingerprint, expiresAt }

end PlanToken

namespace RepairJournalEntry

/-- `RepairJournalEntry.to_dict`. -/
def toDict (entry : RepairJournalEntry) : JsonValue :=
  .obj [
    (py "entry_id", .str entry.entryId.text),
    (py "repair_run_id", .str entry.repairRunId.text.text),
    (py "operation_type", .str entry.operationType.text),
    (py "status", .str (valueOf entryStatusTexts entry.status)),
    (py "asset_id", .ofPlain? entry.assetId),
    (py "table", .ofPlain? entry.table),
    (py "old_db_values", .ofDict? entry.oldDbValues),
    (py "new_db_values", .ofDict? entry.newDbValues),
    (py "original_path", .ofPlain? entry.originalPath),
    (py "quarantine_path", .ofPlain? entry.quarantinePath),
    (py "undo_type", .str (valueOf undoTypeTexts entry.undoType)),
    (py "undo_payload", .obj entry.undoPayload.fields),
    (py "error_details", .ofDict? entry.errorDetails),
    (py "created_at", .str entry.createdAt.text)]

/-- `RepairJournalEntry.from_dict`. -/
def fromDict (payload : JsonValue) : Option RepairJournalEntry := do
  let entryId ← (← payload.field? (py "entry_id")).toPlain?
  let repairRunId ← toRunId? (← payload.field? (py "repair_run_id"))
  let operationType ← (← payload.field? (py "operation_type")).toPlain?
  let status ← memberOf entryStatusTexts (← payload.field? (py "status"))
  let assetId ← ((payload.field? (py "asset_id")).getD .null).toOptionalPlain?
  let table ← ((payload.field? (py "table")).getD .null).toOptionalPlain?
  let oldDbValues ← ((payload.field? (py "old_db_values")).getD .null).toOptionalDict?
  let newDbValues ← ((payload.field? (py "new_db_values")).getD .null).toOptionalDict?
  let originalPath ← ((payload.field? (py "original_path")).getD .null).toOptionalPlain?
  let quarantinePath ← ((payload.field? (py "quarantine_path")).getD .null).toOptionalPlain?
  let undoType ← memberOf undoTypeTexts (← payload.field? (py "undo_type"))
  let undoPayload ← ((payload.field? (py "undo_payload")).getD (.obj [])).toDict?
  let errorDetails ← ((payload.field? (py "error_details")).getD .null).toOptionalDict?
  let createdAt ← (← payload.field? (py "created_at")).toPlain?
  return { entryId, repairRunId, operationType, status, assetId, table, oldDbValues, newDbValues,
           originalPath, quarantinePath, undoType, undoPayload, errorDetails, createdAt }

end RepairJournalEntry

/-- A literal of the source. -/
def plain (text : String) : PlainStr :=
  ⟨py text, JsonValue.plainText_py text⟩

namespace QuarantineItem

/-- `QuarantineItem.to_dict`. -/
def toDict (item : QuarantineItem) : JsonValue :=
  .obj [
    (py "quarantine_item_id", .str item.quarantineItemId.text),
    (py "repair_run_id", .str item.repairRunId.text.text),
    (py "asset_id", .ofPlain? item.assetId),
    (py "source_path", .str item.sourcePath.text),
    (py "quarantine_path", .str item.quarantinePath.text),
    (py "reason", .str item.reason.text),
    (py "checksum", .ofPlain? item.checksum),
    (py "size_bytes", .ofInt? item.sizeBytes),
    (py "restorable", .bool item.restorable),
    (py "owner_id", .ofPlain? item.ownerId),
    (py "owner_label", .ofPlain? item.ownerLabel),
    (py "category_key", .ofPlain? item.categoryKey),
    (py "finding_id", .ofPlain? item.findingId),
    (py "source_kind", .ofPlain? item.sourceKind),
    (py "root_slug", .ofPlain? item.rootSlug),
    (py "relative_path", .ofPlain? item.relativePath),
    (py "original_relative_path", .ofPlain? item.originalRelativePath),
    (py "db_reference_kind", .ofPlain? item.dbReferenceKind),
    (py "state", .str item.state.text),
    (py "state_changed_at", .ofPlain? item.stateChangedAt),
    (py "deleted_at", .ofPlain? item.deletedAt),
    (py "created_at", .str item.createdAt.text)]

/-- `str(payload.get("state") or "active")`. -/
def stateOf (payload : JsonValue) : Option PlainStr := do
  let state ← payload.toOptionalPlain?
  return (state.filter fun state => state.text ≠ []).getD (plain "active")

/-- `QuarantineItem.from_dict`. -/
def fromDict (payload : JsonValue) : Option QuarantineItem := do
  let quarantineItemId ← (← payload.field? (py "quarantine_item_id")).toPlain?
  let repairRunId ← toRunId? (← payload.field? (py "repair_run_id"))
  let assetId ← ((payload.field? (py "asset_id")).getD .null).toOptionalPlain?
  let sourcePath ← (← payload.field? (py "source_path")).toPlain?
  let quarantinePath ← (← payload.field? (py "quarantine_path")).toPlain?
  let reason ← (← payload.field? (py "reason")).toPlain?
  let checksum ← ((payload.field? (py "checksum")).getD .null).toOptionalPlain?
  let sizeBytes ← ((payload.field? (py "size_bytes")).getD .null).toOptionalInt?
  let restorable ← (← payload.field? (py "restorable")).toBool?
  let ownerId ← ((payload.field? (py "owner_id")).getD .null).toOptionalPlain?
  let ownerLabel ← ((payload.field? (py "owner_label")).getD .null).toOptionalPlain?
  let categoryKey ← ((payload.field? (py "category_key")).getD .null).toOptionalPlain?
  let findingId ← ((payload.field? (py "finding_id")).getD .null).toOptionalPlain?
  let sourceKind ← ((payload.field? (py "source_kind")).getD .null).toOptionalPlain?
  let rootSlug ← ((payload.field? (py "root_slug")).getD .null).toOptionalPlain?
  let relativePath ← ((payload.field? (py "relative_path")).getD .null).toOptionalPlain?
  let originalRelativePath ←
    ((payload.field? (py "original_relative_path")).getD .null).toOptionalPlain?
  let dbReferenceKind ← ((payload.field? (py "db_reference_kind")).getD .null).toOptionalPlain?
  let state ← stateOf ((payload.field? (py "state")).getD .null)
  let stateChangedAt ← ((payload.field? (py "state_changed_at")).getD .null).toOptionalPlain?
  let deletedAt ← ((payload.field? (py "deleted_at")).getD .null).toOptionalPlain?
  let createdAt ← (← payload.field? (py "created_at")).toPlain?
  return { quarantineItemId, repairRunId, assetId, sourcePath, quarantinePath, reason, checksum,
           sizeBytes, restorable, ownerId, ownerLabel, categoryKey, findingId, sourceKind,
           rootSlug, relativePath, originalRelativePath, dbReferenceKind, state, stateChangedAt,
           deletedAt, createdAt }

end QuarantineItem

/-! ## Paths -/

/-- The directories of the settings. -/
structure AppSettings where
  manifestsPath : FilePath
  quarantinePath : FilePath

section Paths

variable (settings : AppSettings) (repairRunId : RunId)

def repairManifestsRoot : FilePath :=
  settings.manifestsPath ++ [py "repair"]

def repairRunDirectory : FilePath :=
  repairManifestsRoot settings ++ [repairRunId.text.text]

def repairRunFile : FilePath :=
  repairRunDirectory settings repairRunId ++ [py "run.json"]

def repairPlanTokenFile : FilePath :=
  repairRunDirectory settings repairRunId ++ [py "plan-token.json"]

def repairJournalFile : FilePath :=
  repairRunDirectory settings repairRunId ++ [py "journal.jsonl"]

def repairQuarantineItemsFile : FilePath :=
  repairRunDirectory settings repairRunId ++ [py "quarantine-items.jsonl"]

def quarantineIndexFile : FilePath :=
  settings.quarantinePath ++ [py "index.jsonl"]

end Paths

/-! ## The store -/

/-- `_write_json`. -/
def writeJson (path : FilePath) (payload : JsonValue) (files : TextFiles) : TextFiles :=
  files.write path payload.jsonDocument

/-- `_append_json_line`. -/
def appendJsonLine (path : FilePath) (payload : JsonValue) (files : TextFiles) : TextFiles :=
  files.append path payload.jsonLine

/-- `_read_json`; `none` when it raises. -/
def readJson (files : TextFiles) (path : FilePath) : Option JsonValue :=
  (files path).bind JsonValue.loads

/-- `_read_json_lines`. -/
def readJsonLines (files : TextFiles) (path : FilePath) : Option (List JsonValue) :=
  JsonValue.readJsonLinesOf (files path)

/-- `_collapse_quarantine_items`. -/
def collapseQuarantineItems (items : List QuarantineItem) : List QuarantineItem :=
  (items.foldl Table.put (.empty : Table QuarantineItem QuarantineItem.quarantineItemId)).rows

section Store

variable (settings : AppSettings)

def createRun (repairRun : RepairRun) (planToken : PlanToken) (files : TextFiles) : TextFiles :=
  let files := writeJson (repairRunFile settings repairRun.repairRunId) repairRun.toDict files
  let files := writeJson (repairPlanTokenFile settings repairRun.repairRunId) planToken.toDict files
  let files := files.touch (repairJournalFile settings repairRun.repairRunId)
  let files := files.touch (repairQuarantineItemsFile settings repairRun.repairRunId)
  files.touch (quarantineIndexFile settings)

def updateRun (repairRun : RepairRun) (files : TextFiles) : TextFiles :=
  writeJson (repairRunFile settings repairRun.repairRunId) repairRun.toDict files

def appendJournalEntry (entry : RepairJournalEntry) (files : TextFiles) : TextFiles :=
  appendJsonLine (repairJournalFile settings entry.repairRunId) entry.toDict files

def appendQuarantineItem (item : QuarantineItem) (files : TextFiles) : TextFiles :=
  appendJsonLine (quarantineIndexFile settings) item.toDict
    (appendJsonLine (repairQuarantineItemsFile settings item.repairRunId) item.toDict files)

variable (files : TextFiles)

def loadRun (repairRunId : RunId) : Option RepairRun :=
  (readJson files (repairRunFile settings repairRunId)).bind RepairRun.fromDict

def loadPlanToken (repairRunId : RunId) : Option PlanToken :=
  (readJson files (repairPlanTokenFile settings repairRunId)).bind PlanToken.fromDict

def loadJournalEntries (repairRunId : RunId) : Option (List RepairJournalEntry) := do
  (← readJsonLines files (repairJournalFile settings repairRunId)).mapM RepairJournalEntry.fromDict

def loadQuarantineItems (repairRunId : RunId) : Option (List QuarantineItem) := do
  let payloads ← readJsonLines files (repairQuarantineItemsFile settings repairRunId)
  return collapseQuarantineItems (← payloads.mapM QuarantineItem.fromDict)

def loadQuarantineIndex : Option (List QuarantineItem) := do
  let payloads ← readJsonLines files (quarantineIndexFile settings)
  return collapseQuarantineItems (← payloads.mapM QuarantineItem.fromDict)

end Store

/-! ## Calls -/

/-- A call that changes the files. -/
inductive StoreCall
  | createRun (repairRun : RepairRun) (planToken : PlanToken)
  | updateRun (repairRun : RepairRun)
  | appendJournalEntry (entry : RepairJournalEntry)
  | appendQuarantineItem (item : QuarantineItem)

def StoreCall.perform (settings : AppSettings) (files : TextFiles) : StoreCall → TextFiles
  | createRun repairRun planToken => Journal.createRun settings repairRun planToken files
  | updateRun repairRun => Journal.updateRun settings repairRun files
  | appendJournalEntry entry => Journal.appendJournalEntry settings entry files
  | appendQuarantineItem item => Journal.appendQuarantineItem settings item files

/-- The files after a list of calls, from none at all. -/
def filesAfter (settings : AppSettings) (calls : List StoreCall) : TextFiles :=
  calls.foldl (StoreCall.perform settings) fun _ => none

end ImmichDoctor.Repair.Journal
