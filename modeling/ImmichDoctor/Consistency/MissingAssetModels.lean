import ImmichDoctor.Db.AssetRecords
import ImmichDoctor.Library.JsonValue
/-!
# Missing asset references

The data of `MissingAssetReferenceService`: what is found out about an asset row, what
stands in the way of its repair, and what an apply makes of it.
-/

namespace ImmichDoctor.Consistency

open ImmichDoctor.Library
open ImmichDoctor.Db

inductive MissingAssetReferenceStatus
  | present
  | missingOnDisk
  | permissionError
  | unreadablePath
  | unsupported
  | alreadyRemoved
  deriving DecidableEq

def MissingAssetReferenceStatus.value : MissingAssetReferenceStatus → PyStr
  | present => py "present"
  | missingOnDisk => py "missing_on_disk"
  | permissionError => py "permission_error"
  | unreadablePath => py "unreadable_path"
  | unsupported => py "unsupported"
  | alreadyRemoved => py "already_removed"

inductive RepairReadinessStatus
  | ready
  | blocked
  deriving DecidableEq

def RepairReadinessStatus.value : RepairReadinessStatus → PyStr
  | ready => py "ready"
  | blocked => py "blocked"

inductive MissingAssetOperationStatus
  | planned
  | applied
  | skipped
  | failed
  | restored
  | deleted
  | alreadyRemoved
  deriving DecidableEq

inductive MissingAssetRepairBlockerType
  | path
  | filesystem
  | scope
  | schema
  deriving DecidableEq

def MissingAssetRepairBlockerType.value : MissingAssetRepairBlockerType → PyStr
  | path => py "path"
  | filesystem => py "filesystem"
  | scope => py "scope"
  | schema => py "schema"

inductive MissingAssetBlockingSeverity
  | warning
  | error
  deriving DecidableEq

def MissingAssetBlockingSeverity.value : MissingAssetBlockingSeverity → PyStr
  | warning => py "warning"
  | error => py "error"

structure MissingAssetRepairBlocker where
  blockerCode : PyStr
  blockerType : MissingAssetRepairBlockerType
  summary : PyStr
  details : List (PyStr × JsonValue)
  affectedTables : List PyStr := []
  repairCoveredTables : List PyStr := []
  blockingSeverity : MissingAssetBlockingSeverity := .error
  isRepairable : Bool := false

/-- A list of texts as a JSON array. -/
def textItems (texts : List PyStr) : JsonValue :=
  .list (texts.map .str)

/-- `MissingAssetRepairBlocker.to_dict`. -/
def MissingAssetRepairBlocker.toDict (blocker : MissingAssetRepairBlocker) : JsonValue :=
  .obj [(py "blocker_code", .str blocker.blockerCode),
    (py "blocker_type", .str blocker.blockerType.value),
    (py "summary", .str blocker.summary),
    (py "details", .obj blocker.details),
    (py "affected_tables", textItems blocker.affectedTables),
    (py "repair_covered_tables", textItems blocker.repairCoveredTables),
    (py "blocking_severity", .str blocker.blockingSeverity.value),
    (py "is_repairable", .bool blocker.isRepairable)]

structure MissingAssetReferenceFinding where
  findingId : PyStr
  assetId : PyStr
  assetType : PyStr
  status : MissingAssetReferenceStatus
  logicalPath : PyStr
  resolvedPhysicalPath : PyStr
  ownerId : Option PyStr
  createdAt : Option PyStr
  updatedAt : Option PyStr
  scanTimestamp : PyStr
  repairReadiness : RepairReadinessStatus
  repairBlockers : List PyStr
  repairBlockerDetails : List MissingAssetRepairBlocker
  message : PyStr

/-- A restore point as it is kept; its records are read back from JSON. -/
structure MissingAssetRestorePoint where
  restorePointId : PyStr
  repairRunId : PyStr
  assetId : PyStr
  recordCount : Nat
  logicalPath : PyStr
  records : List TableRecord

/-- An item without its details. -/
structure MissingAssetOperationItem where
  assetId : PyStr
  status : MissingAssetOperationStatus
  restorePointId : Option PyStr
  message : PyStr
  recordCount : Nat := 0

end ImmichDoctor.Consistency
