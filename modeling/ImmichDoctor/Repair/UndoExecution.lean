import ImmichDoctor.Repair.UndoService
/-!
# Undo of stored journals

`RepairUndoService` over journals as they are stored: the payload of an entry is whatever
JSON object was written, and any call of `stat` or `chmod` may raise an `OSError`. An
exception that nothing catches is `none`. The typed module on undo is the case in which all
payloads have the fields of their entry and no call raises.
-/

namespace ImmichDoctor.Repair

open ImmichDoctor.Library
open ImmichDoctor.Storage

/-! ## Payloads -/

/-- A value of a payload; a null is none. -/
inductive PayloadValue
  | bool (value : Bool)
  | int (value : Int)
  /-- A float by its `repr` and its `int`, if it has one. -/
  | float (shown : PyStr) (truncated : Option Int)
  | text (value : PyStr)
  /-- A list or an object by its `repr`. -/
  | container (shown : PyStr) (isEmpty : Bool)
  deriving DecidableEq

/-- `bool(value)`. -/
def PayloadValue.truthy : PayloadValue → Bool
  | bool value => value
  | int value => value ≠ 0
  | float shown _ => shown ≠ py "0.0" && shown ≠ py "-0.0"
  | text value => !value.isEmpty
  | container _ isEmpty => !isEmpty

/-- `str(value)`. -/
def PayloadValue.str : PayloadValue → PyStr
  | bool true => py "True"
  | bool false => py "False"
  | int value => JsonValue.writeInt value
  | float shown _ => shown
  | text value => value
  | container shown _ => shown

/-- `int(value)`, given what it makes of a text; none when it raises. -/
def PayloadValue.toInt (intOfText : PyStr → Option Int) : PayloadValue → Option Int
  | bool value => some value.toNat
  | int value => some value
  | float _ truncated => truncated
  | text value => intOfText value
  | container _ _ => none

/-- An entry with its payload as it is stored; null is a value. -/
structure JournalRecord where
  entryId : PyStr
  status : RepairJournalEntryStatus
  originalPath : Option PyStr
  undoType : UndoType
  undoPayload : List (PyStr × Option PayloadValue)
  deriving DecidableEq

/-- `undo_payload.get(key)`. -/
def JournalRecord.get (record : JournalRecord) (key : PyStr) : Option PayloadValue :=
  (record.undoPayload.lookup key).join

/-- `undo_payload.get("path") or original_path`, if it is not empty. -/
def JournalRecord.pathValue (record : JournalRecord) : Option PyStr :=
  match (record.get (py "path")).filter (·.truthy) with
  | some value => some value.str
  | none => record.originalPath.filter (!·.isEmpty)

/-! ## Calls -/

/-- The classes of `OSError` that a handler tells apart. -/
inductive OSErrorKind
  | fileNotFound
  | permission
  | other
  deriving DecidableEq

/-- What a call returns: the error it raises, or else what the file system says, where none is
a missing file. -/
def call {α : Type} (fault : Option OSErrorKind) (result : Option α) : Except OSErrorKind α :=
  match fault, result with
  | some error, _ => .error error
  | none, none => .error .fileNotFound
  | none, some value => .ok value

/-! ## Planning -/

/-- `_select_entries`. -/
def selectRecords (records : List JournalRecord) (entryIds : List PyStr) : List JournalRecord :=
  if entryIds.isEmpty then records.filter (·.undoType ≠ .none)
  else records.filter fun record => entryIds.contains record.entryId

/-- `_assess_entry`. -/
def assessRecord (intOfText : PyStr → Option Int) (files : FileModes)
    (fault : Option OSErrorKind) (record : JournalRecord) : Option UndoEntryAssessment :=
  let blockers :=
    (if record.status = .applied then [] else [py "entry_not_applied"]) ++
      (if record.undoType = .restorePermissions then [] else [py "unsupported_undo_type"])
  match record.pathValue, record.get (py "old_mode"), record.get (py "new_mode") with
  | some path, some _, some newMode =>
      match call fault (files.statMode (.parse path)) with
      | .error .fileNotFound =>
          some ⟨record.entryId, .requiresFullRestore, blockers ++ [py "missing_file_for_undo"],
            none⟩
      | .error _ => none
      | .ok currentMode =>
          (newMode.toInt intOfText).map fun expected =>
            if (currentMode.toNat : Int) ≠ expected then
              ⟨record.entryId, .requiresFullRestore, blockers ++ [py "current_mode_drift"],
                some currentMode⟩
            else
              ⟨record.entryId, if blockers.isEmpty then .reversibleNow else .notReversible,
                blockers, some currentMode⟩
  | _, _, _ =>
      some ⟨record.entryId, .notReversible, blockers ++ [py "missing_undo_payload"], none⟩

/-- The assessments of the entries in their order, with the fault of each one's `stat`. -/
def assessRecords (intOfText : PyStr → Option Int) (files : FileModes)
    (faults : Nat → Option OSErrorKind) (records : List JournalRecord) :
    Option (List UndoEntryAssessment) :=
  (records.mapIdx fun index record =>
    assessRecord intOfText files (faults index) record).mapM id

/-- The codes of `_global_blockers`. -/
def recordBlockers (status : RepairRunStatus) (records : List JournalRecord)
    (assessments : List UndoEntryAssessment) : List PyStr :=
  (if status = .completed then [] else [py "repair_run_not_stable"]) ++
    (if assessments.isEmpty then [py "no_undoable_entries"] else []) ++
    (if records.any (·.status = .failed) then [py "repair_run_contains_failed_entries"] else [])

/-- A run with its journal as it is stored. -/
structure StoredJournal where
  repairRunId : PyStr
  status : RepairRunStatus
  records : List JournalRecord

/-- `plan`. -/
def planRecords (intOfText : PyStr → Option Int) (files : FileModes)
    (faults : Nat → Option OSErrorKind) (run : StoredJournal) (entryIds : List PyStr) :
    Option UndoPlanResult :=
  let selected := selectRecords run.records entryIds
  (assessRecords intOfText files faults selected).map fun assessments =>
    let blockers := recordBlockers run.status run.records assessments
    ⟨eligibility assessments blockers, blockers, assessments, selected.map (·.entryId)⟩

/-! ## Execution -/

/-- The errors of the calls for one entry. -/
structure ExecutionFaults where
  statBefore : Option OSErrorKind
  chmod : Option OSErrorKind
  statAfter : Option OSErrorKind

/-- What `chmod` takes for a mode; it raises an `OverflowError` for other integers. -/
def isModeArgument (mode : Int) : Bool :=
  -(2 ^ 31) ≤ mode && mode < 2 ^ 31

/-- `_execute_entry`. -/
def executeRecord (intOfText : PyStr → Option Int) (faults : ExecutionFaults)
    (files : FileModes) (record : JournalRecord) : Option (FileModes × UndoExecutionItem) := do
  let pathValue ← record.undoPayload.lookup (py "path")
  let oldValue ← record.undoPayload.lookup (py "old_mode")
  let oldMode ← oldValue.bind (·.toInt intOfText)
  let path := PurePath.parse ((pathValue.map PayloadValue.str).getD (py "None"))
  let failed : UndoExecutionItem := ⟨record.entryId, .failed, none⟩
  match call faults.statBefore (files.statMode path) with
  | .error .other => none
  | .error _ => some (files, failed)
  | .ok _ =>
      if !isModeArgument oldMode then none
      else
        match call faults.chmod (files.setPermissions path (BitVec.ofInt 12 oldMode)) with
        | .error .other => none
        | .error _ => some (files, failed)
        | .ok changed =>
            match call faults.statAfter (changed.statMode path) with
            | .error .other => none
            | .error _ => some (changed, failed)
            | .ok restored => some (changed, ⟨record.entryId, .applied, some restored⟩)

/-- The entries one after the other, in the order of the journal. -/
def executeRecords (intOfText : PyStr → Option Int) (faults : Nat → ExecutionFaults) :
    Nat → FileModes → List JournalRecord → Option (FileModes × List UndoExecutionItem)
  | _, files, [] => some (files, [])
  | index, files, record :: records => do
      let (changed, item) ← executeRecord intOfText (faults index) files record
      let (final, items) ← executeRecords intOfText faults (index + 1) changed records
      some (final, item :: items)

/-- The clock before and after a token is created, the token's id, the digest, the fingerprint
of the files, which both are given, and the errors of the calls. -/
structure UndoConditions where
  digest : PyStr → PyStr
  intOfText : PyStr → Option Int
  tokenId : PyStr
  createdAt : Int
  validatedAt : Int
  fileFingerprint : PyStr
  planFaults : Nat → Option OSErrorKind
  executionFaults : Nat → ExecutionFaults

/-- `execute` with `apply=True`. -/
def executeJournal (conditions : UndoConditions) (files : FileModes) (run : StoredJournal)
    (entryIds : List PyStr) : Option UndoExecutionResult := do
  let plan ← planRecords conditions.intOfText files conditions.planFaults run entryIds
  if plan.eligibility ≠ .reversibleNow then some ⟨files, plan.eligibility, none, []⟩
  else
    let records := selectRecords run.records plan.selectedEntryIds
    let ids := JsonValue.list (records.map fun record => .str record.entryId)
    let dbFingerprint := fingerprintPayload conditions.digest ids
    let scope : JsonValue :=
      .obj [(py "domain", .str (py "repair.undo")), (py "action", .str (py "apply")),
        (py "target_repair_run_id", .str run.repairRunId), (py "selected_entry_ids", ids)]
    let token := createPlanToken conditions.tokenId conditions.createdAt scope dbFingerprint
      conditions.fileFingerprint
    let guard := validatePlanToken conditions.digest conditions.validatedAt token scope
      dbFingerprint conditions.fileFingerprint
    if guard.valid then do
      let (final, items) ← executeRecords conditions.intOfText conditions.executionFaults 0 files
        records
      some ⟨final, plan.eligibility, some (finalStatus items), items⟩
    else some ⟨files, plan.eligibility, some .failed, []⟩

end ImmichDoctor.Repair
