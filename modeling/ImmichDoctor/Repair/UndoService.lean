import ImmichDoctor.Repair.Guards
import ImmichDoctor.Repair.Models
/-!
# Undo of repair runs

`RepairUndoService`: which journal entries can be undone, and the undo of those that are
selected. Messages that only report are left out.
-/

namespace ImmichDoctor.Repair

open ImmichDoctor.Library
open ImmichDoctor.Storage

inductive UndoEligibility
  | reversibleNow
  | partiallyReversible
  | notReversible
  | requiresFullRestore
  deriving DecidableEq

structure UndoEntryAssessment where
  entryId : PyStr
  eligibility : UndoEligibility
  /-- The codes of the blockers. -/
  blockers : List PyStr
  currentMode : Option FileMode
  deriving DecidableEq

/-- `value or other` of an optional text. -/
def orElseText (value other : Option PyStr) : Option PyStr :=
  match value with
  | some (c :: text) => some (c :: text)
  | _ => other

/-! ## Planning -/

/-- `_select_entries`. -/
def selectEntries (entries : List RepairJournalEntry) (entryIds : List PyStr) :
    List RepairJournalEntry :=
  if entryIds.isEmpty then entries.filter (·.undoType ≠ .none)
  else entries.filter fun entry => entryIds.contains entry.entryId

/-- `_assess_entry`. -/
def assessEntry (files : FileModes) (entry : RepairJournalEntry) : UndoEntryAssessment :=
  let blockers :=
    (if entry.status = .applied then [] else [py "entry_not_applied"]) ++
      (if entry.undoType = .restorePermissions then [] else [py "unsupported_undo_type"])
  match orElseText entry.undoPayload.path entry.originalPath, entry.undoPayload.oldMode,
    entry.undoPayload.newMode with
  | some (c :: text), some _, some newMode =>
      match files.statMode (.parse (c :: text)) with
      | none =>
          ⟨entry.entryId, .requiresFullRestore, blockers ++ [py "missing_file_for_undo"], none⟩
      | some currentMode =>
          if currentMode ≠ newMode then
            ⟨entry.entryId, .requiresFullRestore, blockers ++ [py "current_mode_drift"],
              some currentMode⟩
          else
            ⟨entry.entryId, if blockers.isEmpty then .reversibleNow else .notReversible, blockers,
              some currentMode⟩
  | _, _, _ => ⟨entry.entryId, .notReversible, blockers ++ [py "missing_undo_payload"], none⟩

/-- The codes of `_global_blockers`. -/
def globalBlockers (status : RepairRunStatus) (entries : List RepairJournalEntry)
    (assessments : List UndoEntryAssessment) : List PyStr :=
  (if status = .completed then [] else [py "repair_run_not_stable"]) ++
    (if assessments.isEmpty then [py "no_undoable_entries"] else []) ++
    (if entries.any (·.status = .failed) then [py "repair_run_contains_failed_entries"] else [])

/-- `_eligibility`. -/
def eligibility (assessments : List UndoEntryAssessment) (blockers : List PyStr) :
    UndoEligibility :=
  if !blockers.isEmpty then .requiresFullRestore
  else if assessments.isEmpty then .notReversible
  else if assessments.all (·.eligibility = .reversibleNow) then .reversibleNow
  else if assessments.any (·.eligibility = .requiresFullRestore) then .requiresFullRestore
  else if assessments.any (·.eligibility = .notReversible) then .notReversible
  else .partiallyReversible

structure UndoPlanResult where
  eligibility : UndoEligibility
  blockers : List PyStr
  entryAssessments : List UndoEntryAssessment
  selectedEntryIds : List PyStr

/-- A run as it is stored with its journal. -/
structure StoredRun where
  repairRunId : PyStr
  status : RepairRunStatus
  journal : List RepairJournalEntry

/-- `plan`. -/
def undoPlan (files : FileModes) (run : StoredRun) (entryIds : List PyStr) : UndoPlanResult :=
  let selected := selectEntries run.journal entryIds
  let assessments := selected.map (assessEntry files)
  let blockers := globalBlockers run.status run.journal assessments
  ⟨eligibility assessments blockers, blockers, assessments, selected.map (·.entryId)⟩

/-! ## Execution -/

inductive UndoExecutionStatus
  | planned
  | applied
  | skipped
  | failed
  deriving DecidableEq

structure UndoExecutionItem where
  entryId : PyStr
  status : UndoExecutionStatus
  restoredMode : Option FileMode
  deriving DecidableEq

/-- `_execute_entry`; `denied` says whether the file's `chmod` raises a `PermissionError`. -/
def executeEntry (denied : RepairJournalEntry → Bool) (files : FileModes)
    (entry : RepairJournalEntry) : FileModes × UndoExecutionItem :=
  let failed : FileModes × UndoExecutionItem := (files, ⟨entry.entryId, .failed, none⟩)
  match entry.undoPayload.path, entry.undoPayload.oldMode with
  | some text, some oldMode =>
      if denied entry then failed
      else match files.setPermissions (.parse text) oldMode with
        | none => failed
        | some restored => (restored, ⟨entry.entryId, .applied, restored.statMode (.parse text)⟩)
  | _, _ => failed

/-- The entries one after the other, in the order of the journal. -/
def executeEntries (denied : RepairJournalEntry → Bool) :
    FileModes → List RepairJournalEntry → FileModes × List UndoExecutionItem
  | files, [] => (files, [])
  | files, entry :: entries =>
      let (changed, item) := executeEntry denied files entry
      let (final, items) := executeEntries denied changed entries
      (final, item :: items)

/-- `_final_status`. -/
def finalStatus (items : List UndoExecutionItem) : RepairRunStatus :=
  if items.any (·.status = .failed) then
    if items.any (·.status = .applied) then .partial_ else .failed
  else .completed

/-- The clock before and after a token is created, the token's id and the digest. -/
structure UndoContext where
  digest : PyStr → PyStr
  tokenId : PyStr
  createdAt : Int
  validatedAt : Int
  denied : RepairJournalEntry → Bool

structure UndoExecutionResult where
  files : FileModes
  eligibility : UndoEligibility
  /-- The status of the undo run; there is none unless the undo is executed. -/
  status : Option RepairRunStatus
  items : List UndoExecutionItem

def modeJson : Option FileMode → JsonValue
  | none => .null
  | some mode => .int mode.toNat

/-- `_file_state_payload`. -/
def fileStatePayload (files : FileModes) (entry : RepairJournalEntry) : JsonValue :=
  let path : PurePath :=
    .parse ((orElseText (orElseText entry.undoPayload.path entry.originalPath) none).getD [])
  .obj [(py "entry_id", .str entry.entryId), (py "path", .str path.text),
    (py "current_mode", modeJson (files.statMode path)),
    (py "expected_new_mode", modeJson entry.undoPayload.newMode)]

/-- `execute` with `apply=True`. -/
def executeUndo (context : UndoContext) (files : FileModes) (run : StoredRun)
    (entryIds : List PyStr) : UndoExecutionResult :=
  let plan := undoPlan files run entryIds
  if plan.eligibility ≠ .reversibleNow then ⟨files, plan.eligibility, none, []⟩
  else
    let entries := selectEntries run.journal plan.selectedEntryIds
    let ids := JsonValue.list (entries.map fun entry => .str entry.entryId)
    let dbFingerprint := fingerprintPayload context.digest ids
    let fileFingerprint :=
      fingerprintPayload context.digest (.list (entries.map (fileStatePayload files)))
    let scope : JsonValue :=
      .obj [(py "domain", .str (py "repair.undo")), (py "action", .str (py "apply")),
        (py "target_repair_run_id", .str run.repairRunId), (py "selected_entry_ids", ids)]
    let token := createPlanToken context.tokenId context.createdAt scope dbFingerprint
      fileFingerprint
    let guard := validatePlanToken context.digest context.validatedAt token scope dbFingerprint
      fileFingerprint
    if guard.valid then
      let (final, items) := executeEntries context.denied files entries
      ⟨final, plan.eligibility, some (finalStatus items), items⟩
    else ⟨files, plan.eligibility, some .failed, []⟩

end ImmichDoctor.Repair
