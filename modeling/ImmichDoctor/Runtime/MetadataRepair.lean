import ImmichDoctor.Repair.Models
/-!
# Repairs of metadata failures

The part of `MetadataFailureRepairService` after its guard: the action of each diagnostic,
the one that changes files, and the journal entry of each. Reasons that only report are
left out, and so are snapshots and post-validation, which change no mode.
-/

namespace ImmichDoctor.Runtime

open ImmichDoctor.Library
open ImmichDoctor.Storage
open ImmichDoctor.Repair

inductive SuggestedAction
  | reportOnly
  | retryJobs
  | requeue
  | fixPermissions
  | quarantineCorrupt
  | markUnrecoverable
  | inspectRuntimeTooling
  | dangerousUnknown
  deriving DecidableEq

def SuggestedAction.value : SuggestedAction → PyStr
  | reportOnly => py "report_only"
  | retryJobs => py "retry_jobs"
  | requeue => py "requeue"
  | fixPermissions => py "fix_permissions"
  | quarantineCorrupt => py "quarantine_corrupt"
  | markUnrecoverable => py "mark_unrecoverable"
  | inspectRuntimeTooling => py "inspect_runtime_tooling"
  | dangerousUnknown => py "dangerous_unknown"

structure MetadataFailureDiagnostic where
  diagnosticId : PyStr
  assetId : PyStr
  suggestedAction : SuggestedAction
  sourcePath : PyStr
  availableActions : List SuggestedAction
  deriving DecidableEq

inductive MetadataRepairStatus
  | planned
  | repaired
  | skipped
  | failed
  deriving DecidableEq

/-- The details hold the modes of a permission fix. -/
structure MetadataRepairAction where
  action : SuggestedAction
  diagnosticId : PyStr
  status : MetadataRepairStatus
  path : PyStr
  applied : Bool
  oldMode : Option FileMode
  newMode : Option FileMode
  deriving DecidableEq

/-- Where an `OSError` other than a missing file leaves a permission fix. -/
inductive FixFault
  | stat
  | chmod
  | statAfter
  deriving DecidableEq

/-- A diagnostic, the id of its journal entry and what goes wrong. -/
structure RepairStep where
  diagnostic : MetadataFailureDiagnostic
  entryId : PyStr
  fault : Option FixFault
  deriving DecidableEq

namespace RepairStep

variable (step : RepairStep)

def path : PurePath :=
  .parse step.diagnostic.sourcePath

def permissionFix (status : MetadataRepairStatus) (oldMode newMode : Option FileMode) :
    MetadataRepairAction where
  action := .fixPermissions
  diagnosticId := step.diagnostic.diagnosticId
  status := status
  path := step.diagnostic.sourcePath
  applied := status = .repaired
  oldMode := oldMode
  newMode := newMode

/-- `_apply_permission_fix`. -/
def applyPermissionFix (files : FileModes) : FileModes × MetadataRepairAction :=
  match files.statMode step.path with
  | none => (files, step.permissionFix .failed none none)
  | some oldMode =>
      match step.fault with
      | some .stat => (files, step.permissionFix .failed none none)
      | some .chmod => (files, step.permissionFix .failed (some oldMode) none)
      | fault =>
          match files.addReadPermissions step.path with
          | none => (files, step.permissionFix .failed (some oldMode) none)
          | some changed =>
              match fault, changed.statMode step.path with
              | none, some newMode =>
                  (changed, step.permissionFix .repaired (some oldMode) (some newMode))
              | _, _ => (changed, step.permissionFix .failed (some oldMode) none)

/-- `_plan_or_apply_action` without the record. -/
def planOrApplyAction (selectedActions : List SuggestedAction) (apply : Bool) (files : FileModes) :
    FileModes × MetadataRepairAction :=
  let without (action : SuggestedAction) (status : MetadataRepairStatus) : MetadataRepairAction :=
    { action := action
      diagnosticId := step.diagnostic.diagnosticId
      status := status
      path := step.diagnostic.sourcePath
      applied := false
      oldMode := none
      newMode := none }
  match step.diagnostic.availableActions.filter (selectedActions.contains ·) with
  | [] => (files, without step.diagnostic.suggestedAction .skipped)
  | action :: _ =>
      if apply then
        if action = .fixPermissions then step.applyPermissionFix files
        else (files, without action .skipped)
      else (files, without action .planned)

/-- The entry `_record_action` appends to the journal. -/
def recordAction (repairRunId : PyStr) (repairAction : MetadataRepairAction) :
    RepairJournalEntry :=
  let undoable := repairAction.action = .fixPermissions ∧ repairAction.applied = true
  { entryId := step.entryId
    repairRunId := repairRunId
    operationType := repairAction.action.value
    status :=
      match repairAction.status with
      | .planned => .planned
      | .repaired => .applied
      | .skipped => .skipped
      | .failed => .failed
    assetId := some step.diagnostic.assetId
    originalPath := some step.diagnostic.sourcePath
    undoType := if undoable then .restorePermissions else .none
    undoPayload :=
      if undoable then
        ⟨some step.diagnostic.sourcePath, repairAction.oldMode, repairAction.newMode⟩
      else ⟨none, none, none⟩ }

end RepairStep

/-- `_final_run_status`. -/
def finalRunStatus (repairActions : List MetadataRepairAction) : RepairRunStatus :=
  if repairActions.any (·.status = .failed) then
    if repairActions.any (·.applied) then .partial_ else .failed
  else .completed

/-- What `run` gives to every diagnostic: the selected actions and whether it applies them. -/
structure RepairOptions where
  repairRunId : PyStr
  selectedActions : List SuggestedAction
  apply : Bool

/-- The loop over the diagnostics. -/
def repairLoop (options : RepairOptions) :
    FileModes → List RepairStep → FileModes × List (MetadataRepairAction × RepairJournalEntry)
  | files, [] => (files, [])
  | files, step :: steps =>
      let (changed, action) := step.planOrApplyAction options.selectedActions options.apply files
      let (final, rest) := repairLoop options changed steps
      (final, (action, step.recordAction options.repairRunId action) :: rest)

/-! ## Selection -/

/-- The flags of a repair that name actions. -/
structure ActionFlags where
  retryJobs : Bool
  requeue : Bool
  fixPermissions : Bool
  quarantineCorrupt : Bool
  markUnrecoverable : Bool

/-- `_selected_actions`. -/
def ActionFlags.selectedActions (flags : ActionFlags) : List SuggestedAction :=
  (if flags.retryJobs then [SuggestedAction.retryJobs] else []) ++
    (if flags.requeue then [SuggestedAction.requeue] else []) ++
    (if flags.fixPermissions then [SuggestedAction.fixPermissions] else []) ++
    (if flags.quarantineCorrupt then [SuggestedAction.quarantineCorrupt] else []) ++
    (if flags.markUnrecoverable then [SuggestedAction.markUnrecoverable] else [])

/-- The actions of a repair; without flags, what its diagnostics suggest. -/
def actionsFor (flags : ActionFlags) (diagnostics : List MetadataFailureDiagnostic) :
    List SuggestedAction :=
  if flags.selectedActions.isEmpty then diagnostics.map (·.suggestedAction)
  else flags.selectedActions

/-- What `run` meets besides its flags. -/
structure MetadataRepairRequest where
  repairRunId : PyStr
  apply : Bool
  diagnosticIds : List PyStr
  /-- The inspected diagnostics. -/
  inspected : List RepairStep
  files : FileModes

namespace MetadataRepairRequest

variable (request : MetadataRepairRequest) (flags : ActionFlags)

/-- `_filter_diagnostics`. -/
def steps : List RepairStep :=
  if request.diagnosticIds.isEmpty then request.inspected
  else request.inspected.filter fun step =>
    request.diagnosticIds.contains step.diagnostic.diagnosticId

def diagnostics : List MetadataFailureDiagnostic :=
  request.steps.map (·.diagnostic)

def options : RepairOptions :=
  ⟨request.repairRunId, actionsFor flags request.diagnostics, request.apply⟩

/-- `repair_actions`. -/
def repairActions : List MetadataRepairAction :=
  (repairLoop (request.options flags) request.files request.steps).2.map (·.1)

/-- The diagnostics with the actions that are planned for them. -/
def planned : List (MetadataFailureDiagnostic × SuggestedAction) :=
  request.diagnostics.zip ((request.repairActions flags).map (·.action))

end MetadataRepairRequest

/-- A run that gets past its guard and its snapshot. -/
structure RepairRun where
  files : FileModes
  status : RepairRunStatus
  journal : List RepairJournalEntry

def repairRun (options : RepairOptions) (files : FileModes) (steps : List RepairStep) : RepairRun :=
  let (final, results) := repairLoop options files steps
  ⟨final, finalRunStatus (results.map (·.1)), results.map (·.2)⟩

end ImmichDoctor.Runtime
