import ImmichDoctor.Repair.Models
/-!
# Repair of a corrupted database

`DbCorruptionRepairService`: the plan that is made of a snapshot of the damage and of
the asset ids an operator selected, and its execution. The texts of a plan row that
only a report shows are left out.
-/

namespace ImmichDoctor.Db

open ImmichDoctor.Library
open ImmichDoctor.Repair

/-! ## The snapshot -/

structure IndexRow where
  schemaName : PyStr
  indexName : PyStr
  deriving DecidableEq

/-- A group of `duplicate_asset_groups`; the candidate rows are given by their ids. -/
structure DuplicateGroup where
  ownerId : PyStr
  checksumHex : PyStr
  candidateIds : List PyStr
  deriving DecidableEq

structure CorruptionSnapshot where
  databaseName : PyStr
  toastDetected : Bool
  invalidSystemIndexes : List IndexRow
  invalidUserIndexes : List IndexRow
  duplicateAssetGroups : List DuplicateGroup

/-! ## The selection -/

structure SelectedGroup where
  group : DuplicateGroup
  userSelectedDeleteIds : List PyStr
  selectedDeleteCount : Nat
  remainingRowCountAfterDelete : Nat
  deriving DecidableEq

structure SelectionState where
  groups : List SelectedGroup
  selectedDeleteIds : List PyStr
  deleteStepAllowed : Bool

def chosenIds (selected : List PyStr) (group : DuplicateGroup) : List PyStr :=
  group.candidateIds.filter fun id => id ∈ selected

def selectedGroup (selected : List PyStr) (group : DuplicateGroup) : SelectedGroup where
  group := group
  userSelectedDeleteIds := chosenIds selected group
  selectedDeleteCount := (chosenIds selected group).length
  remainingRowCountAfterDelete := group.candidateIds.length - (chosenIds selected group).length

/-- What a group makes of `delete_allowed`. -/
def allowDelete (selected : List PyStr) (deleteAllowed : Bool) (group : DuplicateGroup) : Bool :=
  let chosen := chosenIds selected group
  let remaining := group.candidateIds.length - chosen.length
  let allowed := if chosen ≠ [] ∧ 1 ≤ remaining then true else deleteAllowed
  if chosen ≠ [] ∧ remaining < 1 then false else allowed

/-- `_selection_state`. -/
def selectionState (duplicateGroups : List DuplicateGroup) (selected : List PyStr) :
    SelectionState :=
  let deleteAllowed := duplicateGroups.foldl (allowDelete selected) selected.isEmpty
  let deleteAllowed := if selected ≠ [] ∧ duplicateGroups = [] then false else deleteAllowed
  { groups := duplicateGroups.map (selectedGroup selected)
    selectedDeleteIds := selected
    deleteStepAllowed := !selected.isEmpty && deleteAllowed }

/-! ## The plan -/

inductive StepKey
  | clearPgStatistic
  | reindexSystem
  | analyzeDatabase
  | reindexInvalidUserIndex (index : IndexRow)
  | presentDuplicateAssetGroups
  | deleteDuplicateAssets
  | reindexDatabase
  | verify
  deriving DecidableEq

inductive ExecutionState
  | execute
  | blocked
  | review
  deriving DecidableEq

structure PlanStep where
  stepKey : StepKey
  sqlPreview : Option PyStr
  executionState : ExecutionState
  deriving DecidableEq

structure RepairOptions where
  systemIndexDuplicateErrorText : Option PyStr
  highRiskClearPgStatisticApproval : Bool
  forceReindexDatabase : Bool

/-- `', '.join(f"'{item}'" for item in items)`. -/
def quotedIds (ids : List PyStr) : PyStr :=
  (py ", ").intercalate (ids.map fun id => py "'" ++ id ++ py "'")

/-- `_delete_sql_preview`. -/
def deleteSqlPreview (selectedDeleteIds : List PyStr) : PyStr :=
  py "DELETE FROM public.asset WHERE id IN (" ++ quotedIds selectedDeleteIds ++ py ");"

/-- The steps for the system catalog. -/
def systemSteps (snapshot : CorruptionSnapshot) (options : RepairOptions) : List PlanStep :=
  let clearAvailable :=
    snapshot.toastDetected && !(options.systemIndexDuplicateErrorText.getD []).blank
  if snapshot.toastDetected ∨ snapshot.invalidSystemIndexes ≠ [] then
    (if clearAvailable then
      [{ stepKey := .clearPgStatistic
         sqlPreview := some (py "DELETE FROM pg_catalog.pg_statistic;")
         executionState :=
           if options.highRiskClearPgStatisticApproval then .execute else .blocked : PlanStep }]
    else []) ++
    [{ stepKey := .reindexSystem
       sqlPreview := some (py "REINDEX SYSTEM " ++ snapshot.databaseName ++ py ";")
       executionState := .execute },
      { stepKey := .analyzeDatabase
        sqlPreview := some (py "ANALYZE;")
        executionState := .execute }]
  else []

def userIndexStep (index : IndexRow) : PlanStep where
  stepKey := .reindexInvalidUserIndex index
  sqlPreview :=
    some (py "REINDEX INDEX " ++ index.schemaName ++ py "." ++ index.indexName ++ py ";")
  executionState := .execute

/-- The steps for the duplicate assets. -/
def duplicateSteps (snapshot : CorruptionSnapshot) (selection : SelectionState) : List PlanStep :=
  if snapshot.duplicateAssetGroups ≠ [] then
    { stepKey := .presentDuplicateAssetGroups, sqlPreview := none, executionState := .review } ::
    (if selection.deleteStepAllowed then
      [{ stepKey := .deleteDuplicateAssets
         sqlPreview := some (deleteSqlPreview selection.selectedDeleteIds)
         executionState := .execute }]
    else [])
  else []

def databaseSteps (snapshot : CorruptionSnapshot) (options : RepairOptions) : List PlanStep :=
  if options.forceReindexDatabase ∨ snapshot.invalidUserIndexes ≠ [] then
    [{ stepKey := .reindexDatabase
       sqlPreview := some (py "REINDEX DATABASE " ++ snapshot.databaseName ++ py ";")
       executionState := .execute }]
  else []

/-- `_plan_rows`; the number of a step is its position, from 1. -/
def planRows (snapshot : CorruptionSnapshot) (selection : SelectionState)
    (options : RepairOptions) : List PlanStep :=
  systemSteps snapshot options ++ snapshot.invalidUserIndexes.map userIndexStep ++
    duplicateSteps snapshot selection ++ databaseSteps snapshot options ++
    [{ stepKey := .verify, sqlPreview := none, executionState := .review }]

/-! ## Execution -/

inductive Statement
  | sql (text : PyStr)
  /-- `DELETE FROM public.asset WHERE id = ANY(ids) RETURNING *`. -/
  | deleteAssets (ids : List PyStr)
  deriving DecidableEq

/-- `_execute_step`: the statement of a step; without values nothing is deleted. -/
def executeStep (step : PlanStep) (selectedDeleteIds : List PyStr) : Option Statement :=
  match step.stepKey with
  | .clearPgStatistic => some (.sql (py "DELETE FROM pg_catalog.pg_statistic;"))
  | .analyzeDatabase => some (.sql (py "ANALYZE;"))
  | .reindexSystem | .reindexInvalidUserIndex _ | .reindexDatabase =>
      some (.sql (step.sqlPreview.getD (py "None")))
  | .deleteDuplicateAssets =>
      if selectedDeleteIds = [] then none else some (.deleteAssets selectedDeleteIds)
  | .presentDuplicateAssetGroups | .verify => none

/-- What `_apply_plan` leaves behind. -/
structure AppliedPlan (σ : Type) where
  database : σ
  statements : List Statement
  status : RepairRunStatus

/-- The loop of `_apply_plan`; a statement that fails changes nothing and ends it. -/
def applySteps {σ : Type} (run : σ → Statement → Option σ) (selectedDeleteIds : List PyStr) :
    AppliedPlan σ → List PlanStep → AppliedPlan σ
  | applied, [] => applied
  | applied, step :: rest =>
      if step.executionState ≠ .execute then applySteps run selectedDeleteIds applied rest
      else
        match executeStep step selectedDeleteIds with
        | none => applySteps run selectedDeleteIds applied rest
        | some statement =>
            match run applied.database statement with
            | none =>
                { applied with
                  status := if applied.statements = [] then .failed else .partial_ }
            | some database =>
                applySteps run selectedDeleteIds
                  { applied with
                    database := database
                    statements := applied.statements ++ [statement] } rest

/-- `apply` behind its guards: the selection is made again from the snapshot. -/
def applyPlan {σ : Type} (run : σ → Statement → Option σ) (database : σ)
    (snapshot : CorruptionSnapshot) (selectedDeleteIds : List PyStr) (options : RepairOptions) :
    AppliedPlan σ :=
  let selection := selectionState snapshot.duplicateAssetGroups selectedDeleteIds
  applySteps run selection.selectedDeleteIds ⟨database, [], .completed⟩
    (planRows snapshot selection options)

end ImmichDoctor.Db
