import ImmichDoctor.Db.SchemaDetection
/-!
# Remote sync repair

`RemoteSyncRepairService.run` on a database that can be reached: the foreign keys of
`album_asset` to `asset` and to `album` are resolved, and for each of them the rows without a
referenced row are counted or, with `--apply`, deleted. The checks, the samples and the
validation after a repair are left out; they only read.
-/

namespace ImmichDoctor.Remote

open ImmichDoctor.Library
open ImmichDoctor.Db

/-! ## Inspection -/

structure ForeignKeyMapping where
  constraintName : PyStr
  sourceTable : TableName
  targetTable : TableName
  sourceColumn : PyStr
  targetColumn : PyStr
  deriving DecidableEq

/-- A mapping, or the issue that stands in the way of one. -/
abbrev MappingResolution := Except PyStr ForeignKeyMapping

structure RemoteSyncInspection where
  albumAssetTable : Option TableName
  albumResolution : MappingResolution
  assetResolution : MappingResolution

/-- `_select_table`. -/
def selectTable (availableTables : List TableName) (tableName : PyStr) : Option TableName :=
  availableTables.find? (·.name = tableName)

/-- `_resolve_foreign_key_mapping`. -/
def resolveForeignKeyMapping (foreignKeys : List ForeignKey) (sourceTable : TableName)
    (targetTable : Option TableName) (targetLabel : PyStr) : MappingResolution :=
  match targetTable with
  | none => .error (py "`" ++ targetLabel ++ py "` is missing from PostgreSQL.")
  | some target =>
      match foreignKeys.filter (·.target = target) with
      | [row] =>
          match row.sourceColumns, row.targetColumns with
          | [sourceColumn], [targetColumn] =>
              .ok ⟨row.constraintName, sourceTable, target, sourceColumn, targetColumn⟩
          | _, _ =>
              .error (py "FK `" ++ row.constraintName ++
                py "` is multi-column and outside the safe repair scope.")
      | found =>
          .error (py "Expected exactly one FK from `" ++ sourceTable.name ++ py "` to `" ++
            targetLabel ++ py "`, found " ++ PyStr.decimal found.length ++ py ".")

/-- `inspect`; without `album_asset` the resolutions are the defaults and not looked at. -/
def inspect (access : Access) (db : Postgres) : RemoteSyncInspection :=
  let availableTables := listTables access db
  match selectTable availableTables (py "album_asset") with
  | none => ⟨none, .error (py "None"), .error (py "None")⟩
  | some albumAssetTable =>
      let foreignKeys := listForeignKeys db albumAssetTable
      { albumAssetTable := some albumAssetTable
        albumResolution := resolveForeignKeyMapping foreignKeys albumAssetTable
          (selectTable availableTables (py "album")) (py "album")
        assetResolution := resolveForeignKeyMapping foreignKeys albumAssetTable
          (selectTable availableTables (py "asset")) (py "asset") }

/-! ## Statements -/

/-- Whether the row refers to a row of the target; a null refers to none. -/
def refers (db : Postgres) (mapping : ForeignKeyMapping) (row : Row SqlValue) : Bool :=
  (db.select mapping.targetTable fun ref =>
    (ref.value mapping.targetColumn).isSome &&
      ref.value mapping.targetColumn == row.value mapping.sourceColumn).length ≠ 0

/-- The entries both statements select: those no row of the target is joined to. -/
def missing (db : Postgres) (mapping : ForeignKeyMapping) : List (Entry SqlValue) :=
  db.select mapping.sourceTable fun row => !refers db mapping row

/-- `COUNT(*) OVER()`, read from the first of the rows under the `LIMIT`. -/
def brokenReferenceCount {α : Type} (sampleLimit : Nat) (rows : List α) : Nat :=
  ((rows.take sampleLimit).head?.map fun _ => rows.length).getD 0

/-- `find_missing_foreign_key_rows`. -/
def findMissingForeignKeyRows (sampleLimit : Nat) (mapping : ForeignKeyMapping) (db : Postgres) :
    Nat :=
  brokenReferenceCount sampleLimit (missing db mapping)

/-- `delete_missing_foreign_key_rows`; `none` when the statement is refused. -/
def deleteMissingForeignKeyRows (sampleLimit : Nat) (mapping : ForeignKeyMapping)
    (db : Postgres) : Option (Nat × Postgres) :=
  (db.deleteWhere mapping.sourceTable fun row => !refers db mapping row).map fun deleted =>
    (brokenReferenceCount sampleLimit deleted.1, deleted.2)

/-! ## Plans -/

inductive RepairItemStatus
  | detected
  | planned
  | repaired
  | skipped
  deriving DecidableEq

/-- An item without its samples; the action is always `delete`. -/
structure RepairPlanItem where
  targetTable : PyStr
  reason : PyStr
  keyColumns : List PyStr
  rowCount : Nat
  dryRun : Bool
  applied : Bool
  status : RepairItemStatus
  backupSql : Option PyStr
  deriving DecidableEq

/-- `_sample_columns`. -/
def sampleColumns (primary : ForeignKeyMapping) (secondary : MappingResolution) : List PyStr :=
  match secondary with
  | .error _ => [primary.sourceColumn]
  | .ok mapping =>
      if mapping.sourceColumn = primary.sourceColumn then [primary.sourceColumn]
      else [primary.sourceColumn, mapping.sourceColumn]

/-- `_backup_sql`. -/
def backupSql (mapping : ForeignKeyMapping) : PyStr :=
  py "CREATE TABLE " ++ mapping.sourceTable.name ++ py "_" ++ mapping.sourceColumn ++
    py "_orphan_backup AS SELECT * FROM " ++ qualifiedName mapping.sourceTable ++
    py " AS link WHERE NOT EXISTS (SELECT 1 FROM " ++ qualifiedName mapping.targetTable ++
    py " AS ref WHERE ref." ++ mapping.targetColumn ++ py " = link." ++ mapping.sourceColumn ++
    py ");"

def skippedItem (apply : Bool) (reason : PyStr) : RepairPlanItem where
  targetTable := py "public.album_asset"
  reason := reason
  keyColumns := []
  rowCount := 0
  dryRun := !apply
  applied := false
  status := .skipped
  backupSql := none

/-- `_plan_for_resolution`, with the database it leaves; no item when a statement raises. -/
def planForResolution (sampleLimit : Nat) (resolution paired : MappingResolution) (apply : Bool)
    (reason : PyStr) (db : Postgres) : Option RepairPlanItem × Postgres :=
  match resolution with
  | .error issue =>
      (some (skippedItem apply
        (py "Repair skipped because FK metadata could not be resolved safely: " ++ issue)), db)
  | .ok mapping =>
      let count := findMissingForeignKeyRows sampleLimit mapping db
      let item : RepairPlanItem :=
        { targetTable := qualifiedName mapping.sourceTable
          reason := reason
          keyColumns := sampleColumns mapping paired
          rowCount := count
          dryRun := true
          applied := false
          status := if count = 0 then .detected else .planned
          backupSql := some (backupSql mapping) }
      if !apply then (some item, db)
      else
        match deleteMissingForeignKeyRows sampleLimit mapping db with
        | none => (none, db)
        | some (deleted, after) =>
            (some { item with
                rowCount := deleted
                dryRun := false
                applied := decide (0 < deleted)
                status := if 0 < deleted then .repaired else .detected }, after)

/-- `_build_plans`, with the database they leave. -/
def buildPlans (sampleLimit : Nat) (inspection : RemoteSyncInspection) (apply : Bool)
    (db : Postgres) : Option (List RepairPlanItem) × Postgres :=
  match inspection.albumAssetTable with
  | none =>
      (some [skippedItem apply
        (py "Repair skipped because `album_asset` is missing from PostgreSQL.")], db)
  | some _ =>
      match planForResolution sampleLimit inspection.assetResolution inspection.albumResolution
          apply (py "orphan album_asset rows with missing asset references") db with
      | (none, after) => (none, after)
      | (some assetItem, after) =>
          match planForResolution sampleLimit inspection.albumResolution
              inspection.assetResolution apply
              (py "orphan album_asset rows with missing album references") after with
          | (none, last) => (none, last)
          | (some albumItem, last) => (some [assetItem, albumItem], last)

/-! ## Run -/

/-- The rows that `_build_summary` reports for a dry run. -/
def totalRows (plans : List RepairPlanItem) : Nat :=
  ((plans.filter (·.status ≠ .skipped)).map (·.rowCount)).sum

/-- The rows that `_build_summary` reports for an apply. -/
def repairedRows (plans : List RepairPlanItem) : Nat :=
  ((plans.filter (·.applied)).map (·.rowCount)).sum

/-- `_build_summary`. -/
def buildSummary (plans : List RepairPlanItem) (apply : Bool) : PyStr :=
  if !apply then
    if totalRows plans = 0 then
      py "Remote sync repair dry-run found no orphan album_asset rows to delete."
    else
      py "Remote sync repair dry-run planned deletion of " ++ PyStr.decimal (totalRows plans) ++
        py " orphan album_asset rows."
  else if repairedRows plans = 0 then
    py "Remote sync repair apply mode deleted no album_asset rows."
  else
    py "Remote sync repair deleted " ++ PyStr.decimal (repairedRows plans) ++
      py " orphan album_asset rows."

def defaultSampleLimit : Nat := 5

structure RepairReport where
  summary : PyStr
  plans : List RepairPlanItem

/-- `run`, with the database it leaves; no report when a statement raises. -/
def run (access : Access) (apply : Bool) (db : Postgres) : Option RepairReport × Postgres :=
  match buildPlans defaultSampleLimit (inspect access db) apply db with
  | (none, after) => (none, after)
  | (some plans, after) => (some ⟨buildSummary plans apply, plans⟩, after)

end ImmichDoctor.Remote
