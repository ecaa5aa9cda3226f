import ImmichDoctor.Core.Models
import ImmichDoctor.Remote.SyncRepair
/-!
# Remote sync validation

`RemoteSyncValidationService.run` on a database that can be reached: the checks of the tables,
of the foreign keys of `album_asset` and of the rows without a referenced row. Of the details of
a check only the count of its rows is kept; the samples and the hints are left out.
-/

namespace ImmichDoctor.Remote

open ImmichDoctor.Library
open ImmichDoctor.Core
open ImmichDoctor.Db

/-! ## Checks -/

/-- The check that `validate_connection` returns. -/
def connectionCheck : CheckResult :=
  ⟨py "postgres_connection", .pass, py "PostgreSQL connection established.", []⟩

/-- `_build_scope_boundary_check`. -/
def scopeBoundaryCheck (availableTables : List TableName) : CheckResult where
  name := py "remote_sync_scope_boundary"
  status := .pass
  message :=
    if availableTables.any (·.name = py "remote_album_asset_entity") then
      py ("The reported `SqliteException(787)` / `remote_album_asset_entity` signature " ++
        "still points to a likely client-side mobile app SQLite issue. A same-named " ++
        "table also exists in PostgreSQL and should be reviewed manually.")
    else
      py ("The reported `SqliteException(787)` / `remote_album_asset_entity` signature " ++
        "matches a likely client-side mobile app SQLite issue. This command validates " ++
        "server-side PostgreSQL album/asset link integrity only.")
  details := []

/-- `_build_server_table_checks` for one table. -/
def serverTableCheck (availableTables : List TableName) (tableName : PyStr) : CheckResult :=
  match selectTable availableTables tableName with
  | none =>
      { name := py "server_table_" ++ tableName
        status := .skip
        message := py "Server-side table `" ++ tableName ++
          py ("` was not detected in PostgreSQL. " ++
            "Related album/asset integrity checks cannot run.")
        details := [] }
  | some table =>
      { name := py "server_table_" ++ tableName
        status := .pass
        message := py "Server-side table `" ++ tableName ++ py "` detected at " ++
          qualifiedName table ++ py "."
        details := [] }

/-- `_resolution_check`; the count of keys that matched is left out. -/
def resolutionCheck (name targetLabel : PyStr) (resolution : MappingResolution) : CheckResult :=
  match resolution with
  | .error _ =>
      { name := name
        status := .skip
        message := py "Foreign key discovery for `album_asset` -> `" ++ targetLabel ++
          py "` could not be resolved safely."
        details := [] }
  | .ok mapping =>
      { name := name
        status := .pass
        message := py "Foreign key discovery for `album_asset` -> `" ++ targetLabel ++
          py "` resolved " ++ mapping.sourceColumn ++ py " -> " ++ mapping.targetColumn ++
          py " via `" ++ mapping.constraintName ++ py "`."
        details := [] }

/-- `_orphan_check`. -/
def orphanCheck (sampleLimit : Nat) (name messagePrefix : PyStr) (mapping : ForeignKeyMapping)
    (db : Postgres) : CheckResult :=
  let count := findMissingForeignKeyRows sampleLimit mapping db
  if count = 0 then
    { name := name
      status := .pass
      message := messagePrefix ++ py ": no orphan references found in " ++
        qualifiedName mapping.sourceTable ++ py "."
      details := [(py "count", .int 0)] }
  else
    { name := name
      status := .fail
      message := messagePrefix ++ py ": found " ++ PyStr.decimal count ++
        py " orphan references in " ++ qualifiedName mapping.sourceTable ++ py "."
      details := [(py "count", .int count)] }

/-- The check of the rows of a resolution, or that it was not run. -/
def missingRowsCheck (sampleLimit : Nat) (name messagePrefix targetLabel : PyStr)
    (resolution : MappingResolution) (db : Postgres) : CheckResult :=
  match resolution with
  | .error _ =>
      { name := name
        status := .skip
        message := py "Server-side `album_asset` orphan " ++ targetLabel ++
          py " check was not run because the foreign key to `" ++ targetLabel ++
          py "` could not be resolved safely."
        details := [] }
  | .ok mapping => orphanCheck sampleLimit name messagePrefix mapping db

/-- `_build_server_consistency_checks`. -/
def serverConsistencyChecks (sampleLimit : Nat) (inspection : RemoteSyncInspection)
    (db : Postgres) : List CheckResult :=
  match inspection.albumAssetTable with
  | none =>
      [{ name := py "album_asset_server_consistency"
         status := .skip
         message := py ("Server-side album/asset integrity checks were not run because " ++
           "`album_asset` is missing from PostgreSQL.")
         details := [] }]
  | some albumAssetTable =>
      let foreignKeys := listForeignKeys db albumAssetTable
      [{ name := py "album_asset_fk_metadata"
         status := if foreignKeys.isEmpty then .skip else .pass
         message :=
           if foreignKeys.isEmpty then py "No foreign key metadata was found for `album_asset`."
           else py "Foreign key metadata for `album_asset` was collected."
         details := [(py "count", .int foreignKeys.length)] },
        resolutionCheck (py "album_asset_album_fk_resolution") (py "album")
          inspection.albumResolution,
        resolutionCheck (py "album_asset_asset_fk_resolution") (py "asset")
          inspection.assetResolution,
        missingRowsCheck sampleLimit (py "album_asset_missing_albums")
          (py "Server-side `album_asset` rows with missing albums") (py "album")
          inspection.albumResolution db,
        missingRowsCheck sampleLimit (py "album_asset_missing_assets")
          (py "Server-side `album_asset` rows with missing assets") (py "asset")
          inspection.assetResolution db]

/-! ## Run -/

/-- `_build_summary`. -/
def validationSummary (checks : List CheckResult) : PyStr :=
  if checks.any (·.status = .fail) then
    py "Remote sync validation found server-side PostgreSQL album/asset link issues."
  else if checks.any (·.status = .skip) then
    py ("Remote sync validation completed with partial server-side PostgreSQL coverage. " ++
      "See skipped checks for unresolved schema metadata.")
  else py "Remote sync validation found no server-side PostgreSQL album/asset link issues."

/-- `run`. -/
def validate (access : Access) (db : Postgres) : ValidationReport :=
  let availableTables := listTables access db
  let checks := [connectionCheck, scopeBoundaryCheck availableTables] ++
    [py "album", py "asset", py "album_asset"].map (serverTableCheck availableTables) ++
      serverConsistencyChecks defaultSampleLimit (inspect access db) db
  ⟨validationSummary checks, checks⟩

end ImmichDoctor.Remote
