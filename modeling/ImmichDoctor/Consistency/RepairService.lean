import ImmichDoctor.Db.SchemaDetection
import Mathlib.Data.List.ReduceOption
/-!
# Consistency repair

`ConsistencyRepairService.run` on a database that can be reached: the findings of the
collector, their selection, and one guarded delete for each finding that is safe to delete.
Other writers may be at work before any statement. Checks, summaries and the validation after
a repair are left out; they only read.
-/

namespace ImmichDoctor.Consistency

open ImmichDoctor.Library
open ImmichDoctor.Db

/-! ## Categories and findings -/

inductive ConsistencyRepairMode
  | safeDelete
  | inspectOnly
  deriving DecidableEq

/-- `ALL_CATEGORIES`. -/
inductive ConsistencyCategory
  | missingAsset
  | missingAlbum
  | missingPreviewPath
  | missingThumbnailPath
  deriving DecidableEq

def ConsistencyCategory.name : ConsistencyCategory → PyStr
  | missingAsset => py "db.orphan.album_asset.missing_asset"
  | missingAlbum => py "db.orphan.album_asset.missing_album"
  | missingPreviewPath => py "db.asset_file.path_missing.preview"
  | missingThumbnailPath => py "db.asset_file.path_missing.thumbnail"

/-- The repair mode of `CATEGORY_SPECS`. -/
def ConsistencyCategory.repairMode : ConsistencyCategory → ConsistencyRepairMode
  | missingAsset | missingAlbum => .safeDelete
  | missingPreviewPath | missingThumbnailPath => .inspectOnly

/-- `SAFE_DELETE_CATEGORIES`. -/
def safeDeleteCategories : List PyStr :=
  [ConsistencyCategory.name .missingAsset, ConsistencyCategory.name .missingAlbum]

structure ConsistencyFinding where
  category : ConsistencyCategory
  findingId : PyStr
  affectedPaths : List PyStr
  keyFields : List (PyStr × PyStr)
  sampleMetadata : Row SqlValue
  rowCount : Nat
  deriving DecidableEq

/-- `str` of what a query loads; a null is `None`. -/
def loadedStr : Option SqlValue → PyStr
  | none => py "None"
  | some value => value.str

/-! ## Queries -/

/-- Whether no row of the target has the value as its id; a null is no id. -/
def lacksTarget (db : Postgres) (target : TableName) (value : Option SqlValue) : Bool :=
  (db.select target fun row =>
    (row.value (py "id")).isSome && row.value (py "id") == value).isEmpty

/-- The column by which a link names the missing target. -/
def targetColumn (target : TableName) (assetReferenceColumn : PyStr) : PyStr :=
  if target = assetTable then assetReferenceColumn else py "albumId"

/-- A column in the order of `ASC`: a null comes last. -/
def nullsLast (value : Option SqlValue) : WithTop PyStr :=
  value.map SqlValue.str

def keyOrder (a b : Option SqlValue × Option SqlValue) : Prop :=
  nullsLast a.1 < nullsLast b.1 ∨ nullsLast a.1 = nullsLast b.1 ∧ nullsLast a.2 ≤ nullsLast b.2

instance : DecidableRel keyOrder :=
  fun a b => inferInstanceAs (Decidable (nullsLast a.1 < nullsLast b.1 ∨
    nullsLast a.1 = nullsLast b.1 ∧ nullsLast a.2 ≤ nullsLast b.2))

/-- Whether the table has the columns that a query names; without them the query raises. -/
def hasColumns (db : Postgres) (table : TableName) (columns : List PyStr) : Bool :=
  columns.all ((db.tables.lookup table).getD []).contains

/-- The keys of the links without their target, with the number of their rows. -/
def groupedOrphans (db : Postgres) (target : TableName) (assetReferenceColumn : PyStr) :
    List ((Option SqlValue × Option SqlValue) × Nat) :=
  let column := targetColumn target assetReferenceColumn
  let keys := (db.select albumAssetTable fun row =>
      (row.value column).isSome && lacksTarget db target (row.value column)).map fun entry =>
    (entry.row.value (py "albumId"), entry.row.value assetReferenceColumn)
  (keys.eraseDups.insertionSort keyOrder).map fun key => (key, keys.count key)

/-- `list_grouped_album_asset_orphans`. -/
def listGroupedAlbumAssetOrphans (db : Postgres) (target : TableName)
    (assetReferenceColumn : PyStr) :
    Option (List ((Option SqlValue × Option SqlValue) × Nat)) :=
  if hasColumns db albumAssetTable [py "albumId", assetReferenceColumn] &&
      hasColumns db target [py "id"] then
    some (groupedOrphans db target assetReferenceColumn)
  else none

def assetFileTable : TableName :=
  ⟨py "public", py "asset_file"⟩

/-- `list_asset_files_by_type`. -/
def listAssetFilesByType (db : Postgres) (fileType : PyStr) : Option Rows :=
  if hasColumns db assetFileTable [py "id", py "assetId", py "type", py "path"] then
    some (((db.select assetFileTable (columnIs (py "type") fileType)).map (·.row)).insertionSort
      fun a b => loadedStr (a.value (py "id")) ≤ loadedStr (b.value (py "id")))
  else none

/-- `delete_album_asset_rows_by_keys`. The columns of the keys read any text that stands for a
value of theirs, and `None` where it is text to them; with another text the statement is an
error, as it is when it is refused. -/
def deleteAlbumAssetRowsByKeys (noneIsText : Bool) (albumId assetId : PyStr)
    (target : TableName) (assetReferenceColumn : PyStr) (db : Postgres) :
    Option (Nat × Postgres) :=
  if !noneIsText && (albumId = py "None" || assetId = py "None") then none
  else
    (db.deleteWhere albumAssetTable fun row =>
      columnIs (py "albumId") albumId row && columnIs assetReferenceColumn assetId row &&
        lacksTarget db target (row.value (targetColumn target assetReferenceColumn))).map
      fun deleted => (deleted.1.length, deleted.2)

/-! ## Collector -/

/-- `album_asset_asset_reference_column`. -/
def assetReferenceColumnOf (access : Access) (db : Postgres) : Option PyStr :=
  let columns :=
    if albumAssetTable ∈ listTables access db then listColumns access db albumAssetTable
    else []
  if py "assetId" ∈ columns ∧ py "assetsId" ∉ columns then some (py "assetId")
  else if py "assetsId" ∈ columns ∧ py "assetId" ∉ columns then some (py "assetsId")
  else none

/-- Whether the schema has what the validator needs: `can_validate_album_asset_missing_asset`,
with which the support status is neither unsupported nor a partial migration. -/
def canValidate (access : Access) (db : Postgres) : Bool :=
  [assetTable, albumTable, albumAssetTable].all (listTables access db).contains &&
    (listColumns access db albumAssetTable).contains (py "albumId") &&
    (assetReferenceColumnOf access db).isSome

def orphanFinding (category : ConsistencyCategory) (label assetReferenceColumn : PyStr)
    (found : (Option SqlValue × Option SqlValue) × Nat) : ConsistencyFinding where
  category := category
  findingId := py "album_asset:" ++ label ++ py ":" ++ loadedStr found.1.1 ++ py ":" ++
    loadedStr found.1.2
  affectedPaths := []
  keyFields := [(py "albumId", loadedStr found.1.1), (py "assetId", loadedStr found.1.2)]
  sampleMetadata := [(py "albumId", found.1.1), (py "assetId", found.1.2),
    (py "assetReferenceColumn", some (.text assetReferenceColumn))]
  rowCount := found.2

/-- `_collect_album_asset_missing_asset_findings`. -/
def collectMissingAssetFindings (db : Postgres) (assetReferenceColumn : PyStr) :
    Option (List ConsistencyFinding) :=
  (listGroupedAlbumAssetOrphans db assetTable assetReferenceColumn).map
    (List.map (orphanFinding .missingAsset (py "missing_asset") assetReferenceColumn))

/-- `_collect_album_asset_missing_album_findings`. -/
def collectMissingAlbumFindings (db : Postgres) (assetReferenceColumn : PyStr) :
    Option (List ConsistencyFinding) :=
  (listGroupedAlbumAssetOrphans db albumTable assetReferenceColumn).map
    (List.map (orphanFinding .missingAlbum (py "missing_album") assetReferenceColumn))

def assetFileFinding (category : ConsistencyCategory) (fileType : PyStr) (row : Row SqlValue) :
    ConsistencyFinding :=
  let path := loadedStr (row.value (py "path"))
  { category := category
    findingId := py "asset_file:path_missing:" ++ fileType ++ py ":" ++
      loadedStr (row.value (py "id"))
    affectedPaths := [path]
    keyFields := [(py "asset_file_id", loadedStr (row.value (py "id")))]
    sampleMetadata := [(py "id", row.value (py "id")), (py "assetId", row.value (py "assetId")),
      (py "path", some (.text path)), (py "type", row.value (py "type"))]
    rowCount := 1 }

/-- `_collect_asset_file_path_findings`; `none` when the query or looking for a path raises. -/
def collectAssetFilePathFindings (pathExists : PyStr → Option Bool) (db : Postgres)
    (category : ConsistencyCategory) (fileType : PyStr) : Option (List ConsistencyFinding) := do
  let rows ← listAssetFilesByType db fileType
  let found ← rows.mapM fun row =>
    (pathExists (loadedStr (row.value (py "path")))).map fun found =>
      if found then none else some (assetFileFinding category fileType row)
  return found.reduceOption

/-- The database as the queries of the collector find it. -/
structure CollectorViews where
  schema : Postgres
  missingAsset : Postgres
  missingAlbum : Postgres
  preview : Postgres
  thumbnail : Postgres

structure CollectedConsistencyState where
  findings : List ConsistencyFinding
  profileSupported : Bool
  deriving DecidableEq

/-- `collect`; `none` when it raises. -/
def collect (access : Access) (pathExists : PyStr → Option Bool) (views : CollectorViews) :
    Option CollectedConsistencyState :=
  match assetReferenceColumnOf access views.schema with
  | none => some ⟨[], false⟩
  | some column =>
      if !canValidate access views.schema then some ⟨[], false⟩
      else do
        let missingAssets ← collectMissingAssetFindings views.missingAsset column
        let missingAlbums ← collectMissingAlbumFindings views.missingAlbum column
        let previews ← collectAssetFilePathFindings pathExists views.preview .missingPreviewPath
          (py "preview")
        let thumbnails ← collectAssetFilePathFindings pathExists views.thumbnail
          .missingThumbnailPath (py "thumbnail")
        some ⟨missingAssets ++ missingAlbums ++ previews ++ thumbnails, true⟩

/-! ## Selection -/

structure RepairRequest where
  categories : List PyStr
  findingIds : List PyStr
  allSafe : Bool
  apply : Bool

/-- `_resolve_selected_categories`. -/
def resolveSelectedCategories (categories : List PyStr) (allSafe : Bool) : List PyStr :=
  if allSafe then (categories ++ safeDeleteCategories).eraseDups else categories.eraseDups

/-- `_select_findings`. -/
def selectFindings (findings : List ConsistencyFinding)
    (selectedCategories selectedIds : List PyStr) : List ConsistencyFinding :=
  if selectedCategories.isEmpty && selectedIds.isEmpty then []
  else findings.filter fun finding =>
    selectedCategories.contains finding.category.name || selectedIds.contains finding.findingId

/-- The findings of each category, in the order in which the categories first occur. -/
def groupedFindings (findings : List ConsistencyFinding) :
    List (ConsistencyCategory × List ConsistencyFinding) :=
  (findings.map (·.category)).eraseDups.map fun category =>
    (category, findings.filter (·.category = category))

/-! ## Actions -/

inductive ConsistencyRepairStatus
  | skipped
  | wouldRepair
  | repaired
  deriving DecidableEq

structure ConsistencyRepairAction where
  category : PyStr
  repairMode : ConsistencyRepairMode
  status : ConsistencyRepairStatus
  message : PyStr
  targetTable : Option PyStr
  findingIds : List PyStr
  rowCount : Nat
  sampleFindings : List ConsistencyFinding
  dryRun : Bool
  applied : Bool
  backupSql : Option PyStr
  deriving DecidableEq

def skippedAction (category message : PyStr) (apply : Bool) : ConsistencyRepairAction where
  category := category
  repairMode := .inspectOnly
  status := .skipped
  message := message
  targetTable := none
  findingIds := []
  rowCount := 0
  sampleFindings := []
  dryRun := !apply
  applied := false
  backupSql := none

/-- `_asset_reference_column`. -/
def assetReferenceColumn (findings : List ConsistencyFinding) : Option PyStr :=
  findings.findSome? fun finding =>
    (finding.sampleMetadata.value (py "assetReferenceColumn")).bind fun value =>
      if value.str.isEmpty then none else some value.str

/-- The table a link of the category lacks a row of. -/
def missingTargetTable (category : ConsistencyCategory) : TableName :=
  if category = .missingAsset then assetTable else albumTable

/-- `_backup_sql`. -/
def backupSql (category : ConsistencyCategory) (column : Option PyStr) : PyStr :=
  if category = .missingAsset ∧ column = none then
    py ("-- immich-doctor could not derive the album_asset asset reference column " ++
      "for backup SQL generation")
  else
    py ("CREATE TABLE album_asset_orphan_backup AS SELECT * FROM public.album_asset AS link " ++
      "WHERE NOT EXISTS (SELECT 1 FROM ") ++ qualifiedName (missingTargetTable category) ++
      py " AS target WHERE target.id = link.\"" ++
      targetColumn (missingTargetTable category) (column.getD []) ++ py "\");"

/-- A statement of a repair: the finding it is for, the database it finds and the one it
leaves, `none` when it is an error. -/
structure DeleteStep where
  finding : ConsistencyFinding
  before : Postgres
  after : Option Postgres

/-- `_delete_finding`. -/
def deleteFinding (noneIsText : Bool) (column : Option PyStr) (finding : ConsistencyFinding)
    (db : Postgres) : Option (Nat × Postgres) := do
  let referenceColumn ← column
  let albumId ← finding.keyFields.lookup (py "albumId")
  let assetId ← finding.keyFields.lookup (py "assetId")
  deleteAlbumAssetRowsByKeys noneIsText albumId assetId (missingTargetTable finding.category)
    referenceColumn db

/-- What has been done, with the number of statements so far as the clock of other writers. -/
structure RepairProgress where
  steps : List DeleteStep
  database : Postgres

/-- The deletes for the findings of a category, up to the first that is an error; the count is
`none` then. -/
def deleteFindings (noneIsText : Bool) (others : Nat → Postgres → Postgres)
    (column : Option PyStr) : List ConsistencyFinding → RepairProgress → Option Nat × RepairProgress
  | [], progress => (some 0, progress)
  | finding :: findings, progress =>
      let before := others progress.steps.length progress.database
      match deleteFinding noneIsText column finding before with
      | none => (none, ⟨progress.steps ++ [⟨finding, before, none⟩], before⟩)
      | some (count, after) =>
          let rest := deleteFindings noneIsText others column findings
            ⟨progress.steps ++ [⟨finding, before, some after⟩], after⟩
          (rest.1.map (count + ·), rest.2)

def sampleLimit : Nat := 3

/-- The action for the findings of a category; none when a statement is an error. -/
def categoryAction (noneIsText : Bool) (others : Nat → Postgres → Postgres) (apply : Bool)
    (category : ConsistencyCategory) (findings : List ConsistencyFinding)
    (progress : RepairProgress) : Option ConsistencyRepairAction × RepairProgress :=
  let column := assetReferenceColumn findings
  let action : ConsistencyRepairAction :=
    { category := category.name
      repairMode := category.repairMode
      status := .skipped
      message := py "Selected findings matched inspect-only category `" ++ category.name ++
        py "`. No mutation is allowed in this step."
      targetTable := none
      findingIds := findings.map (·.findingId)
      rowCount := (findings.map (·.rowCount)).sum
      sampleFindings := findings.take sampleLimit
      dryRun := !apply
      applied := false
      backupSql := none }
  match category.repairMode, apply with
  | .inspectOnly, _ => (some action, progress)
  | .safeDelete, false =>
      (some { action with
        status := .wouldRepair
        message := py "Dry-run would repair category `" ++ category.name ++ py "`."
        targetTable := some (py "public.album_asset")
        backupSql := some (backupSql category column) }, progress)
  | .safeDelete, true =>
      let deleted := deleteFindings noneIsText others column findings progress
      (deleted.1.map fun count =>
        { action with
          status := .repaired
          message := py "Repaired selected findings in category `" ++ category.name ++ py "`."
          targetTable := some (py "public.album_asset")
          rowCount := count
          applied := decide (0 < count)
          backupSql := some (backupSql category column) }, deleted.2)

/-- The actions for all categories, up to the first that raises. -/
def categoryActions (noneIsText : Bool) (others : Nat → Postgres → Postgres) (apply : Bool) :
    List (ConsistencyCategory × List ConsistencyFinding) → RepairProgress →
      Option (List ConsistencyRepairAction) × RepairProgress
  | [], progress => (some [], progress)
  | (category, findings) :: groups, progress =>
      match categoryAction noneIsText others apply category findings progress with
      | (none, stopped) => (none, stopped)
      | (some action, next) =>
          let rest := categoryActions noneIsText others apply groups next
          (rest.1.map (action :: ·), rest.2)

/-- `_build_actions`. -/
def buildActions (noneIsText : Bool) (others : Nat → Postgres → Postgres)
    (findings : List ConsistencyFinding) (selectedCategories selectedIds : List PyStr)
    (apply profileSupported : Bool) (progress : RepairProgress) :
    Option (List ConsistencyRepairAction) × RepairProgress :=
  if !profileSupported then
    (some [skippedAction (py "schema.unsupported")
      (py ("Repair skipped because the current PostgreSQL schema is unsupported " ++
        "for the consistency framework.")) apply], progress)
  else if selectedCategories.isEmpty && selectedIds.isEmpty then
    (some [skippedAction (py "selection.none")
      (py ("No repair selectors provided. Use --category, --id, or --all-safe " ++
        "to choose findings.")) apply], progress)
  else if findings.isEmpty then
    (some [skippedAction (py "selection.empty")
      (py "No findings matched the selected categories or IDs.") apply], progress)
  else categoryActions noneIsText others apply (groupedFindings findings) progress

/-! ## Run -/

/-- What a repair meets: the findings it collects, the statements it makes meanwhile other
writers are at work, and the database at the first of them. -/
structure RepairEnvironment where
  access : Access
  pathExists : PyStr → Option Bool
  views : CollectorViews
  noneIsText : Bool
  /-- What the other writers do before the statement with this number. -/
  others : Nat → Postgres → Postgres
  database : Postgres

/-- The findings that a request selects. -/
def selectedOf (environment : RepairEnvironment) (request : RepairRequest) :
    List ConsistencyFinding :=
  match collect environment.access environment.pathExists environment.views with
  | none => []
  | some collected =>
      selectFindings collected.findings
        (resolveSelectedCategories request.categories request.allSafe) request.findingIds

/-- `run`, with what it does; no actions when it raises. -/
def repair (environment : RepairEnvironment) (request : RepairRequest) :
    Option (List ConsistencyRepairAction) × RepairProgress :=
  match collect environment.access environment.pathExists environment.views with
  | none => (none, ⟨[], environment.database⟩)
  | some collected =>
      let selectedCategories := resolveSelectedCategories request.categories request.allSafe
      buildActions environment.noneIsText environment.others
        (selectFindings collected.findings selectedCategories request.findingIds)
        selectedCategories request.findingIds request.apply collected.profileSupported
        ⟨[], environment.database⟩

end ImmichDoctor.Consistency
