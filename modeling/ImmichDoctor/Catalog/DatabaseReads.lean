import ImmichDoctor.Catalog.BrokenOriginals
import ImmichDoctor.Db.AssetRecords
/-!
# The database behind the findings

The queries of `PostgresAdapter` by which catalog remediation reads the Immich database. A
query that raises is `none`; columns of an asset that not all versions have may be missing.
-/

namespace ImmichDoctor.Catalog

open ImmichDoctor.Library
open ImmichDoctor.Db

/-- `str(row[column])` of a value that is not null. -/
def columnText (row : Row SqlValue) (column : PyStr) : Option PyStr :=
  (row.value column).map SqlValue.str

def idText (row : Row SqlValue) : PyStr :=
  (columnText row (py "id")).getD (py "None")

/-- `ORDER BY id ASC`. -/
def orderedById (rows : Rows) : Rows :=
  rows.insertionSort fun a b => idText a ≤ idText b

/-- `SELECT … FROM table`, with columns that have to be there. -/
def selectRows (db : Postgres) (table : TableName) (columns : List PyStr) : Option Rows :=
  (db.tables.lookup table).bind fun present =>
    if columns.all present.contains then some ((db.select table fun _ => true).map (·.row))
    else none

/-! ## Assets -/

/-- A column with a checksum is of the type `bytea` or a text. -/
def columnChecksum (row : Row SqlValue) (column : PyStr) : Option ChecksumValue :=
  (row.value column).map fun value =>
    match value with
    | .bytes stored => .bytea stored
    | other => .text other.str

/-- `parse_timestamp`, given what a text with a time denotes. -/
def timestampOf (parseTimestamp : PyStr → Option Instant) (value : Option PyStr) : Option Instant :=
  (truthyPath value).bind parseTimestamp

def assetRowOf (parseTimestamp : PyStr → Option Instant) (row : Row SqlValue) : AssetRow where
  id := idText row
  type := columnText row (py "type")
  createdAt := timestampOf parseTimestamp (columnText row (py "createdAt"))
  updatedAt := timestampOf parseTimestamp (columnText row (py "updatedAt"))
  originalFileName := columnText row (py "originalFileName")
  originalPath := columnText row (py "originalPath")
  encodedVideoPath := columnText row (py "encodedVideoPath")
  livePhotoVideoId := columnText row (py "livePhotoVideoId")
  ownerId := columnText row (py "ownerId")
  checksum := columnChecksum row (py "checksum")
  originalChecksum := columnChecksum row (py "originalChecksum")
  checksumAlgorithm := columnText row (py "checksumAlgorithm")

/-- The columns the query names whatever the version. -/
def assetColumns : List PyStr :=
  [py "id", py "type", py "ownerId", py "createdAt", py "updatedAt", py "originalFileName",
    py "originalPath"]

/-- `list_all_assets_for_catalog_consistency`. -/
def listAllAssets (parseTimestamp : PyStr → Option Instant) (db : Postgres) :
    Option (List AssetRow) :=
  (selectRows db assetTable assetColumns).map fun rows =>
    (orderedById rows).map (assetRowOf parseTimestamp)

/-! ## Files of assets -/

def assetFileTable : TableName :=
  ⟨py "public", py "asset_file"⟩

def assetFileRowOf (row : Row SqlValue) : AssetFileRow where
  id := idText row
  assetId := (columnText row (py "assetId")).getD (py "None")
  type := (columnText row (py "type")).getD (py "None")
  path := (columnText row (py "path")).getD []

/-- `ORDER BY "assetId" ASC, type ASC, id ASC`. -/
def AssetFileRow.before (a b : AssetFileRow) : Prop :=
  a.assetId < b.assetId ∨ a.assetId = b.assetId ∧ (a.type < b.type ∨ a.type = b.type ∧ a.id ≤ b.id)

instance : DecidableRel AssetFileRow.before :=
  fun a b => inferInstanceAs (Decidable (a.assetId < b.assetId ∨
    a.assetId = b.assetId ∧ (a.type < b.type ∨ a.type = b.type ∧ a.id ≤ b.id)))

/-- `list_all_asset_files_for_catalog_consistency`. -/
def listAllAssetFiles (db : Postgres) : Option (List AssetFileRow) :=
  (selectRows db assetFileTable [py "id", py "assetId", py "type", py "path"]).map fun rows =>
    (rows.map assetFileRowOf).insertionSort AssetFileRow.before

/-! ## Users -/

def userRowOf (row : Row SqlValue) : UserRow where
  id := columnText row (py "id")
  name := columnText row (py "name")
  storageLabel := columnText row (py "storageLabel")
  email := columnText row (py "email")
  firstName := columnText row (py "firstName")
  lastName := columnText row (py "lastName")

/-- `table_lookup.get("user")`: the last table of that name, by schema. -/
def userTable (db : Postgres) : Option TableName :=
  (((db.tables.map (·.1)).filter fun table => table.name = py "user").insertionSort
    fun a b => a.schema ≤ b.schema).getLast?

/-- `list_users_for_catalog_consistency`; a schema with a dot in its name is cut in two. -/
def listUsers (db : Postgres) : Option (List UserRow) :=
  match userTable db with
  | none => some []
  | some table =>
      if table.schema.contains 46 then none
      else (selectRows db table [py "id"]).map fun rows => (orderedById rows).map userRowOf

/-! ## The update -/

/-- The row with another value in a column it has. -/
def withText (column text : PyStr) (row : Row SqlValue) : Row SqlValue :=
  row.map fun field => if field.1 = column then (column, some (.text text)) else field

/-- `update_asset_original_path`, with the path there was before. -/
def writeOriginalPath (db : Postgres) (assetId newOriginalPath : PyStr) :
    Option (Option PyStr × Postgres) :=
  match (db.select assetTable (columnIs (py "id") assetId)).head? with
  | none => none
  | some previous =>
      (db.updateWhere assetTable (columnIs (py "id") assetId)
        (withText (py "originalPath") newOriginalPath)).map fun updated =>
          (columnText previous.row (py "originalPath"), updated)

end ImmichDoctor.Catalog
