import ImmichDoctor.Library.ByteTexts
import ImmichDoctor.Library.Relational
import Mathlib.Data.List.Sort
/-!
# Rows of an asset

The queries of `PostgresAdapter` by which the rows of one asset are read, deleted and put
back. A query that raises is `none`.
-/

namespace ImmichDoctor.Db

open ImmichDoctor.Library

/-- A column value, by what a query loads it as. -/
inductive SqlValue
  | bool (value : Bool)
  | int (value : Int)
  /-- A float by its `repr`. -/
  | float (shown : PyStr)
  | text (value : PyStr)
  | textArray (items : List PyStr)
  /-- A `bytea`. -/
  | bytes (value : List UInt8)
  /-- A JSON document by its text. -/
  | json (document : PyStr)
  /-- An object that is neither, such as a `UUID` or a `datetime`, by its `str`. -/
  | object (type shown : PyStr)
  deriving DecidableEq

/-- `str(value)`; the text of a document stands for its `str`. -/
def SqlValue.str : SqlValue → PyStr
  | bool true => py "True"
  | bool false => py "False"
  | int (.ofNat n) => PyStr.decimal n
  | int (.negSucc n) => 45 :: PyStr.decimal (n + 1)
  | float shown => shown
  | text value => value
  | textArray items => Json.dumps items
  | bytes value => reprBytes value
  | json document => document
  | object _ shown => shown

abbrev Rows := List (Row SqlValue)

abbrev Postgres := Database SqlValue

/-- `f"{schema}.{table}"`. -/
def qualifiedName (table : TableName) : PyStr :=
  table.schema ++ 46 :: table.name

def assetTable : TableName :=
  ⟨py "public", py "asset"⟩

def albumTable : TableName :=
  ⟨py "public", py "album"⟩

def albumAssetTable : TableName :=
  ⟨py "public", py "album_asset"⟩

/-- `column = %s` with the text of an id. -/
def columnIs (column value : PyStr) (row : Row SqlValue) : Bool :=
  (row.value column).any (·.str = value)

/-- `list_rows_by_column_values` for one value. -/
def listRowsByColumnValue (db : Postgres) (table : TableName) (column value : PyStr) : Rows :=
  (db.select table (columnIs column value)).map (·.row)

/-- `list_assets_for_missing_references`. -/
def listAssetsForMissingReferences (db : Postgres) (limit offset : Int)
    (optionalColumns : List PyStr) : Option Rows :=
  let columns := [py "id", py "type", py "originalPath"] ++ optionalColumns
  if limit < 0 ∨ offset < 0 then none
  else
    let rows := (db.select assetTable fun _ => true).map (·.row)
    let ordered := rows.insertionSort fun a b =>
      ((a.value (py "id")).map SqlValue.str).getD [] ≤
        ((b.value (py "id")).map SqlValue.str).getD []
    some (((ordered.drop offset.toNat).take limit.toNat).map fun row =>
      columns.map fun column => (column, row.value column))

/-! ## Deleting -/

/-- A foreign key by which a table references an asset. -/
structure AssetReferenceRelation where
  table : TableName
  columnName : PyStr
  deriving DecidableEq

/-- The rows of one table in a record of rows. -/
structure TableRecord where
  table : TableName
  rows : Rows
  deriving DecidableEq

/-- The statements of `delete_asset_reference_records`, one for each relation. -/
def deleteRelationRows (assetId : PyStr) :
    List AssetReferenceRelation → Postgres → Option (List TableRecord × Postgres)
  | [], db => some ([], db)
  | relation :: relations, db => do
      let (rows, deleted) ←
        db.deleteWhere relation.table (columnIs relation.columnName assetId)
      let (records, rest) ← deleteRelationRows assetId relations deleted
      some (if rows.isEmpty then records else ⟨relation.table, rows⟩ :: records, rest)

/-- `delete_asset_reference_records`: the relations in their order, then the asset. -/
def deleteAssetReferenceRecords (assetId : PyStr) (relations : List AssetReferenceRelation)
    (db : Postgres) : Option (List TableRecord × Postgres) := do
  let (records, deleted) ← deleteRelationRows assetId relations db
  let (assetRows, rest) ← deleted.deleteWhere assetTable (columnIs (py "id") assetId)
  if assetRows.isEmpty then none else some (⟨assetTable, assetRows⟩ :: records, rest)

/-! ## Putting back -/

/-- What a JSON file gives back for a value; `json.dumps` raises for other objects. -/
def SqlValue.serializable : SqlValue → Bool
  | bytes _ | object _ _ => false
  | _ => true

/-- What a value from a JSON file is stored as. A document is read back as what it denotes:
objects cannot be bound, an array, a number or a boolean is of the wrong type for the column,
and a string is parsed as a document. -/
def SqlValue.rebound (parseDocument : PyStr → Option PyStr) :
    SqlValue → Option (Option SqlValue)
  | json document =>
      if document = py "null" then some none
      else
        match Json.loads (91 :: document ++ [93]) with
        | some [content] => (parseDocument content).map fun parsed => some (json parsed)
        | _ => none
  | bytes _ | object _ _ => none
  | value => some (some value)

def rebindRow (parseDocument : PyStr → Option PyStr) (row : Row SqlValue) :
    Option (Row SqlValue) :=
  row.mapM fun field =>
    match field.2 with
    | none => some (field.1, none)
    | some value => (value.rebound parseDocument).map fun stored => (field.1, stored)

def insertRecords (parseDocument : PyStr → Option PyStr) :
    List TableRecord → Postgres → Option Postgres
  | [], db => some db
  | record :: records, db => do
      let rows ← record.rows.mapM (rebindRow parseDocument)
      let inserted ← db.insertRows record.table rows
      insertRecords parseDocument records inserted

/-- The asset first, then the tables in the order of their names. -/
def recordOrder (a b : TableRecord) : Prop :=
  a.table = assetTable ∨
    b.table ≠ assetTable ∧ qualifiedName a.table ≤ qualifiedName b.table

instance : DecidableRel recordOrder :=
  fun a b => inferInstanceAs (Decidable (a.table = assetTable ∨
    b.table ≠ assetTable ∧ qualifiedName a.table ≤ qualifiedName b.table))

/-- `restore_asset_reference_records`. -/
def restoreAssetReferenceRecords (parseDocument : PyStr → Option PyStr)
    (records : List TableRecord) (db : Postgres) : Option Postgres :=
  insertRecords parseDocument (records.insertionSort recordOrder) db

end ImmichDoctor.Db
