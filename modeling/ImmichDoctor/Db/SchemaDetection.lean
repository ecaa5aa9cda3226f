import ImmichDoctor.Db.AssetDependencies
/-!
# Schema detection

The tables, columns and foreign keys that `DatabaseStateDetector.detect` reads. The views of
the information schema show a role only what it may access; `pg_constraint` shows all keys,
but is asked for those of the listed tables only.
-/

namespace ImmichDoctor.Db

open ImmichDoctor.Library

/-- The tables and columns that the role of the connection owns or has a privilege on. -/
structure Access where
  table : TableName → Bool
  column : TableName → PyStr → Bool

/-- `ORDER BY table_schema ASC, table_name ASC`. -/
def tableOrder (a b : TableName) : Prop :=
  a.schema < b.schema ∨ a.schema = b.schema ∧ a.name ≤ b.name

instance : DecidableRel tableOrder :=
  fun a b => inferInstanceAs (Decidable (a.schema < b.schema ∨
    a.schema = b.schema ∧ a.name ≤ b.name))

/-- `list_tables`. -/
def listTables (access : Access) (db : Postgres) : List TableName :=
  ((db.tables.map (·.1)).filter fun table =>
    access.table table && table.schema ≠ py "pg_catalog" &&
      table.schema ≠ py "information_schema").insertionSort tableOrder

/-- `list_columns`. -/
def listColumns (access : Access) (db : Postgres) (table : TableName) : List PyStr :=
  ((db.tables.lookup table).getD []).filter (access.column table)

/-- `list_foreign_keys`. -/
def listForeignKeys (db : Postgres) (table : TableName) : List ForeignKey :=
  (db.foreignKeys.filter (·.source = table)).insertionSort fun a b =>
    a.constraintName ≤ b.constraintName

/-- The tables of `table_states` in their order. -/
def inspectedTables (access : Access) (db : Postgres) : List TableName :=
  (listTables access db).insertionSort fun a b => qualifiedName a ≤ qualifiedName b

/-- The part of a database that `detect` sees. -/
def detectedSchema (access : Access) (db : Postgres) : Postgres where
  tables := (inspectedTables access db).map fun table => (table, listColumns access db table)
  uniqueKeys := db.uniqueKeys
  foreignKeys := (inspectedTables access db).flatMap (listForeignKeys db)
  entries := db.entries
  identified := db.identified

/-- A key is seen with its table. -/
theorem mem_foreignKeys_detectedSchema {access : Access} {db : Postgres} {key : ForeignKey} :
    key ∈ (detectedSchema access db).foreignKeys ↔
      key ∈ db.foreignKeys ∧ key.source ∈ listTables access db := by
  have hkeys : ∀ table, key ∈ listForeignKeys db table ↔
      key ∈ db.foreignKeys ∧ key.source = table := by
    intro table
    rw [listForeignKeys, (List.perm_insertionSort _ _).mem_iff, List.mem_filter,
      decide_eq_true_eq]
  rw [detectedSchema, List.mem_flatMap]
  constructor
  · rintro ⟨table, htable, hkey⟩
    obtain ⟨hmem, rfl⟩ := (hkeys table).mp hkey
    exact ⟨hmem, (List.perm_insertionSort _ _).mem_iff.mp htable⟩
  · rintro ⟨hmem, hlisted⟩
    exact ⟨key.source, (List.perm_insertionSort _ _).mem_iff.mpr hlisted,
      (hkeys key.source).mpr ⟨hmem, rfl⟩⟩

end ImmichDoctor.Db
