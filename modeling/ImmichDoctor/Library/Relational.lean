import ImmichDoctor.Library.Table
import ImmichDoctor.Library.Text
import Mathlib.Logic.Function.Iterate
/-!
# Tables that reference each other

A database is the list of its rows, each with the table it is in and an identity no query
sees. `DELETE … WHERE` removes the rows it selects and those that reference them through a
cascading key, and so on; it is refused when a row that stays needs one that goes. Columns
with a default are not modelled, so `SET DEFAULT` is `SET NULL`; nor are constraints other
than unique and foreign keys.
-/

namespace ImmichDoctor.Library

/-- A table of a schema. -/
structure TableName where
  schema : PyStr
  name : PyStr
  deriving DecidableEq

/-- `ON DELETE`. -/
inductive DeleteAction
  | noAction
  | restrict
  | cascade
  | setNull
  | setDefault
  deriving DecidableEq

structure ForeignKey where
  constraintName : PyStr
  source : TableName
  sourceColumns : List PyStr
  target : TableName
  targetColumns : List PyStr
  deleteAction : DeleteAction
  deriving DecidableEq

/-- The columns of a row with their values, `none` for `NULL`. -/
abbrev Row (ν : Type*) := List (PyStr × Option ν)

def Row.value {ν : Type*} (row : Row ν) (column : PyStr) : Option ν :=
  (row.lookup column).join

theorem mem_of_value {ν : Type*} {row : Row ν} {column : PyStr} {value : ν}
    (h : row.value column = some value) : (column, some value) ∈ row := by
  obtain ⟨found, hfound, hjoin⟩ := Option.bind_eq_some_iff.mp h
  obtain ⟨before, after, rfl, -⟩ := List.lookup_eq_some_iff.mp hfound
  rw [show found = some value from hjoin]
  exact List.mem_append_right _ List.mem_cons_self

/-- The row with nulls in some of its columns. -/
def Row.setNull {ν : Type*} (columns : List PyStr) (row : Row ν) : Row ν :=
  row.map fun field => if field.1 ∈ columns then (field.1, none) else field

/-- A row in its table. -/
structure Entry (ν : Type*) where
  rowId : Nat
  table : TableName
  row : Row ν
  deriving DecidableEq

structure Database (ν : Type*) where
  /-- The tables with their columns. -/
  tables : List (TableName × List PyStr)
  uniqueKeys : List (TableName × List PyStr)
  foreignKeys : List ForeignKey
  entries : List (Entry ν)
  identified : (entries.map (·.rowId)).Nodup

namespace ForeignKey

variable {ν : Type*} [DecidableEq ν]

/-- Whether the row names the other one in the columns of the key; a null names none. -/
def references (key : ForeignKey) (source target : Row ν) : Bool :=
  (key.sourceColumns.map source.value == key.targetColumns.map target.value) &&
    key.sourceColumns.all fun column => (source.value column).isSome

/-- Whether an entry references one of the others through the key. -/
def pointsInto (key : ForeignKey) (others : List (Entry ν)) (entry : Entry ν) : Bool :=
  decide (key.source = entry.table) && others.any fun other =>
    decide (key.target = other.table) && key.references entry.row other.row

/-- Whether the key forbids the rows to go while the entry stays. -/
def refuses (key : ForeignKey) (selected gone : List (Entry ν)) (entry : Entry ν) : Bool :=
  match key.deleteAction with
  | .noAction => decide (entry ∉ gone) && key.pointsInto gone entry
  | .restrict => decide (entry ∉ selected) && key.pointsInto gone entry
  | _ => false

/-- The entry without its reference to a row that is gone, where the key says so. -/
def unlink (gone : List (Entry ν)) (key : ForeignKey) (entry : Entry ν) : Entry ν :=
  if (key.deleteAction = .setNull ∨ key.deleteAction = .setDefault) ∧ key.pointsInto gone entry then
    { entry with row := entry.row.setNull key.sourceColumns }
  else entry

@[simp] theorem rowId_unlink (gone : List (Entry ν)) (key : ForeignKey) (entry : Entry ν) :
    (key.unlink gone entry).rowId = entry.rowId := by
  unfold unlink
  split <;> rfl

end ForeignKey

namespace Database

variable {ν : Type*} [DecidableEq ν]

/-! ## Cascades -/

/-- Whether an entry goes with the others. -/
def follows (db : Database ν) (gone : List (Entry ν)) (entry : Entry ν) : Bool :=
  db.foreignKeys.any fun key => key.deleteAction = .cascade && key.pointsInto gone entry

/-- One round of cascades. -/
def expand (db : Database ν) (gone : List (Entry ν)) : List (Entry ν) :=
  db.entries.filter fun entry => decide (entry ∈ gone) || db.follows gone entry

/-- The entries that go with the selected ones; as many rounds as there are entries. -/
def cascade (db : Database ν) (selected : List (Entry ν)) : List (Entry ν) :=
  db.expand^[db.entries.length] selected

/-! ## Statements -/

/-- The entries of a table whose rows satisfy a condition. -/
def select (db : Database ν) (table : TableName) (p : Row ν → Bool) : List (Entry ν) :=
  db.entries.filter fun entry => decide (entry.table = table) && p entry.row

/-- The entry without its references to rows that are gone. -/
def unlinked (db : Database ν) (gone : List (Entry ν)) (entry : Entry ν) : Entry ν :=
  db.foreignKeys.foldl (fun kept key => key.unlink gone kept) entry

theorem rowId_unlinked (db : Database ν) (gone : List (Entry ν)) (entry : Entry ν) :
    (db.unlinked gone entry).rowId = entry.rowId := by
  unfold unlinked
  induction db.foreignKeys generalizing entry with
  | nil => rfl
  | cons key keys ih => rw [List.foldl_cons, ih, ForeignKey.rowId_unlink]

/-- The database without the entries that are gone. -/
def without (db : Database ν) (gone : List (Entry ν)) : Database ν :=
  { db with
    entries := (db.entries.filter fun entry => entry ∉ gone).map (db.unlinked gone)
    identified := by
      have hids : ((db.entries.filter fun entry => entry ∉ gone).map (db.unlinked gone)).map
          (·.rowId) = (db.entries.filter fun entry => entry ∉ gone).map (·.rowId) := by
        rw [List.map_map]
        exact List.map_congr_left fun entry _ => db.rowId_unlinked gone entry
      rw [hids]
      exact db.identified.sublist (List.filter_sublist.map _) }

/-- `DELETE FROM table WHERE p RETURNING *`. -/
def deleteWhere (table : TableName) (p : Row ν → Bool) (db : Database ν) :
    Option (List (Row ν) × Database ν) :=
  let selected := db.select table p
  let gone := db.cascade selected
  if db.entries.any fun entry => db.foreignKeys.any fun key => key.refuses selected gone entry then
    none
  else some (selected.map (·.row), db.without gone)

/-! ## Deletes without consequences -/

/-- Whether no entry outside these references one of them. -/
def Detached (db : Database ν) (selected : List (Entry ν)) : Prop :=
  ∀ key ∈ db.foreignKeys, ∀ entry ∈ db.entries, entry ∉ selected →
    key.pointsInto selected entry = false

omit [DecidableEq ν] in
theorem mem_select {db : Database ν} {table : TableName} {p : Row ν → Bool} {entry : Entry ν} :
    entry ∈ db.select table p ↔ entry ∈ db.entries ∧ entry.table = table ∧ p entry.row = true := by
  rw [select, List.mem_filter, Bool.and_eq_true, decide_eq_true_eq]

section

variable {db : Database ν} {table : TableName} {p : Row ν → Bool}

theorem expand_of_detached (h : db.Detached (db.select table p)) :
    db.expand (db.select table p) = db.select table p := by
  show db.entries.filter _ = db.entries.filter _
  apply List.filter_congr
  intro entry hentry
  by_cases hselected : entry ∈ db.select table p
  · rw [decide_eq_true hselected, Bool.true_or]
    exact (List.mem_filter.mp hselected).2.symm
  · have hfollows : db.follows (db.select table p) entry = false := by
      refine List.any_eq_false.mpr fun key hkey => ?_
      rw [h key hkey entry hentry hselected, Bool.and_false]
      exact Bool.false_ne_true
    rw [decide_eq_false hselected, hfollows, Bool.false_or]
    exact (Bool.eq_false_iff.mpr fun htrue =>
      hselected (List.mem_filter.mpr ⟨hentry, htrue⟩)).symm

theorem cascade_of_detached (h : db.Detached (db.select table p)) :
    db.cascade (db.select table p) = db.select table p :=
  Function.iterate_fixed (expand_of_detached h) _

theorem unlinked_of_detached {selected : List (Entry ν)} (h : db.Detached selected)
    {entry : Entry ν} (hentry : entry ∈ db.entries) (hout : entry ∉ selected) :
    db.unlinked selected entry = entry := by
  have hkeys : ∀ keys : List ForeignKey, keys ⊆ db.foreignKeys →
      keys.foldl (fun kept key => key.unlink selected kept) entry = entry := by
    intro keys
    induction keys with
    | nil => intro _; rfl
    | cons key keys ih =>
      intro hsub
      have hpoints := h key (hsub List.mem_cons_self) entry hentry hout
      have hkept : key.unlink selected entry = entry := by
        rw [ForeignKey.unlink, hpoints]
        exact if_neg fun hboth => Bool.false_ne_true hboth.2
      rw [List.foldl_cons, hkept]
      exact ih fun other hother => hsub (List.mem_cons_of_mem _ hother)
  exact hkeys _ (List.Subset.refl _)

theorem entries_without_of_detached {selected : List (Entry ν)} (h : db.Detached selected) :
    (db.without selected).entries = db.entries.filter fun entry => entry ∉ selected := by
  show (db.entries.filter fun entry => entry ∉ selected).map (db.unlinked selected) = _
  rw [List.map_congr_left (g := id) fun entry hentry => ?_, List.map_id]
  obtain ⟨hmem, hout⟩ := List.mem_filter.mp hentry
  exact unlinked_of_detached h hmem (of_decide_eq_true hout)

/-- Rows that no other row references are not referenced after the others are gone. -/
theorem Detached.without {selected others : List (Entry ν)} (h : db.Detached selected)
    (hothers : db.Detached others) : (db.without selected).Detached others := by
  intro key hkey entry hentry hout
  rw [entries_without_of_detached h] at hentry
  exact hothers key hkey entry (List.mem_filter.mp hentry).1 hout

theorem select_without_of_detached {selected : List (Entry ν)} (h : db.Detached selected)
    (table : TableName) (p : Row ν → Bool) : (db.without selected).select table p =
      (db.select table p).filter fun entry => entry ∉ selected := by
  rw [select, select, entries_without_of_detached h, List.filter_filter, List.filter_filter]
  exact List.filter_congr fun entry _ => Bool.and_comm _ _

/-- A delete of rows that no other row references removes these and nothing else. -/
theorem deleteWhere_of_detached (h : db.Detached (db.select table p)) :
    db.deleteWhere table p =
      some ((db.select table p).map (·.row), db.without (db.select table p)) := by
  have hrefused : (db.entries.any fun entry => db.foreignKeys.any fun key =>
      key.refuses (db.select table p) (db.select table p) entry) = false := by
    refine List.any_eq_false.mpr fun entry hentry => ?_
    rw [Bool.not_eq_true]
    refine List.any_eq_false.mpr fun key hkey => ?_
    rw [Bool.not_eq_true, ForeignKey.refuses]
    by_cases hselected : entry ∈ db.select table p
    · rw [decide_eq_false (not_not_intro hselected), Bool.false_and]
      cases key.deleteAction <;> rfl
    · rw [h key hkey entry hentry hselected, Bool.and_false]
      cases key.deleteAction <;> rfl
  simp only [deleteWhere, cascade_of_detached h, hrefused, Bool.false_eq_true, if_false]

end

/-- The entries of new rows. -/
def entriesOf (table : TableName) (nextId : Nat) : List (Row ν) → List (Entry ν)
  | [] => []
  | row :: rows => ⟨nextId, table, row⟩ :: entriesOf table (nextId + 1) rows

omit [DecidableEq ν] in
theorem rowIds_entriesOf (table : TableName) (nextId : Nat) (rows : List (Row ν)) :
    (entriesOf table nextId rows).map (·.rowId) = List.range' nextId rows.length := by
  induction rows generalizing nextId with
  | nil => rfl
  | cons row rows ih => rw [entriesOf, List.map_cons, ih, List.length_cons, List.range'_succ]

/-- The database with new rows, under row ids above all that are taken. -/
def withRows (db : Database ν) (table : TableName) (rows : List (Row ν)) : Database ν :=
  { db with
    entries := db.entries ++ entriesOf table (maxColumn (·.rowId) db.entries + 1) rows
    identified := by
      rw [List.map_append, rowIds_entriesOf, List.nodup_append]
      refine ⟨db.identified, List.nodup_range', ?_⟩
      intro taken htaken fresh hfresh
      obtain ⟨entry, hentry, rfl⟩ := List.mem_map.mp htaken
      have hle : entry.rowId ≤ maxColumn (·.rowId) db.entries := le_maxColumn hentry
      have hlt := (List.mem_range'_1.mp hfresh).1
      omega }

/-- Whether two rows are equal in the columns of a unique key, and none of these is null. -/
def clash (columns : List PyStr) (a b : Row ν) : Bool :=
  columns.all fun column => (a.value column).isSome && a.value column == b.value column

/-- Whether every reference of the entry is to an entry that is there. -/
def referencesHold (db : Database ν) (entry : Entry ν) : Bool :=
  db.foreignKeys.all fun key =>
    decide (key.source ≠ entry.table) ||
      key.sourceColumns.any (fun column => (entry.row.value column).isNone) ||
      key.pointsInto db.entries entry

/-- Whether no two rows of the table are equal in a unique key. -/
def uniqueIn (db : Database ν) (table : TableName) : Bool :=
  db.uniqueKeys.all fun key =>
    decide (key.1 ≠ table) || db.entries.all fun entry =>
      db.entries.all fun other =>
        decide (other.rowId = entry.rowId) || decide (entry.table ≠ table) ||
          decide (other.table ≠ table) || !clash key.2 entry.row other.row

/-- `INSERT INTO table VALUES rows`. -/
def insertRows (table : TableName) (rows : List (Row ν)) (db : Database ν) :
    Option (Database ν) :=
  let inserted := db.withRows table rows
  if inserted.uniqueIn table &&
      (inserted.entries.drop db.entries.length).all inserted.referencesHold then some inserted
  else none

/-- The database with other rows for the entries of a table that a condition selects. -/
def withUpdated (db : Database ν) (table : TableName) (p : Row ν → Bool)
    (update : Row ν → Row ν) : Database ν :=
  { db with
    entries := db.entries.map fun entry =>
      if entry.table = table ∧ p entry.row = true then { entry with row := update entry.row }
      else entry
    identified := by
      have hids : (db.entries.map fun entry =>
          if entry.table = table ∧ p entry.row = true then { entry with row := update entry.row }
          else entry).map (·.rowId) = db.entries.map (·.rowId) := by
        rw [List.map_map]
        apply List.map_congr_left
        intro entry _
        show (if _ then _ else _ : Entry ν).rowId = _
        split <;> rfl
      rw [hids]
      exact db.identified }

/-- `UPDATE table SET … WHERE p`. -/
def updateWhere (table : TableName) (p : Row ν → Bool) (update : Row ν → Row ν)
    (db : Database ν) : Option (Database ν) :=
  let updated := db.withUpdated table p update
  if updated.uniqueIn table && updated.entries.all updated.referencesHold then some updated
  else none

end Database

end ImmichDoctor.Library
