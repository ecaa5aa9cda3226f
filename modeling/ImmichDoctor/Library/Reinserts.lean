import ImmichDoctor.Library.Cascades
import Mathlib.Data.List.Pairwise
import Mathlib.Data.List.Perm.Subperm
/-!
# Rows that are put back

A database up to the identities of its rows is the list of its rows, each with its table. Rows
that stood in a consistent database can be inserted again into what is left of it, as long as
the rows they reference are there or come with them.
-/

namespace ImmichDoctor.Library.Database

variable {ν : Type*} [DecidableEq ν]

/-! ## Rows with their tables -/

/-- The rows, each with its table. -/
def tableRows (db : Database ν) : List (TableName × Row ν) :=
  db.entries.map fun entry => (entry.table, entry.row)

omit [DecidableEq ν] in
theorem map_entriesOf (table : TableName) (nextId : Nat) (rows : List (Row ν)) :
    (entriesOf table nextId rows).map (fun entry => (entry.table, entry.row)) =
      rows.map fun row => (table, row) := by
  induction rows generalizing nextId with
  | nil => rfl
  | cons row rows ih => rw [entriesOf, List.map_cons, ih, List.map_cons]

omit [DecidableEq ν] in
theorem tableRows_withRows (db : Database ν) (table : TableName) (rows : List (Row ν)) :
    (db.withRows table rows).tableRows = db.tableRows ++ rows.map fun row => (table, row) := by
  rw [tableRows, tableRows, ← map_entriesOf table, ← List.map_append]
  rfl

/-! ## Constraints -/

/-- Two rows that no unique key allows together. -/
def Apart (db : Database ν) (a b : TableName × Row ν) : Prop :=
  ∀ key ∈ db.uniqueKeys, a.1 = key.1 → b.1 = key.1 → clash key.2 a.2 b.2 = false

theorem clash_comm (columns : List PyStr) (a b : Row ν) :
    clash columns a b = clash columns b a := by
  rw [clash, clash, Bool.eq_iff_iff, List.all_eq_true, List.all_eq_true]
  have hswap : ∀ a b : Row ν, (∀ column ∈ columns,
      ((a.value column).isSome && a.value column == b.value column) = true) →
        ∀ column ∈ columns,
          ((b.value column).isSome && b.value column == a.value column) = true := by
    intro a b h column hcolumn
    have hboth := h column hcolumn
    rw [Bool.and_eq_true, beq_iff_eq] at hboth ⊢
    exact ⟨hboth.2 ▸ hboth.1, hboth.2.symm⟩
  exact ⟨hswap a b, hswap b a⟩

/-- Rows that satisfy the unique keys. -/
def UniqueRows (db : Database ν) (rows : List (TableName × Row ν)) : Prop :=
  rows.Pairwise db.Apart

theorem symm_apart (db : Database ν) {a b : TableName × Row ν} (h : db.Apart a b) : db.Apart b a :=
  fun key hkey hb ha => (clash_comm key.2 b.2 a.2).trans (h key hkey ha hb)

/-- Fewer rows satisfy the keys as well, in any order. -/
theorem UniqueRows.of_subperm {db : Database ν} {rows others : List (TableName × Row ν)}
    (h : db.UniqueRows others) (hsub : rows.Subperm others) : db.UniqueRows rows := by
  obtain ⟨middle, hperm, hsublist⟩ := hsub
  have hmiddle : middle.Pairwise db.Apart := h.sublist hsublist
  exact (hperm.pairwise_iff fun hab => db.symm_apart hab).mp hmiddle

theorem uniqueIn_iff {db : Database ν} {table : TableName} : db.uniqueIn table = true ↔
    ∀ key ∈ db.uniqueKeys, key.1 = table → ∀ entry ∈ db.entries, ∀ other ∈ db.entries,
      other.rowId ≠ entry.rowId → entry.table = table → other.table = table →
        clash key.2 entry.row other.row = false := by
  simp only [uniqueIn, List.all_eq_true, Bool.or_eq_true, decide_eq_true_eq, Bool.not_eq_true']
  constructor
  · intro h key hkey htable entry hentry other hother hne hentryTable hotherTable
    rcases h key hkey with hdiffers | hall
    · exact absurd htable hdiffers
    · rcases hall entry hentry other hother with ((hsame | hfirst) | hsecond) | hclash
      · exact absurd hsame hne
      · exact absurd hentryTable hfirst
      · exact absurd hotherTable hsecond
      · exact hclash
  · intro h key hkey
    by_cases htable : key.1 = table
    · refine .inr fun entry hentry other hother => ?_
      by_cases hsame : other.rowId = entry.rowId
      · exact .inl (.inl (.inl hsame))
      by_cases hfirst : entry.table = table
      · by_cases hsecond : other.table = table
        · exact .inr (h key hkey htable entry hentry other hother hsame hfirst hsecond)
        · exact .inl (.inr hsecond)
      · exact .inl (.inl (.inr hfirst))
    · exact .inl htable

/-- The keys hold of the tables when they hold of the rows. -/
theorem uniqueIn_of_uniqueRows {db : Database ν} (h : db.UniqueRows db.tableRows)
    (table : TableName) : db.uniqueIn table = true := by
  rw [uniqueIn_iff]
  intro key hkey htable entry hentry other hother hne hentryTable hotherTable
  have hpairs : db.entries.Pairwise fun a b => db.Apart (a.table, a.row) (b.table, b.row) :=
    List.pairwise_map.mp h
  have : Std.Symm fun a b : Entry ν => db.Apart (a.table, a.row) (b.table, b.row) :=
    ⟨fun _ _ hab => db.symm_apart hab⟩
  have hapart := hpairs.forall hentry hother fun heq => hne (by rw [heq])
  exact hapart key hkey (hentryTable.trans htable.symm) (hotherTable.trans htable.symm)

theorem uniqueRows_of_uniqueIn {db : Database ν} (h : ∀ table, db.uniqueIn table = true) :
    db.UniqueRows db.tableRows := by
  refine List.pairwise_map.mpr ?_
  have hnodup : db.entries.Pairwise fun a b => a.rowId ≠ b.rowId :=
    List.pairwise_map.mp db.identified
  refine hnodup.imp_of_mem fun {a b} ha hb hne key hkey hatable hbtable => ?_
  exact uniqueIn_iff.mp (h key.1) key hkey rfl a ha b hb (Ne.symm hne) hatable hbtable

/-- A row and one that it references through a key. -/
def Refers (key : ForeignKey) (source target : TableName × Row ν) : Prop :=
  key.source = source.1 ∧ key.target = target.1 ∧ key.references source.2 target.2 = true

theorem pointsInto_iff {key : ForeignKey} {others : List (Entry ν)} {entry : Entry ν} :
    key.pointsInto others entry = true ↔
      ∃ other ∈ others, Refers key (entry.table, entry.row) (other.table, other.row) := by
  simp only [ForeignKey.pointsInto, Bool.and_eq_true, decide_eq_true_eq, List.any_eq_true, Refers]
  constructor
  · rintro ⟨hsource, other, hother, htarget, hrefs⟩
    exact ⟨other, hother, hsource, htarget, hrefs⟩
  · rintro ⟨other, hother, hsource, htarget, hrefs⟩
    exact ⟨hsource, other, hother, htarget, hrefs⟩

/-- Whether each reference of a row is to one of these rows; a null names none. -/
def Resolved (db : Database ν) (others : List (TableName × Row ν)) (row : TableName × Row ν) :
    Prop :=
  ∀ key ∈ db.foreignKeys, key.source = row.1 →
    (∀ column ∈ key.sourceColumns, (row.2.value column).isSome = true) →
      ∃ other ∈ others, Refers key row other

theorem referencesHold_iff {db : Database ν} {entry : Entry ν} : db.referencesHold entry = true ↔
    db.Resolved db.tableRows (entry.table, entry.row) := by
  simp only [referencesHold, List.all_eq_true, Bool.or_eq_true, decide_eq_true_eq, List.any_eq_true,
    pointsInto_iff]
  constructor
  · intro h key hkey hsource hvalues
    rcases h key hkey with (hdiffers | ⟨column, hcolumn, hnone⟩) | ⟨other, hother, hrefers⟩
    · exact absurd hsource hdiffers
    · have hsome := hvalues column hcolumn
      rw [Option.isNone_iff_eq_none] at hnone
      rw [hnone] at hsome
      cases hsome
    · exact ⟨_, List.mem_map_of_mem hother, hrefers⟩
  · intro h key hkey
    by_cases hsource : key.source = entry.table
    · by_cases hvalues : ∀ column ∈ key.sourceColumns, (entry.row.value column).isSome = true
      · obtain ⟨row, hrow, hrefers⟩ := h key hkey hsource hvalues
        obtain ⟨other, hother, rfl⟩ := List.mem_map.mp hrow
        exact .inr ⟨other, hother, hrefers⟩
      · push Not at hvalues
        obtain ⟨column, hcolumn, hnone⟩ := hvalues
        exact .inl (.inr ⟨column, hcolumn, by simpa using hnone⟩)
    · exact .inl (.inl hsource)

/-! ## Inserting again -/

/-- Rows that leave the keys intact and of which every reference is resolved are inserted. -/
theorem insertRows_eq_some {db : Database ν} {table : TableName} {rows : List (Row ν)}
    (hunique : db.UniqueRows (db.tableRows ++ rows.map fun row => (table, row)))
    (hresolved : ∀ row ∈ rows,
      db.Resolved (db.tableRows ++ rows.map fun row => (table, row)) (table, row)) :
    db.insertRows table rows = some (db.withRows table rows) := by
  rw [← tableRows_withRows] at hunique hresolved
  have hkeys : (db.withRows table rows).uniqueIn table = true :=
    uniqueIn_of_uniqueRows hunique table
  have hrefs : ((db.withRows table rows).entries.drop db.entries.length).all
      (db.withRows table rows).referencesHold = true := by
    rw [List.all_eq_true]
    intro entry hentry
    have hnew : entry ∈ entriesOf table (maxColumn (·.rowId) db.entries + 1) rows := by
      rwa [withRows, List.drop_left] at hentry
    have hpair : (entry.table, entry.row) ∈ rows.map fun row => (table, row) := by
      rw [← map_entriesOf table (maxColumn (·.rowId) db.entries + 1)]
      exact List.mem_map_of_mem hnew
    obtain ⟨row, hrow, heq⟩ := List.mem_map.mp hpair
    rw [referencesHold_iff, ← heq]
    exact hresolved row hrow
  rw [insertRows]
  exact if_pos (by rw [hkeys, hrefs]; rfl)

/-- The same constraints. -/
structure SameKeys (before db : Database ν) : Prop where
  uniqueKeys : db.uniqueKeys = before.uniqueKeys
  foreignKeys : db.foreignKeys = before.foreignKeys

omit [DecidableEq ν] in
theorem SameKeys.refl (db : Database ν) : SameKeys db db := ⟨rfl, rfl⟩

theorem SameKeys.uniqueRows {before db : Database ν} (h : SameKeys before db)
    {rows : List (TableName × Row ν)} (hrows : before.UniqueRows rows) : db.UniqueRows rows := by
  unfold UniqueRows Apart at *
  rw [h.uniqueKeys]
  exact hrows

theorem SameKeys.resolved {before db : Database ν} (h : SameKeys before db)
    {others : List (TableName × Row ν)} {row : TableName × Row ν}
    (hrow : before.Resolved others row) : db.Resolved others row := by
  unfold Resolved at *
  rw [h.foreignKeys]
  exact hrow

/-! ## Deleting for good -/

theorem mem_cascade_of_mem {db : Database ν} {selected : List (Entry ν)} {entry : Entry ν}
    (hentry : entry ∈ db.entries) (hselected : entry ∈ selected) : entry ∈ db.cascade selected := by
  unfold cascade
  induction db.entries.length generalizing selected with
  | zero => exact hselected
  | succ rounds ih =>
      rw [Function.iterate_succ_apply]
      apply ih
      exact List.mem_filter.mpr ⟨hentry, by rw [decide_eq_true hselected, Bool.true_or]⟩

/-- An entry keeps its row when no key that sets columns to null points from it to what is gone. -/
theorem unlinked_eq_self {db : Database ν} {gone : List (Entry ν)} {entry : Entry ν}
    (h : ∀ key ∈ db.foreignKeys, key.deleteAction = .setNull ∨ key.deleteAction = .setDefault →
      key.pointsInto gone entry = false) : db.unlinked gone entry = entry := by
  have hkeys : ∀ keys : List ForeignKey, keys ⊆ db.foreignKeys →
      keys.foldl (fun kept key => key.unlink gone kept) entry = entry := by
    intro keys
    induction keys with
    | nil => intro _; rfl
    | cons key keys ih =>
      intro hsub
      have hkept : key.unlink gone entry = entry := by
        rw [ForeignKey.unlink]
        refine if_neg fun hboth => ?_
        rw [h key (hsub List.mem_cons_self) hboth.1] at hboth
        exact Bool.false_ne_true hboth.2
      rw [List.foldl_cons, hkept]
      exact ih fun other hother => hsub (List.mem_cons_of_mem _ hother)
  exact hkeys _ (List.Subset.refl _)

/-- A delete after which no row has lost a reference removes the selected rows and those that go
with them. -/
theorem deleteWhere_of_kept {db after : Database ν} {table : TableName} {p : Row ν → Bool}
    {rows : List (Row ν)} (h : db.deleteWhere table p = some (rows, after))
    (hkept : ∀ entry ∈ db.entries, entry ∉ db.cascade (db.select table p) →
      ∀ key ∈ db.foreignKeys, key.deleteAction = .setNull ∨ key.deleteAction = .setDefault →
        key.pointsInto (db.cascade (db.select table p)) entry = false) :
    rows = (db.select table p).map (·.row) ∧ SameKeys db after ∧
      after.entries = db.entries.filter fun entry => entry ∉ db.cascade (db.select table p) := by
  simp only [deleteWhere] at h
  split at h
  · cases h
  cases h
  refine ⟨rfl, ⟨rfl, rfl⟩, ?_⟩
  show (db.entries.filter _).map _ = _
  rw [List.map_congr_left (g := id) fun entry hentry => ?_, List.map_id]
  obtain ⟨hmem, hout⟩ := List.mem_filter.mp hentry
  exact unlinked_eq_self (hkept entry hmem (of_decide_eq_true hout))

end ImmichDoctor.Library.Database
