import ImmichDoctor.Consistency.MissingAssetRuns
import ImmichDoctor.Consistency.Proofs.RestorePointCompleteness
import ImmichDoctor.Library.OptionLists
import ImmichDoctor.Library.Reinserts
/-!
# Restoring what was deleted

The rows of an asset are read, deleted and put back. When nothing else references them, each is
read once, and what they reference among themselves is put back before them, every table has its
rows again.
-/

namespace ImmichDoctor.Consistency

open ImmichDoctor.Library
open ImmichDoctor.Db
open ImmichDoctor.Repair

/-! ## Assets that can be restored -/

instance (assetId : PyStr) (relations : List AssetReferenceRelation) (entry : Entry SqlValue) :
    Decidable (OfAsset assetId relations entry) :=
  inferInstanceAs (Decidable (_ ∨ _))

/-- The row of an entry with its table. -/
def pairOf (entry : Entry SqlValue) : TableName × Row SqlValue :=
  (entry.table, entry.row)

/-- The state before the delete. -/
structure Restorable (parseDocument : PyStr → Option PyStr) (assetId : PyStr)
    (relations : List AssetReferenceRelation) (db : Postgres) : Prop where
  /-- No table has two keys to the asset, and none of them is the asset table. -/
  tables : ((assetTable :: relations.map (·.table)).map qualifiedName).Nodup
  /-- No other row references one of the asset. -/
  outside : ∀ key ∈ db.foreignKeys, ∀ entry ∈ db.entries, ¬ OfAsset assetId relations entry →
    ∀ target ∈ db.entries, OfAsset assetId relations target →
      ¬ Database.Refers key (pairOf entry) (pairOf target)
  /-- Its rows reference the asset, or rows of tables that are put back before them. -/
  inside : ∀ key ∈ db.foreignKeys, ∀ entry ∈ db.entries, OfAsset assetId relations entry →
    ∀ target ∈ db.entries, OfAsset assetId relations target →
      Database.Refers key (pairOf entry) (pairOf target) → target.table = assetTable ∨
        entry.table ≠ assetTable ∧ qualifiedName target.table ≤ qualifiedName entry.table ∧
          key.deleteAction ≠ .setNull ∧ key.deleteAction ≠ .setDefault
  unique : ∀ table, db.uniqueIn table = true
  references : ∀ entry ∈ db.entries, db.referencesHold entry = true
  /-- Its values are stored as they were read. -/
  rebound : ∀ entry ∈ db.entries, OfAsset assetId relations entry →
    rebindRow parseDocument entry.row = some entry.row

theorem Restorable.relation_ne {parseDocument : PyStr → Option PyStr} {assetId : PyStr}
    {relations : List AssetReferenceRelation} {db : Postgres}
    (h : Restorable parseDocument assetId relations db) {relation : AssetReferenceRelation}
    (hrelation : relation ∈ relations) : relation.table ≠ assetTable := by
  intro heq
  have hnodup := h.tables
  rw [List.map_cons, List.nodup_cons] at hnodup
  apply hnodup.1
  rw [← heq, List.map_map]
  exact List.mem_map_of_mem hrelation

section Deletes

variable {parseDocument : PyStr → Option PyStr} {assetId : PyStr}
  {relations rest : List AssetReferenceRelation} {before db after : Postgres}
  {records : List TableRecord}

/-- What is left of a database while the rows of the asset are deleted. -/
structure Left (assetId : PyStr) (relations : List AssetReferenceRelation)
    (before db : Postgres) : Prop where
  keys : Database.SameKeys before db
  entries : ∃ keep : Entry SqlValue → Bool, db.entries = before.entries.filter keep
  others : ∀ entry ∈ before.entries, ¬ OfAsset assetId relations entry → entry ∈ db.entries

theorem Left.refl (assetId : PyStr) (relations : List AssetReferenceRelation) (db : Postgres) :
    Left assetId relations db db where
  keys := .refl db
  entries := ⟨fun _ => true, (List.filter_true db.entries).symm⟩
  others _ hentry _ := hentry

theorem Left.mem_before (h : Left assetId relations before db) {entry : Entry SqlValue}
    (hentry : entry ∈ db.entries) : entry ∈ before.entries := by
  obtain ⟨keep, hentries⟩ := h.entries
  rw [hentries] at hentry
  exact (List.mem_filter.mp hentry).1

/-- One delete that takes rows of the asset only, and from no row a reference. -/
theorem Left.step {table : TableName} {p : Row SqlValue → Bool} {rows : Rows}
    (h : Left assetId relations before db) (hdelete : db.deleteWhere table p = some (rows, after))
    (hgone : ∀ entry ∈ db.cascade (db.select table p), OfAsset assetId relations entry)
    (hkept : ∀ entry ∈ db.entries, entry ∉ db.cascade (db.select table p) →
      ∀ key ∈ db.foreignKeys, key.deleteAction = .setNull ∨ key.deleteAction = .setDefault →
        key.pointsInto (db.cascade (db.select table p)) entry = false) :
    Left assetId relations before after ∧ ∀ entry ∈ after.entries,
      entry ∈ db.entries ∧ ¬ (entry.table = table ∧ p entry.row = true) := by
  obtain ⟨-, hkeys, hentries⟩ := Database.deleteWhere_of_kept hdelete hkept
  obtain ⟨keep, hkeep⟩ := h.entries
  refine ⟨⟨⟨hkeys.uniqueKeys.trans h.keys.uniqueKeys, hkeys.foreignKeys.trans h.keys.foreignKeys⟩,
    ⟨fun entry => decide (entry ∉ db.cascade (db.select table p)) && keep entry, ?_⟩, ?_⟩, ?_⟩
  · rw [hentries]
    conv_lhs => arg 2; rw [hkeep]
    rw [List.filter_filter]
  · intro entry hentry hnot
    rw [hentries]
    exact List.mem_filter.mpr ⟨h.others entry hentry hnot,
      decide_eq_true fun hmem => hnot (hgone entry hmem)⟩
  · intro entry hentry
    rw [hentries] at hentry
    obtain ⟨hmem, hout⟩ := List.mem_filter.mp hentry
    refine ⟨hmem, fun hselected => of_decide_eq_true hout ?_⟩
    exact Database.mem_cascade_of_mem hmem (Database.mem_select.mpr ⟨hmem, hselected⟩)

/-- One statement for a relation, while no row of the asset has lost a reference. -/
theorem Left.deleteRelation {relation : AssetReferenceRelation} {rows : Rows}
    (hrestorable : Restorable parseDocument assetId relations before)
    (hrelation : relation ∈ relations) (h : Left assetId relations before db)
    (hdelete : db.deleteWhere relation.table (columnIs relation.columnName assetId) =
      some (rows, after)) :
    Left assetId relations before after ∧ ∀ entry ∈ after.entries, entry ∈ db.entries ∧
      ¬ (entry.table = relation.table ∧ columnIs relation.columnName assetId entry.row = true) := by
  have hgone : ∀ entry ∈ db.cascade
      (db.select relation.table (columnIs relation.columnName assetId)),
      entry ∈ before.entries ∧ OfAsset assetId relations entry ∧ entry.table ≠ assetTable := by
    apply Database.cascade_induction
    · intro entry hentry
      obtain ⟨hmem, htable, hrow⟩ := Database.mem_select.mp hentry
      refine ⟨h.mem_before hmem, .inr ⟨relation, hrelation, htable, hrow⟩, ?_⟩
      rw [htable]
      exact hrestorable.relation_ne hrelation
    · intro entry hmem key hkey _ other hother hsource htarget hrefs
      rw [h.keys.foreignKeys] at hkey
      have hrefers : Database.Refers key (pairOf entry) (pairOf other) := ⟨hsource, htarget, hrefs⟩
      have hentry := h.mem_before hmem
      by_cases hof : OfAsset assetId relations entry
      · refine ⟨hentry, hof, ?_⟩
        rcases hrestorable.inside key hkey entry hentry hof other hother.1 hother.2.1 hrefers with
          hasset | hbefore
        · exact absurd hasset hother.2.2
        · exact hbefore.1
      · exact absurd hrefers
          (hrestorable.outside key hkey entry hentry hof other hother.1 hother.2.1)
  refine h.step hdelete (fun entry hentry => (hgone entry hentry).2.1) ?_
  intro entry hmem _ key hkey haction
  rw [h.keys.foreignKeys] at hkey
  rw [← Bool.not_eq_true, Database.pointsInto_iff]
  rintro ⟨other, hother, hrefers⟩
  obtain ⟨hbefore, hof, hne⟩ := hgone other hother
  have hentry := h.mem_before hmem
  by_cases hofEntry : OfAsset assetId relations entry
  · rcases hrestorable.inside key hkey entry hentry hofEntry other hbefore hof hrefers with
      hasset | ⟨-, -, hnull, hdefault⟩
    · exact hne hasset
    · exact haction.elim hnull hdefault
  · exact hrestorable.outside key hkey entry hentry hofEntry other hbefore hof hrefers

/-- The statements for the relations leave no row of these tables that is one of the asset. -/
theorem Left.deleteRelations (hrestorable : Restorable parseDocument assetId relations before)
    (hrest : rest ⊆ relations) (h : Left assetId relations before db)
    (hdelete : deleteRelationRows assetId rest db = some (records, after)) :
    Left assetId relations before after ∧ ∀ entry ∈ after.entries, entry ∈ db.entries ∧
      ∀ relation ∈ rest, ¬ (entry.table = relation.table ∧
        columnIs relation.columnName assetId entry.row = true) := by
  induction rest generalizing db records with
  | nil =>
      cases hdelete
      exact ⟨h, fun entry hentry => ⟨hentry, fun relation hrelation => by cases hrelation⟩⟩
  | cons relation rest ih =>
      rw [List.cons_subset] at hrest
      simp only [deleteRelationRows, Option.bind_eq_bind, Option.bind_eq_some_iff] at hdelete
      obtain ⟨⟨rows, deleted⟩, hfirst, ⟨later, last⟩, hlater, hresult⟩ := hdelete
      cases hresult
      obtain ⟨hleft, hkept⟩ := h.deleteRelation hrestorable hrest.1 hfirst
      obtain ⟨hall, hothers⟩ := ih hrest.2 hleft hlater
      refine ⟨hall, fun entry hentry => ?_⟩
      obtain ⟨hthere, hnone⟩ := hothers entry hentry
      obtain ⟨hstood, hnot⟩ := hkept entry hthere
      exact ⟨hstood, List.forall_mem_cons.mpr ⟨hnot, hnone⟩⟩

/-- A delete of an asset takes its rows and nothing else. -/
theorem entries_deleteAssetReferenceRecords
    (hrestorable : Restorable parseDocument assetId relations before)
    (h : deleteAssetReferenceRecords assetId relations before = some (records, after)) :
    Database.SameKeys before after ∧ after.entries =
      before.entries.filter fun entry => decide (¬ OfAsset assetId relations entry) := by
  simp only [deleteAssetReferenceRecords, Option.bind_eq_bind, Option.bind_eq_some_iff] at h
  obtain ⟨⟨first, deleted⟩, hrelations, ⟨assetRows, rest⟩, hasset, hresult⟩ := h
  simp only [Option.ite_none_left_eq_some, Option.some.injEq, Prod.mk.injEq] at hresult
  obtain ⟨-, -, rfl⟩ := hresult
  obtain ⟨hleft, hnone⟩ := Left.deleteRelations hrestorable (List.Subset.refl _)
    (.refl assetId relations before) hrelations
  have hassetRow : ∀ entry ∈ deleted.entries, OfAsset assetId relations entry →
      entry ∈ deleted.select assetTable (columnIs (py "id") assetId) := by
    intro entry hentry hof
    rcases hof with hof | ⟨relation, hrelation, hof⟩
    · exact Database.mem_select.mpr ⟨hentry, hof⟩
    · exact absurd hof ((hnone entry hentry).2 relation hrelation)
  have hgone : ∀ entry ∈ deleted.cascade (deleted.select assetTable (columnIs (py "id") assetId)),
      entry ∈ before.entries ∧ OfAsset assetId relations entry := by
    apply Database.cascade_induction
    · intro entry hentry
      obtain ⟨hmem, hselected⟩ := Database.mem_select.mp hentry
      exact ⟨hleft.mem_before hmem, .inl hselected⟩
    · intro entry hmem key hkey _ other hother hsource htarget hrefs
      rw [hleft.keys.foreignKeys] at hkey
      by_contra hnot
      have hof : ¬ OfAsset assetId relations entry := fun hof => hnot ⟨hleft.mem_before hmem, hof⟩
      exact hrestorable.outside key hkey entry (hleft.mem_before hmem) hof other hother.1 hother.2
        ⟨hsource, htarget, hrefs⟩
  obtain ⟨hlast, hkept⟩ := hleft.step hasset (fun entry hentry => (hgone entry hentry).2) (by
    intro entry hmem hstays key hkey _
    rw [hleft.keys.foreignKeys] at hkey
    rw [← Bool.not_eq_true, Database.pointsInto_iff]
    rintro ⟨other, hother, hrefers⟩
    obtain ⟨hbefore, hof⟩ := hgone other hother
    have hnot : ¬ OfAsset assetId relations entry := fun hofEntry =>
      hstays (Database.mem_cascade_of_mem hmem (hassetRow entry hmem hofEntry))
    exact hrestorable.outside key hkey entry (hleft.mem_before hmem) hnot other hbefore hof hrefers)
  obtain ⟨keep, hentries⟩ := hlast.entries
  refine ⟨hlast.keys, hentries.trans (List.filter_congr fun entry hentry => ?_)⟩
  by_cases hof : OfAsset assetId relations entry
  · rw [decide_eq_false (not_not_intro hof), ← Bool.not_eq_true]
    intro hkeep
    have hafter : entry ∈ rest.entries := by
      rw [hentries]
      exact List.mem_filter.mpr ⟨hentry, hkeep⟩
    obtain ⟨hthere, hnot⟩ := hkept entry hafter
    exact hnot (Database.mem_select.mp (hassetRow entry hthere hof)).2
  · rw [decide_eq_true hof]
    have hafter := hlast.others entry hentry hof
    rw [hentries] at hafter
    exact (List.mem_filter.mp hafter).2

end Deletes

/-! ## What is read -/

/-- The rows of records, each with its table. -/
def recordRows (records : List TableRecord) : List (TableName × Row SqlValue) :=
  records.flatMap fun record => record.rows.map fun row => (record.table, row)

theorem recordRows_filter (records : List TableRecord) :
    recordRows (records.filter fun record => !record.rows.isEmpty) = recordRows records := by
  induction records with
  | nil => rfl
  | cons record records ih =>
      obtain ⟨table, rows⟩ := record
      cases rows with
      | nil => exact ih
      | cons row rows =>
          rw [List.filter_cons_of_pos (by rfl)]
          simp only [recordRows, List.flatMap_cons] at ih ⊢
          rw [ih]

theorem filter_or_perm {α : Type*} (p q : α → Bool) (items : List α)
    (hdisjoint : ∀ item ∈ items, p item = true → q item = false) :
    (items.filter fun item => p item || q item).Perm (items.filter p ++ items.filter q) := by
  have hsplit := List.filter_append_perm p (items.filter fun item => p item || q item)
  rw [List.filter_filter, List.filter_filter] at hsplit
  have hfirst : items.filter (fun item => p item && (p item || q item)) = items.filter p :=
    List.filter_congr fun item _ => by cases p item <;> rfl
  have hsecond : items.filter (fun item => !p item && (p item || q item)) = items.filter q := by
    apply List.filter_congr
    intro item hitem
    cases hp : p item with
    | false => rfl
    | true => rw [hdisjoint item hitem hp]; rfl
  rw [hfirst, hsecond] at hsplit
  exact hsplit.symm

section Captures

variable {parseDocument : PyStr → Option PyStr} {assetId : PyStr}
  {relations : List AssetReferenceRelation} {db : Postgres}

/-- The rows of an asset in the tables of its relations, table by table. -/
theorem recordRows_relations (hnodup : ((relations.map (·.table)).map qualifiedName).Nodup) :
    (recordRows (relations.map fun relation =>
      ⟨relation.table, listRowsByColumnValue db relation.table relation.columnName assetId⟩)).Perm
      ((db.entries.filter fun entry => relations.any fun relation =>
        decide (entry.table = relation.table) &&
          columnIs relation.columnName assetId entry.row).map pairOf) := by
  induction relations with
  | nil => rw [List.filter_eq_nil_iff.mpr (by simp)]; exact .refl _
  | cons relation relations ih =>
      rw [List.map_cons, List.map_cons, List.nodup_cons] at hnodup
      have hhead : (listRowsByColumnValue db relation.table relation.columnName assetId).map
          (fun row => (relation.table, row)) = (db.entries.filter fun entry =>
            decide (entry.table = relation.table) &&
              columnIs relation.columnName assetId entry.row).map pairOf := by
        rw [listRowsByColumnValue, List.map_map]
        apply List.map_congr_left
        intro entry hentry
        rw [Function.comp_apply, pairOf, (Database.mem_select.mp hentry).2.1]
      simp only [List.any_cons]
      have hsplit := (filter_or_perm (fun entry : Entry SqlValue =>
        decide (entry.table = relation.table) && columnIs relation.columnName assetId entry.row)
        (fun entry => relations.any fun relation => decide (entry.table = relation.table) &&
          columnIs relation.columnName assetId entry.row) db.entries (by
        intro entry _ hfirst
        rw [Bool.and_eq_true, decide_eq_true_eq] at hfirst
        refine List.any_eq_false.mpr fun other hother hboth => ?_
        rw [Bool.and_eq_true, decide_eq_true_eq] at hboth
        apply hnodup.1
        rw [← hfirst.1, hboth.1, List.map_map]
        exact List.mem_map_of_mem (f := qualifiedName ∘ fun r => r.table) hother)).map pairOf
      rw [List.map_append] at hsplit
      refine .trans ?_ hsplit.symm
      rw [← hhead]
      exact (ih hnodup.2).append_left _

/-- A capture in one state of the database reads every row of the asset once. -/
theorem recordRows_captureRecords
    (hnodup : ((assetTable :: relations.map (·.table)).map qualifiedName).Nodup) :
    (recordRows (captureRecords ⟨db, fun _ => db, db⟩ assetId relations)).Perm
      ((db.entries.filter fun entry => decide (OfAsset assetId relations entry)).map pairOf) := by
  have hrecords := @recordRows_relations assetId (⟨assetTable, py "id"⟩ :: relations) db hnodup
  rw [captureRecords, recordRows_filter, List.mapIdx_eq_zipIdx_map]
  have hindices : (relations.zipIdx.map fun pair => (⟨pair.1.table,
      listRowsByColumnValue db pair.1.table pair.1.columnName assetId⟩ : TableRecord)) =
      relations.map fun relation =>
        ⟨relation.table, listRowsByColumnValue db relation.table relation.columnName assetId⟩ := by
    conv_rhs => rw [← List.zipIdx_map_fst 0 relations, List.map_map]
    rfl
  rw [List.map_cons] at hrecords
  rw [hindices]
  refine hrecords.trans (.of_eq (congrArg _ (List.filter_congr fun entry _ => ?_)))
  rw [Bool.eq_iff_iff, List.any_cons, Bool.or_eq_true, decide_eq_true_eq]
  simp only [OfAsset, List.any_eq_true, Bool.and_eq_true, decide_eq_true_eq]

end Captures

/-! ## What is put back -/

theorem recordOrder_total (a b : TableRecord) : recordOrder a b ∨ recordOrder b a := by
  unfold recordOrder
  by_cases ha : a.table = assetTable
  · exact .inl (.inl ha)
  by_cases hb : b.table = assetTable
  · exact .inr (.inl hb)
  exact (le_total (qualifiedName a.table) (qualifiedName b.table)).imp
    (fun h => .inr ⟨hb, h⟩) fun h => .inr ⟨ha, h⟩

theorem recordOrder_trans {a b c : TableRecord} (hab : recordOrder a b) (hbc : recordOrder b c) :
    recordOrder a c := by
  rcases hab with ha | ⟨hb, hab⟩
  · exact .inl ha
  · rcases hbc with hb' | ⟨hc, hbc⟩
    · exact absurd hb' hb
    · exact .inr ⟨hc, le_trans hab hbc⟩

section Restores

variable {parseDocument : PyStr → Option PyStr} {assetId : PyStr}
  {relations : List AssetReferenceRelation} {before state : Postgres} {records : List TableRecord}

/-- The records that are still to be put back, in their order, and what is there already. -/
structure Pending (parseDocument : PyStr → Option PyStr) (before state : Postgres)
    (records : List TableRecord) : Prop where
  keys : Database.SameKeys before state
  rows : (state.tableRows ++ recordRows records).Perm before.tableRows
  sorted : records.Pairwise recordOrder
  tables : (records.map fun record => qualifiedName record.table).Nodup
  rebound : ∀ record ∈ records, ∀ row ∈ record.rows, rebindRow parseDocument row = some row
  /-- A row references none that comes after it. -/
  ordered : ∀ record ∈ records, ∀ row ∈ record.rows, ∀ key ∈ before.foreignKeys,
    ∀ target ∈ recordRows records, Database.Refers key (record.table, row) target →
      target.1 = assetTable ∨
        record.table ≠ assetTable ∧ qualifiedName target.1 ≤ qualifiedName record.table

/-- What the first row of a pending record references is there, or comes with it. -/
theorem Pending.resolved {record : TableRecord}
    (hrefs : ∀ row ∈ before.tableRows, before.Resolved before.tableRows row)
    (h : Pending parseDocument before state (record :: records)) {row : Row SqlValue}
    (hrow : row ∈ record.rows) :
    before.Resolved (state.tableRows ++ record.rows.map fun row => (record.table, row))
      (record.table, row) := by
  have hpair : (record.table, row) ∈ recordRows (record :: records) :=
    List.mem_flatMap.mpr ⟨record, List.mem_cons_self, List.mem_map_of_mem hrow⟩
  intro key hkey hsource hvalues
  obtain ⟨target, htarget, hrefers⟩ := hrefs _
    (h.rows.mem_iff.mp (List.mem_append_right _ hpair)) key hkey hsource hvalues
  refine ⟨target, ?_, hrefers⟩
  rcases List.mem_append.mp (h.rows.mem_iff.mpr htarget) with hthere | hpending
  · exact List.mem_append_left _ hthere
  rw [recordRows, List.flatMap_cons] at hpending
  rcases List.mem_append.mp hpending with hsame | hlater
  · exact List.mem_append_right _ hsame
  -- a record that comes later in the order is not referenced
  exfalso
  have horder := h.ordered record List.mem_cons_self row hrow key hkey target
    (by rw [recordRows, List.flatMap_cons]; exact List.mem_append_right _ hlater) hrefers
  obtain ⟨later, hmem, hof⟩ := List.mem_flatMap.mp hlater
  obtain ⟨targetRow, -, rfl⟩ := List.mem_map.mp hof
  have hsorted := (List.pairwise_cons.mp h.sorted).1 later hmem
  have hdistinct : qualifiedName record.table ≠ qualifiedName later.table := by
    have htables := h.tables
    rw [List.map_cons, List.nodup_cons] at htables
    exact fun heq => htables.1 (heq ▸ List.mem_map_of_mem hmem)
  rcases hsorted with hasset | ⟨hlaterNe, hle⟩
  · rcases horder with hlaterAsset | ⟨hne, -⟩
    · exact hdistinct (by rw [hasset, show later.table = assetTable from hlaterAsset])
    · exact hne hasset
  · rcases horder with hlaterAsset | ⟨-, hge⟩
    · exact hlaterNe hlaterAsset
    · exact hdistinct (le_antisymm hle hge)

/-- Pending records are put back. -/
theorem Pending.insertRecords (hunique : before.UniqueRows before.tableRows)
    (hrefs : ∀ row ∈ before.tableRows, before.Resolved before.tableRows row)
    (h : Pending parseDocument before state records) :
    ∃ restored, Db.insertRecords parseDocument records state = some restored ∧
      Database.SameKeys before restored ∧ restored.tableRows.Perm before.tableRows := by
  induction records generalizing state with
  | nil =>
      have hrows := h.rows
      rw [recordRows, List.flatMap_nil, List.append_nil] at hrows
      exact ⟨state, rfl, h.keys, hrows⟩
  | cons record records ih =>
      have hbound : record.rows.mapM (rebindRow parseDocument) = some record.rows := by
        rw [mapM_eq_some_iff]
        exact List.map_congr_left (h.rebound record List.mem_cons_self)
      have hsub : (state.tableRows ++ record.rows.map fun row => (record.table, row)).Subperm
          before.tableRows := by
        refine .trans (List.Sublist.subperm ?_) h.rows.subperm
        rw [recordRows, List.flatMap_cons, ← List.append_assoc]
        exact List.sublist_append_left _ _
      have hinsert : state.insertRows record.table record.rows =
          some (state.withRows record.table record.rows) :=
        Database.insertRows_eq_some (h.keys.uniqueRows (hunique.of_subperm hsub))
          fun row hrow => h.keys.resolved (h.resolved hrefs hrow)
      have hnext : Pending parseDocument before (state.withRows record.table record.rows)
          records := by
        refine ⟨⟨h.keys.uniqueKeys, h.keys.foreignKeys⟩, ?_, h.sorted.of_cons, ?_,
          fun other hother => h.rebound other (List.mem_cons_of_mem _ hother), ?_⟩
        · have hrows := h.rows
          rw [recordRows, List.flatMap_cons, ← List.append_assoc] at hrows
          rw [Database.tableRows_withRows]
          exact hrows
        · have htables := h.tables
          rw [List.map_cons, List.nodup_cons] at htables
          exact htables.2
        · intro other hother row hrow key hkey target htarget
          refine h.ordered other (List.mem_cons_of_mem _ hother) row hrow key hkey target ?_
          rw [recordRows, List.flatMap_cons]
          exact List.mem_append_right _ htarget
      obtain ⟨restored, hrestored, hsame, hperm⟩ := ih hnext
      refine ⟨restored, ?_, hsame, hperm⟩
      simp only [Db.insertRecords, Option.bind_eq_bind, hbound, Option.bind_some, hinsert,
        hrestored]

/-- The records of an asset are put back into what its delete has left. -/
theorem restore_captured (hrestorable : Restorable parseDocument assetId relations before)
    (h : deleteAssetReferenceRecords assetId relations before = some (records, state)) :
    ∃ restored, restoreAssetReferenceRecords parseDocument
        (captureRecords ⟨before, fun _ => before, before⟩ assetId relations) state =
          some restored ∧
      restored.tableRows.Perm before.tableRows := by
  obtain ⟨hkeys, hentries⟩ := entries_deleteAssetReferenceRecords hrestorable h
  have hcaptured : (recordRows (captureRecords ⟨before, fun _ => before, before⟩ assetId
      relations)).Perm _ := recordRows_captureRecords hrestorable.tables
  have hsorted := List.perm_insertionSort recordOrder
    (captureRecords ⟨before, fun _ => before, before⟩ assetId relations)
  have hrows : (recordRows ((captureRecords ⟨before, fun _ => before, before⟩ assetId
      relations).insertionSort recordOrder)).Perm ((before.entries.filter fun entry =>
        decide (OfAsset assetId relations entry)).map pairOf) :=
    (hsorted.flatMap_right _).trans hcaptured
  have hofAsset : ∀ pair ∈ recordRows ((captureRecords ⟨before, fun _ => before, before⟩ assetId
      relations).insertionSort recordOrder), ∃ entry ∈ before.entries,
        OfAsset assetId relations entry ∧ pairOf entry = pair := by
    intro pair hpair
    obtain ⟨entry, hentry, heq⟩ := List.mem_map.mp (hrows.mem_iff.mp hpair)
    obtain ⟨hmem, hof⟩ := List.mem_filter.mp hentry
    exact ⟨entry, hmem, of_decide_eq_true hof, heq⟩
  have hpairOf : ∀ record ∈ (captureRecords ⟨before, fun _ => before, before⟩ assetId
      relations).insertionSort recordOrder, ∀ row ∈ record.rows, ∃ entry ∈ before.entries,
        OfAsset assetId relations entry ∧ pairOf entry = (record.table, row) :=
    fun record hrecord row hrow => hofAsset _
      (List.mem_flatMap.mpr ⟨record, hrecord, List.mem_map_of_mem hrow⟩)
  have hpending : Pending parseDocument before state ((captureRecords ⟨before, fun _ => before,
      before⟩ assetId relations).insertionSort recordOrder) := by
    refine ⟨hkeys, ?_, ?_, ?_, ?_, ?_⟩
    · have hsplit := (List.filter_append_perm (fun entry =>
        decide (OfAsset assetId relations entry)) before.entries).map pairOf
      rw [List.map_append] at hsplit
      refine .trans ?_ (List.perm_append_comm.trans hsplit)
      rw [Database.tableRows, hentries]
      refine (hrows.append_left _).trans (.of_eq ?_)
      simp only [decide_not]
      rfl
    · have : Std.Total recordOrder := ⟨recordOrder_total⟩
      have : IsTrans TableRecord recordOrder := ⟨fun _ _ _ => recordOrder_trans⟩
      exact List.pairwise_insertionSort recordOrder _
    · apply (hsorted.map fun record => qualifiedName record.table).nodup_iff.mpr
      refine hrestorable.tables.sublist ?_
      have htables : ((⟨assetTable, listRowsByColumnValue before assetTable (py "id") assetId⟩ ::
          relations.mapIdx fun _ relation => (⟨relation.table, listRowsByColumnValue before
            relation.table relation.columnName assetId⟩ : TableRecord)).map
              fun record => qualifiedName record.table) =
          (assetTable :: relations.map (·.table)).map qualifiedName := by
        rw [List.map_cons, List.map_cons, List.mapIdx_eq_zipIdx_map, List.map_map, List.map_map]
        conv_rhs => rw [← List.zipIdx_map_fst 0 relations, List.map_map]
        rfl
      rw [← htables]
      exact List.filter_sublist.map _
    · intro record hrecord row hrow
      obtain ⟨entry, hentry, hof, heq⟩ := hpairOf record hrecord row hrow
      rw [← show entry.row = row from congrArg Prod.snd heq]
      exact hrestorable.rebound entry hentry hof
    · intro record hrecord row hrow key hkey target htarget hrefers
      obtain ⟨entry, hentry, hof, heq⟩ := hpairOf record hrecord row hrow
      obtain ⟨other, hother, hofOther, rfl⟩ := hofAsset target htarget
      rw [← heq] at hrefers
      rw [← show entry.table = record.table from congrArg Prod.fst heq]
      exact (hrestorable.inside key hkey entry hentry hof other hother hofOther hrefers).imp_right
        fun hbefore => ⟨hbefore.1, hbefore.2.1⟩
  obtain ⟨restored, hrestored, -, hperm⟩ := hpending.insertRecords
    (Database.uniqueRows_of_uniqueIn hrestorable.unique) (by
      intro row hrow
      obtain ⟨entry, hentry, rfl⟩ := List.mem_map.mp hrow
      exact Database.referencesHold_iff.mp (hrestorable.references entry hentry))
  exact ⟨restored, hrestored, hperm⟩

end Restores

/-! ## Removed and restored -/

section Removals

variable {parseDocument : PyStr → Option PyStr} {faults : RemovalFaults}
  {runId restorePointId assetId : PyStr} {finding : Option MissingAssetReferenceFinding}
  {relations : List AssetReferenceRelation} {views : AssetViews} {db after : Postgres}

/-- A removal that was committed has stored what it has read. -/
theorem of_committed (h : (removeAsset faults runId restorePointId assetId finding relations
      views).committed = some after) :
    (∃ records, deleteAssetReferenceRecords assetId relations views.delete =
        some (records, after)) ∧
      ∃ point, (removeAsset faults runId restorePointId assetId finding relations
          views).restorePoint = some point ∧
        point.status = .available ∧ point.records = captureRecords views assetId relations := by
  have hrecord : ∀ (attempt : AssetAttempt) (raises : Bool) (status : RepairJournalEntryStatus)
      (item : MissingAssetOperationItem),
      (attempt.record raises status item).committed = attempt.committed ∧
        (attempt.record raises status item).restorePoint = attempt.restorePoint := by
    intro attempt raises status item
    cases raises <;> exact ⟨rfl, rfl⟩
  unfold removeAsset at h ⊢
  cases finding with
  | none =>
      simp only at h
      rw [(hrecord _ _ _ _).1] at h
      cases h
  | some finding =>
      simp only at h ⊢
      split at h
      · rw [(hrecord _ _ _ _).1] at h
        cases h
      next hready =>
      rw [if_neg hready]
      split at h
      · cases h
      next hcapture =>
      rw [if_neg hcapture]
      split at h
      · rw [(hrecord _ _ _ _).1] at h
        cases h
      next hsome =>
      rw [if_neg hsome]
      split at h
      · cases h
      next hcreate =>
      rw [if_neg hcreate]
      split at h
      · split at h
        · cases h
        · rw [(hrecord _ _ _ _).1] at h
          cases h
      next records deleted hdelete =>
      rw [(hrecord _ _ _ _).1] at h
      cases h
      have hran : deleteAssetReferenceRecords assetId relations views.delete =
          some (records, after) := by
        by_cases hfault : faults.delete
        · rw [if_pos hfault] at hdelete
          cases hdelete
        · rwa [if_neg hfault] at hdelete
      refine ⟨⟨records, hran⟩, ?_⟩
      rw [(hrecord _ _ _ _).2]
      exact ⟨_, rfl, rfl, rfl⟩

/-- A removal that was committed can be undone: whatever else failed during it, the restore point
puts back into every table the rows that were there. -/
theorem restore_undoes_removal {restoreFaults : RestoreFaults}
    (hrestorable : Restorable parseDocument assetId relations db)
    (hcommitted : (removeAsset faults runId restorePointId assetId finding relations
      ⟨db, fun _ => db, db⟩).committed = some after)
    (hinsert : restoreFaults.insert = false) :
    ∃ point restored, (removeAsset faults runId restorePointId assetId finding relations
        ⟨db, fun _ => db, db⟩).restorePoint = some point ∧
      (restoreSinglePoint parseDocument restoreFaults point after).committed = some restored ∧
      restored.tableRows.Perm db.tableRows := by
  obtain ⟨⟨records, hdelete⟩, point, hpoint, hstatus, hrecords⟩ := of_committed hcommitted
  obtain ⟨restored, hrestored, hperm⟩ := restore_captured hrestorable hdelete
  refine ⟨point, restored, hpoint, ?_, hperm⟩
  rw [← hrecords] at hrestored
  rw [restoreSinglePoint, if_neg (by rw [hstatus]; decide), hinsert]
  simp only [Bool.false_eq_true, if_false, hrestored]
  cases restoreFaults.updateRestorePoint with
  | true => rfl
  | false => cases restoreFaults.appendJournalEntry <;> rfl

end Removals

/-! ## An asset in an album -/

/-- Nothing raises. -/
def noFaults : RemovalFaults := ⟨false, false, false, false, false⟩

def memberRelations : List AssetReferenceRelation :=
  [⟨albumAssetTable, py "assetId"⟩]

/-- The asset and its membership come back, though the mark and the entry are not written. -/
theorem restore_undoes_removal_member :
    ∃ after, (removeAsset noFaults (py "r1") (py "p1") (py "a1") (some missingFinding)
        memberRelations ⟨insideAlbum, fun _ => insideAlbum, insideAlbum⟩).committed = some after ∧
      after.entries = [] ∧
      ∃ point restored, (removeAsset noFaults (py "r1") (py "p1") (py "a1") (some missingFinding)
          memberRelations ⟨insideAlbum, fun _ => insideAlbum, insideAlbum⟩).restorePoint =
            some point ∧
        (restoreSinglePoint (fun _ => none) ⟨false, true, true⟩ point after).committed =
          some restored ∧
        restored.tableRows.Perm insideAlbum.tableRows := by
  have hrun : ((removeAsset noFaults (py "r1") (py "p1") (py "a1") (some missingFinding)
      memberRelations ⟨insideAlbum, fun _ => insideAlbum, insideAlbum⟩).committed).map (·.entries) =
      some [] := by
    decide +kernel
  obtain ⟨after, hcommitted, hentries⟩ := Option.map_eq_some_iff.mp hrun
  have hall : ∀ entry ∈ insideAlbum.entries, OfAsset (py "a1") memberRelations entry := by
    decide +kernel
  refine ⟨after, hcommitted, hentries, restore_undoes_removal ⟨by decide +kernel, ?_, ?_, ?_,
    by decide +kernel, ?_⟩ hcommitted rfl⟩
  · intro key _ entry hentry hnot
    exact absurd (hall entry hentry) hnot
  · intro key hkey entry _ _ target _ _ hrefers
    cases List.mem_singleton.mp hkey
    exact .inl hrefers.2.1.symm
  · intro table
    rw [Database.uniqueIn_iff]
    intro key _ _ entry hentry other hother hne hentryTable hotherTable
    have htables : ∀ entry ∈ insideAlbum.entries, ∀ other ∈ insideAlbum.entries,
        other.rowId ≠ entry.rowId → entry.table ≠ other.table := by
      decide +kernel
    exact absurd (hentryTable.trans hotherTable.symm) (htables entry hentry other hother hne)
  · have hrows : ∀ entry ∈ insideAlbum.entries,
        rebindRow (fun _ => none) entry.row = some entry.row := by
      decide +kernel
    exact fun entry hentry _ => hrows entry hentry

end ImmichDoctor.Consistency
