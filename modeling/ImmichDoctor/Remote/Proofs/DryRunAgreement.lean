import ImmichDoctor.Remote.SyncRepair
import ImmichDoctor.Library.Overlaps
/-!
# What a dry run predicts

Dry run and apply select the same rows for a mapping, but the dry run adds up the mappings
one by one: a row that dangles in both of its columns is counted twice and deleted once.
-/

namespace ImmichDoctor.Remote

open ImmichDoctor.Library
open ImmichDoctor.Db

/-! ## The mappings of a repair -/

/-- The mappings that are repaired, in their order. -/
def resolvedMappings (inspection : RemoteSyncInspection) : List ForeignKeyMapping :=
  match inspection.albumAssetTable with
  | none => []
  | some _ =>
      [inspection.assetResolution, inspection.albumResolution].filterMap fun resolution =>
        match resolution with
        | .error _ => none
        | .ok mapping => some mapping

theorem resolveForeignKeyMapping_ok {foreignKeys : List ForeignKey} {sourceTable : TableName}
    {targetTable : Option TableName} {targetLabel : PyStr} {mapping : ForeignKeyMapping}
    (h : resolveForeignKeyMapping foreignKeys sourceTable targetTable targetLabel = .ok mapping) :
    mapping.sourceTable = sourceTable ∧ targetTable = some mapping.targetTable := by
  unfold resolveForeignKeyMapping at h
  split at h
  · cases h
  · split at h
    · split at h
      · cases h
        exact ⟨rfl, rfl⟩
      · cases h
    · cases h

theorem name_selectTable {availableTables : List TableName} {tableName : PyStr}
    {table : TableName} (h : selectTable availableTables tableName = some table) :
    table.name = tableName :=
  of_decide_eq_true (List.find?_some (p := fun table : TableName => table.name = tableName) h)

/-- The mappings lead from one table to others. -/
theorem resolvedMappings_tables {access : Access} {db : Postgres} {a b : ForeignKeyMapping}
    (ha : a ∈ resolvedMappings (inspect access db))
    (hb : b ∈ resolvedMappings (inspect access db)) :
    a.sourceTable = b.sourceTable ∧ a.targetTable ≠ b.sourceTable := by
  have hname : ∀ mapping ∈ resolvedMappings (inspect access db),
      selectTable (listTables access db) (py "album_asset") = some mapping.sourceTable ∧
        mapping.targetTable.name ≠ py "album_asset" := by
    intro mapping hmapping
    unfold resolvedMappings inspect at hmapping
    cases hlink : selectTable (listTables access db) (py "album_asset") with
    | none =>
        simp only [hlink] at hmapping
        cases hmapping
    | some link =>
        simp only [hlink, List.mem_filterMap] at hmapping
        obtain ⟨resolution, hresolution, hok⟩ := hmapping
        cases resolution with
        | error issue => cases hok
        | ok found =>
            cases hok
            rcases List.mem_pair.mp hresolution with hasset | halbum
            · obtain ⟨hsource, htarget⟩ := resolveForeignKeyMapping_ok hasset.symm
              rw [hsource, name_selectTable htarget]
              exact ⟨rfl, by decide⟩
            · obtain ⟨hsource, htarget⟩ := resolveForeignKeyMapping_ok halbum.symm
              rw [hsource, name_selectTable htarget]
              exact ⟨rfl, by decide⟩
  obtain ⟨hsourceA, htarget⟩ := hname a ha
  obtain ⟨hsourceB, -⟩ := hname b hb
  refine ⟨Option.some.inj (hsourceA.symm.trans hsourceB), fun heq => htarget ?_⟩
  rw [heq]
  exact name_selectTable hsourceB

/-! ## What the runs do -/

/-- The deletes of an apply, up to the first that raises. -/
def afterDeletes : List ForeignKeyMapping → Postgres → Postgres
  | [], db => db
  | mapping :: mappings, db =>
      match db.deleteWhere mapping.sourceTable fun row => !refers db mapping row with
      | none => db
      | some (_, after) => afterDeletes mappings after

theorem brokenReferenceCount_eq {α : Type} (rows : List α) :
    brokenReferenceCount defaultSampleLimit rows = rows.length := by
  cases rows <;> rfl

/-- An apply ends where its deletes end. -/
theorem run_apply_snd (access : Access) (db : Postgres) :
    (run access true db).2 = afterDeletes (resolvedMappings (inspect access db)) db := by
  have hsnd : (run access true db).2 =
      (buildPlans defaultSampleLimit (inspect access db) true db).2 := by
    unfold run
    split <;> rename_i heq <;> rw [heq]
  rw [hsnd]
  generalize inspect access db = inspection
  obtain ⟨table, album, asset⟩ := inspection
  unfold buildPlans resolvedMappings
  cases table with
  | none => rfl
  | some table =>
      cases asset with
      | error issue =>
          cases album with
          | error issue => rfl
          | ok albumMapping =>
              simp only [planForResolution, deleteMissingForeignKeyRows, List.filterMap_cons,
                List.filterMap_nil, afterDeletes, Bool.not_true, Bool.false_eq_true, if_false]
              cases db.deleteWhere albumMapping.sourceTable fun row =>
                !refers db albumMapping row <;> rfl
      | ok assetMapping =>
          simp only [planForResolution, deleteMissingForeignKeyRows, List.filterMap_cons,
            List.filterMap_nil, afterDeletes, Bool.not_true, Bool.false_eq_true, if_false]
          cases db.deleteWhere assetMapping.sourceTable fun row =>
              !refers db assetMapping row with
          | none => rfl
          | some deleted =>
              cases album with
              | error issue => rfl
              | ok albumMapping =>
                  simp only [Option.map_some, afterDeletes]
                  cases deleted.2.deleteWhere albumMapping.sourceTable fun row =>
                    !refers deleted.2 albumMapping row <;> rfl

theorem totalRows_cons (item : RepairPlanItem) (items : List RepairPlanItem) :
    totalRows (item :: items) =
      (if item.status = .skipped then 0 else item.rowCount) + totalRows items := by
  unfold totalRows
  by_cases hstatus : item.status = .skipped
  · rw [List.filter_cons_of_neg (by simp only [hstatus]; decide), if_pos hstatus, Nat.zero_add]
  · rw [List.filter_cons_of_pos (by simpa using hstatus), if_neg hstatus, List.map_cons,
      List.sum_cons]

/-- What a dry run plans for a resolution. -/
theorem planForResolution_dryRun (resolution paired : MappingResolution) (reason : PyStr)
    (db : Postgres) : ∃ item, planForResolution defaultSampleLimit resolution paired false reason
        db = (some item, db) ∧
      (if item.status = .skipped then 0 else item.rowCount) =
        match resolution with
        | .error _ => 0
        | .ok mapping => (missing db mapping).length := by
  cases resolution with
  | error issue => exact ⟨_, rfl, rfl⟩
  | ok mapping =>
      refine ⟨_, rfl, ?_⟩
      have hcount : findMissingForeignKeyRows defaultSampleLimit mapping db =
          (missing db mapping).length := brokenReferenceCount_eq _
      simp only [hcount]
      by_cases hzero : (missing db mapping).length = 0
      · rw [if_pos hzero, if_neg nofun]
      · rw [if_neg hzero, if_neg nofun]

/-- A dry run reports the missing rows mapping by mapping. -/
theorem run_dryRun (access : Access) (db : Postgres) :
    ∃ report, run access false db = (some report, db) ∧ totalRows report.plans =
      ((resolvedMappings (inspect access db)).map fun mapping =>
        (missing db mapping).length).sum := by
  unfold run
  generalize inspect access db = inspection
  obtain ⟨table, album, asset⟩ := inspection
  unfold buildPlans resolvedMappings
  cases table with
  | none => exact ⟨_, rfl, rfl⟩
  | some table =>
      obtain ⟨assetItem, hasset, hassetRows⟩ := planForResolution_dryRun asset album
        (py "orphan album_asset rows with missing asset references") db
      obtain ⟨albumItem, halbum, halbumRows⟩ := planForResolution_dryRun album asset
        (py "orphan album_asset rows with missing album references") db
      simp only [hasset, halbum]
      refine ⟨_, rfl, ?_⟩
      rw [totalRows_cons, totalRows_cons, hassetRows, halbumRows]
      have hnil : totalRows [] = 0 := rfl
      cases asset <;> cases album <;>
        simp only [hnil, List.filterMap_cons, List.filterMap_nil, List.map_cons, List.map_nil,
          List.sum_cons, List.sum_nil] <;> omega

/-! ## Deletes of disjoint selections -/

/-- No row references, through a foreign key, a row that is missing its target unless it is
missing the same target. -/
def Unreferenced (db : Postgres) (mappings : List ForeignKeyMapping) : Prop :=
  ∀ mapping ∈ mappings, db.Detached (missing db mapping)

/-- Each row that lacks a target lacks one only, and names it. -/
structure DanglesOnce (db : Postgres) (mappings : List ForeignKeyMapping) : Prop where
  once : mappings.Pairwise fun a b => ∀ entry ∈ missing db a, entry ∉ missing db b
  named : ∀ mapping ∈ mappings, ∀ entry ∈ missing db mapping,
    (entry.row.value mapping.sourceColumn).isSome = true

/-- The entries that were there before and are not afterwards. -/
def goneEntries (db after : Postgres) : List (Entry SqlValue) :=
  db.entries.filter fun entry => entry.rowId ∉ after.entries.map (·.rowId)

theorem rowId_mem_filter_iff {db : Postgres} {p : Entry SqlValue → Bool} {entry : Entry SqlValue}
    (hentry : entry ∈ db.entries) :
    entry.rowId ∈ (db.entries.filter p).map (·.rowId) ↔ p entry = true := by
  constructor
  · intro hmem
    obtain ⟨other, hother, hid⟩ := List.mem_map.mp hmem
    obtain ⟨hin, hp⟩ := List.mem_filter.mp hother
    rwa [List.inj_on_of_nodup_map db.identified hin hentry hid] at hp
  · intro hp
    exact List.mem_map.mpr ⟨entry, List.mem_filter.mpr ⟨hentry, hp⟩, rfl⟩

theorem goneEntries_of_entries {db after : Postgres} {p : Entry SqlValue → Bool}
    (h : after.entries = db.entries.filter p) :
    goneEntries db after = db.entries.filter fun entry => !p entry := by
  apply List.filter_congr
  intro entry hentry
  rw [h]
  cases hp : p entry with
  | true => exact decide_eq_false (not_not_intro ((rowId_mem_filter_iff hentry).mpr hp))
  | false =>
      refine decide_eq_true fun hmem => ?_
      rw [(rowId_mem_filter_iff hentry).mp hmem] at hp
      cases hp

/-- Whether an entry is missing the target of a mapping. -/
def isMissing (db : Postgres) (mapping : ForeignKeyMapping) (entry : Entry SqlValue) : Bool :=
  decide (entry.table = mapping.sourceTable) && !refers db mapping entry.row

theorem missing_eq_filter (db : Postgres) (mapping : ForeignKeyMapping) :
    missing db mapping = db.entries.filter (isMissing db mapping) :=
  rfl

/-- Deleting from the link table changes no target. -/
theorem isMissing_without {db : Postgres} {a b : ForeignKeyMapping}
    (hdetached : db.Detached (missing db a)) (htarget : b.targetTable ≠ a.sourceTable) :
    isMissing (db.without (missing db a)) b = isMissing db b := by
  funext entry
  unfold isMissing refers
  rw [Database.select_without_of_detached hdetached, List.filter_eq_self.mpr]
  intro ref href
  refine decide_eq_true fun hmem => htarget ?_
  exact (Database.mem_select.mp href).2.1.symm.trans (Database.mem_select.mp hmem).2.1

/-- Deleting what one mapping selects leaves the selection of another as it is. -/
theorem missing_without {db : Postgres} {a b : ForeignKeyMapping}
    (hdetached : db.Detached (missing db a)) (htarget : b.targetTable ≠ a.sourceTable)
    (hdisjoint : ∀ entry ∈ missing db a, entry ∉ missing db b) :
    missing (db.without (missing db a)) b = missing db b := by
  rw [missing_eq_filter, isMissing_without hdetached htarget,
    Database.entries_without_of_detached hdetached, List.filter_filter, missing_eq_filter db b]
  apply List.filter_congr
  intro entry hentry
  cases hb : isMissing db b entry with
  | false => rfl
  | true =>
      have hout : entry ∉ missing db a := fun hmem =>
        hdisjoint entry hmem (List.mem_filter.mpr ⟨hentry, hb⟩)
      rw [decide_eq_true hout, Bool.and_self]

/-- The deletes of selections that are disjoint and unreferenced remove their union. -/
theorem entries_afterDeletes {mappings : List ForeignKeyMapping} {db : Postgres}
    (hunreferenced : Unreferenced db mappings)
    (hdisjoint : mappings.Pairwise fun a b => ∀ entry ∈ missing db a, entry ∉ missing db b)
    (htables : ∀ a ∈ mappings, ∀ b ∈ mappings,
      a.sourceTable = b.sourceTable ∧ a.targetTable ≠ b.sourceTable) :
    (afterDeletes mappings db).entries =
      db.entries.filter fun entry => !union (isMissing db) mappings entry := by
  induction mappings generalizing db with
  | nil => exact (List.filter_eq_self.mpr fun _ _ => rfl).symm
  | cons mapping mappings ih =>
      obtain ⟨hfirst, hrest⟩ := List.pairwise_cons.mp hdisjoint
      have hdetached : db.Detached (missing db mapping) :=
        hunreferenced mapping List.mem_cons_self
      have hsame : ∀ other ∈ mappings,
          missing (db.without (missing db mapping)) other = missing db other := by
        intro other hother
        have hmem := List.mem_cons_of_mem mapping hother
        exact missing_without hdetached (htables _ hmem _ List.mem_cons_self).2
          (hfirst other hother)
      have hdelete : afterDeletes (mapping :: mappings) db =
          afterDeletes mappings (db.without (missing db mapping)) := by
        have hone : db.deleteWhere mapping.sourceTable (fun row => !refers db mapping row) =
            some ((missing db mapping).map (·.row), db.without (missing db mapping)) :=
          Database.deleteWhere_of_detached hdetached
        simp only [afterDeletes, hone]
      rw [hdelete, ih, Database.entries_without_of_detached hdetached, List.filter_filter]
      · apply List.filter_congr
        intro entry hentry
        have hmissing : decide (entry ∉ missing db mapping) = !isMissing db mapping entry := by
          cases hfirst : isMissing db mapping entry with
          | true => exact decide_eq_false (not_not_intro (List.mem_filter.mpr ⟨hentry, hfirst⟩))
          | false =>
              refine decide_eq_true fun hmem => Bool.false_ne_true ?_
              exact hfirst.symm.trans (List.mem_filter.mp hmem).2
        have hothers : union (isMissing (db.without (missing db mapping))) mappings entry =
            union (isMissing db) mappings entry := by
          apply union_congr
          intro other hother
          have hmem := List.mem_cons_of_mem mapping hother
          rw [isMissing_without hdetached (htables _ hmem _ List.mem_cons_self).2]
        rw [hmissing, hothers, Bool.and_comm, ← Bool.not_or]
        rfl
      · intro other hother
        rw [hsame other hother]
        exact hdetached.without (hunreferenced other (List.mem_cons_of_mem _ hother))
      · refine hrest.imp_of_mem fun {a b} ha hb h => ?_
        rw [hsame a ha, hsame b hb]
        exact h
      · intro a ha b hb
        exact htables a (List.mem_cons_of_mem _ ha) b (List.mem_cons_of_mem _ hb)

/-! ## Prediction -/

/-- The entry names a row of the target that is not there. -/
def Dangles (db : Postgres) (mapping : ForeignKeyMapping) (entry : Entry SqlValue) : Prop :=
  entry ∈ missing db mapping ∧ (entry.row.value mapping.sourceColumn).isSome = true

/-- What a dry run reports is what an apply to the same database deletes. -/
structure Predicts (access : Access) (db : Postgres) : Prop where
  reported : ∃ report, (run access false db).1 = some report ∧
    totalRows report.plans = (goneEntries db (run access true db).2).length
  dangling : ∀ entry ∈ goneEntries db (run access true db).2,
    ∃ mapping ∈ resolvedMappings (inspect access db), Dangles db mapping entry

/-- Whether an entry names a row of the target that is not there. -/
def isDangling (db : Postgres) (mapping : ForeignKeyMapping) (entry : Entry SqlValue) : Bool :=
  isMissing db mapping entry && (entry.row.value mapping.sourceColumn).isSome

theorem dangles_iff {db : Postgres} {mapping : ForeignKeyMapping} {entry : Entry SqlValue} :
    Dangles db mapping entry ↔ entry ∈ db.entries ∧ isDangling db mapping entry = true := by
  rw [Dangles, missing_eq_filter, List.mem_filter, and_assoc, isDangling, Bool.and_eq_true]

theorem union_isMissing_of_isDangling {db : Postgres} {mappings : List ForeignKeyMapping}
    {entry : Entry SqlValue} (h : union (isDangling db) mappings entry = true) :
    union (isMissing db) mappings entry = true := by
  obtain ⟨mapping, hmapping, hdangling⟩ := List.any_eq_true.mp h
  exact List.any_eq_true.mpr ⟨mapping, hmapping, ((Bool.and_eq_true _ _).mp hdangling).1⟩

/-- Rows that dangle and are as many as the selections together leave no room for a row that
lacks two targets, or lacks one it does not name. -/
theorem danglesOnce_of_length {db : Postgres} {mappings : List ForeignKeyMapping}
    {gone : Entry SqlValue → Bool}
    (hdangling : ∀ entry ∈ db.entries, gone entry = true →
      union (isDangling db) mappings entry = true)
    (hlength : (mappings.map fun mapping => (missing db mapping).length).sum =
      (db.entries.filter gone).length) : DanglesOnce db mappings := by
  have hgone : (db.entries.filter gone).length ≤
      (db.entries.filter (union (isDangling db) mappings)).length := by
    rw [← List.countP_eq_length_filter, ← List.countP_eq_length_filter]
    exact List.countP_mono_left hdangling
  have hsublist : (db.entries.filter (union (isDangling db) mappings)).Sublist
      (db.entries.filter (union (isMissing db) mappings)) :=
    List.monotone_filter_right _ fun _ => union_isMissing_of_isDangling
  have hunion : (db.entries.filter (union (isMissing db) mappings)).length ≤
      (mappings.map fun mapping => (missing db mapping).length).sum :=
    length_filter_union_le db.entries (isMissing db) mappings
  have hsub := hsublist.length_le
  have heq : db.entries.filter (union (isDangling db) mappings) =
      db.entries.filter (union (isMissing db) mappings) :=
    hsublist.eq_of_length (by omega)
  have hpairwise := (length_filter_union_eq_iff db.entries (isMissing db) mappings).mp (by
    show _ = (mappings.map fun mapping => (missing db mapping).length).sum
    omega)
  constructor
  · refine hpairwise.imp fun {a b} hoverlap entry ha hb => ?_
    obtain ⟨hentry, hmissing⟩ := List.mem_filter.mp ha
    exact Bool.false_ne_true ((hoverlap entry hentry hmissing).symm.trans
      (List.mem_filter.mp hb).2)
  · intro mapping hmapping entry hentry
    obtain ⟨hmem, hmissing⟩ := List.mem_filter.mp hentry
    have hdangles : entry ∈ db.entries.filter (union (isDangling db) mappings) := by
      rw [heq]
      exact List.mem_filter.mpr ⟨hmem, List.any_eq_true.mpr ⟨mapping, hmapping, hmissing⟩⟩
    obtain ⟨other, hother, hnamed⟩ := List.any_eq_true.mp (List.mem_filter.mp hdangles).2
    obtain ⟨hlacks, hsome⟩ := (Bool.and_eq_true _ _).mp hnamed
    by_cases hsame : mapping = other
    · rw [hsame]
      exact hsome
    · have hoverlap := hpairwise.forall hmapping hother hsame
      exact absurd ((hoverlap entry hmem hmissing).symm.trans hlacks) Bool.false_ne_true

/-- Where no foreign key holds on to a row that lacks a target, dry run and apply agree exactly
when each such row lacks one target only and names it; elsewhere they agree at most then. -/
theorem predicts_iff (access : Access) (db : Postgres) :
    (Predicts access db → DanglesOnce db (resolvedMappings (inspect access db))) ∧
      (Unreferenced db (resolvedMappings (inspect access db)) →
        (Predicts access db ↔ DanglesOnce db (resolvedMappings (inspect access db)))) := by
  obtain ⟨dryReport, hdry, htotal⟩ := run_dryRun access db
  have hnecessary : Predicts access db →
      DanglesOnce db (resolvedMappings (inspect access db)) := by
    rintro ⟨⟨report, hreport, hrows⟩, hdangling⟩
    rw [hdry] at hreport
    cases hreport
    refine danglesOnce_of_length (fun entry hentry hgone => ?_) (htotal.symm.trans hrows)
    obtain ⟨mapping, hmapping, hdangles⟩ := hdangling entry (List.mem_filter.mpr ⟨hentry, hgone⟩)
    exact List.any_eq_true.mpr ⟨mapping, hmapping, (dangles_iff.mp hdangles).2⟩
  refine ⟨hnecessary, fun hunreferenced => ⟨hnecessary, fun honce => ?_⟩⟩
  have hgone : goneEntries db (run access true db).2 =
      db.entries.filter (union (isMissing db) (resolvedMappings (inspect access db))) := by
    rw [run_apply_snd, goneEntries_of_entries (entries_afterDeletes hunreferenced honce.once
      fun a ha b hb => resolvedMappings_tables ha hb)]
    simp only [Bool.not_not]
  refine ⟨⟨dryReport, congrArg Prod.fst hdry, ?_⟩, ?_⟩
  · rw [htotal, hgone]
    refine ((length_filter_union_eq_iff db.entries (isMissing db) _).mpr ?_).symm
    refine honce.once.imp fun {a b} hdisjoint entry hentry ha => ?_
    by_contra hb
    exact hdisjoint entry (List.mem_filter.mpr ⟨hentry, ha⟩)
      (List.mem_filter.mpr ⟨hentry, Bool.not_eq_false _ ▸ hb⟩)
  · intro entry hentry
    rw [hgone, List.mem_filter] at hentry
    obtain ⟨hmem, hunion⟩ := hentry
    obtain ⟨mapping, hmapping, hmissing⟩ := List.any_eq_true.mp hunion
    have hentry' : entry ∈ missing db mapping := List.mem_filter.mpr ⟨hmem, hmissing⟩
    exact ⟨mapping, hmapping, hentry', honce.named mapping hmapping entry hentry'⟩

/-! ## A row that dangles twice -/

/-- Keys that are not validated, and a link whose album and asset are both gone. -/
def strayLink : Postgres where
  tables := [(albumTable, [py "id"]), (assetTable, [py "id"]),
    (albumAssetTable, [py "albumId", py "assetId"])]
  uniqueKeys := []
  foreignKeys :=
    [⟨py "album_asset_albumId_fkey", albumAssetTable, [py "albumId"], albumTable, [py "id"],
        .cascade⟩,
      ⟨py "album_asset_assetId_fkey", albumAssetTable, [py "assetId"], assetTable, [py "id"],
        .cascade⟩]
  entries := [⟨1, albumAssetTable,
    [(py "albumId", some (.object (py "UUID") (py "a"))),
      (py "assetId", some (.object (py "UUID") (py "b")))]⟩]
  identified := List.nodup_singleton _

def fullAccess : Access := ⟨fun _ => true, fun _ _ => true⟩

/-- Two rows are reported and one is deleted. -/
theorem stray_link_counted_twice :
    ¬ ∀ (access : Access) (db : Postgres), Predicts access db := by
  intro h
  obtain ⟨report, hreport, hrows⟩ := (h fullAccess strayLink).reported
  have htotal : (run fullAccess false strayLink).1.map (fun report => totalRows report.plans) =
      some 2 := by decide +kernel
  have hgone : (goneEntries strayLink (run fullAccess true strayLink).2).length = 1 := by
    decide +kernel
  rw [hreport, Option.map_some, hrows, hgone] at htotal
  cases htotal

end ImmichDoctor.Remote
