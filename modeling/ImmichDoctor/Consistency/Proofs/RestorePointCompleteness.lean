import ImmichDoctor.Consistency.Proofs.PreviewedDeletes
import ImmichDoctor.Library.Cascades
/-!
# What a restore point contains

The rows of an asset are read, table by table, before they are deleted. A row that goes with
the asset is in the restore point when it stood in its table as it was read and when nothing
goes by a cascade that was not read.
-/

namespace ImmichDoctor.Consistency

open ImmichDoctor.Library
open ImmichDoctor.Db

/-! ## Rows of an asset -/

section Rows

variable {assetId : PyStr} {relations : List AssetReferenceRelation} {views : AssetViews}
  {entry : Entry SqlValue}

/-- A row that a statement of the delete selects. -/
def OfAsset (assetId : PyStr) (relations : List AssetReferenceRelation)
    (entry : Entry SqlValue) : Prop :=
  entry.table = assetTable ∧ columnIs (py "id") assetId entry.row = true ∨
    ∃ relation ∈ relations, entry.table = relation.table ∧
      columnIs relation.columnName assetId entry.row = true

/-- A row with these values stands in the table of the entry. -/
def StandsIn (db : Postgres) (entry : Entry SqlValue) : Prop :=
  ∃ other ∈ db.entries, other.table = entry.table ∧ other.row = entry.row

/-- A query for the rows of the asset has found the row as it is. -/
def ReadBefore (assetId : PyStr) (relations : List AssetReferenceRelation) (views : AssetViews)
    (entry : Entry SqlValue) : Prop :=
  entry.table = assetTable ∧ columnIs (py "id") assetId entry.row = true ∧
      StandsIn views.asset entry ∨
    ∃ index relation, relations[index]? = some relation ∧ entry.table = relation.table ∧
      columnIs relation.columnName assetId entry.row = true ∧
        StandsIn (views.relation index) entry

/-- The records contain the row. -/
def Contained (records : List TableRecord) (entry : Entry SqlValue) : Prop :=
  ∃ record ∈ records, record.table = entry.table ∧ entry.row ∈ record.rows

theorem mem_listRows {db : Postgres} {column value : PyStr} (h : StandsIn db entry)
    (hcolumn : columnIs column value entry.row = true) :
    entry.row ∈ listRowsByColumnValue db entry.table column value := by
  obtain ⟨other, hother, htable, hrow⟩ := h
  refine List.mem_map.mpr ⟨other, Database.mem_select.mpr ⟨hother, htable, ?_⟩, hrow⟩
  rw [hrow]
  exact hcolumn

/-- What was read is captured. -/
theorem contained_of_readBefore (h : ReadBefore assetId relations views entry) :
    Contained (captureRecords views assetId relations) entry := by
  have hcontained : ∀ record : TableRecord, record.table = entry.table → entry.row ∈ record.rows →
      record ∈ (⟨assetTable, listRowsByColumnValue views.asset assetTable (py "id") assetId⟩ ::
        relations.mapIdx fun index relation =>
          (⟨relation.table, listRowsByColumnValue (views.relation index) relation.table
            relation.columnName assetId⟩ : TableRecord)) →
        Contained (captureRecords views assetId relations) entry := by
    intro record htable hrow hmem
    refine ⟨record, List.mem_filter.mpr ⟨hmem, ?_⟩, htable, hrow⟩
    cases hrows : record.rows with
    | nil =>
        rw [hrows] at hrow
        cases hrow
    | cons row rows => rfl
  rcases h with ⟨htable, hcolumn, hstands⟩ | ⟨index, relation, hrelation, htable, hcolumn, hstands⟩
  · exact hcontained _ htable.symm (htable ▸ mem_listRows hstands hcolumn) List.mem_cons_self
  · obtain ⟨hlength, rfl⟩ := List.getElem?_eq_some_iff.mp hrelation
    have hrow := mem_listRows hstands hcolumn
    rw [htable] at hrow
    exact hcontained ⟨relations[index].table, _⟩ htable.symm hrow
      (List.mem_cons_of_mem _ (List.mem_mapIdx.mpr ⟨index, hlength, rfl⟩))

theorem columnIs_of_nulled {old row : Row SqlValue} {column value : PyStr} (h : Nulled old row)
    (hcolumn : columnIs column value row = true) : columnIs column value old = true := by
  unfold columnIs at hcolumn ⊢
  cases hfound : row.value column with
  | none =>
      rw [hfound] at hcolumn
      cases hcolumn
  | some found =>
      rw [hfound] at hcolumn
      rw [h column found hfound]
      exact hcolumn

end Rows

/-! ## The delete -/

section Deletes

variable {assetId : PyStr} {relations : List AssetReferenceRelation} {views : AssetViews}
  {before db after : Postgres} {records : List TableRecord}

/-- No other row references a row of the asset through a key that cascades. -/
def NothingFollows (assetId : PyStr) (relations : List AssetReferenceRelation) (db : Postgres) :
    Prop :=
  ∀ entry ∈ db.entries, ∀ key ∈ db.foreignKeys, key.deleteAction = .cascade →
    ∀ other ∈ db.entries, OfAsset assetId relations other → key.source = entry.table →
      key.target = other.table → key.references entry.row other.row = true →
        OfAsset assetId relations entry

/-- The statements for the relations remove rows of the asset only. -/
theorem remains_deleteRelationRows {rest : List AssetReferenceRelation}
    (hfollows : NothingFollows assetId relations before) (hdescends : Database.Descends before db)
    (hrest : ∀ relation ∈ rest, relation ∈ relations)
    (h : deleteRelationRows assetId rest db = some (records, after)) :
    Database.Descends before after ∧ ∀ entry ∈ before.entries, ¬ OfAsset assetId relations entry →
      db.remains entry → after.remains entry := by
  induction rest generalizing db records with
  | nil =>
      cases h
      exact ⟨hdescends, fun _ _ _ hthere => hthere⟩
  | cons relation rest ih =>
      obtain ⟨hrelation, hrest⟩ := List.forall_mem_cons.mp hrest
      simp only [deleteRelationRows, Option.bind_eq_bind, Option.bind_eq_some_iff] at h
      obtain ⟨⟨rows, deleted⟩, hdelete, ⟨later, last⟩, hlater, hresult⟩ := h
      cases hresult
      obtain ⟨hfirst, hremains⟩ := Database.remains_deleteWhere
        (P := OfAsset assetId relations) hdescends hfollows
        (fun entry _ row hnulled htable hrow =>
          .inr ⟨relation, hrelation, htable, columnIs_of_nulled hnulled hrow⟩) hdelete
      obtain ⟨hall, hstays⟩ := ih hfirst hrest hlater
      exact ⟨hall, fun entry hentry hnot hthere =>
        hstays entry hentry hnot (hremains entry hentry hnot hthere)⟩

/-- Every row that a delete of an asset removes is one of the asset. -/
theorem ofAsset_of_removed (hfollows : NothingFollows assetId relations before)
    (h : deleteAssetReferenceRecords assetId relations before = some (records, after))
    {entry : Entry SqlValue} (hentry : entry ∈ before.entries) (hgone : ¬ after.remains entry) :
    OfAsset assetId relations entry := by
  simp only [deleteAssetReferenceRecords, Option.bind_eq_bind, Option.bind_eq_some_iff] at h
  obtain ⟨⟨first, deleted⟩, hrelations, ⟨assetRows, rest⟩, hasset, hresult⟩ := h
  simp only [Option.ite_none_left_eq_some, Option.some.injEq, Prod.mk.injEq] at hresult
  obtain ⟨-, -, rfl⟩ := hresult
  obtain ⟨hdescends, hstays⟩ :=
    remains_deleteRelationRows hfollows (.refl before) (fun _ h => h) hrelations
  obtain ⟨-, hremains⟩ := Database.remains_deleteWhere
    (P := OfAsset assetId relations) hdescends hfollows
    (fun entry _ row hnulled htable hrow => .inl ⟨htable, columnIs_of_nulled hnulled hrow⟩) hasset
  by_contra hnot
  exact hgone (hremains entry hentry hnot
    (hstays entry hentry hnot (List.mem_map_of_mem hentry)))

end Deletes

/-! ## Restore points -/

/-- Every row that goes with the asset is in its restore point. -/
def RestorePointComplete (views : AssetViews) (outcome : AssetOutcome) : Prop :=
  ∀ after, outcome.deleted = some after → ∀ entry ∈ views.delete.entries,
    ¬ after.remains entry → ∃ restorePoint ∈ outcome.restorePoint,
      Contained restorePoint.records entry

/-- Between its queries and the delete no other writer brings a row of the asset or changes one,
and nothing else goes by a cascade. -/
structure CaptureHolds (assetId : PyStr) (relations : List AssetReferenceRelation)
    (views : AssetViews) : Prop where
  read : ∀ entry ∈ views.delete.entries, OfAsset assetId relations entry →
    ReadBefore assetId relations views entry
  follows : NothingFollows assetId relations views.delete

/-- In every run of an asset whose rows stand as they were read when they are deleted, and are
not referenced by others through a key that cascades, the restore point is complete. -/
theorem restorePoint_complete_of_captureHolds {runId restorePointId assetId : PyStr}
    {finding : Option MissingAssetReferenceFinding} {relations : List AssetReferenceRelation}
    {views : AssetViews} {outcome : AssetOutcome}
    (hcapture : CaptureHolds assetId relations views)
    (h : applySingleAsset runId restorePointId assetId finding relations views = some outcome) :
    RestorePointComplete views outcome := by
  intro after hdeleted entry hentry hgone
  unfold applySingleAsset at h
  split at h
  · cases h
    cases hdeleted
  simp only at h
  split at h
  · cases h
    cases hdeleted
  split at h
  · cases h
    cases hdeleted
  split at h
  · cases h
  split at h
  · cases h
    cases hdeleted
  next records rest hdelete =>
  cases h
  cases hdeleted
  have hasset := ofAsset_of_removed hcapture.follows hdelete hentry hgone
  exact ⟨_, rfl, contained_of_readBefore (hcapture.read entry hentry hasset)⟩

/-! ## An album membership of the asset -/

def membership : Row SqlValue :=
  [(py "albumId", some (.text (py "b1"))), (py "assetId", some (.text (py "a1")))]

/-- The asset is in no album. -/
def outsideAlbums : Postgres where
  tables := [(assetTable, [py "id", py "type", py "originalPath"]),
    (albumAssetTable, [py "albumId", py "assetId"])]
  uniqueKeys := [(assetTable, [py "id"]), (albumAssetTable, [py "albumId", py "assetId"])]
  foreignKeys := [⟨py "album_asset_assetId_fkey", albumAssetTable, [py "assetId"], assetTable,
    [py "id"], .cascade⟩]
  entries := [⟨1, assetTable, missingRow⟩]
  identified := oneAsset.identified

def insideAlbum : Postgres :=
  { outsideAlbums with
    entries := [⟨1, assetTable, missingRow⟩, ⟨2, albumAssetTable, membership⟩]
    identified := by decide }

def missingFinding : MissingAssetReferenceFinding :=
  inspectAssetRow missingState.storage missingState.files []
    (detectProfile outsideAlbums).blockingIssues missingRow

/-- What becomes of the asset when its album rows are read in one state and deleted in another. -/
def outcomeBetween (read deleted : Postgres) : Option AssetOutcome :=
  applySingleAsset (py "r1") (py "p1") (py "a1") (some missingFinding)
    (detectProfile outsideAlbums).relations ⟨outsideAlbums, fun _ => read, deleted⟩

/-- With the membership read, it is in the restore point and goes with the asset. -/
theorem restorePoint_complete_of_captureHolds_member :
    ∃ outcome, outcomeBetween insideAlbum insideAlbum = some outcome ∧
      (outcome.deleted.map (·.entries)) = some [] ∧
      RestorePointComplete ⟨outsideAlbums, fun _ => insideAlbum, insideAlbum⟩ outcome := by
  have hrun : ((outcomeBetween insideAlbum insideAlbum).bind (·.deleted)).map (·.entries) =
      some [] := by
    decide +kernel
  cases houtcome : outcomeBetween insideAlbum insideAlbum with
  | none =>
      rw [houtcome] at hrun
      cases hrun
  | some outcome =>
      rw [houtcome] at hrun
      have hrelation : (detectProfile outsideAlbums).relations[0]? =
          some ⟨albumAssetTable, py "assetId"⟩ := by
        decide +kernel
      refine ⟨outcome, rfl, hrun, restorePoint_complete_of_captureHolds ⟨?_, ?_⟩ houtcome⟩
      · intro entry hentry _
        rcases List.mem_cons.mp hentry with rfl | hmember
        · exact .inl ⟨rfl, by decide, _, List.mem_cons_self, rfl, rfl⟩
        · cases List.mem_singleton.mp hmember
          exact .inr ⟨0, _, hrelation, rfl, by decide, _,
            List.mem_cons_of_mem _ List.mem_cons_self, rfl, rfl⟩
      · intro entry hentry _ _ _ _ _ _ _ _ _
        rcases List.mem_cons.mp hentry with rfl | hmember
        · exact .inl ⟨rfl, by decide⟩
        · cases List.mem_singleton.mp hmember
          exact .inr ⟨_, List.mem_of_getElem? hrelation, rfl, by decide⟩

/-- A membership that another writer adds after the album rows were read goes with the asset and
is in no restore point. -/
theorem membership_lost_between_capture_and_delete :
    ¬ ∀ (schema : Postgres) (runId restorePointId assetId : PyStr)
      (finding : Option MissingAssetReferenceFinding) (views : AssetViews) (outcome : AssetOutcome),
      (detectProfile schema).blockingIssues = [] →
        applySingleAsset runId restorePointId assetId finding (detectProfile schema).relations
            views = some outcome → RestorePointComplete views outcome := by
  intro h
  have hrun : ((outcomeBetween outsideAlbums insideAlbum).bind (·.deleted)).map (·.entries) =
      some [] := by
    decide +kernel
  have hrecords : ((outcomeBetween outsideAlbums insideAlbum).bind (·.restorePoint)).map
      (·.records) = some [⟨assetTable, [missingRow]⟩] := by
    decide +kernel
  cases houtcome : outcomeBetween outsideAlbums insideAlbum with
  | none =>
      rw [houtcome] at hrun
      cases hrun
  | some outcome =>
      rw [houtcome] at hrun hrecords
      obtain ⟨after, hafter, hentries⟩ := Option.map_eq_some_iff.mp hrun
      have hgone : ¬ after.remains ⟨2, albumAssetTable, membership⟩ := by
        unfold Database.remains
        rw [hentries]
        exact List.not_mem_nil
      obtain ⟨restorePoint, hpoint, record, hrecord, htable, -⟩ :=
        h outsideAlbums _ _ _ _ _ outcome (by decide +kernel) houtcome after hafter
          ⟨2, albumAssetTable, membership⟩ (List.mem_cons_of_mem _ List.mem_cons_self) hgone
      rw [Option.bind_some, hpoint, Option.map_some, Option.some.injEq] at hrecords
      rw [hrecords, List.mem_singleton] at hrecord
      rw [hrecord] at htable
      revert htable
      decide

end ImmichDoctor.Consistency
