import ImmichDoctor.Catalog.Proofs.CurrentSnapshots
import ImmichDoctor.Catalog.Proofs.SnapshotImmutability
/-!
# When a missing verdict is sound

An asset is reported missing when the index of its root lacks its path. The index holds
the files of the current snapshots that were not modified after the window started, so
a verdict says what the snapshot says exactly when the root has a current snapshot and
the file in it, if there is one, is not that new.
-/

namespace ImmichDoctor.Catalog

open ImmichDoctor.Library
open ImmichDoctor.Storage

/-! ## Verdicts -/

/-- The root has a current snapshot, and the snapshot has no file at the path. -/
def MissingFromSnapshot (db : CatalogDb) (slug relativePath : PyStr) : Prop :=
  ∃ root ∈ db.storageRoot.rows, root.slug = slug ∧
    ∃ snapshot, db.IsCurrentSnapshot root snapshot ∧ ∀ file ∈ db.fileRecord.rows,
      file.storageRootId = root.id → file.lastSeenSnapshotId = snapshot.id →
      file.relativePath ≠ relativePath

/-- The row is about an asset whose original path resolves to where the file is missing. -/
def SoundVerdict (settings : StorageSettings) (assets : List AssetRow) (db : CatalogDb)
    (row : DbMissingRow) : Prop :=
  ∃ asset ∈ assets, ∃ originalPath resolved, asset.id = row.assetId ∧
    truthyPath asset.originalPath = some originalPath ∧
    resolve settings originalPath = some resolved ∧ row.resolvedRoot = resolved.rootSlug ∧
    row.relativePath = resolved.relativePath ∧
    MissingFromSnapshot db resolved.rootSlug resolved.relativePath

/-! ## Compared assets -/

/-- The asset is not newer than the start of any snapshot that is compared. -/
def Considered (db : CatalogDb) (slugs : List PyStr) (assets : List AssetRow) (asset : AssetRow) :
    Prop :=
  asset ∈ assets ∧ db.BeforeWindow slugs asset.createdAt ∧ db.BeforeWindow slugs asset.updatedAt

/-- The video part of a live photo whose other part is considered. -/
def IsMotionComponent (text : CaseMapping) (considered : AssetRow → Prop) (asset : AssetRow)
    (originalPath slug : PyStr) : Prop :=
  slug = py "video" ∧ text.upper (asset.type.getD []).strip = py "VIDEO" ∧
    py "/encoded-video/" <:+: originalPath.forwardSlashes ∧
    ∃ other, considered other ∧ (truthyPath other.livePhotoVideoId).isSome = true ∧
      other.livePhotoVideoId = some asset.id.strip

/-- The original of the asset is looked up in a snapshot: it is an upload, or a motion
component among the encoded videos. -/
def Compared (settings : StorageSettings) (text : CaseMapping) (considered : AssetRow → Prop)
    (asset : AssetRow) (resolved : ResolvedStoragePath) : Prop :=
  considered asset ∧ ∃ originalPath, truthyPath asset.originalPath = some originalPath ∧
    resolve settings originalPath = some resolved ∧
    (resolved.rootSlug = sourceRootSlug ∨
      IsMotionComponent text considered asset originalPath resolved.rootSlug)

/-- The root has a current snapshot, and its file at the path, if there is one, was not
modified after the start of any snapshot that is compared. -/
def SeenBeforeWindow (db : CatalogDb) (slugs : List PyStr)
    (resolved : ResolvedStoragePath) : Prop :=
  ∃ root ∈ db.storageRoot.rows, root.slug = resolved.rootSlug ∧
    ∃ snapshot, db.IsCurrentSnapshot root snapshot ∧ ∀ file ∈ db.fileRecord.rows,
      file.storageRootId = root.id → file.lastSeenSnapshotId = snapshot.id →
      file.relativePath = resolved.relativePath → db.BeforeWindow slugs file.modifiedAtFs

/-! ## The loop over the assets -/

namespace ComparisonContext

variable {context : ComparisonContext} {asset : AssetRow} {originalPath slug path : PyStr}

theorem mem_livePhotoVideoIds {id : PyStr} :
    id ∈ context.livePhotoVideoIds ↔ ∃ other ∈ context.assetRows,
      (truthyPath other.livePhotoVideoId).isSome = true ∧ other.livePhotoVideoId = some id := by
  rw [livePhotoVideoIds, List.mem_filterMap]
  refine exists_congr fun other => and_congr_right fun _ => ?_
  split
  · next hsome => simp [hsome]
  · next hnone => simp [hnone]

theorem isValidMotionVideoComponent_iff :
    context.isValidMotionVideoComponent asset originalPath slug = true ↔
      IsMotionComponent context.text (· ∈ context.assetRows) asset originalPath slug := by
  simp only [isValidMotionVideoComponent, IsMotionComponent, Bool.and_eq_true, decide_eq_true_eq,
    List.contains_iff_mem, mem_livePhotoVideoIds, and_assoc]

/-- The index of a root that is looked up holds the listed paths of the root. -/
theorem mem_derivativeIndex (hslug : slug = sourceRootSlug ∨ slug = py "video") :
    path ∈ context.derivativeIndex slug ↔
      ∃ row ∈ context.latestFiles, row.rootSlug = slug ∧ row.relativePath = path := by
  have hknown : slug ∈ derivativeRootSlugs ∨ slug = sourceRootSlug := by
    rcases hslug with rfl | rfl
    · exact Or.inr rfl
    · exact Or.inl (by decide)
  rw [derivativeIndex, if_pos hknown, filesOf]
  simp only [List.mem_map, List.mem_filter, decide_eq_true_eq, and_assoc]

theorem uploadsIndex_eq : context.uploadsIndex = context.derivativeIndex sourceRootSlug := by
  rw [derivativeIndex, if_pos (Or.inr rfl), uploadsIndex]

/-- The asset is reported by the row. -/
def Reports (context : ComparisonContext) (asset : AssetRow) (row : DbMissingRow) : Prop :=
  ∃ originalPath resolved, truthyPath asset.originalPath = some originalPath ∧
    resolve context.settings originalPath = some resolved ∧
    (resolved.rootSlug = sourceRootSlug ∨
      IsMotionComponent context.text (· ∈ context.assetRows) asset originalPath
        resolved.rootSlug) ∧
    resolved.relativePath ∉ context.derivativeIndex resolved.rootSlug ∧
    row = dbMissingRow asset originalPath resolved
      (if resolved.rootSlug = sourceRootSlug then none
        else some (py "valid_motion_video_component_missing_on_storage"))

end ComparisonContext

section Loop

variable {context : ComparisonContext} {classified : ClassifiedAssets} {asset : AssetRow}
  {row : DbMissingRow}

/-- A round adds the rows it would give on its own. -/
theorem dbMissingRows_classifyAsset :
    (classifyAsset context classified asset).dbMissingRows =
      classified.dbMissingRows ++ (classifyAsset context .none asset).dbMissingRows := by
  simp only [classifyAsset, ClassifiedAssets.none]
  repeat' split
  all_goals simp

theorem dbMissingRows_foldl {assets : List AssetRow} :
    (assets.foldl (classifyAsset context) classified).dbMissingRows =
      classified.dbMissingRows ++
        assets.flatMap fun asset => (classifyAsset context .none asset).dbMissingRows := by
  induction assets generalizing classified with
  | nil => simp
  | cons asset rest ih =>
      rw [List.foldl_cons, ih, dbMissingRows_classifyAsset, List.flatMap_cons, List.append_assoc]

/-- A round on its own gives the rows by which the asset is reported. -/
theorem mem_dbMissingRows_classifyAsset :
    row ∈ (classifyAsset context .none asset).dbMissingRows ↔ context.Reports asset row := by
  simp only [ComparisonContext.Reports]
  cases hpath : truthyPath asset.originalPath with
  | none => simp [classifyAsset, hpath, ClassifiedAssets.none]
  | some originalPath =>
      cases hresolved : resolve context.settings originalPath with
      | none => simp [classifyAsset, hpath, hresolved, ClassifiedAssets.none]
      | some resolved =>
          simp only [classifyAsset, hpath, hresolved, ClassifiedAssets.none, Option.some.injEq,
            exists_and_left, exists_eq_left', List.nil_append,
            ← ComparisonContext.isValidMotionVideoComponent_iff]
          by_cases hsource : resolved.rootSlug = sourceRootSlug
          · rw [if_neg (not_not_intro hsource), ComparisonContext.uploadsIndex_eq]
            by_cases hmem : resolved.relativePath ∈ context.derivativeIndex sourceRootSlug
            · simp [hsource, hmem]
            · simp [hsource, hmem]
          · rw [if_pos hsource]
            by_cases hmotion :
                context.isValidMotionVideoComponent asset originalPath resolved.rootSlug = true
            · by_cases hmem : resolved.relativePath ∈ context.derivativeIndex resolved.rootSlug
              · simp [hmotion, hmem]
              · simp [hsource, hmotion, hmem]
            · simp [hsource, hmotion]

end Loop

/-! ## The index of the current snapshots -/

section Index

variable {resolvePath : PurePath → PurePath} {settings : StorageSettings} {text : CaseMapping}
  {times : PyStr → Instant} {assets : List AssetRow} {assetFiles : List AssetFileRow}
  {before db : CatalogDb} {slugs : List PyStr} {startedAt : Option Instant}
  {state : CatalogSnapshotState}

/-- The comparison the rows of `compare` come from. -/
def contextOf (settings : StorageSettings) (text : CaseMapping) (db : CatalogDb)
    (startedAt : Option Instant) (assets : List AssetRow) : ComparisonContext where
  settings := settings
  text := text
  latestFiles := (db.listLatestSnapshotFiles none none).filter fun row =>
    rowWithinSnapshotWindow startedAt row.modifiedAtFs
  assetRows := assets.filter (assetWithinSnapshotWindow startedAt)

theorem assetWithinSnapshotWindow_eq (asset : AssetRow) :
    assetWithinSnapshotWindow startedAt asset =
      (rowWithinSnapshotWindow startedAt asset.createdAt &&
        rowWithinSnapshotWindow startedAt asset.updatedAt) := by
  cases startedAt with
  | none => rfl
  | some cutoff => rfl

theorem ReadyState.mem_assetRows (h : ReadyState before db slugs startedAt) {asset : AssetRow} :
    asset ∈ (contextOf settings text db startedAt assets).assetRows ↔
      Considered db slugs assets asset := by
  rw [contextOf, List.mem_filter, assetWithinSnapshotWindow_eq, Bool.and_eq_true, h.window,
    h.window, Considered]

/-- The index of a root holds the paths of the files of its current snapshot that were not
modified after the window started. -/
theorem ReadyState.mem_index (h : ReadyState before db slugs startedAt) {slug path : PyStr}
    (hslug : slug = sourceRootSlug ∨ slug = py "video") :
    path ∈ (contextOf settings text db startedAt assets).derivativeIndex slug ↔
      ∃ root ∈ db.storageRoot.rows, root.slug = slug ∧ ∃ snapshot,
        db.IsCurrentSnapshot root snapshot ∧ ∃ file ∈ db.fileRecord.rows,
          file.storageRootId = root.id ∧ file.lastSeenSnapshotId = snapshot.id ∧
          file.relativePath = path ∧ db.BeforeWindow slugs file.modifiedAtFs := by
  rw [ComparisonContext.mem_derivativeIndex hslug]
  simp only [contextOf, List.mem_filter, h.valid.mem_listLatestSnapshotFiles, h.window]
  constructor
  · rintro ⟨row, ⟨⟨file, hfile, root, hroot, snapshot, hrootId, hcurrent, hsnapshotId, rfl⟩,
      hbefore⟩, hrow, hpath⟩
    exact ⟨root, hroot, hrow, snapshot, hcurrent, file, hfile, hrootId, hsnapshotId, hpath, hbefore⟩
  · rintro ⟨root, hroot, hrow, snapshot, hcurrent, file, hfile, hrootId, hsnapshotId,
      hpath, hbefore⟩
    exact ⟨CatalogDb.joinedFileRow root snapshot file,
      ⟨⟨file, hfile, root, hroot, snapshot, hrootId, hcurrent, hsnapshotId, rfl⟩, hbefore⟩,
      hrow, hpath⟩

/-- The roots a compared asset can be looked up in. -/
theorem Compared.slug {considered : AssetRow → Prop} {asset : AssetRow}
    {resolved : ResolvedStoragePath} (h : Compared settings text considered asset resolved) :
    resolved.rootSlug = sourceRootSlug ∨ resolved.rootSlug = py "video" := by
  obtain ⟨-, originalPath, -, -, hroot⟩ := h
  exact hroot.imp_right fun hmotion => hmotion.1

/-- The rows an asset is reported by are about a compared asset. -/
theorem ReadyState.reports_iff (h : ReadyState before db slugs startedAt) {asset : AssetRow}
    {row : DbMissingRow} :
    (asset ∈ (contextOf settings text db startedAt assets).assetRows ∧
      (contextOf settings text db startedAt assets).Reports asset row) ↔
      ∃ resolved, Compared settings text (Considered db slugs assets) asset resolved ∧
        resolved.relativePath ∉
          (contextOf settings text db startedAt assets).derivativeIndex resolved.rootSlug ∧
        ∃ originalPath, truthyPath asset.originalPath = some originalPath ∧
          resolve settings originalPath = some resolved ∧
          row = dbMissingRow asset originalPath resolved
            (if resolved.rootSlug = sourceRootSlug then none
              else some (py "valid_motion_video_component_missing_on_storage")) := by
  have hconsidered : (· ∈ (contextOf settings text db startedAt assets).assetRows) =
      Considered db slugs assets := funext fun asset => propext h.mem_assetRows
  rw [h.mem_assetRows, ComparisonContext.Reports, hconsidered]
  constructor
  · rintro ⟨hasset, originalPath, resolved, hpath, hresolved, hroot, hnot, rfl⟩
    exact ⟨resolved, ⟨hasset, originalPath, hpath, hresolved, hroot⟩, hnot, originalPath, hpath,
      hresolved, rfl⟩
  · rintro ⟨resolved, ⟨hasset, other, hother, hotherResolved, hroot⟩, hnot, originalPath, hpath,
      hresolved, rfl⟩
    cases hother.symm.trans hpath
    exact ⟨hasset, other, resolved, hpath, hresolved, hroot, hnot, rfl⟩

/-- A path that is in the index has its file seen before the window. -/
theorem ReadyState.seenBeforeWindow (h : ReadyState before db slugs startedAt)
    {resolved : ResolvedStoragePath}
    (hslug : resolved.rootSlug = sourceRootSlug ∨ resolved.rootSlug = py "video")
    (hmem : resolved.relativePath ∈
      (contextOf settings text db startedAt assets).derivativeIndex resolved.rootSlug) :
    SeenBeforeWindow db slugs resolved := by
  obtain ⟨root, hroot, hrow, snapshot, hcurrent, file, hfile, hrootId, -, hpath, hbefore⟩ :=
    (h.mem_index hslug).mp hmem
  refine ⟨root, hroot, hrow, snapshot, hcurrent, fun other hother hotherRoot _ hotherPath => ?_⟩
  have hkey : other.key = file.key :=
    Prod.ext (hotherRoot.trans hrootId.symm) (hotherPath.trans hpath.symm)
  rw [db.fileRecord.eq_of_key_eq hother hfile hkey]
  exact hbefore

/-- A path that is not in the index is missing from the snapshot when its file, if there is
one, was seen before the window. -/
theorem ReadyState.missingFromSnapshot (h : ReadyState before db slugs startedAt)
    {resolved : ResolvedStoragePath}
    (hslug : resolved.rootSlug = sourceRootSlug ∨ resolved.rootSlug = py "video")
    (hseen : SeenBeforeWindow db slugs resolved)
    (hnot : resolved.relativePath ∉
      (contextOf settings text db startedAt assets).derivativeIndex resolved.rootSlug) :
    MissingFromSnapshot db resolved.rootSlug resolved.relativePath := by
  obtain ⟨root, hroot, hrow, snapshot, hcurrent, hfiles⟩ := hseen
  refine ⟨root, hroot, hrow, snapshot, hcurrent, fun file hfile hrootId hsnapshotId hpath => ?_⟩
  have hbefore := hfiles file hfile hrootId hsnapshotId hpath
  exact hnot ((h.mem_index hslug).mpr
    ⟨root, hroot, hrow, snapshot, hcurrent, file, hfile, hrootId, hsnapshotId, hpath, hbefore⟩)

/-- A root with its file missing from the snapshot has no file seen too late. -/
theorem MissingFromSnapshot.seenBeforeWindow {resolved : ResolvedStoragePath}
    (h : MissingFromSnapshot db resolved.rootSlug resolved.relativePath) :
    SeenBeforeWindow db slugs resolved := by
  obtain ⟨root, hroot, hrow, snapshot, hcurrent, hfiles⟩ := h
  exact ⟨root, hroot, hrow, snapshot, hcurrent, fun file hfile hrootId hsnapshotId hpath =>
    absurd hpath (hfiles file hfile hrootId hsnapshotId)⟩

theorem collect_spec {state : CatalogConsistencyState} (hvalid : RootsValid before)
    (hcollect : collect resolvePath settings text times (.tables assets assetFiles) before =
      .ok (db, state)) :
    ∃ startedAt, ReadyState before db
        ((CatalogRootRegistry.scanRoots resolvePath settings).map (·.slug)) startedAt ∧
      ∀ row, row ∈ state.classified.dbMissingRows ↔
        ∃ asset ∈ (contextOf settings text db startedAt assets).assetRows,
          (contextOf settings text db startedAt assets).Reports asset row := by
  unfold collect at hcollect
  split at hcollect
  · cases hcollect
  next synced snapshotState hprepare =>
  split at hcollect
  · cases hcollect
  next hready =>
  cases hcollect
  rw [Bool.not_eq_true', Bool.not_eq_false] at hready
  refine ⟨_, readyState hvalid hprepare hready, fun row => ?_⟩
  show row ∈ (((contextOf settings text db snapshotState.comparisonWindowStartedAt
    assets).assetRows).foldl (classifyAsset (contextOf settings text db
      snapshotState.comparisonWindowStartedAt assets)) .none).dbMissingRows ↔ _
  rw [dbMissingRows_foldl, List.mem_append, List.mem_flatMap]
  simp only [mem_dbMissingRows_classifyAsset]
  exact or_iff_right List.not_mem_nil

end Index

/-! ## Soundness -/

section Soundness

variable {resolvePath : PurePath → PurePath} {settings : StorageSettings} {text : CaseMapping}
  {times : PyStr → Instant} {assets : List AssetRow} {assetFiles : List AssetFileRow}
  {clock : Instant} {s : CatalogState} {db : CatalogDb} {state : CatalogConsistencyState}

/-- Every missing verdict is sound exactly when no compared asset lies in a root without a
current snapshot, or has a file in the snapshot that was modified after the window started. -/
theorem missing_verdicts_sound_iff
    (hreach : Reachable CatalogState.step (CatalogState.start clock) s)
    (hcollect : collect resolvePath settings text times (.tables assets assetFiles) s.db =
      .ok (db, state)) :
    (∀ row ∈ state.classified.dbMissingRows, SoundVerdict settings assets db row) ↔
      ∀ asset resolved,
        Compared settings text
          (Considered db ((CatalogRootRegistry.scanRoots resolvePath settings).map (·.slug)) assets)
          asset resolved →
        SeenBeforeWindow db ((CatalogRootRegistry.scanRoots resolvePath settings).map (·.slug))
          resolved := by
  obtain ⟨startedAt, hready, hrows⟩ := collect_spec (rootsValid_of_reachable hreach) hcollect
  generalize (CatalogRootRegistry.scanRoots resolvePath settings).map (·.slug) = slugs at hready ⊢
  constructor
  · intro hsound asset resolved hcompared
    by_cases hmem : resolved.relativePath ∈
        (contextOf settings text db startedAt assets).derivativeIndex resolved.rootSlug
    · exact hready.seenBeforeWindow hcompared.slug hmem
    · have ⟨_, originalPath, hpath, hresolved, _⟩ := hcompared
      have hreported := hready.reports_iff.mpr
        ⟨resolved, hcompared, hmem, originalPath, hpath, hresolved, rfl⟩
      obtain ⟨-, -, -, other, -, -, -, hslug, hrelative, hmissing⟩ :=
        hsound _ ((hrows _).mpr ⟨asset, hreported⟩)
      apply MissingFromSnapshot.seenBeforeWindow
      have hslug' : resolved.rootSlug = other.rootSlug := hslug
      have hrelative' : resolved.relativePath = other.relativePath := hrelative
      rw [hslug', hrelative']
      exact hmissing
  · intro hseen row hrow
    obtain ⟨asset, hreported⟩ := (hrows row).mp hrow
    obtain ⟨resolved, hcompared, hnot, originalPath, hpath, hresolved, rfl⟩ :=
      hready.reports_iff.mp hreported
    have hmissing := hready.missingFromSnapshot hcompared.slug (hseen asset resolved hcompared) hnot
    exact ⟨asset, hcompared.1.1, originalPath, resolved, rfl, hpath, hresolved, rfl, rfl, hmissing⟩

end Soundness

/-! ## A file that is touched during the scan -/

/-- A root that is scanned from 10 to 20, with a file that is modified at `time`. -/
def scanWithFileModifiedAt (time : Instant) : List (Instant × StoreOp) :=
  [(9, .upsertStorageRoot uploadsSpec),
    (10, .createScanSession (py "a") 1 none),
    (11, .seedDirectoryWorkQueue (py "a")
      [⟨[], py "[\"a.jpg\"]", 1, 0, 0, some (py "a.jpg"), 0⟩]),
    (12, .claimNextDirectory (py "a") (py "worker-1")),
    (16, .applyDirectoryFiles ⟨py "a", 1, 1, [], [{ uploadedFile with modifiedAtFs := some time }],
      0, 7, some (py "a.jpg")⟩),
    (20, .commitScanSession (py "a"))]

def scannedWithFileModifiedAt (time : Instant) : CatalogState :=
  Steps.last CatalogState.step (CatalogState.start 0) (scanWithFileModifiedAt time)

def uploadsOnly : StorageSettings where
  immichLibraryRoot := none
  immichUploadsPath := some (.parse (py "/uploads"))
  immichThumbsPath := none
  immichProfilePath := none
  immichVideoPath := none

def uploadedAsset : AssetRow where
  id := py "asset-1"
  type := some (py "IMAGE")
  createdAt := some 5
  updatedAt := some 5
  originalFileName := some (py "a.jpg")
  originalPath := some (py "/uploads/a.jpg")
  encodedVideoPath := none
  livePhotoVideoId := none

def collectedWithFileModifiedAt (time : Instant) :
    Except CollectError (CatalogDb × CatalogConsistencyState) :=
  collect id uploadsOnly ⟨id, id⟩ (fun _ => 30) (.tables [uploadedAsset] [])
    (scannedWithFileModifiedAt time).db

theorem not_missingFromSnapshot {db : CatalogDb} {slug relativePath : PyStr}
    (h : ∀ root ∈ db.storageRoot.rows, root.slug = slug → ∀ snapshot ∈ db.scanSnapshot.rows,
      ∃ file ∈ db.fileRecord.rows, file.storageRootId = root.id ∧
        file.lastSeenSnapshotId = snapshot.id ∧ file.relativePath = relativePath) :
    ¬ MissingFromSnapshot db slug relativePath := by
  rintro ⟨root, hroot, hslug, snapshot, hcurrent, hnone⟩
  obtain ⟨file, hfile, hrootId, hsnapshotId, hpath⟩ := h root hroot hslug snapshot hcurrent.1.1
  exact hnone file hfile hrootId hsnapshotId hpath

/-- A file that is modified while it is scanned is reported missing, with the current snapshot
of its root holding it. -/
theorem touched_file_reported_missing :
    Reachable CatalogState.step (CatalogState.start 0) (scannedWithFileModifiedAt 15) ∧
      ∃ db state, collectedWithFileModifiedAt 15 = .ok (db, state) ∧
        ∃ row ∈ state.classified.dbMissingRows,
          ¬ SoundVerdict uploadsOnly [uploadedAsset] db row := by
  have hreach : Reachable CatalogState.step (CatalogState.start 0) (scannedWithFileModifiedAt 15) :=
    Reachable.of_exec (Steps.exec_eq_last (by decide))
  refine ⟨hreach, _, _, rfl, dbMissingRow uploadedAsset (py "/uploads/a.jpg")
    ⟨py "uploads", py "a.jpg", .parse (py "/uploads/a.jpg"), .runtime⟩ none, by decide, ?_⟩
  rintro ⟨-, -, -, resolved, -, -, -, hslug, hpath, hmissing⟩
  rw [← hslug, ← hpath] at hmissing
  exact not_missingFromSnapshot (by decide) hmissing

theorem missing_verdicts_sound_iff_untouched :
    ∃ db state, collectedWithFileModifiedAt 9 = .ok (db, state) ∧
      ((∀ row ∈ state.classified.dbMissingRows,
        SoundVerdict uploadsOnly [uploadedAsset] db row) ↔
        ∀ asset resolved, Compared uploadsOnly ⟨id, id⟩
            (Considered db ((CatalogRootRegistry.scanRoots id uploadsOnly).map (·.slug))
              [uploadedAsset]) asset resolved →
          SeenBeforeWindow db ((CatalogRootRegistry.scanRoots id uploadsOnly).map (·.slug))
            resolved) := by
  have hreach : Reachable CatalogState.step (CatalogState.start 0) (scannedWithFileModifiedAt 9) :=
    Reachable.of_exec (Steps.exec_eq_last (by decide))
  obtain ⟨db, state, hcollect⟩ : ∃ db state, collectedWithFileModifiedAt 9 = .ok (db, state) :=
    ⟨_, _, rfl⟩
  refine ⟨db, state, hcollect, ?_⟩
  rw [collectedWithFileModifiedAt] at hcollect
  exact missing_verdicts_sound_iff hreach hcollect

end ImmichDoctor.Catalog
