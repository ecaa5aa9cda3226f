import ImmichDoctor.Catalog.Proofs.MissingVerdicts
/-!
# The classes of the assets

Every asset of the comparison window with an original path is present, missing, an
accepted motion component or unmapped, and the rows and counters of the collection are
those of the classes. The files without an asset are compared with the assets of the
window only, so the original of a newer asset is listed among them; and originals are looked
up among the files of the window only, so a newer original counts as absent.
-/

namespace ImmichDoctor.Catalog

open ImmichDoctor.Library
open ImmichDoctor.Storage

/-! ## Classes -/

inductive AssetClass
  | present
  | dbMissing
  | motion
  | unmapped
  deriving DecidableEq

/-- The original path of the asset and what it is resolved to. -/
def OriginalAt (settings : StorageSettings) (asset : AssetRow) (originalPath : PyStr)
    (resolved : ResolvedStoragePath) : Prop :=
  truthyPath asset.originalPath = some originalPath ∧
    resolve settings originalPath = some resolved

/-- The path below the uploads is that of the asset's original. -/
def IsOriginalOf (settings : StorageSettings) (asset : AssetRow) (relativePath : PyStr) : Prop :=
  ∃ originalPath resolved, OriginalAt settings asset originalPath resolved ∧
    resolved.rootSlug = sourceRootSlug ∧ resolved.relativePath = relativePath

/-- The path of the asset's original below the uploads. -/
def originalOf (settings : StorageSettings) (asset : AssetRow) : Option PyStr :=
  (truthyPath asset.originalPath).bind fun originalPath =>
    ((resolve settings originalPath).filter (·.rootSlug = sourceRootSlug)).map (·.relativePath)

/-- The original of the last of the assets with this id that has one. -/
def lastOriginal (settings : StorageSettings) (assets : List AssetRow) (assetId : PyStr) :
    Option PyStr :=
  assets.reverse.findSome? fun asset =>
    if asset.id = assetId then originalOf settings asset else none

namespace ComparisonContext

/-- What it takes to be of a class. -/
def InClass (context : ComparisonContext) (asset : AssetRow) : AssetClass → Prop
  | .present => ∃ path ∈ context.uploadsIndex, IsOriginalOf context.settings asset path
  | .dbMissing => ∃ row, context.Reports asset row
  | .motion => ∃ originalPath resolved, OriginalAt context.settings asset originalPath resolved ∧
      IsMotionComponent context.text (· ∈ context.assetRows) asset originalPath
        resolved.rootSlug ∧ resolved.relativePath ∈ context.derivativeIndex resolved.rootSlug
  | .unmapped => ∃ originalPath, truthyPath asset.originalPath = some originalPath ∧
      ∀ resolved, resolve context.settings originalPath = some resolved →
        resolved.rootSlug ≠ sourceRootSlug ∧
          ¬ IsMotionComponent context.text (· ∈ context.assetRows) asset originalPath
            resolved.rootSlug

end ComparisonContext

/-- What the round of an asset of a class adds. -/
structure RoundOf (context : ComparisonContext) (asset : AssetRow) (kind : AssetClass)
    (before after : ClassifiedAssets) : Prop where
  dbMissing : after.dbMissingRows.map (·.assetId) =
    before.dbMissingRows.map (·.assetId) ++ if kind = .dbMissing then [asset.id] else []
  unmapped : after.unmappedRows.map (·.assetId) =
    before.unmappedRows.map (·.assetId) ++ if kind = .unmapped then [asset.id] else []
  motion : after.validMotionVideoComponents =
    before.validMotionVideoComponents + if kind = .motion then 1 else 0
  total : after.totalAssetsScanned = before.totalAssetsScanned + 1

section Round

variable {context : ComparisonContext} {asset : AssetRow} {classified : ClassifiedAssets}
  {originalPath : PyStr} {resolved : ResolvedStoragePath}

theorem motion_ne_source {considered : AssetRow → Prop} {slug : PyStr}
    (h : IsMotionComponent context.text considered asset originalPath slug) :
    slug ≠ sourceRootSlug := by
  rw [h.1]
  decide

variable (context) in
/-- A path that is resolved is of a class by its root and by the index of that root. -/
theorem inClass_iff (hpath : truthyPath asset.originalPath = some originalPath)
    (hresolved : resolve context.settings originalPath = some resolved) (kind : AssetClass) :
    context.InClass asset kind ↔
      let motion := IsMotionComponent context.text (· ∈ context.assetRows) asset originalPath
        resolved.rootSlug
      let indexed := resolved.relativePath ∈ context.derivativeIndex resolved.rootSlug
      match kind with
      | .present => resolved.rootSlug = sourceRootSlug ∧ indexed
      | .dbMissing => (resolved.rootSlug = sourceRootSlug ∨ motion) ∧ ¬ indexed
      | .motion => motion ∧ indexed
      | .unmapped => resolved.rootSlug ≠ sourceRootSlug ∧ ¬ motion := by
  cases kind with
  | present =>
      simp only [ComparisonContext.InClass, IsOriginalOf, OriginalAt, hpath, Option.some.injEq,
        ComparisonContext.uploadsIndex_eq]
      constructor
      · rintro ⟨path, hmem, other, found, ⟨rfl, hfound⟩, hslug, rfl⟩
        cases hresolved.symm.trans hfound
        exact ⟨hslug, hslug ▸ hmem⟩
      · rintro ⟨hslug, hmem⟩
        exact ⟨_, hslug ▸ hmem, originalPath, resolved, ⟨rfl, hresolved⟩, hslug, rfl⟩
  | dbMissing =>
      simp only [ComparisonContext.InClass, ComparisonContext.Reports]
      constructor
      · rintro ⟨row, other, found, hother, hfound, hroot, hnot, -⟩
        cases hpath.symm.trans hother
        cases hresolved.symm.trans hfound
        exact ⟨hroot, hnot⟩
      · rintro ⟨hroot, hnot⟩
        exact ⟨_, originalPath, resolved, hpath, hresolved, hroot, hnot, rfl⟩
  | motion =>
      simp only [ComparisonContext.InClass, OriginalAt]
      constructor
      · rintro ⟨other, found, ⟨hother, hfound⟩, hmotion, hmem⟩
        cases hpath.symm.trans hother
        cases hresolved.symm.trans hfound
        exact ⟨hmotion, hmem⟩
      · rintro ⟨hmotion, hmem⟩
        exact ⟨originalPath, resolved, ⟨hpath, hresolved⟩, hmotion, hmem⟩
  | unmapped =>
      simp only [ComparisonContext.InClass]
      constructor
      · rintro ⟨other, hother, hnone⟩
        cases hpath.symm.trans hother
        exact hnone resolved hresolved
      · intro hnone
        refine ⟨originalPath, hpath, fun found hfound => ?_⟩
        cases hresolved.symm.trans hfound
        exact hnone

variable (context classified) in
/-- An asset with an original path is of one class, and its round adds to that class. -/
theorem exists_class (hpath : truthyPath asset.originalPath = some originalPath) :
    ∃ kind, (∀ other, context.InClass asset other ↔ other = kind) ∧
      RoundOf context asset kind classified (classifyAsset context classified asset) := by
  cases hresolved : resolve context.settings originalPath with
  | none =>
      refine ⟨.unmapped, ?_, ?_⟩
      · intro other
        cases other with
        | present => simp [ComparisonContext.InClass, IsOriginalOf, OriginalAt, hpath, hresolved]
        | dbMissing => simp [ComparisonContext.InClass, ComparisonContext.Reports, hpath, hresolved]
        | motion => simp [ComparisonContext.InClass, OriginalAt, hpath, hresolved]
        | unmapped => simp [ComparisonContext.InClass, hpath, hresolved]
      · simp only [classifyAsset, hpath, hresolved]
        exact ⟨by simp, by simp [unmappedRow], by simp, rfl⟩
  | some resolved =>
      have hclass := inClass_iff context hpath hresolved
      have hvideo :
          context.isValidMotionVideoComponent asset originalPath resolved.rootSlug = true ↔
          IsMotionComponent context.text (· ∈ context.assetRows) asset originalPath
            resolved.rootSlug := ComparisonContext.isValidMotionVideoComponent_iff
      by_cases hsource : resolved.rootSlug = sourceRootSlug
      · have hmotion : ¬ IsMotionComponent context.text (· ∈ context.assetRows) asset originalPath
            resolved.rootSlug := fun h => motion_ne_source h hsource
        rw [hsource] at hmotion
        simp only [hsource] at hclass
        simp only [classifyAsset, hpath, hresolved, hsource, ne_eq, not_true_eq_false, if_false,
          ComparisonContext.uploadsIndex_eq]
        by_cases hmem : resolved.relativePath ∈ context.derivativeIndex sourceRootSlug
        · refine ⟨.present, fun other => ?_, ?_⟩
          · rw [hclass]
            cases other <;> simp [hmotion, hmem]
          · rw [if_pos hmem]
            exact ⟨by simp, by simp, by simp, rfl⟩
        · refine ⟨.dbMissing, fun other => ?_, ?_⟩
          · rw [hclass]
            cases other <;> simp [hmotion, hmem]
          · rw [if_neg hmem]
            exact ⟨by simp [dbMissingRow], by simp, by simp, rfl⟩
      · simp only [classifyAsset, hpath, hresolved, ne_eq, hsource, not_false_eq_true, if_true]
        by_cases hmotion : IsMotionComponent context.text (· ∈ context.assetRows) asset
            originalPath resolved.rootSlug
        · rw [if_pos (hvideo.mpr hmotion)]
          by_cases hmem : resolved.relativePath ∈ context.derivativeIndex resolved.rootSlug
          · refine ⟨.motion, fun other => ?_, ?_⟩
            · rw [hclass]
              cases other <;> simp [hsource, hmotion, hmem]
            · rw [if_pos hmem]
              exact ⟨by simp, by simp, by simp, rfl⟩
          · refine ⟨.dbMissing, fun other => ?_, ?_⟩
            · rw [hclass]
              cases other <;> simp [hsource, hmotion, hmem]
            · rw [if_neg hmem]
              exact ⟨by simp [dbMissingRow], by simp, by simp, rfl⟩
        · rw [if_neg (mt hvideo.mp hmotion)]
          refine ⟨.unmapped, fun other => ?_, ?_⟩
          · rw [hclass]
            cases other <;> simp [hsource, hmotion]
          · exact ⟨by simp, by simp [unmappedRow], by simp, rfl⟩

/-- An asset without an original path is of no class, and its round adds nothing. -/
theorem not_inClass (hpath : truthyPath asset.originalPath = none) (kind : AssetClass) :
    ¬ context.InClass asset kind := by
  cases kind with
  | present => simp [ComparisonContext.InClass, IsOriginalOf, OriginalAt, hpath]
  | dbMissing => simp [ComparisonContext.InClass, ComparisonContext.Reports, hpath]
  | motion => simp [ComparisonContext.InClass, OriginalAt, hpath]
  | unmapped => simp [ComparisonContext.InClass, hpath]

theorem classifyAsset_of_none (hpath : truthyPath asset.originalPath = none) :
    classifyAsset context classified asset = classified := by
  simp only [classifyAsset, hpath]

end Round

/-! ## The loop over the assets -/

section Loop

open Classical

variable {context : ComparisonContext} {before : ClassifiedAssets}

/-- The assets of a list in a class. -/
noncomputable def inClass (context : ComparisonContext) (kind : AssetClass)
    (assets : List AssetRow) : List AssetRow :=
  assets.filter fun asset => context.InClass asset kind

/-- What the rounds of a list of assets add. -/
structure RoundsOf (context : ComparisonContext) (assets : List AssetRow)
    (before after : ClassifiedAssets) : Prop where
  dbMissing : after.dbMissingRows.map (·.assetId) =
    before.dbMissingRows.map (·.assetId) ++ (inClass context .dbMissing assets).map (·.id)
  unmapped : after.unmappedRows.map (·.assetId) =
    before.unmappedRows.map (·.assetId) ++ (inClass context .unmapped assets).map (·.id)
  motion : after.validMotionVideoComponents =
    before.validMotionVideoComponents + (inClass context .motion assets).length
  total : after.totalAssetsScanned =
    before.totalAssetsScanned + (inClass context .present assets).length +
      (inClass context .dbMissing assets).length + (inClass context .motion assets).length +
      (inClass context .unmapped assets).length
  scanned : after.totalAssetsScanned = before.totalAssetsScanned +
    (assets.filter fun asset => (truthyPath asset.originalPath).isSome).length

theorem inClass_cons_self {asset : AssetRow} {kind : AssetClass}
    (h : ∀ other, context.InClass asset other ↔ other = kind) (other : AssetClass)
    (assets : List AssetRow) :
    inClass context other (asset :: assets) =
      (if kind = other then [asset] else []) ++ inClass context other assets := by
  by_cases hkind : kind = other
  · rw [if_pos hkind, inClass, List.filter_cons_of_pos (by simp [h, hkind])]
    rfl
  · rw [if_neg hkind, inClass, List.filter_cons_of_neg (by simpa [h] using Ne.symm hkind)]
    rfl

variable (context before) in
theorem classifyAssets_rounds (assets : List AssetRow) :
    RoundsOf context assets before (assets.foldl (classifyAsset context) before) := by
  induction assets generalizing before with
  | nil => exact ⟨by simp [inClass], by simp [inClass], by simp [inClass], by simp [inClass], rfl⟩
  | cons asset assets ih =>
      obtain ⟨hmissing, hunmapped, hmotion, htotal, hscanned⟩ :=
        ih (classifyAsset context before asset)
      cases hpath : truthyPath asset.originalPath with
      | none =>
          have hskip : ∀ kind, inClass context kind (asset :: assets) =
              inClass context kind assets := fun kind =>
            List.filter_cons_of_neg (by simpa using not_inClass hpath kind)
          rw [classifyAsset_of_none hpath] at hmissing hunmapped hmotion htotal hscanned
          rw [List.foldl_cons, classifyAsset_of_none hpath]
          exact ⟨by rw [hmissing, hskip], by rw [hunmapped, hskip], by rw [hmotion, hskip],
            by rw [htotal, hskip, hskip, hskip, hskip],
            by rw [hscanned, List.filter_cons_of_neg (by simp [hpath])]⟩
      | some originalPath =>
          obtain ⟨kind, hkind, hround⟩ := exists_class context before hpath
          have hcons := inClass_cons_self hkind
          rw [hround.dbMissing] at hmissing
          rw [hround.unmapped] at hunmapped
          rw [hround.motion] at hmotion
          rw [hround.total] at htotal hscanned
          refine ⟨?_, ?_, ?_, ?_, ?_⟩
          · rw [List.foldl_cons, hmissing, hcons, List.map_append, List.append_assoc]
            cases kind <;> rfl
          · rw [List.foldl_cons, hunmapped, hcons, List.map_append, List.append_assoc]
            cases kind <;> rfl
          · rw [List.foldl_cons, hmotion, hcons, List.length_append, Nat.add_assoc]
            cases kind <;> rfl
          · rw [List.foldl_cons, htotal, hcons, hcons, hcons, hcons]
            cases kind <;> simp <;> omega
          · rw [List.foldl_cons, hscanned, List.filter_cons_of_pos (by simp [hpath]),
              List.length_cons]
            omega

end Loop

/-! ## The originals of the uploads -/

section Originals

variable {context : ComparisonContext} {before : ClassifiedAssets} {path : PyStr}

theorem originalOf_eq_some_iff {settings : StorageSettings} {asset : AssetRow} :
    originalOf settings asset = some path ↔ IsOriginalOf settings asset path := by
  simp only [originalOf, IsOriginalOf, OriginalAt, Option.bind_eq_some_iff,
    Option.map_eq_some_iff, Option.filter_eq_some_iff, decide_eq_true_eq]
  constructor
  · rintro ⟨originalPath, hpath, resolved, ⟨hresolved, hslug⟩, hrelative⟩
    exact ⟨originalPath, resolved, ⟨hpath, hresolved⟩, hslug, hrelative⟩
  · rintro ⟨originalPath, resolved, ⟨hpath, hresolved⟩, hslug, hrelative⟩
    exact ⟨originalPath, hpath, resolved, ⟨hresolved, hslug⟩, hrelative⟩

variable (context before) in
/-- A round records the original of its asset, if it is among the uploads. -/
theorem originals_classifyAsset (asset : AssetRow) :
    (classifyAsset context before asset).dbOriginalIndex =
        (originalOf context.settings asset).toList ++ before.dbOriginalIndex ∧
      (classifyAsset context before asset).originalByAsset =
        ((originalOf context.settings asset).map fun path => (asset.id, path)).toList ++
          before.originalByAsset := by
  cases hpath : truthyPath asset.originalPath with
  | none =>
      rw [classifyAsset_of_none hpath, originalOf, hpath]
      exact ⟨rfl, rfl⟩
  | some originalPath =>
      cases hresolved : resolve context.settings originalPath with
      | none =>
          simp only [classifyAsset, originalOf, hpath, hresolved, Option.bind_some]
          exact ⟨rfl, rfl⟩
      | some resolved =>
          simp only [classifyAsset, originalOf, hpath, hresolved, Option.bind_some]
          by_cases hsource : resolved.rootSlug = sourceRootSlug
          · rw [Option.filter_some, if_pos (decide_eq_true hsource),
              if_neg fun hne => hne hsource]
            exact ⟨rfl, rfl⟩
          · rw [Option.filter_some, if_neg (mt of_decide_eq_true hsource), if_pos hsource]
            split
            · split
              · exact ⟨rfl, rfl⟩
              · exact ⟨rfl, rfl⟩
            · exact ⟨rfl, rfl⟩

variable (context before) in
theorem originals_classifyAssets (assets : List AssetRow) :
    (∀ path, path ∈ (assets.foldl (classifyAsset context) before).dbOriginalIndex ↔
        path ∈ before.dbOriginalIndex ∨
          ∃ asset ∈ assets, IsOriginalOf context.settings asset path) ∧
      ∀ entry, entry ∈ (assets.foldl (classifyAsset context) before).originalByAsset ↔
        entry ∈ before.originalByAsset ∨ ∃ asset ∈ assets, entry.1 = asset.id ∧
          IsOriginalOf context.settings asset entry.2 := by
  induction assets generalizing before with
  | nil => simp
  | cons asset assets ih =>
      obtain ⟨hindex, hentries⟩ := ih (classifyAsset context before asset)
      obtain ⟨hindexStep, hentriesStep⟩ := originals_classifyAsset context before asset
      refine ⟨fun path => ?_, fun entry => ?_⟩
      · rw [List.foldl_cons, hindex, hindexStep, List.mem_append, Option.mem_toList,
          originalOf_eq_some_iff, List.exists_mem_cons_iff, ← or_assoc,
          or_comm (b := path ∈ before.dbOriginalIndex)]
      · have hentry : entry ∈ ((originalOf context.settings asset).map fun path =>
            (asset.id, path)).toList ↔
              entry.1 = asset.id ∧ IsOriginalOf context.settings asset entry.2 := by
          rw [Option.mem_toList, Option.map_eq_some_iff]
          constructor
          · rintro ⟨path, horiginal, rfl⟩
            exact ⟨rfl, originalOf_eq_some_iff.mp horiginal⟩
          · rintro ⟨hid, horiginal⟩
            exact ⟨entry.2, originalOf_eq_some_iff.mpr horiginal, Prod.ext hid.symm rfl⟩
        rw [List.foldl_cons, hentries, hentriesStep, List.mem_append, hentry,
          List.exists_mem_cons_iff, ← or_assoc, or_comm (b := entry ∈ before.originalByAsset)]

variable (context) in
/-- `original_by_asset` holds the original of the last asset with an id. -/
theorem lookup_originals (assets : List AssetRow) (assetId : PyStr) :
    (assets.foldl (classifyAsset context) .none).originalByAsset.lookup assetId =
      lastOriginal context.settings assets assetId := by
  induction assets using List.reverseRecOn with
  | nil => rfl
  | append_singleton assets asset ih =>
      rw [List.foldl_concat, (originals_classifyAsset context _ asset).2, lastOriginal,
        List.reverse_concat, List.findSome?_cons, ← lastOriginal, ← ih]
      cases horiginal : originalOf context.settings asset with
      | none => simp
      | some path =>
          by_cases hid : asset.id = assetId
          · simp [hid]
          · simp [hid, List.lookup_cons, beq_eq_false_iff_ne.mpr (Ne.symm hid)]

end Originals

/-! ## The files without an asset and the derivatives without an original -/

section Files

variable {context : ComparisonContext} {assetFiles : List AssetFileRow}

theorem mem_storageMissingRows {index : List PyStr} {row : StorageMissingRow} :
    row ∈ storageMissingRows context index ↔ ∃ file ∈ context.latestFiles,
      file.rootSlug = sourceRootSlug ∧ isOriginalCandidate context.text file = true ∧
        file.relativePath ∉ index ∧ row = storageMissingRow context.settings file := by
  simp only [storageMissingRows, ComparisonContext.filesOf, List.mem_map, List.mem_filter,
    decide_eq_true_eq]
  constructor
  · rintro ⟨file, ⟨⟨⟨hmem, hslug⟩, hcandidate⟩, hindex⟩, rfl⟩
    exact ⟨file, hmem, hslug, hcandidate, hindex, rfl⟩
  · rintro ⟨file, hmem, hslug, hcandidate, hindex, rfl⟩
    exact ⟨file, ⟨⟨⟨hmem, hslug⟩, hcandidate⟩, hindex⟩, rfl⟩

def OrphanRow.key (row : OrphanRow) : PyStr × PyStr × PyStr :=
  (row.assetId, row.derivativeType, row.relativePath)

/-- The row is about a cached derivative of an asset whose recorded original is not cached. -/
structure OrphanOf (context : ComparisonContext) (assetFiles : List AssetFileRow)
    (originalByAsset : List (PyStr × PyStr)) (row : OrphanRow) : Prop where
  derivative : ∃ asset ∈ context.assetRows, asset.id = row.assetId ∧
    (row.derivativeType, row.databasePath) ∈ derivativesOf assetFiles asset
  cached : ∃ resolved, resolve context.settings row.databasePath = some resolved ∧
    resolved.relativePath ∈ context.derivativeIndex resolved.rootSlug
  original : originalByAsset.lookup row.assetId = some row.originalRelativePath
  uncached : row.originalRelativePath ∉ context.uploadsIndex

/-- The orphan rows so far are what they should be. -/
structure OrphansSound (context : ComparisonContext) (assetFiles : List AssetFileRow)
    (originalByAsset : List (PyStr × PyStr)) (orphans : List OrphanRow) : Prop where
  keys : (orphans.map OrphanRow.key).Nodup
  rows : ∀ row ∈ orphans, OrphanOf context assetFiles originalByAsset row

section Orphans

variable {originalByAsset : List (PyStr × PyStr)} {orphans : List OrphanRow} {asset : AssetRow}
  {assetId original : PyStr} {derivative : PyStr × PyStr}

theorem OrphansSound.appendOrphanRow (h : OrphansSound context assetFiles originalByAsset orphans)
    (hderivative : ∃ asset ∈ context.assetRows, asset.id = assetId ∧
      derivative ∈ derivativesOf assetFiles asset)
    (horiginal : originalByAsset.lookup assetId = some original)
    (huncached : original ∉ context.uploadsIndex) :
    OrphansSound context assetFiles originalByAsset
      (ImmichDoctor.Catalog.appendOrphanRow context assetId original orphans derivative) := by
  unfold ImmichDoctor.Catalog.appendOrphanRow
  split
  · exact h
  next resolved hresolved =>
  split
  · exact h
  next hcached =>
  split
  · exact h
  next hfresh =>
  constructor
  · rw [List.map_append, List.nodup_append]
    refine ⟨h.keys, List.nodup_singleton _, ?_⟩
    intro key hkey other hother heq
    obtain ⟨row, hrow, rfl⟩ := List.mem_map.mp hkey
    rw [List.map_singleton, List.mem_singleton] at hother
    obtain ⟨hid, htype, hpath⟩ : row.assetId = assetId ∧
        row.derivativeType = derivative.1 ∧ row.relativePath = resolved.relativePath := by
      simpa [OrphanRow.key] using heq.trans hother
    exact hfresh (List.any_eq_true.mpr ⟨row, hrow, by simp [hid, htype, hpath]⟩)
  · intro row hrow
    rcases List.mem_append.mp hrow with hold | hnew
    · exact h.rows row hold
    · rw [List.mem_singleton.mp hnew]
      exact ⟨hderivative, ⟨resolved, hresolved, not_not.mp hcached⟩, horiginal, huncached⟩

theorem OrphansSound.appendOrphansOf (h : OrphansSound context assetFiles originalByAsset orphans)
    (hasset : asset ∈ context.assetRows) :
    OrphansSound context assetFiles originalByAsset
      (ImmichDoctor.Catalog.appendOrphansOf context assetFiles originalByAsset orphans asset) := by
  unfold ImmichDoctor.Catalog.appendOrphansOf
  split
  · exact h
  next original hlookup =>
  split
  · exact h
  · next huncached =>
      refine List.foldlRecOn _ _ h fun orphans horphans derivative hderivative => ?_
      exact horphans.appendOrphanRow ⟨asset, hasset, rfl, hderivative⟩ hlookup huncached

/-- A cached derivative has a row of its asset afterwards, and no row is lost. -/
theorem rows_appendOrphanRow :
    (∀ row ∈ orphans, row ∈ appendOrphanRow context assetId original orphans derivative) ∧
      ∀ resolved, resolve context.settings derivative.2 = some resolved →
        resolved.relativePath ∈ context.derivativeIndex resolved.rootSlug →
        ∃ row ∈ appendOrphanRow context assetId original orphans derivative,
          row.assetId = assetId := by
  unfold appendOrphanRow
  cases hresolved : resolve context.settings derivative.2 with
  | none => exact ⟨fun row hrow => hrow, nofun⟩
  | some resolved =>
      by_cases hcached : resolved.relativePath ∈ context.derivativeIndex resolved.rootSlug
      · simp only [not_not.mpr hcached, if_false]
        split
        · next hsome =>
            obtain ⟨row, hrow, hkey⟩ := List.any_eq_true.mp hsome
            simp only [Bool.and_eq_true, decide_eq_true_eq] at hkey
            exact ⟨fun row hrow => hrow, fun _ _ _ => ⟨row, hrow, hkey.1.1⟩⟩
        · exact ⟨fun row hrow => List.mem_append_left _ hrow, fun _ _ _ =>
            ⟨_, List.mem_append_right _ (List.mem_singleton_self _), rfl⟩⟩
      · dsimp only
        rw [if_pos hcached]
        refine ⟨fun row hrow => hrow, fun other hother hmem => ?_⟩
        cases hother
        exact absurd hmem hcached

theorem mem_appendOrphansOf {row : OrphanRow} (hrow : row ∈ orphans) :
    row ∈ appendOrphansOf context assetFiles originalByAsset orphans asset := by
  unfold appendOrphansOf
  split
  · exact hrow
  · split
    · exact hrow
    · exact List.foldlRecOn _ _ hrow fun orphans horphans derivative _ =>
        rows_appendOrphanRow.1 row horphans

/-- Every cached derivative of an asset whose recorded original is not cached has a row. -/
theorem exists_orphan {resolved : ResolvedStoragePath} {assets : List AssetRow}
    (hasset : asset ∈ assets)
    (horiginal : originalByAsset.lookup asset.id = some original)
    (huncached : original ∉ context.uploadsIndex)
    (hderivative : derivative ∈ derivativesOf assetFiles asset)
    (hresolved : resolve context.settings derivative.2 = some resolved)
    (hcached : resolved.relativePath ∈ context.derivativeIndex resolved.rootSlug) :
    ∃ row ∈ assets.foldl (appendOrphansOf context assetFiles originalByAsset) orphans,
      row.assetId = asset.id := by
  obtain ⟨before, after, hassets⟩ := List.append_of_mem hasset
  rw [hassets, List.foldl_append, List.foldl_cons]
  generalize before.foldl (appendOrphansOf context assetFiles originalByAsset) orphans = rows
  have hround : ∃ row ∈ appendOrphansOf context assetFiles originalByAsset rows asset,
      row.assetId = asset.id := by
    unfold appendOrphansOf
    rw [horiginal]
    dsimp only
    rw [if_neg huncached]
    obtain ⟨front, back, hderivatives⟩ := List.append_of_mem hderivative
    rw [hderivatives, List.foldl_append, List.foldl_cons]
    generalize front.foldl (appendOrphanRow context asset.id original) rows = earlier
    obtain ⟨row, hrow, hid⟩ := rows_appendOrphanRow.2 resolved hresolved hcached
    exact ⟨row, List.foldlRecOn _ _ hrow fun orphans horphans derivative _ =>
      rows_appendOrphanRow.1 row horphans, hid⟩
  obtain ⟨row, hrow, hid⟩ := hround
  exact ⟨row, List.foldlRecOn _ _ hrow fun orphans horphans asset _ =>
    mem_appendOrphansOf horphans, hid⟩

end Orphans

end Files

/-! ## The collected state -/

/-- What the classes of the collected assets are read off from. -/
def stateContext (settings : StorageSettings) (text : CaseMapping)
    (state : CatalogConsistencyState) : ComparisonContext :=
  ⟨settings, text, state.latestFiles, state.assetRows⟩

/-- Every asset of the window is of one class, the rows and counters are those of the
classes, the files without an asset are those that are no asset's original, and the orphans
are derivatives whose original is not among the files of the current snapshots. -/
structure Classifies (settings : StorageSettings) (text : CaseMapping) (db : CatalogDb)
    (assets : List AssetRow) (state : CatalogConsistencyState) : Prop where
  window : state.assetRows =
    assets.filter (assetWithinSnapshotWindow state.comparisonWindowStartedAt)
  one_class : ∀ asset ∈ state.assetRows, (truthyPath asset.originalPath).isSome = true →
    ∃! kind, (stateContext settings text state).InClass asset kind
  dbMissing : state.classified.dbMissingRows.map (·.assetId) =
    (inClass (stateContext settings text state) .dbMissing state.assetRows).map (·.id)
  unmapped : state.classified.unmappedRows.map (·.assetId) =
    (inClass (stateContext settings text state) .unmapped state.assetRows).map (·.id)
  motion : state.classified.validMotionVideoComponents =
    (inClass (stateContext settings text state) .motion state.assetRows).length
  sum : state.classified.totalAssetsScanned =
    (inClass (stateContext settings text state) .present state.assetRows).length +
      state.classified.dbMissingRows.length + state.classified.validMotionVideoComponents +
      state.classified.unmappedRows.length
  scanned : state.classified.totalAssetsScanned =
    (state.assetRows.filter fun asset => (truthyPath asset.originalPath).isSome).length
  storageOnly : ∀ row, row ∈ state.storageMissingRows ↔ ∃ file ∈ state.latestFiles,
    file.rootSlug = sourceRootSlug ∧ isOriginalCandidate text file = true ∧
      (∀ asset ∈ assets, ¬ IsOriginalOf settings asset file.relativePath) ∧
      row = storageMissingRow settings file
  orphanKeys : (state.orphanRows.map OrphanRow.key).Nodup
  derivatives : ∀ row ∈ state.orphanRows, ∃ asset ∈ state.assetRows, asset.id = row.assetId ∧
    (row.derivativeType, row.databasePath) ∈ derivativesOf state.assetFileRows asset
  originals : ∀ row ∈ state.orphanRows, ∃ asset ∈ state.assetRows, asset.id = row.assetId ∧
    IsOriginalOf settings asset row.originalRelativePath
  absent : ∀ row ∈ state.orphanRows, ∀ file ∈ db.listLatestSnapshotFiles none none,
    file.rootSlug = sourceRootSlug → file.relativePath ≠ row.originalRelativePath

/-- A file that is the original of an asset is also that of an asset of the window. -/
def OriginalsInWindow (context : ComparisonContext) (assets : List AssetRow) : Prop :=
  ∀ file ∈ context.latestFiles, file.rootSlug = sourceRootSlug →
    isOriginalCandidate context.text file = true → ∀ asset ∈ assets,
      IsOriginalOf context.settings asset file.relativePath →
        ∃ other ∈ context.assetRows, IsOriginalOf context.settings other file.relativePath

/-- Where the original that is recorded for an asset of the window is a file of the current
snapshots, it is a cached one, or the asset has no cached derivative. -/
def DerivativesInWindow (context : ComparisonContext) (db : CatalogDb)
    (assetFiles : List AssetFileRow) : Prop :=
  ∀ asset ∈ context.assetRows, ∀ original,
    lastOriginal context.settings context.assetRows asset.id = some original →
    ∀ file ∈ db.listLatestSnapshotFiles none none, file.rootSlug = sourceRootSlug →
      file.relativePath = original → original ∉ context.uploadsIndex →
      ∀ derivative ∈ derivativesOf assetFiles asset, ∀ resolved,
        resolve context.settings derivative.2 = some resolved →
        resolved.relativePath ∉ context.derivativeIndex resolved.rootSlug

section Collected

variable {resolvePath : PurePath → PurePath} {settings : StorageSettings} {text : CaseMapping}
  {times : PyStr → Instant} {assets : List AssetRow} {assetFiles : List AssetFileRow}
  {before synced collected : CatalogDb} {snapshotState : CatalogSnapshotState}
  {state : CatalogConsistencyState}

theorem collect_eq_compare
    (hprepared : prepareSnapshotState resolvePath settings times before =
      some (synced, snapshotState))
    (hcollect : collect resolvePath settings text times (.tables assets assetFiles) before =
      .ok (collected, state)) :
    collected = synced ∧ state = compare settings text synced snapshotState assets assetFiles := by
  simp only [collect, hprepared] at hcollect
  split at hcollect
  · cases hcollect
  · cases hcollect
    exact ⟨rfl, rfl⟩

/-- The collected fields are those of the comparison in its context. -/
theorem collected_fields
    (hprepared : prepareSnapshotState resolvePath settings times before =
      some (synced, snapshotState))
    (hcollect : collect resolvePath settings text times (.tables assets assetFiles) before =
      .ok (collected, state)) :
    let context :=
      contextOf settings text synced snapshotState.comparisonWindowStartedAt assets
    stateContext settings text state = context ∧
      state.assetRows =
        assets.filter (assetWithinSnapshotWindow state.comparisonWindowStartedAt) ∧
      state.classified = context.assetRows.foldl (classifyAsset context) .none ∧
      state.storageMissingRows = storageMissingRows context state.classified.dbOriginalIndex ∧
      state.orphanRows = context.assetRows.foldl
        (appendOrphansOf context state.assetFileRows state.classified.originalByAsset) [] ∧
      state.assetFileRows =
        assetFiles.filter fun row => state.assetRows.any fun asset => asset.id = row.assetId := by
  rw [(collect_eq_compare hprepared hcollect).2]
  exact ⟨rfl, rfl, rfl, rfl, rfl, rfl⟩

/-- The files of the window's assets hold all derivatives of these assets. -/
theorem derivativesOf_filter {rows : List AssetRow} {asset : AssetRow} (h : asset ∈ rows) :
    derivativesOf
      (assetFiles.filter fun row => rows.any fun asset => asset.id = row.assetId) asset =
      derivativesOf assetFiles asset := by
  unfold derivativesOf
  rw [List.filter_filter]
  refine congrArg _ (congrArg _ (List.filter_congr fun row _ => ?_))
  by_cases hid : row.assetId = asset.id
  · have hany : (rows.any fun asset => asset.id = row.assetId) = true :=
      List.any_eq_true.mpr ⟨asset, h, decide_eq_true hid.symm⟩
    rw [hany, Bool.and_true]
  · rw [decide_eq_false hid, Bool.false_and]

variable (settings text state) in
/-- The parts of the classification that hold of every collection. -/
structure ClassifiedSound (assets : List AssetRow) : Prop where
  window : state.assetRows =
    assets.filter (assetWithinSnapshotWindow state.comparisonWindowStartedAt)
  rounds : RoundsOf (stateContext settings text state) state.assetRows .none state.classified
  storageOnly : ∀ row, row ∈ state.storageMissingRows ↔ ∃ file ∈ state.latestFiles,
    file.rootSlug = sourceRootSlug ∧ isOriginalCandidate text file = true ∧
      (¬ ∃ asset ∈ state.assetRows, IsOriginalOf settings asset file.relativePath) ∧
      row = storageMissingRow settings file
  orphans : OrphansSound (stateContext settings text state) state.assetFileRows
    state.classified.originalByAsset state.orphanRows
  recorded : ∀ assetId, state.classified.originalByAsset.lookup assetId =
    lastOriginal settings state.assetRows assetId

theorem classifiedSound
    (hprepared : prepareSnapshotState resolvePath settings times before =
      some (synced, snapshotState))
    (hcollect : collect resolvePath settings text times (.tables assets assetFiles) before =
      .ok (collected, state)) : ClassifiedSound settings text state assets := by
  obtain ⟨hcontext, hwindow, hclassified, hstorage, horphans, -⟩ :=
    collected_fields hprepared hcollect
  rw [← hcontext] at hclassified hstorage horphans
  refine ⟨hwindow, ?_, fun row => ?_, ?_, fun assetId => ?_⟩
  · rw [hclassified]
    exact classifyAssets_rounds (stateContext settings text state) .none state.assetRows
  · have hindex := (originals_classifyAssets (stateContext settings text state) .none
      state.assetRows).1
    rw [hstorage, mem_storageMissingRows, hclassified]
    refine exists_congr fun file => and_congr_right fun _ => and_congr_right fun _ =>
      and_congr_right fun _ => and_congr_left fun _ => not_congr ?_
    exact (hindex file.relativePath).trans (or_iff_right List.not_mem_nil)
  · rw [horphans]
    refine List.foldlRecOn _ _ ⟨List.nodup_nil, List.forall_mem_nil _⟩
      fun orphans hsound asset hasset => ?_
    exact hsound.appendOrphansOf hasset
  · rw [hclassified]
    exact lookup_originals (stateContext settings text state) state.assetRows assetId

/-- The orphans are of absent originals exactly when no listed original is looked up in vain. -/
theorem orphans_absent_iff
    (hprepared : prepareSnapshotState resolvePath settings times before =
      some (synced, snapshotState))
    (hcollect : collect resolvePath settings text times (.tables assets assetFiles) before =
      .ok (collected, state)) :
    (∀ row ∈ state.orphanRows, ∀ file ∈ synced.listLatestSnapshotFiles none none,
        file.rootSlug = sourceRootSlug → file.relativePath ≠ row.originalRelativePath) ↔
      DerivativesInWindow (stateContext settings text state) synced assetFiles := by
  have hsound := classifiedSound hprepared hcollect
  obtain ⟨hcontext, -, -, -, horphans, hfiles⟩ := collected_fields hprepared hcollect
  rw [← hcontext] at horphans
  have hderivatives : ∀ asset ∈ state.assetRows,
      derivativesOf state.assetFileRows asset = derivativesOf assetFiles asset := by
    intro asset hasset
    rw [hfiles]
    exact derivativesOf_filter hasset
  constructor
  · intro habsent asset hasset original horiginal file hfile hslug hpath huncached derivative
      hderivative resolved hresolved hcached
    rw [← hderivatives asset hasset] at hderivative
    have hlookup := (hsound.recorded asset.id).trans horiginal
    obtain ⟨row, hrow, hid⟩ :=
      @exists_orphan _ _ _ [] _ _ _ _ _ hasset hlookup huncached hderivative hresolved hcached
    rw [← horphans] at hrow
    have hrecorded := (hsound.orphans.rows row hrow).original
    rw [hid, hlookup, Option.some.injEq] at hrecorded
    exact habsent row hrow file hfile hslug (hpath.trans hrecorded)
  · intro hlisted row hrow file hfile hslug hpath
    obtain ⟨⟨asset, hasset, hid, hderivative⟩, ⟨resolved, hresolved, hcached⟩,
      horiginal, huncached⟩ :=
      hsound.orphans.rows row hrow
    rw [hderivatives asset hasset] at hderivative
    rw [← hid, hsound.recorded asset.id] at horiginal
    exact hlisted asset hasset _ horiginal file hfile hslug hpath huncached _ hderivative resolved
      hresolved hcached

/-- The collection classifies as it should if and only if no cached original is the original
of newer assets alone, and no newer original has a cached derivative. -/
theorem classifies_iff
    (hprepared : prepareSnapshotState resolvePath settings times before =
      some (synced, snapshotState))
    (hcollect : collect resolvePath settings text times (.tables assets assetFiles) before =
      .ok (collected, state)) :
    Classifies settings text collected assets state ↔
      OriginalsInWindow
          (contextOf settings text synced snapshotState.comparisonWindowStartedAt assets) assets ∧
        DerivativesInWindow
          (contextOf settings text synced snapshotState.comparisonWindowStartedAt assets) synced
          assetFiles := by
  obtain ⟨hwindow, hrounds, hstorageOnly, horphans, hrecorded⟩ :=
    classifiedSound hprepared hcollect
  rw [← (collected_fields hprepared hcollect).1, ← orphans_absent_iff hprepared hcollect,
    (collect_eq_compare hprepared hcollect).1]
  constructor
  · intro h
    refine ⟨fun file hfile hslug hcandidate asset hasset horiginal => ?_, h.absent⟩
    by_contra hnone
    obtain ⟨other, -, -, -, hfree, hrow⟩ := (h.storageOnly (storageMissingRow settings file)).mp
      ((hstorageOnly _).mpr ⟨file, hfile, hslug, hcandidate, hnone, rfl⟩)
    have hpath : file.relativePath = other.relativePath :=
      congrArg StorageMissingRow.relativePath hrow
    exact hfree asset hasset (hpath ▸ horiginal)
  · rintro ⟨h, habsent⟩
    have hmissing := hrounds.dbMissing
    have hunmapped := hrounds.unmapped
    have hmotion := hrounds.motion
    have htotal := hrounds.total
    have hscanned := hrounds.scanned
    rw [ClassifiedAssets.none, List.map_nil, List.nil_append] at hmissing hunmapped
    rw [ClassifiedAssets.none, Nat.zero_add] at hmotion htotal hscanned
    refine ⟨hwindow, ?_, hmissing, hunmapped, hmotion, ?_, hscanned, ?_, horphans.keys,
      fun row hrow => (horphans.rows row hrow).derivative, fun row hrow => ?_, habsent⟩
    · intro asset hasset hsome
      obtain ⟨originalPath, hpath⟩ := Option.isSome_iff_exists.mp hsome
      obtain ⟨kind, hkind, -⟩ := exists_class (stateContext settings text state) .none hpath
      exact ⟨kind, (hkind kind).mpr rfl, fun other hother => (hkind other).mp hother⟩
    · have hmissingLength := congrArg List.length hmissing
      have hunmappedLength := congrArg List.length hunmapped
      rw [List.length_map, List.length_map] at hmissingLength hunmappedLength
      omega
    · intro row
      rw [hstorageOnly]
      refine exists_congr fun file => and_congr_right fun hfile => and_congr_right fun hslug =>
        and_congr_right fun hcandidate => and_congr_left fun _ => ⟨?_, ?_⟩
      · intro hnone asset hasset horiginal
        exact hnone (h file hfile hslug hcandidate asset hasset horiginal)
      · rintro hfree ⟨asset, hasset, horiginal⟩
        rw [hwindow] at hasset
        exact hfree asset (List.mem_of_mem_filter hasset) horiginal
    · have horiginal := (horphans.rows row hrow).original
      rw [hrecorded, lastOriginal] at horiginal
      obtain ⟨asset, hasset, hsome⟩ := List.exists_of_findSome?_eq_some horiginal
      split at hsome
      · next hid =>
          exact ⟨asset, List.mem_reverse.mp hasset, hid, originalOf_eq_some_iff.mp hsome⟩
      · cases hsome

end Collected

/-! ## An asset that changes during the scan -/

/-- An asset whose original is gone. -/
def lostAsset : AssetRow :=
  { uploadedAsset with id := py "asset-2", originalPath := some (py "/uploads/b.jpg") }

def previewOfUploaded : AssetFileRow :=
  ⟨py "file-1", py "asset-1", py "preview", py "/uploads/a.jpg"⟩

/-- One asset is present, the other one is missing. -/
theorem classifies_iff_unchanged :
    ∃ collected state,
      collect id uploadsOnly ⟨id, id⟩ (fun _ => 30)
          (.tables [uploadedAsset, lostAsset] [previewOfUploaded])
          (scannedWithFileModifiedAt 9).db = .ok (collected, state) ∧
        Classifies uploadsOnly ⟨id, id⟩ collected [uploadedAsset, lostAsset] state := by
  obtain ⟨synced, snapshotState, hprepared, hcutoff, hold⟩ : ∃ synced snapshotState,
      prepareSnapshotState id uploadsOnly (fun _ => 30) (scannedWithFileModifiedAt 9).db =
          some (synced, snapshotState) ∧
        snapshotState.comparisonWindowStartedAt = some 10 ∧
        ∀ file ∈ synced.listLatestSnapshotFiles none none, file.modifiedAtFs = some 9 :=
    ⟨_, _, rfl, rfl, by decide⟩
  obtain ⟨collected, state, hcollect⟩ : ∃ collected state,
      collect id uploadsOnly ⟨id, id⟩ (fun _ => 30)
        (.tables [uploadedAsset, lostAsset] [previewOfUploaded])
        (scannedWithFileModifiedAt 9).db = .ok (collected, state) := ⟨_, _, rfl⟩
  refine ⟨collected, state, hcollect, (classifies_iff hprepared hcollect).mpr ⟨?_, ?_⟩⟩
  · intro file _ _ _ asset hasset horiginal
    have hwindow : ∀ asset ∈ [uploadedAsset, lostAsset],
        assetWithinSnapshotWindow snapshotState.comparisonWindowStartedAt asset = true := by
      rw [hcutoff]
      decide
    exact ⟨asset, List.mem_filter.mpr ⟨hasset, hwindow asset hasset⟩, horiginal⟩
  · intro asset _ original _ file hfile hslug hpath huncached
    -- every file of the snapshot is a cached one
    have hbefore : rowWithinSnapshotWindow snapshotState.comparisonWindowStartedAt
        file.modifiedAtFs = true := by
      rw [hcutoff, hold file hfile]
      decide
    exact absurd (List.mem_map.mpr ⟨file, List.mem_filter.mpr
      ⟨List.mem_filter.mpr ⟨hfile, hbefore⟩, decide_eq_true hslug⟩, hpath⟩) huncached

/-- The asset of `a.jpg`, changed while its root is scanned. -/
def assetUpdatedDuringScan : AssetRow :=
  { uploadedAsset with updatedAt := some 15 }

/-- The original of an asset that changes during the scan is listed as a file without one. -/
theorem updated_original_listed_without_asset :
    ∃ collected state, collect id uploadsOnly ⟨id, id⟩ (fun _ => 30)
        (.tables [assetUpdatedDuringScan] []) (scannedWithFileModifiedAt 9).db =
          .ok (collected, state) ∧
      ¬ Classifies uploadsOnly ⟨id, id⟩ collected [assetUpdatedDuringScan] state := by
  refine ⟨_, _, rfl, fun h => ?_⟩
  obtain ⟨file, -, -, -, hfree, hrow⟩ := (h.storageOnly
    ⟨py "uploads", py "a.jpg", some (.parse (py "/uploads/a.jpg")), py "a.jpg", 7, 1, 1⟩).mp
      (by decide)
  have hpath : py "a.jpg" = file.relativePath := congrArg StorageMissingRow.relativePath hrow
  rw [← hpath] at hfree
  refine hfree assetUpdatedDuringScan (List.mem_singleton_self _) ⟨py "/uploads/a.jpg",
    ⟨py "uploads", py "a.jpg", .parse (py "/uploads/a.jpg"), .runtime⟩, ⟨?_, ?_⟩, ?_, ?_⟩
  · decide
  · decide
  · decide
  · decide

end ImmichDoctor.Catalog
