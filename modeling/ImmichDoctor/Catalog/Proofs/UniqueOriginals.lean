import ImmichDoctor.Catalog.PathFix
import ImmichDoctor.Catalog.Proofs.AssetClasses
import ImmichDoctor.Catalog.Proofs.PathRoundTrip
import ImmichDoctor.Catalog.Proofs.RelocationSearch
/-!
# Original paths under path fixes

A path fix writes the path of a cached file to an asset without a look at the other assets:
two assets of one batch may be given the same file, and a file may be that of an asset
already. Where the files are distinct, are no other asset's and have ordinary names, the
original paths stay unique and each new one leads to the file that was found.
-/

namespace ImmichDoctor.Catalog

open ImmichDoctor.Library
open ImmichDoctor.Repair
open ImmichDoctor.Storage

/-! ## Found files -/

/-- The file is the first candidate for the missing original of the asset, and the comparison
of checksums takes it for the asset's. -/
structure Relocates (context : RemediationContext) (state : CatalogConsistencyState)
    (assetId : PyStr) (item : SnapshotFileRow) : Prop where
  candidate : ∃ row ∈ state.classified.dbMissingRows, row.assetId = assetId ∧
    ∃ asset, state.assetRows.find? (fun other => other.id = assetId) = some asset ∧
      state.latestFiles.find? (fun item => IsCandidate asset row item) = some item ∧
      MatchesHash context asset item
  root : item.rootSlug = sourceRootSlug
  configured : context.settings.immichUploadsPath.isSome = true

/-- The finding names the file. -/
structure Names (settings : StorageSettings) (finding : BrokenDbOriginalFinding)
    (item : SnapshotFileRow) : Prop where
  rootSlug : finding.foundRootSlug = some item.rootSlug
  relativePath : finding.foundRelativePath = some item.relativePath
  absolutePath : finding.foundAbsolutePath = some (absolutePathOf settings item)

section Findings

variable {context : RemediationContext} {state : CatalogConsistencyState} {uploadsRoot : PurePath}
  {asset : AssetRow} {row : DbMissingRow} {finding : BrokenDbOriginalFinding}

variable (context state uploadsRoot asset row) in
/-- A located file is named by its finding, which allows a path fix for a match only. -/
theorem locatedFinding_names (item : SnapshotFileRow) (matched : Option Bool) :
    Names context.settings
        (locatedFinding context state uploadsRoot asset row (locatedFile context.settings item)
          matched) item ∧
      (locatedFinding context state uploadsRoot asset row (locatedFile context.settings item)
        matched).assetId = asset.id ∧
      ((locatedFinding context state uploadsRoot asset row (locatedFile context.settings item)
          matched).supportsAction .brokenDbPathFix = true →
        matched = some true ∧ item.rootSlug = sourceRootSlug) := by
  unfold locatedFinding
  by_cases hfound : matched = some true ∧ (locatedFile context.settings item).rootSlug =
      sourceRootSlug
  · rw [if_pos hfound]
    exact ⟨⟨rfl, rfl, rfl⟩, rfl, fun _ => hfound⟩
  · rw [if_neg hfound]
    split
    · exact ⟨⟨rfl, rfl, rfl⟩, rfl, fun h => by cases h⟩
    · split
      · exact ⟨⟨rfl, rfl, rfl⟩, rfl, fun h => by cases h⟩
      · exact ⟨⟨rfl, rfl, rfl⟩, rfl, fun h => by cases h⟩

theorem brokenDbOriginalFinding_eq_some
    (h : brokenDbOriginalFinding context state row = some finding) :
    ∃ uploadsRoot asset, context.settings.immichUploadsPath = some uploadsRoot ∧
      state.assetRows.find? (fun other => other.id = row.assetId) = some asset ∧
      asset.id = row.assetId ∧ finding = findingOfAsset context state uploadsRoot asset row := by
  unfold brokenDbOriginalFinding at h
  split at h
  · next uploadsRoot asset hroot hasset =>
      have hid : asset.id = row.assetId := by
        have := List.find?_some hasset
        simpa using this
      exact ⟨uploadsRoot, asset, hroot, hasset, hid, (Option.some.inj h).symm⟩
  · cases h

theorem findingOfAsset_assetId (hid : asset.id = row.assetId) :
    (findingOfAsset context state uploadsRoot asset row).assetId = row.assetId := by
  unfold findingOfAsset
  rw [searchForRelocatedFile_eq]
  cases state.latestFiles.find? fun item => IsCandidate asset row item with
  | none => rfl
  | some item =>
      simp only [Option.map_some]
      cases checksumMatch context asset (locatedFile context.settings item).absolutePath with
      | error searchError => rfl
      | ok matched =>
          exact (locatedFinding_names context state uploadsRoot asset row item
            matched).2.1.trans hid

/-- A finding that allows a path fix names the file its asset is relocated to. -/
theorem exists_relocates (hmem : finding ∈ buildBrokenDbOriginalFindings context state)
    (haction : finding.supportsAction .brokenDbPathFix = true) :
    ∃ item, Relocates context state finding.assetId item ∧
      Names context.settings finding item := by
  obtain ⟨row, hrow, hfinding⟩ := List.mem_filterMap.mp hmem
  obtain ⟨uploadsRoot, asset, hroot, hasset, hid, rfl⟩ := brokenDbOriginalFinding_eq_some hfinding
  rw [findingOfAsset_assetId hid]
  unfold findingOfAsset at haction ⊢
  rw [searchForRelocatedFile_eq] at haction ⊢
  cases hfirst : state.latestFiles.find? fun item => IsCandidate asset row item with
  | none =>
      rw [hfirst] at haction
      cases haction
  | some item =>
      rw [hfirst] at haction
      simp only [Option.map_some] at haction ⊢
      cases hmatch : checksumMatch context asset
          (locatedFile context.settings item).absolutePath with
      | error searchError =>
          rw [hmatch] at haction
          cases haction
      | ok matched =>
          rw [hmatch] at haction
          obtain ⟨hnames, -, hmatched⟩ :=
            locatedFinding_names context state uploadsRoot asset row item matched
          obtain ⟨rfl, hslug⟩ := hmatched haction
          exact ⟨item, ⟨⟨row, hrow, rfl, asset, hasset, hfirst, hmatch⟩, hslug,
            by rw [hroot]; rfl⟩, hnames⟩

/-- An asset that is relocated to a file has a finding that allows a path fix. -/
theorem Relocates.exists_finding {assetId : PyStr} {item : SnapshotFileRow}
    (h : Relocates context state assetId item) :
    ∃ finding ∈ buildBrokenDbOriginalFindings context state, finding.assetId = assetId ∧
      finding.supportsAction .brokenDbPathFix = true ∧ Names context.settings finding item := by
  obtain ⟨⟨row, hrow, rfl, asset, hasset, hfirst, hmatch⟩, hslug, hconfigured⟩ := h
  obtain ⟨uploadsRoot, hroot⟩ := Option.isSome_iff_exists.mp hconfigured
  have hid : asset.id = row.assetId := by
    have := List.find?_some hasset
    simpa using this
  have hfinding : brokenDbOriginalFinding context state row =
      some (findingOfAsset context state uploadsRoot asset row) := by
    rw [brokenDbOriginalFinding, hroot, hasset]
  refine ⟨_, List.mem_filterMap.mpr ⟨row, hrow, hfinding⟩, findingOfAsset_assetId hid, ?_⟩
  have hlocated : findingOfAsset context state uploadsRoot asset row =
      locatedFinding context state uploadsRoot asset row (locatedFile context.settings item)
        (some true) := by
    unfold findingOfAsset
    rw [searchForRelocatedFile_eq, hfirst]
    simp only [Option.map_some]
    rw [show checksumMatch context asset (locatedFile context.settings item).absolutePath =
      .ok (some true) from hmatch]
  rw [hlocated]
  refine ⟨?_, (locatedFinding_names context state uploadsRoot asset row item (some true)).1⟩
  unfold locatedFinding
  rw [if_pos ⟨rfl, hslug⟩]
  rfl

/-- The findings are about assets of the missing rows, one each. -/
theorem findings_sublist (context : RemediationContext) (state : CatalogConsistencyState) :
    ((buildBrokenDbOriginalFindings context state).map (·.assetId)).Sublist
      (state.classified.dbMissingRows.map (·.assetId)) := by
  unfold buildBrokenDbOriginalFindings
  induction state.classified.dbMissingRows with
  | nil => exact List.Sublist.slnil
  | cons row rows ih =>
      cases hfinding : brokenDbOriginalFinding context state row with
      | none =>
          rw [List.filterMap_cons_none hfinding, List.map_cons]
          exact ih.cons _
      | some finding =>
          obtain ⟨uploadsRoot, asset, -, -, hid, rfl⟩ := brokenDbOriginalFinding_eq_some hfinding
          rw [List.filterMap_cons_some hfinding, List.map_cons, List.map_cons,
            findingOfAsset_assetId hid]
          exact ih.cons_cons _

end Findings

/-! ## The scan -/

/-- The assets of a scanned state are among those of the table, and one is missing once at
most. -/
theorem scanState_spec {environment : FixEnvironment} {assets : AssetTable}
    {state : CatalogConsistencyState} (h : scanState environment assets = some (some state)) :
    (∀ asset ∈ state.assetRows, asset ∈ assets.rows) ∧
      (state.classified.dbMissingRows.map (·.assetId)).Nodup := by
  unfold scanState at h
  split at h
  · cases h
  next synced snapshotState _ =>
  split at h
  · cases h
  split at h
  · cases h
  next collected found hcollect =>
  cases h
  cases hprepared : prepareSnapshotState environment.resolvePath environment.context.settings
      environment.rootTimes synced with
  | none =>
      simp only [collect, hprepared] at hcollect
      cases hcollect
  | some prepared =>
      obtain ⟨prepared, preparedState⟩ := prepared
      obtain ⟨hcontext, hrows, hclassified, -, -⟩ := collected_fields hprepared hcollect
      have hperm := List.perm_insertionSort (fun a b : AssetRow => a.id ≤ b.id) assets.rows
      constructor
      · intro asset hasset
        rw [hrows] at hasset
        exact hperm.mem_iff.mp (List.mem_of_mem_filter hasset)
      · have hids : (state.assetRows.map (·.id)).Nodup := by
          rw [hrows]
          exact (List.filter_sublist.map _).nodup ((hperm.map _).nodup_iff.mpr assets.unique)
        rw [hclassified, (classifyAssets_rounds _ _ _).dbMissing, ← hcontext]
        exact (List.filter_sublist.map _).nodup hids

/-- No two findings of a scan are about the same asset. -/
theorem scanned_ids_nodup {environment : FixEnvironment} {assets : AssetTable}
    {state : CatalogConsistencyState} (h : scanState environment assets = some (some state)) :
    ((buildBrokenDbOriginalFindings environment.context state).map (·.assetId)).Nodup := by
  exact (findings_sublist environment.context state).nodup (scanState_spec h).2

/-- An asset is relocated to one file at most. -/
theorem Relocates.unique {environment : FixEnvironment} {assets : AssetTable}
    {state : CatalogConsistencyState} {assetId : PyStr} {item other : SnapshotFileRow}
    (hstate : scanState environment assets = some (some state))
    (h : Relocates environment.context state assetId item)
    (hother : Relocates environment.context state assetId other) : item = other := by
  obtain ⟨⟨row, hrow, hid, asset, hasset, hitem, -⟩, -, -⟩ := h
  obtain ⟨⟨row', hrow', hid', asset', hasset', hitem', -⟩, -, -⟩ := hother
  have hrows : row = row' :=
    List.inj_on_of_nodup_map (scanState_spec hstate).2 hrow hrow' (hid.trans hid'.symm)
  cases hasset.symm.trans hasset'
  rw [← hrows, hitem] at hitem'
  exact Option.some.inj hitem'

/-! ## The updates -/

section Updates

variable {environment : FixEnvironment} {asset : AssetRow} {finding : BrokenDbOriginalFinding}
  {findings : List BrokenDbOriginalFinding}

/-- What the round of a finding writes. -/
def writtenPath (environment : FixEnvironment) (finding : BrokenDbOriginalFinding) :
    Option PyStr :=
  if environment.updates finding.assetId = .updateFails then none
  else truthyPath finding.foundAbsolutePath

/-- The row of an asset after the round of a finding. -/
def fixedRow (environment : FixEnvironment) (asset : AssetRow)
    (finding : BrokenDbOriginalFinding) : AssetRow :=
  match writtenPath environment finding with
  | none => asset
  | some path => if asset.id = finding.assetId then { asset with originalPath := some path }
      else asset

theorem fixedRow_of_ne (h : asset.id ≠ finding.assetId) :
    fixedRow environment asset finding = asset := by
  unfold fixedRow
  split
  · rfl
  · exact if_neg h

theorem fixedRow_of_none (h : writtenPath environment finding = none) :
    fixedRow environment asset finding = asset := by
  unfold fixedRow
  rw [h]

theorem fixedRow_of_some {path : PyStr} (h : writtenPath environment finding = some path)
    (hid : asset.id = finding.assetId) :
    fixedRow environment asset finding = { asset with originalPath := some path } := by
  unfold fixedRow
  rw [h]
  exact if_pos hid

theorem updateAssetOriginalPath_rows {assets updated : AssetTable} {assetId path : PyStr}
    (h : updateAssetOriginalPath assets assetId path = some updated) :
    updated.rows = assets.rows.map fun asset =>
      if asset.id = assetId then { asset with originalPath := some path } else asset := by
  unfold updateAssetOriginalPath at h
  split at h
  · cases h
    simp only [Table.rows_updateWhere, decide_eq_true_eq]
  · cases h

/-- A round rewrites the rows of its asset. -/
theorem applyFinding_rows (environment : FixEnvironment) (assets : AssetTable)
    (finding : BrokenDbOriginalFinding) :
    (applyFinding environment assets finding).1.rows =
      assets.rows.map fun asset => fixedRow environment asset finding := by
  have hkept : writtenPath environment finding = none →
      assets.rows = assets.rows.map fun asset => fixedRow environment asset finding := by
    intro hnone
    simp only [fixedRow_of_none hnone, List.map_id']
  unfold applyFinding
  cases hpath : truthyPath finding.foundAbsolutePath with
  | none =>
      apply hkept
      rw [writtenPath, hpath, ite_self]
  | some path =>
      by_cases hfails : environment.updates finding.assetId = .updateFails
      · simp only [if_pos hfails]
        apply hkept
        rw [writtenPath, if_pos hfails]
      · have hwritten : writtenPath environment finding = some path := by
          rw [writtenPath, if_neg hfails, hpath]
        simp only [if_neg hfails]
        cases hupdate : updateAssetOriginalPath assets finding.assetId path with
        | none =>
            have habsent : ∀ asset ∈ assets.rows, asset.id ≠ finding.assetId := by
              intro asset hasset hid
              unfold updateAssetOriginalPath at hupdate
              rw [if_pos (List.any_eq_true.mpr ⟨asset, hasset, decide_eq_true hid⟩)] at hupdate
              cases hupdate
            calc assets.rows = assets.rows.map fun asset => asset := (List.map_id' _).symm
              _ = assets.rows.map fun asset => fixedRow environment asset finding :=
                  List.map_congr_left fun asset hasset =>
                    (fixedRow_of_ne (habsent asset hasset)).symm
        | some updated =>
            have hrows : updated.rows =
                assets.rows.map fun asset => fixedRow environment asset finding := by
              rw [updateAssetOriginalPath_rows hupdate]
              apply List.map_congr_left
              intro asset _
              unfold fixedRow
              rw [hwritten]
            simp only
            split
            · exact hrows
            · exact hrows

theorem applyBrokenDbPathFix_rows (environment : FixEnvironment) (assets : AssetTable)
    (findings : List BrokenDbOriginalFinding) :
    (applyBrokenDbPathFix environment assets findings).1.rows =
      assets.rows.map fun asset => findings.foldl (fixedRow environment) asset := by
  induction findings generalizing assets with
  | nil => exact (List.map_id' _).symm
  | cons finding rest ih =>
      show (applyBrokenDbPathFix environment
        (applyFinding environment assets finding).1 rest).1.rows
        = _
      rw [ih, applyFinding_rows, List.map_map]
      rfl

theorem foldl_fixedRow_of_kept
    (h : ∀ finding ∈ findings, asset.id = finding.assetId →
      writtenPath environment finding = none) :
    findings.foldl (fixedRow environment) asset = asset := by
  induction findings with
  | nil => rfl
  | cons finding rest ih =>
      have hfirst : fixedRow environment asset finding = asset := by
        by_cases hid : asset.id = finding.assetId
        · exact fixedRow_of_none (h finding List.mem_cons_self hid)
        · exact fixedRow_of_ne hid
      rw [List.foldl_cons, hfirst]
      exact ih fun other hother => h other (List.mem_cons_of_mem _ hother)

/-- With one finding for each asset the row of an asset is that of its own round. -/
theorem foldl_fixedRow_of_mem {path : PyStr} (hnodup : (findings.map (·.assetId)).Nodup)
    (hmem : finding ∈ findings) (hid : asset.id = finding.assetId)
    (hwritten : writtenPath environment finding = some path) :
    findings.foldl (fixedRow environment) asset = { asset with originalPath := some path } := by
  induction findings generalizing asset with
  | nil => cases hmem
  | cons first rest ih =>
      obtain ⟨hfresh, hrest⟩ := List.nodup_cons.mp hnodup
      rw [List.foldl_cons]
      rcases List.mem_cons.mp hmem with rfl | hlater
      · rw [fixedRow_of_some hwritten hid]
        apply foldl_fixedRow_of_kept
        intro other hother hsame
        have hother : other.assetId ∈ rest.map (·.assetId) := List.mem_map_of_mem hother
        have hid' : asset.id = other.assetId := hsame
        rw [← hid', hid] at hother
        exact absurd hother hfresh
      · have hne : asset.id ≠ first.assetId := by
          intro hsame
          have hagain : finding.assetId ∈ rest.map (·.assetId) := List.mem_map_of_mem hlater
          rw [← hid, hsame] at hagain
          exact hfresh hagain
        rw [fixedRow_of_ne hne]
        exact ih hrest hlater hid

end Updates

/-! ## The path of a found file -/

/-- A path the scanner may record and that leads back to its file below the uploads. -/
structure PlainPath (settings : StorageSettings) (path : PyStr) : Prop where
  recorded : ∃ front last, (front ++ [last]).all validPart = true ∧
    path = PurePath.joined (front ++ [last])
  backslash : 92 ∉ path
  space : ∀ c ∈ path.getLast?, PyStr.isSpace c = false
  root : ∀ root, settings.immichUploadsPath = some root → root.anchor ≠ .relative ∧
    root.text ≠ [47, 92] ∧ ∀ other ∈ rootsBefore settings (rootMapping sourceRootSlug root),
      ¬ (joinRoot (rootMapping sourceRootSlug root).runtimePrefix path).Below other.runtimePrefix

section FoundPath

variable {settings : StorageSettings} {item : SnapshotFileRow} {uploadsRoot : PurePath}
  {front : List PyStr} {last : PyStr}

theorem uploads_mem_buildRoots (h : settings.immichUploadsPath = some uploadsRoot) :
    rootMapping sourceRootSlug uploadsRoot ∈ buildRoots settings := by
  refine List.mem_filterMap.mpr ⟨(py "uploads", settings.immichUploadsPath), ?_, by rw [h]; rfl⟩
  exact List.mem_cons_of_mem _ List.mem_cons_self

theorem slash_joined (hnames : (front ++ [last]).all validPart = true) :
    slash uploadsRoot (PurePath.joined (front ++ [last])) =
      uploadsRoot.joinParts (front ++ [last]) hnames := by
  obtain ⟨c, rest, hjoined, hc⟩ := exists_joined_eq_cons (by simp) hnames
  have hrelative : (PurePath.parse (PurePath.joined (front ++ [last]))).anchor = .relative := by
    rw [hjoined]
    simp [PurePath.parse, PurePath.splitRoot, hc]
  rw [slash, if_pos hrelative, joinRoot_joined hnames]

theorem absolutePathOf_uploads (hroot : settings.immichUploadsPath = some uploadsRoot)
    (hslug : item.rootSlug = sourceRootSlug) :
    absolutePathOf settings item = (slash uploadsRoot item.relativePath).text := by
  have hfor : rootPathFor settings sourceRootSlug = settings.immichUploadsPath := if_pos rfl
  rw [absolutePathOf, hslug, hfor, hroot, Option.getD_some]

/-- What is written for a found file with a plain path is its path as it is, and it is
resolved to the file. -/
theorem PlainPath.resolves (h : PlainPath settings item.relativePath)
    (hroot : settings.immichUploadsPath = some uploadsRoot)
    (hslug : item.rootSlug = sourceRootSlug) :
    truthyPath (some (absolutePathOf settings item)) = some (absolutePathOf settings item) ∧
      (resolve settings (absolutePathOf settings item)).map
          (fun resolved => (resolved.rootSlug, resolved.relativePath)) =
        some (item.rootSlug, item.relativePath) := by
  obtain ⟨front, last, hnames, hpath⟩ := h.recorded
  obtain ⟨habs, htext, hbefore⟩ := h.root uploadsRoot hroot
  have hlast : last ≠ [] := by
    rintro rfl
    simp [validPart] at hnames
  have hspace : ∀ c ∈ last.getLast?, PyStr.isSpace c = false := by
    have := h.space
    rwa [hpath, PurePath.getLast?_joined hlast] at this
  have habsolute : absolutePathOf settings item =
      (uploadsRoot.joinParts (front ++ [last]) hnames).text := by
    rw [absolutePathOf_uploads hroot hslug, hpath, slash_joined hnames]
  have hanchor : (uploadsRoot.joinParts (front ++ [last]) hnames).anchor ≠ .relative := habs
  have hparts : (uploadsRoot.joinParts (front ++ [last]) hnames).parts =
      (uploadsRoot.parts ++ front) ++ [last] := (List.append_assoc _ _ _).symm
  constructor
  · have hstrip : (absolutePathOf settings item).strip = absolutePathOf settings item := by
      rw [habsolute, strip_text hanchor]
      exact rstrip_text hanchor hparts hspace
    have hne : absolutePathOf settings item ≠ [] := by
      obtain ⟨head, hsplit, -⟩ := text_snoc hanchor hparts
      rw [habsolute, hsplit]
      simp
    unfold truthyPath
    rw [Option.getD_some, hstrip, if_neg hne]
  · have hround : RoundTrips settings (rootMapping sourceRootSlug uploadsRoot)
        (PurePath.joined (front ++ [last])) := by
      rw [roundTrips_joined_iff (uploads_mem_buildRoots hroot) habs hnames, ← hpath]
      exact ⟨h.backslash, h.space, htext, hbefore⟩
    rw [RoundTrips, joinRoot_joined hnames] at hround
    rw [habsolute, hslug, hpath]
    exact hround

end FoundPath

/-! ## Requests -/

/-- No two assets have the same original path. -/
def OriginalPathsUnique (assets : AssetTable) : Prop :=
  ∀ asset ∈ assets.rows, ∀ other ∈ assets.rows, asset.originalPath.isSome = true →
    asset.originalPath = other.originalPath → asset = other

/-- The apply of the run gives the asset the path of the file. -/
structure Assigned (environment : FixEnvironment) (record : RunRecord)
    (state : CatalogConsistencyState) (assetId : PyStr) (item : SnapshotFileRow) : Prop where
  selected : scopeSelectAll record.scope = true ∨ assetId ∈ scopeAssetIds record.scope
  relocated : Relocates environment.context state assetId item
  updated : environment.updates assetId ≠ .updateFails

/-- The files that are assigned are distinct, have plain paths, and are not the originals of
assets that keep theirs. -/
structure SafeAssignment (assets : AssetTable) (environment : FixEnvironment) (record : RunRecord)
    (state : CatalogConsistencyState) : Prop where
  distinct : ∀ {a b item other}, Assigned environment record state a item →
    Assigned environment record state b other → a ≠ b → item.relativePath ≠ other.relativePath
  fresh : ∀ {a item}, Assigned environment record state a item → ∀ asset ∈ assets.rows,
    (∀ other, ¬ Assigned environment record state asset.id other) →
      asset.originalPath ≠ some (absolutePathOf environment.context.settings item)
  plain : ∀ {a item}, Assigned environment record state a item →
    PlainPath environment.context.settings item.relativePath

/-- The assignment is safe, should the plan token let the apply go on. -/
def SafeRequest (s : FixState) : FixRequest → Prop
  | .preview .. => True
  | .apply environment repairRunId => ∀ record state, s.store.find? repairRunId = some record →
      scanState environment s.assets = some (some state) →
      applyAdmitted record environment
          (selectedFor record (buildBrokenDbOriginalFindings environment.context state)) = true →
        SafeAssignment s.assets environment record state

/-- Every asset whose path an apply has written has one that is resolved to the file its
finding names. -/
def FixesResolve (s t : FixState) (environment : FixEnvironment) (repairRunId : PyStr) : Prop :=
  ∀ record findings, s.store.find? repairRunId = some record →
    scanBrokenDbOriginals environment s.assets = some findings →
    applyAdmitted record environment (selectedFor record findings) = true →
    ∀ finding ∈ selectedFor record findings, environment.updates finding.assetId ≠ .updateFails →
      ∃ asset ∈ t.assets.rows, asset.id = finding.assetId ∧ ∃ path rootSlug relativePath,
        asset.originalPath = some path ∧ finding.foundRootSlug = some rootSlug ∧
          finding.foundRelativePath = some relativePath ∧
          (resolve environment.context.settings path).map
              (fun resolved => (resolved.rootSlug, resolved.relativePath)) =
            some (rootSlug, relativePath)

section Requests

variable {s t : FixState} {environment : FixEnvironment} {repairRunId : PyStr}
  {record : RunRecord} {state : CatalogConsistencyState}

theorem preview_assets {assetIds : List PyStr} {selectAll : Bool} {tokenId : PyStr}
    (h : s.step (.preview environment assetIds selectAll repairRunId tokenId) = some t) :
    t.assets = s.assets := by
  obtain ⟨findings, -, h⟩ := Option.bind_eq_some_iff.mp h
  obtain ⟨store, -, h⟩ := Option.bind_eq_some_iff.mp h
  cases h
  rfl

/-- An apply updates the assets of the findings it selects, if its token lets it. -/
theorem apply_assets (h : s.step (.apply environment repairRunId) = some t) :
    ∃ record findings, s.store.find? repairRunId = some record ∧
      scanBrokenDbOriginals environment s.assets = some findings ∧
      t.assets = if applyAdmitted record environment (selectedFor record findings) then
          (applyBrokenDbPathFix environment s.assets (selectedFor record findings)).1
        else s.assets := by
  obtain ⟨record, hrecord, h⟩ := Option.bind_eq_some_iff.mp h
  split at h
  · cases h
  obtain ⟨findings, hfindings, h⟩ := Option.bind_eq_some_iff.mp h
  obtain ⟨store, -, h⟩ := Option.bind_eq_some_iff.mp h
  cases h
  exact ⟨record, findings, hrecord, hfindings, apply_ite Prod.fst _ _ _⟩

/-- The selected findings are those of the assets the run selects. -/
theorem mem_selectedFor {findings : List BrokenDbOriginalFinding}
    {finding : BrokenDbOriginalFinding} :
    finding ∈ selectedFor record findings ↔
      finding ∈ findings ∧ finding.supportsAction .brokenDbPathFix = true ∧
        (scopeSelectAll record.scope = true ∨
          finding.assetId ∈ scopeAssetIds record.scope) := by
  simp [selectedFor, selectBrokenDbOriginals]

/-- A selected finding whose update succeeds assigns its asset the file it names. -/
theorem exists_assigned {finding : BrokenDbOriginalFinding}
    (h : finding ∈ selectedFor record (buildBrokenDbOriginalFindings environment.context state))
    (hupdate : environment.updates finding.assetId ≠ .updateFails) :
    ∃ item, Assigned environment record state finding.assetId item ∧
      Names environment.context.settings finding item := by
  obtain ⟨hmem, haction, hselected⟩ := mem_selectedFor.mp h
  obtain ⟨item, hrelocated, hnames⟩ := exists_relocates hmem haction
  exact ⟨item, ⟨hselected, hrelocated, hupdate⟩, hnames⟩

theorem Assigned.exists_finding {assetId : PyStr} {item : SnapshotFileRow}
    (h : Assigned environment record state assetId item) :
    ∃ finding ∈ selectedFor record (buildBrokenDbOriginalFindings environment.context state),
      finding.assetId = assetId ∧ Names environment.context.settings finding item := by
  obtain ⟨finding, hmem, rfl, haction, hnames⟩ := h.relocated.exists_finding
  exact ⟨finding, mem_selectedFor.mpr ⟨hmem, haction, h.selected⟩, rfl, hnames⟩

/-- A safe assignment writes the path of the file as it is, and that path leads to it. -/
theorem SafeAssignment.resolves {assets : AssetTable} {assetId : PyStr} {item : SnapshotFileRow}
    (hsafe : SafeAssignment assets environment record state)
    (h : Assigned environment record state assetId item) :
    truthyPath (some (absolutePathOf environment.context.settings item)) =
        some (absolutePathOf environment.context.settings item) ∧
      (resolve environment.context.settings
          (absolutePathOf environment.context.settings item)).map
            (fun resolved => (resolved.rootSlug, resolved.relativePath)) =
        some (item.rootSlug, item.relativePath) := by
  obtain ⟨uploadsRoot, hroot⟩ := Option.isSome_iff_exists.mp h.relocated.configured
  exact (hsafe.plain h).resolves hroot h.relocated.root

/-- The row of an asset after a safe apply: that of an asset which keeps its path, or one
with the path of the file it is assigned. -/
inductive RowAfter (environment : FixEnvironment) (record : RunRecord)
    (state : CatalogConsistencyState) (before after : AssetRow) : Prop
  | kept (hnone : ∀ item, ¬ Assigned environment record state before.id item)
      (heq : after = before)
  | fixed (item : SnapshotFileRow) (hitem : Assigned environment record state before.id item)
      (heq : after = { before with
        originalPath := some (absolutePathOf environment.context.settings item) })

theorem rowAfter_foldl {assets : AssetTable}
    (hstate : scanState environment assets = some (some state))
    (hsafe : SafeAssignment assets environment record state) (asset : AssetRow) :
    RowAfter environment record state asset
      ((selectedFor record (buildBrokenDbOriginalFindings environment.context state)).foldl
        (fixedRow environment) asset) := by
  have hwritten : ∀ {finding item}, Assigned environment record state finding.assetId item →
      Names environment.context.settings finding item → writtenPath environment finding =
        some (absolutePathOf environment.context.settings item) := by
    intro finding item hassigned hnames
    rw [writtenPath, if_neg hassigned.updated, hnames.absolutePath]
    exact (hsafe.resolves hassigned).1
  by_cases h : ∃ item, Assigned environment record state asset.id item
  · obtain ⟨item, hassigned⟩ := h
    obtain ⟨finding, hmem, hid, hnames⟩ := hassigned.exists_finding
    have hnodup : ((selectedFor record
        (buildBrokenDbOriginalFindings environment.context state)).map (·.assetId)).Nodup :=
      (List.filter_sublist.map _).nodup (scanned_ids_nodup hstate)
    rw [foldl_fixedRow_of_mem hnodup hmem hid.symm (hwritten (hid ▸ hassigned) hnames)]
    exact .fixed item hassigned rfl
  · have hnone : ∀ item, ¬ Assigned environment record state asset.id item :=
      fun item hitem => h ⟨item, hitem⟩
    refine .kept hnone (foldl_fixedRow_of_kept fun finding hmem hid => ?_)
    by_cases hupdate : environment.updates finding.assetId = .updateFails
    · rw [writtenPath, if_pos hupdate]
    · obtain ⟨item, hassigned, -⟩ := exists_assigned hmem hupdate
      exact absurd (hid ▸ hassigned) (hnone item)

/-- The original paths are unique after a safe apply if they were before. -/
theorem OriginalPathsUnique.of_rowAfter {assets updated : AssetTable} {f : AssetRow → AssetRow}
    (hunique : OriginalPathsUnique assets)
    (hsafe : SafeAssignment assets environment record state)
    (hrows : updated.rows = assets.rows.map f)
    (hafter : ∀ asset, RowAfter environment record state asset (f asset)) :
    OriginalPathsUnique updated := by
  unfold OriginalPathsUnique
  rw [hrows]
  intro asset hasset other hother hsome hsame
  obtain ⟨before, hbefore, rfl⟩ := List.mem_map.mp hasset
  obtain ⟨before', hbefore', rfl⟩ := List.mem_map.mp hother
  rcases hafter before with ⟨hnone, heq⟩ | ⟨item, hitem, heq⟩
  · rcases hafter before' with ⟨-, heq'⟩ | ⟨item', hitem', heq'⟩
    · rw [heq, heq'] at hsame ⊢
      rw [heq] at hsome
      exact hunique before hbefore before' hbefore' hsome hsame
    · rw [heq, heq'] at hsame
      exact absurd hsame (hsafe.fresh hitem' before hbefore hnone)
  · rcases hafter before' with ⟨hnone', heq'⟩ | ⟨item', hitem', heq'⟩
    · rw [heq, heq'] at hsame
      exact absurd hsame.symm (hsafe.fresh hitem before' hbefore' hnone')
    · by_cases hid : before.id = before'.id
      · rw [assets.eq_of_key_eq hbefore hbefore' hid]
      · rw [heq, heq'] at hsame
        have hpath : absolutePathOf environment.context.settings item =
            absolutePathOf environment.context.settings item' := Option.some.inj hsame
        have hresolved := (hsafe.resolves hitem).2
        rw [hpath, (hsafe.resolves hitem').2] at hresolved
        have hrelative := (Prod.mk.inj (Option.some.inj hresolved)).2
        exact absurd hrelative.symm (hsafe.distinct hitem hitem' hid)

/-- What a scan finds is built from its state, if there is one. -/
theorem scanBrokenDbOriginals_cases {assets : AssetTable}
    {findings : List BrokenDbOriginalFinding}
    (h : scanBrokenDbOriginals environment assets = some findings) :
    findings = [] ∨ ∃ state, scanState environment assets = some (some state) ∧
      findings = buildBrokenDbOriginalFindings environment.context state := by
  obtain ⟨state?, hstate, rfl⟩ := Option.map_eq_some_iff.mp h
  cases state? with
  | none => exact .inl rfl
  | some state => exact .inr ⟨state, hstate, rfl⟩

/-- A safe request keeps the original paths unique. -/
theorem OriginalPathsUnique.step {request : FixRequest} (hunique : OriginalPathsUnique s.assets)
    (hsafe : SafeRequest s request) (hstep : s.step request = some t) :
    OriginalPathsUnique t.assets := by
  cases request with
  | preview environment assetIds selectAll repairRunId tokenId =>
      rw [preview_assets hstep]
      exact hunique
  | apply environment repairRunId =>
      obtain ⟨record, findings, hrecord, hfindings, hassets⟩ := apply_assets hstep
      rw [hassets]
      by_cases hadmitted : applyAdmitted record environment (selectedFor record findings) = true
      · rw [if_pos hadmitted]
        rcases scanBrokenDbOriginals_cases hfindings with rfl | ⟨state, hstate, rfl⟩
        · exact hunique
        · have hassignment := hsafe record state hrecord hstate hadmitted
          exact hunique.of_rowAfter hassignment (applyBrokenDbPathFix_rows environment s.assets _)
            (rowAfter_foldl hstate hassignment)
      · rw [if_neg hadmitted]
        exact hunique

/-- A safe apply gives each asset it fixes a path that leads to the file it was found in. -/
theorem fixesResolve_of_safe (hsafe : SafeRequest s (.apply environment repairRunId))
    (hstep : s.step (.apply environment repairRunId) = some t) :
    FixesResolve s t environment repairRunId := by
  intro record findings hrecord hfindings hadmitted finding hmem hupdate
  obtain ⟨record', findings', hrecord', hfindings', hassets⟩ := apply_assets hstep
  cases hrecord.symm.trans hrecord'
  cases hfindings.symm.trans hfindings'
  rw [if_pos hadmitted] at hassets
  rcases scanBrokenDbOriginals_cases hfindings with rfl | ⟨state, hstate, rfl⟩
  · cases hmem
  · have hassignment := hsafe record state hrecord hstate hadmitted
    obtain ⟨item, hassigned, hnames⟩ := exists_assigned hmem hupdate
    obtain ⟨asset, hasset, hid⟩ : ∃ asset ∈ s.assets.rows, asset.id = finding.assetId := by
      obtain ⟨⟨row, -, -, asset, hfind, -⟩, -, -⟩ := hassigned.relocated
      have hfound := List.find?_some hfind
      exact ⟨asset, (scanState_spec hstate).1 asset (List.mem_of_find?_eq_some hfind),
        by simpa using hfound⟩
    refine ⟨(selectedFor record (buildBrokenDbOriginalFindings environment.context state)).foldl
      (fixedRow environment) asset, ?_, ?_⟩
    · rw [hassets, applyBrokenDbPathFix_rows]
      exact List.mem_map_of_mem hasset
    · cases rowAfter_foldl hstate hassignment asset with
      | kept hnone _ => exact absurd (hid.symm ▸ hassigned) (hnone item)
      | fixed other hother heq =>
          have hsame : other = item := hother.relocated.unique hstate (hid ▸ hassigned.relocated)
          rw [heq, hsame]
          exact ⟨hid, _, item.rootSlug, item.relativePath, rfl, hnames.rootSlug,
            hnames.relativePath, (hassignment.resolves hassigned).2⟩

/-- In every run of safe requests the original paths stay unique, and each apply gives the
assets it fixes paths that lead to the files that were found. -/
theorem original_paths_stay_unique {start : FixState} {requests : List FixRequest}
    (hunique : OriginalPathsUnique start.assets)
    (hrun : Steps FixState.step SafeRequest start requests s) :
    OriginalPathsUnique s.assets ∧ ∀ environment repairRunId t,
      SafeRequest s (.apply environment repairRunId) →
        s.step (.apply environment repairRunId) = some t →
          FixesResolve s t environment repairRunId := by
  constructor
  · exact hrun.invariant (P := fun s => OriginalPathsUnique s.assets)
      (fun _ _ _ hsafe hstep hbefore => hbefore.step hsafe hstep) hunique
  · intro environment repairRunId t hsafe hstep
    exact fixesResolve_of_safe hsafe hstep

end Requests

/-! ## Two missing originals and one file -/

/-- An asset whose original `a.jpg` is missing; the digits of its checksum are all `a`. -/
def missingAsset (id folder : PyStr) : AssetRow :=
  { uploadedAsset with
    id := id
    originalPath := some (py "/uploads/" ++ folder ++ py "/a.jpg")
    ownerId := some folder
    checksum := some (.text (List.replicate 40 97)) }

/-- The scanned uploads hold `a.jpg` alone, with that checksum. -/
def oneFileEnvironment : FixEnvironment where
  context := ⟨uploadsOnly, ⟨id, id⟩,
    ⟨fun _ => .ok true, fun _ _ => some (List.replicate 20 170)⟩, none⟩
  resolvePath := id
  rootTimes := fun _ => 30
  catalog := (scannedWithFileModifiedAt 9).db
  configured := true
  reachable := true
  assetFiles := []
  digest := id
  now := 100
  updates := fun _ => .done
  entryIds := id

/-- A preview of everything and its apply. -/
def fixEverything : List FixRequest :=
  [.preview oneFileEnvironment [] true (py "run") (py "token"),
    .apply oneFileEnvironment (py "run")]

/-- Another missing original, of which the uploads hold no file. -/
def lostOriginal : AssetRow :=
  { missingAsset (py "b") (py "2") with
    originalFileName := some (py "b.jpg")
    originalPath := some (py "/uploads/2/b.jpg") }

def oneRelocated : FixState :=
  ⟨⟨[missingAsset (py "a") (py "1"), lostOriginal], by decide⟩, .empty⟩

def twoMissing : FixState :=
  ⟨⟨[missingAsset (py "a") (py "1"), missingAsset (py "b") (py "2")], by decide⟩, .empty⟩

/-- What a request on these two assets assigns. -/
theorem assigned_oneRelocated {record : RunRecord} {state : CatalogConsistencyState}
    {assetId : PyStr} {item : SnapshotFileRow}
    (hstate : scanState oneFileEnvironment oneRelocated.assets = some (some state))
    (h : Assigned oneFileEnvironment record state assetId item) :
    assetId = py "a" ∧ item.relativePath = py "a.jpg" := by
  have hscanned : (scanState oneFileEnvironment oneRelocated.assets).map
      (Option.map fun state =>
        ((state.classified.dbMissingRows.filter fun row =>
          (state.assetRows.find? fun other => other.id = row.assetId).any fun asset =>
            (state.latestFiles.find? fun item => IsCandidate asset row item).isSome).map
              (·.assetId), state.latestFiles.map (·.relativePath))) =
        some (some ([py "a"], [py "a.jpg"])) := by decide +kernel
  rw [hstate] at hscanned
  obtain ⟨hrows, hfiles⟩ := Prod.mk.inj (Option.some.inj (Option.some.inj hscanned))
  obtain ⟨⟨row, hrow, rfl, asset, hasset, hitem, -⟩, -, -⟩ := h.relocated
  have hcandidate : ((state.assetRows.find? fun other => other.id = row.assetId).any fun asset =>
      (state.latestFiles.find? fun item => IsCandidate asset row item).isSome) = true := by
    rw [hasset, Option.any_some, hitem]
    rfl
  have hid : row.assetId ∈ [py "a"] :=
    hrows ▸ List.mem_map_of_mem (List.mem_filter.mpr ⟨hrow, hcandidate⟩)
  have hpath : item.relativePath ∈ [py "a.jpg"] :=
    hfiles ▸ List.mem_map_of_mem (List.mem_of_find?_eq_some hitem)
  exact ⟨List.mem_singleton.mp hid, List.mem_singleton.mp hpath⟩

theorem safeAssignment_oneRelocated {record : RunRecord} {state : CatalogConsistencyState}
    (hstate : scanState oneFileEnvironment oneRelocated.assets = some (some state)) :
    SafeAssignment oneRelocated.assets oneFileEnvironment record state where
  distinct h hother hne := by
    rw [(assigned_oneRelocated hstate h).1, (assigned_oneRelocated hstate hother).1] at hne
    exact absurd rfl hne
  fresh h asset hasset hnone := by
    obtain ⟨hid, hpath⟩ := assigned_oneRelocated hstate h
    have hroot := h.relocated.root
    rw [hid] at h
    rcases List.mem_pair.mp hasset with rfl | rfl
    · exact absurd h (hnone _)
    · rw [absolutePathOf, hroot, hpath]
      decide
  plain h := by
    rw [(assigned_oneRelocated hstate h).2]
    refine ⟨⟨[], py "a.jpg", by decide, by decide⟩, by decide, by decide, ?_⟩
    intro root hroot
    cases hroot
    refine ⟨by decide, by decide, ?_⟩
    have hfirst : rootsBefore uploadsOnly (rootMapping sourceRootSlug (.parse (py "/uploads"))) =
        [] := rfl
    rw [show oneFileEnvironment.context.settings = uploadsOnly from rfl, hfirst]
    exact List.forall_mem_nil _

/-- One missing original is fixed, and the other asset keeps its path. -/
theorem original_paths_stay_unique_fixed :
    ∃ s, Steps FixState.step SafeRequest oneRelocated fixEverything s ∧
      s.assets.rows.map (·.originalPath) =
        [some (py "/uploads/a.jpg"), some (py "/uploads/2/b.jpg")] ∧
      OriginalPathsUnique s.assets := by
  have hunique : OriginalPathsUnique oneRelocated.assets := by
    unfold OriginalPathsUnique
    decide
  have hpaths : (exec FixState.step oneRelocated fixEverything).map
      (fun s => s.assets.rows.map (·.originalPath)) =
        some [some (py "/uploads/a.jpg"), some (py "/uploads/2/b.jpg")] := by
    decide +kernel
  obtain ⟨s, hexec, hfixed⟩ := Option.map_eq_some_iff.mp hpaths
  obtain ⟨planned, hplanned, hrest⟩ := Option.bind_eq_some_iff.mp hexec
  obtain ⟨final, happly, hend⟩ := Option.bind_eq_some_iff.mp hrest
  cases hend
  have hpreview : SafeRequest oneRelocated
      (.preview oneFileEnvironment [] true (py "run") (py "token")) := trivial
  have hsafe : SafeRequest planned (.apply oneFileEnvironment (py "run")) := by
    intro record state _ hstate _
    rw [preview_assets hplanned] at hstate ⊢
    exact safeAssignment_oneRelocated hstate
  have hrun := Steps.head hpreview hplanned (Steps.head hsafe happly (Steps.refl _))
  exact ⟨_, hrun, hfixed, (original_paths_stay_unique hunique hrun).1⟩

/-- Two assets with the same missing original are given the same file. -/
theorem same_file_assigned_twice :
    ¬ ∀ (start s : FixState) (requests : List FixRequest), OriginalPathsUnique start.assets →
      Steps FixState.step (fun _ _ => True) start requests s → OriginalPathsUnique s.assets := by
  intro h
  have hstart : OriginalPathsUnique twoMissing.assets := by
    unfold OriginalPathsUnique
    decide
  have hpaths : (exec FixState.step twoMissing fixEverything).map
      (fun s => s.assets.rows.map fun asset => (asset.id, asset.originalPath)) =
        some [(py "a", some (py "/uploads/a.jpg")), (py "b", some (py "/uploads/a.jpg"))] := by
    decide +kernel
  obtain ⟨s, hexec, hfixed⟩ := Option.map_eq_some_iff.mp hpaths
  have hend := h _ _ _ hstart (Steps.of_exec (fun _ _ _ => trivial) hexec)
  obtain ⟨first, hfirst, hfirstPath⟩ := List.mem_map.mp (hfixed ▸ List.mem_cons_self)
  obtain ⟨second, hsecond, hsecondPath⟩ := List.mem_map.mp
    (hfixed ▸ List.mem_cons_of_mem _ List.mem_cons_self)
  obtain ⟨hfirstId, hfirstPath⟩ := Prod.mk.inj hfirstPath
  obtain ⟨hsecondId, hsecondPath⟩ := Prod.mk.inj hsecondPath
  have hsame := hend first hfirst second hsecond (by rw [hfirstPath]; rfl)
    (hfirstPath.trans hsecondPath.symm)
  rw [hsame, hsecondId] at hfirstId
  revert hfirstId
  decide

end ImmichDoctor.Catalog
