import ImmichDoctor.Catalog.Proofs.AssetClasses
import ImmichDoctor.Catalog.Proofs.FindingPayloads
import ImmichDoctor.Catalog.RemediationApply
/-!
# The texts of remediation findings

What the databases hold, and what is decoded of paths, errors and the output of tools, has
no high surrogate, and so no text of a finding has one.
-/

namespace ImmichDoctor.Catalog

open ImmichDoctor.Library
open ImmichDoctor.Library.Json
open ImmichDoctor.Db
open ImmichDoctor.Storage
open ImmichDoctor.Consistency (ReadablePath ReadableRoots readablePath_parse readable_text
  readable_strip readable_forwardSlashes readable_relativeTo readablePath_joinRoot)

/-! ## Texts -/

section Texts

variable {text : PyStr} {value : Option PyStr}

theorem readable_truthyPath (h : ∀ text ∈ value, Readable text) :
    ∀ text ∈ truthyPath value, Readable text := by
  intro text htext
  unfold truthyPath at htext
  simp only at htext
  split at htext
  · cases htext
  · cases htext
    apply readable_strip
    cases value with
    | none => exact readable_nil
    | some text => exact h text rfl

theorem readable_textOrNone (h : Readable text) : ∀ other ∈ textOrNone text, Readable other := by
  intro other hother
  unfold textOrNone at hother
  split at hother
  · cases hother
  · cases hother
    exact h

theorem readable_getD (h : ∀ text ∈ value, Readable text) : Readable (value.getD []) := by
  cases value with
  | none => exact readable_nil
  | some text => exact h text rfl

theorem readable_ownerLabelFromRelativePath (h : Readable text) :
    ∀ label ∈ ownerLabelFromRelativePath text, Readable label := by
  intro label hlabel
  unfold ownerLabelFromRelativePath at hlabel
  simp only at hlabel
  split at hlabel
  · cases hlabel
  · split at hlabel
    · cases hlabel
    · cases hlabel
      apply readable_strip
      apply (readable_forwardSlashes h).of_subset
      intro c hc
      have hstripped := (List.takeWhile_sublist _).subset hc
      have hreversed := (List.dropWhile_sublist _).subset (List.mem_reverse.mp hstripped)
      exact (List.dropWhile_sublist _).subset (List.mem_reverse.mp hreversed)

end Texts

/-! ## Paths -/

section Paths

variable {settings : StorageSettings} {text : PyStr} {root : PurePath}

theorem readablePath_slash (hroot : ReadablePath root) (h : Readable text) :
    ReadablePath (slash root text) := by
  unfold slash
  split
  · exact readablePath_joinRoot hroot h
  · exact readablePath_parse h

theorem readable_resolve {resolved : ResolvedStoragePath} (h : Readable text)
    (hresolve : resolve settings text = some resolved) : Readable resolved.relativePath := by
  obtain ⟨path, hpath, hfound⟩ := Option.bind_eq_some_iff.mp hresolve
  have hreadable : ReadablePath path := by
    unfold Storage.normalize at hpath
    simp only at hpath
    split at hpath
    · cases hpath
    · cases hpath
      exact readablePath_parse (readable_forwardSlashes (readable_strip h))
  have hmapped : ∀ (base : PurePath) (root : RootMapping) (mode : MappingMode),
      (relativeTo path base).map (root.resolved mode) = some resolved →
        Readable resolved.relativePath := by
    intro base root mode hsome
    obtain ⟨relative, hrelative, rfl⟩ := Option.map_eq_some_iff.mp hsome
    exact readable_relativeTo hreadable hrelative
  cases hruntime : (buildRoots settings).findSome? (RootMapping.resolveRuntime path) with
  | some first =>
      rw [hruntime] at hfound
      cases hfound
      obtain ⟨root, -, hsome⟩ := List.exists_of_findSome?_eq_some hruntime
      exact hmapped _ root _ hsome
  | none =>
      rw [hruntime] at hfound
      obtain ⟨root, -, hlegacy⟩ := List.exists_of_findSome?_eq_some hfound
      obtain ⟨base, -, hsome⟩ := Option.bind_eq_some_iff.mp hlegacy
      exact hmapped base root _ hsome

theorem readablePath_rootPathFor (rootSlug : PyStr) (h : ReadableRoots settings)
    (hroot : rootPathFor settings rootSlug = some root) : ReadablePath root := by
  have hbuilt : ∀ slug (path : Option PurePath), (slug, path) ∈
      [(py "library", settings.immichLibraryRoot), (py "uploads", settings.immichUploadsPath),
        (py "thumbs", settings.immichThumbsPath), (py "profile", settings.immichProfilePath),
        (py "video", settings.immichVideoPath)] → path = some root → ReadablePath root := by
    intro slug path hmem hpath
    refine h (rootMapping slug root) (List.mem_filterMap.mpr ⟨(slug, path), hmem, ?_⟩)
    rw [hpath]
    rfl
  unfold rootPathFor at hroot
  split at hroot
  · exact hbuilt (py "uploads") _ (by simp) hroot
  · split at hroot
    · exact hbuilt (py "thumbs") _ (by simp) hroot
    · split at hroot
      · exact hbuilt (py "profile") _ (by simp) hroot
      · split at hroot
        · exact hbuilt (py "video") _ (by simp) hroot
        · split at hroot
          · exact hbuilt (py "library") _ (by simp) hroot
          · cases hroot

end Paths

/-! ## Rows -/

/-- The texts of an asset that a finding may show. -/
structure AssetRow.Readable (asset : AssetRow) : Prop where
  id : Json.Readable asset.id
  type : ∀ text ∈ asset.type, Json.Readable text
  originalFileName : ∀ text ∈ asset.originalFileName, Json.Readable text
  originalPath : ∀ text ∈ asset.originalPath, Json.Readable text
  ownerId : ∀ text ∈ asset.ownerId, Json.Readable text
  checksum : ∀ value ∈ asset.checksum, Json.Readable value.str
  originalChecksum : ∀ value ∈ asset.originalChecksum, Json.Readable value.str
  checksumAlgorithm : ∀ text ∈ asset.checksumAlgorithm, Json.Readable text

structure UserRow.Readable (row : UserRow) : Prop where
  id : ∀ text ∈ row.id, Json.Readable text
  name : ∀ text ∈ row.name, Json.Readable text
  storageLabel : ∀ text ∈ row.storageLabel, Json.Readable text
  email : ∀ text ∈ row.email, Json.Readable text
  firstName : ∀ text ∈ row.firstName, Json.Readable text
  lastName : ∀ text ∈ row.lastName, Json.Readable text

structure SnapshotFileRow.Readable (row : SnapshotFileRow) : Prop where
  rootSlug : Json.Readable row.rootSlug
  relativePath : Json.Readable row.relativePath
  fileName : Json.Readable row.fileName

theorem readable_displayNameForUser {row : UserRow} (h : row.Readable) :
    Readable (displayNameForUser row) := by
  have hname := readable_truthyPath h.name
  have hlabel := readable_truthyPath h.storageLabel
  have hemail := readable_truthyPath h.email
  have hfirst := readable_truthyPath h.firstName
  have hlast := readable_truthyPath h.lastName
  have hshown : ∀ value,
      (truthyPath row.name <|> truthyPath row.storageLabel <|> truthyPath row.email) = some value →
        Readable value := by
    intro value hvalue
    cases hfound : truthyPath row.name with
    | some name =>
        rw [hfound] at hvalue
        cases hvalue
        exact hname value hfound
    | none =>
        rw [hfound] at hvalue
        cases hlabelled : truthyPath row.storageLabel with
        | some label =>
            rw [hlabelled] at hvalue
            cases hvalue
            exact hlabel value hlabelled
        | none =>
            rw [hlabelled] at hvalue
            exact hemail value hvalue
  unfold displayNameForUser
  split
  · next value hvalue => exact hshown value hvalue
  · split
    · next first last hfirstName hlastName =>
        exact readable_append.mpr ⟨readable_append.mpr ⟨hfirst first hfirstName, readable_py _⟩,
          hlast last hlastName⟩
    · next name hfirstName hlastName => exact hfirst name hfirstName
    · next name hfirstName hlastName => exact hlast name hlastName
    · split
      · exact readable_py _
      · exact readable_getD h.id

theorem readable_ownerLabels {users : Option (List UserRow)}
    (h : ∀ rows ∈ users, ∀ row ∈ rows, row.Readable) :
    ∀ entry ∈ ownerLabels users, Readable entry.2 := by
  intro entry hentry
  obtain ⟨row, hrow, hlabel⟩ := List.mem_filterMap.mp (List.mem_reverse.mp hentry)
  obtain ⟨id, -, rfl⟩ := Option.map_eq_some_iff.mp hlabel
  cases users with
  | none => cases hrow
  | some rows => exact readable_displayNameForUser (h rows rfl row hrow)

theorem readable_resolveOwnerLabel {ownerId : Option PyStr} {relativePath : PyStr}
    {labels : List (PyStr × PyStr)} (hpath : Readable relativePath)
    (h : ∀ entry ∈ labels, Readable entry.2) :
    ∀ label ∈ resolveOwnerLabel ownerId relativePath labels, Readable label := by
  intro label hlabel
  unfold resolveOwnerLabel at hlabel
  split at hlabel
  · next found hfound =>
      cases hlabel
      obtain ⟨id, -, hlookup⟩ := Option.bind_eq_some_iff.mp hfound
      obtain ⟨before, after, hsplit, -⟩ := List.lookup_eq_some_iff.mp hlookup
      apply h (id, label)
      rw [hsplit]
      exact List.mem_append_right _ List.mem_cons_self
  · split at hlabel
    · cases hlabel
    · exact readable_ownerLabelFromRelativePath hpath label hlabel

/-! ## Findings of a state -/

/-- What the findings of a state are made of. -/
structure RemediationContext.Readable (context : RemediationContext) : Prop where
  roots : ReadableRoots context.settings
  lower : ∀ text, Json.Readable text → Json.Readable (context.text.lower text)
  errors : ∀ path error, context.reads.pathExists path = .error error → Json.Readable error
  users : ∀ rows ∈ context.users, ∀ row ∈ rows, row.Readable

structure CatalogConsistencyState.Readable (state : CatalogConsistencyState) : Prop where
  assets : ∀ asset ∈ state.assetRows, asset.Readable
  latestFiles : ∀ row ∈ state.latestFiles, row.Readable
  zeroByteRows : ∀ row ∈ state.zeroByteRows, row.Readable
  missing : ∀ row ∈ state.classified.dbMissingRows, Json.Readable row.assetId ∧
    Json.Readable row.databasePath ∧ Json.Readable row.relativePath
  originals : ∀ entry ∈ state.classified.originalByAsset, Json.Readable entry.2

section Findings

variable {context : RemediationContext} {state : CatalogConsistencyState}

theorem readable_assetOwnerId {rows : List AssetRow} (h : ∀ asset ∈ rows, asset.Readable)
    (assetId : PyStr) : ∀ text ∈ assetOwnerId rows assetId, Readable text := by
  intro text htext
  obtain ⟨asset, hfound, howner⟩ := Option.bind_eq_some_iff.mp htext
  have hmem := List.mem_reverse.mp (List.mem_of_find?_eq_some hfound)
  exact readable_truthyPath (h asset hmem).ownerId text howner

theorem readable_assetChecksumValue {asset : AssetRow} (h : asset.Readable) :
    ∀ text ∈ assetChecksumValue asset, Readable text := by
  intro text htext
  unfold assetChecksumValue at htext
  have hvalue : ∀ column : Option ChecksumValue, (∀ value ∈ column, Readable value.str) →
      ∀ shown ∈ truthyPath (column.map ChecksumValue.str), Readable shown := by
    intro column hcolumn
    refine readable_truthyPath fun shown hshown => ?_
    obtain ⟨value, hmem, rfl⟩ := Option.map_eq_some_iff.mp hshown
    exact hcolumn value hmem
  cases hfound : truthyPath (asset.checksum.map ChecksumValue.str) with
  | some value =>
      rw [hfound] at htext
      cases htext
      exact hvalue asset.checksum h.checksum text hfound
  | none =>
      rw [hfound] at htext
      exact hvalue asset.originalChecksum h.originalChecksum text htext

theorem readable_assetChecksumAlgorithm {text : CaseMapping} {asset : AssetRow}
    (hlower : ∀ other, Readable other → Readable (text.lower other)) (h : asset.Readable) :
    ∀ algorithm ∈ assetChecksumAlgorithm text asset, Readable algorithm := by
  intro algorithm halgorithm
  unfold assetChecksumAlgorithm at halgorithm
  split at halgorithm
  · next explicit hexplicit =>
      cases halgorithm
      exact hlower explicit (readable_truthyPath h.checksumAlgorithm explicit hexplicit)
  · obtain ⟨value, -, hvalue⟩ := Option.bind_eq_some_iff.mp halgorithm
    simp only at hvalue
    split at hvalue
    · cases hvalue
      exact readable_py _
    · split at hvalue
      · cases hvalue
        exact readable_py _
      · cases hvalue

theorem readable_absolutePathOf {settings : StorageSettings} {item : SnapshotFileRow}
    (hroots : ReadableRoots settings) (h : item.Readable) :
    Readable (absolutePathOf settings item) := by
  refine readable_text (readablePath_slash ?_ h.relativePath)
  cases hroot : rootPathFor settings item.rootSlug with
  | none => exact readablePath_parse h.rootSlug
  | some root => exact readablePath_rootPathFor _ hroots hroot

/-- An error of the comparison of checksums is one of `path_exists`. -/
theorem readable_checksumMatch_error {asset : AssetRow} {absolutePath error : PyStr}
    (h : context.Readable) (herror : checksumMatch context asset absolutePath = .error error) :
    Readable error := by
  unfold checksumMatch at herror
  split at herror
  · split at herror
    · cases herror
    · unfold verifyFileChecksum at herror
      cases hexists : context.reads.pathExists (.parse absolutePath) with
      | error found =>
          rw [hexists] at herror
          cases herror
          exact h.errors _ _ hexists
      | ok there =>
          rw [hexists] at herror
          cases there <;> cases herror
  · cases herror

section Asset

variable {uploadsRoot : PurePath} {asset : AssetRow} {row : DbMissingRow}

theorem readable_searchErrorFinding (hcontext : context.Readable) (hstate : state.Readable)
    (hroot : ReadablePath uploadsRoot) (hasset : asset.Readable)
    (hrow : row ∈ state.classified.dbMissingRows) {searchError : PyStr}
    (herror : Readable searchError) :
    (searchErrorFinding context state uploadsRoot asset row searchError).Readable := by
  obtain ⟨hid, hdatabase, hrelative⟩ := hstate.missing row hrow
  constructor
  · exact readable_append.mpr ⟨readable_py _, hid⟩
  · exact hid
  · exact readable_textOrNone (readable_strip (readable_getD hasset.originalFileName))
  · exact readable_textOrNone (readable_getD hasset.type)
  · exact hdatabase
  · exact hrelative
  · rintro _ ⟨⟩
    exact readable_text (readablePath_slash hroot hrelative)
  · nofun
  · nofun
  · nofun
  · exact readable_assetChecksumValue hasset
  · exact readable_assetChecksumAlgorithm hcontext.lower hasset
  · exact readable_assetOwnerId hstate.assets row.assetId
  · exact readable_resolveOwnerLabel hrelative (readable_ownerLabels hcontext.users)
  · exact readable_py _
  · rintro _ ⟨⟩
    exact herror
  · exact readable_py _

theorem readable_locatedFinding {item : SnapshotFileRow} {matched : Option Bool}
    (hcontext : context.Readable) (hstate : state.Readable) (hroot : ReadablePath uploadsRoot)
    (hasset : asset.Readable) (hrow : row ∈ state.classified.dbMissingRows)
    (hitem : item.Readable) :
    (locatedFinding context state uploadsRoot asset row (locatedFile context.settings item)
      matched).Readable := by
  have hbase := readable_searchErrorFinding hcontext hstate hroot hasset hrow readable_nil
  have habsolute := readable_absolutePathOf hcontext.roots hitem
  have hfound : ∀ classification actions reason message, Readable reason → Readable message →
      BrokenDbOriginalFinding.Readable
        { searchErrorFinding context state uploadsRoot asset row [] with
          findingId := py "broken-db-original:" ++ asset.id
          assetId := asset.id
          assetName := truthyPath asset.originalFileName
          assetType := truthyPath asset.type
          foundRootSlug := some item.rootSlug
          foundRelativePath := some item.relativePath
          foundAbsolutePath := some (absolutePathOf context.settings item)
          foundSizeBytes := some item.sizeBytes
          checksumMatch := matched
          searchError := none
          classification := classification
          eligibleActions := actions
          actionReason := reason
          message := message } := by
    intro classification actions reason message hreason hmessage
    exact { hbase with
      findingId := readable_append.mpr ⟨readable_py _, hasset.id⟩
      assetId := hasset.id
      assetName := readable_truthyPath hasset.originalFileName
      assetType := readable_truthyPath hasset.type
      foundRootSlug := by rintro _ ⟨⟩; exact hitem.rootSlug
      foundRelativePath := by rintro _ ⟨⟩; exact hitem.relativePath
      foundAbsolutePath := by rintro _ ⟨⟩; exact habsolute
      searchError := nofun
      actionReason := hreason
      message := hmessage }
  unfold locatedFinding
  simp only
  split
  · exact hfound _ _ _ _ (readable_py _) (readable_py _)
  · split
    · exact hfound _ _ _ _ (readable_py _) (readable_py _)
    · split
      · exact hfound _ _ _ _ (readable_py _) (readable_py _)
      · exact hfound _ _ _ _ (readable_py _) (readable_py _)

theorem readable_findingOfAsset (hcontext : context.Readable) (hstate : state.Readable)
    (hroot : ReadablePath uploadsRoot) (hasset : asset.Readable)
    (hrow : row ∈ state.classified.dbMissingRows) :
    (findingOfAsset context state uploadsRoot asset row).Readable := by
  have hbase := readable_searchErrorFinding hcontext hstate hroot hasset hrow readable_nil
  unfold findingOfAsset
  cases hsearch : searchForRelocatedFile context.settings state.latestFiles asset.searchName
      row.relativePath with
  | none =>
      exact { hbase with
        actionReason := readable_py _
        searchError := nofun
        message := readable_py _ }
  | some located =>
      have hlocated : ∃ item ∈ state.latestFiles, locatedFile context.settings item = located := by
        unfold searchForRelocatedFile at hsearch
        split at hsearch
        · cases hsearch
        · obtain ⟨item, hfound, hitem⟩ := Option.map_eq_some_iff.mp hsearch
          exact ⟨item, List.mem_of_mem_filter (List.mem_of_find?_eq_some hfound), hitem⟩
      obtain ⟨item, hitem, rfl⟩ := hlocated
      simp only
      cases hmatch : checksumMatch context asset
          (locatedFile context.settings item).absolutePath with
      | error error =>
          exact readable_searchErrorFinding hcontext hstate hroot hasset hrow
            (readable_checksumMatch_error hcontext hmatch)
      | ok matched =>
          exact readable_locatedFinding hcontext hstate hroot hasset hrow
            (hstate.latestFiles item hitem)

end Asset

theorem readable_brokenDbOriginals (hcontext : context.Readable) (hstate : state.Readable) :
    ∀ finding ∈ buildBrokenDbOriginalFindings context state, finding.Readable := by
  intro finding hfinding
  obtain ⟨row, hrow, hbuilt⟩ := List.mem_filterMap.mp hfinding
  unfold brokenDbOriginalFinding at hbuilt
  split at hbuilt
  · next uploadsRoot asset hroot hasset =>
      cases hbuilt
      have hpath : ReadablePath uploadsRoot :=
        readablePath_rootPathFor (py "uploads") hcontext.roots hroot
      exact readable_findingOfAsset hcontext hstate hpath
        (hstate.assets asset (List.mem_of_find?_eq_some hasset)) hrow
  · cases hbuilt

/-! ## Files without content -/

theorem readable_zeroByteOrphanFinding {row : SnapshotFileRow} {absolutePath : PurePath}
    (hrow : row.Readable) (hpath : ReadablePath absolutePath) :
    (zeroByteOrphanFinding row absolutePath).Readable := by
  constructor
  · exact readable_append.mpr ⟨readable_append.mpr ⟨readable_py _, hrow.rootSlug⟩,
      List.forall_mem_cons.mpr ⟨by decide, hrow.relativePath⟩⟩
  · exact hrow.rootSlug
  · exact hrow.relativePath
  · exact readable_text hpath
  · exact hrow.fileName
  · nofun
  · nofun
  · nofun
  · exact readable_ownerLabelFromRelativePath hrow.relativePath
  · rintro _ ⟨⟩
    exact readable_py _
  · nofun
  · exact readable_py _
  · exact readable_py _

theorem readable_zeroByteAssetFinding {row : SnapshotFileRow} {absolutePath : PurePath}
    {asset : AssetRow} (hcontext : context.Readable) (hstate : state.Readable)
    (hrow : row.Readable) (hpath : ReadablePath absolutePath) (hasset : asset.Readable) :
    (zeroByteAssetFinding context state row absolutePath asset).Readable :=
  { readable_zeroByteOrphanFinding hrow hpath with
    assetId := by rintro _ ⟨⟩; exact hasset.id
    assetName := readable_truthyPath hasset.originalFileName
    ownerId := readable_assetOwnerId hstate.assets asset.id
    ownerLabel := readable_resolveOwnerLabel hrow.relativePath
      (readable_ownerLabels hcontext.users) }

theorem readable_assetById {assetId : Option PyStr} {asset : AssetRow} (hstate : state.Readable)
    (h : assetById state assetId = some asset) : asset.Readable := by
  obtain ⟨id, -, hfound⟩ := Option.bind_eq_some_iff.mp h
  exact hstate.assets asset (List.mem_reverse.mp (List.mem_of_find?_eq_some hfound))

theorem readable_zeroByteFindings (hcontext : context.Readable) (hstate : state.Readable) :
    ∀ finding ∈ buildZeroByteFindings context state, finding.Readable := by
  intro finding hfinding
  obtain ⟨row, hmem, hbuilt⟩ := List.mem_filterMap.mp hfinding
  have hrow := hstate.zeroByteRows row hmem
  unfold zeroByteFinding at hbuilt
  split at hbuilt
  · cases hbuilt
  split at hbuilt
  · cases hbuilt
  next absolutePath habsolute =>
  obtain ⟨root, hroot, rfl⟩ := Option.map_eq_some_iff.mp habsolute
  have hpath := readablePath_slash (readablePath_rootPathFor _ hcontext.roots hroot)
    hrow.relativePath
  split at hbuilt
  · split at hbuilt
    · next asset hasset =>
        cases hbuilt
        exact { readable_zeroByteAssetFinding hcontext hstate hrow hpath
            (readable_assetById hstate hasset) with
          dbReferenceKind := by rintro _ ⟨⟩; exact readable_py _
          originalRelativePath := by rintro _ ⟨⟩; exact hrow.relativePath
          actionReason := readable_py _
          message := readable_py _ }
    · cases hbuilt
      exact readable_zeroByteOrphanFinding hrow hpath
  split at hbuilt
  · cases hbuilt
  split at hbuilt
  · cases hbuilt
  next asset hasset =>
  split at hbuilt
  · cases hbuilt
  next original horiginal =>
  split at hbuilt
  · cases hbuilt
    obtain ⟨before, after, hsplit, -⟩ := List.lookup_eq_some_iff.mp horiginal
    have hentry : (asset.id, original) ∈ state.classified.originalByAsset := by
      rw [hsplit]
      exact List.mem_append_right _ List.mem_cons_self
    exact { readable_zeroByteAssetFinding hcontext hstate hrow hpath
        (readable_assetById hstate hasset) with
      dbReferenceKind := by rintro _ ⟨⟩; exact readable_py _
      originalRelativePath := by rintro _ ⟨⟩; exact hstate.originals _ hentry
      actionReason := by simp only [zeroByteDerivativeFinding, readable_py]
      message := by simp only [zeroByteDerivativeFinding, readable_py] }
  · cases hbuilt

/-! ## Hidden files of a FUSE mount -/

theorem readable_fuseHiddenFindings {inspectOpenFileHandles : PurePath → HandleInspection}
    {settings : StorageSettings} (hroots : ReadableRoots settings)
    (hinspections : ∀ path, (∀ tool ∈ (inspectOpenFileHandles path).tool, Readable tool) ∧
      Readable (inspectOpenFileHandles path).reason)
    (hstate : state.Readable) :
    ∀ finding ∈ buildFuseHiddenFindings inspectOpenFileHandles settings state,
      finding.Readable := by
  intro finding hfinding
  unfold buildFuseHiddenFindings at hfinding
  split at hfinding
  · cases hfinding
  next uploadsRoot hroot =>
  obtain ⟨row, hmem, hbuilt⟩ := List.mem_filterMap.mp hfinding
  have hrow := hstate.latestFiles row (List.mem_of_mem_filter hmem)
  have hpath := readablePath_slash
    (readablePath_rootPathFor (py "uploads") hroots hroot) hrow.relativePath
  have hunchecked :
      (fuseCheckFailedFinding inspectOpenFileHandles uploadsRoot row).Readable := by
    constructor
    · exact readable_append.mpr ⟨readable_append.mpr ⟨readable_py _, hrow.rootSlug⟩,
        List.forall_mem_cons.mpr ⟨by decide, hrow.relativePath⟩⟩
    · exact hrow.rootSlug
    · exact hrow.relativePath
    · exact readable_text hpath
    · exact hrow.fileName
    · nofun
    · exact readable_ownerLabelFromRelativePath hrow.relativePath
    · simp only [fuseCheckFailedFinding, readable_py]
    · exact (hinspections _).1
    · apply readable_truthyPath
      rintro _ ⟨⟩
      exact (hinspections _).2
    · simp only [fuseCheckFailedFinding, readable_py]
  unfold fuseHiddenFinding at hbuilt
  split at hbuilt
  · cases hbuilt
  · simp only at hbuilt
    cases hstatus : (inspectOpenFileHandles (slash uploadsRoot row.relativePath)).status with
    | inUse | skipped | notInUse =>
        rw [hstatus] at hbuilt
        cases hbuilt
        exact { hunchecked with
          actionReason := by simp only [readable_py]
          message := by simp only [readable_py] }
    | unavailable | failed =>
        rw [hstatus] at hbuilt
        cases hbuilt
        exact hunchecked

end Findings

/-! ## Rows of the databases -/

section Rows

variable {database : Postgres} {table : TableName} {columns : List PyStr} {rows : Rows}
  {row : Row SqlValue}

/-- The values of a row are readable. -/
def ReadableRow (row : Row SqlValue) : Prop :=
  ∀ column value, row.value column = some value → Readable value.str

theorem ReadableRow.columnText (h : ReadableRow row) (column : PyStr) :
    ∀ text ∈ columnText row column, Readable text := by
  intro text htext
  obtain ⟨value, hvalue, rfl⟩ := Option.map_eq_some_iff.mp htext
  exact h column value hvalue

theorem ReadableRow.columnChecksum (h : ReadableRow row) (column : PyStr) :
    ∀ value ∈ columnChecksum row column, Readable value.str := by
  intro found hfound
  obtain ⟨value, hvalue, rfl⟩ := Option.map_eq_some_iff.mp hfound
  have hstr := h column value hvalue
  cases value with
  | bytes stored =>
      simp only [ChecksumValue.str]
      split
      · exact readable_py ""
      · exact hstr
  | _ => exact hstr

theorem ReadableRow.idText (h : ReadableRow row) : Readable (idText row) := by
  unfold Catalog.idText
  cases hid : Catalog.columnText row (py "id") with
  | none => exact readable_py _
  | some text => exact h.columnText _ text hid

theorem ReadableRow.assetRow (h : ReadableRow row) (parseTimestamp : PyStr → Option Instant) :
    (assetRowOf parseTimestamp row).Readable where
  id := h.idText
  type := h.columnText _
  originalFileName := h.columnText _
  originalPath := h.columnText _
  ownerId := h.columnText _
  checksum := h.columnChecksum _
  originalChecksum := h.columnChecksum _
  checksumAlgorithm := h.columnText _

theorem ReadableRow.userRow (h : ReadableRow row) : (userRowOf row).Readable where
  id := h.columnText _
  name := h.columnText _
  storageLabel := h.columnText _
  email := h.columnText _
  firstName := h.columnText _
  lastName := h.columnText _

theorem readable_selectRows (h : ∀ entry ∈ database.entries, ReadableRow entry.row)
    (hselect : selectRows database table columns = some rows) : ∀ row ∈ rows, ReadableRow row := by
  intro row hrow
  obtain ⟨present, -, hrows⟩ := Option.bind_eq_some_iff.mp hselect
  split at hrows
  · cases hrows
    obtain ⟨entry, hentry, rfl⟩ := List.mem_map.mp hrow
    exact h entry (List.mem_of_mem_filter hentry)
  · cases hrows

theorem readable_orderedById (h : ∀ row ∈ rows, ReadableRow row) :
    ∀ row ∈ orderedById rows, ReadableRow row := fun row hrow =>
  h row ((List.perm_insertionSort _ rows).mem_iff.mp hrow)

theorem readable_listAllAssets {parseTimestamp : PyStr → Option Instant} {assets : List AssetRow}
    (h : ∀ entry ∈ database.entries, ReadableRow entry.row)
    (hassets : listAllAssets parseTimestamp database = some assets) :
    ∀ asset ∈ assets, asset.Readable := by
  obtain ⟨rows, hrows, rfl⟩ := Option.map_eq_some_iff.mp hassets
  intro asset hasset
  obtain ⟨row, hrow, rfl⟩ := List.mem_map.mp hasset
  exact (readable_orderedById (readable_selectRows h hrows) row hrow).assetRow parseTimestamp

theorem readable_listUsers {users : List UserRow}
    (h : ∀ entry ∈ database.entries, ReadableRow entry.row)
    (husers : listUsers database = some users) : ∀ row ∈ users, row.Readable := by
  unfold listUsers at husers
  split at husers
  · cases husers
    nofun
  · split at husers
    · cases husers
    · obtain ⟨rows, hrows, rfl⟩ := Option.map_eq_some_iff.mp husers
      intro user huser
      obtain ⟨row, hrow, rfl⟩ := List.mem_map.mp huser
      exact (readable_orderedById (readable_selectRows h hrows) row hrow).userRow

end Rows

/-- The names in the catalog are readable. -/
structure ReadableCatalog (db : CatalogDb) : Prop where
  slugs : ∀ root ∈ db.storageRoot.rows, Readable root.slug
  files : ∀ file ∈ db.fileRecord.rows, Readable file.relativePath ∧ Readable file.fileName

section Catalog

variable {db db' : CatalogDb} {now : Instant} {root : CatalogRootSpec}

theorem ReadableCatalog.upsertStorageRoot (h : ReadableCatalog db) (hslug : Readable root.slug)
    (hrun : db.upsertStorageRoot now root = some db') : ReadableCatalog db' := by
  unfold CatalogDb.upsertStorageRoot at hrun
  split at hrun
  · cases hrun
  cases hrun
  refine ⟨fun row hrow => ?_, h.files⟩
  rcases Table.mem_upsert.mp hrow with ⟨hold, -⟩ | ⟨old, hold, -, rfl⟩ | ⟨-, rfl⟩
  · exact h.slugs row hold
  · exact h.slugs old hold
  · exact hslug

theorem readable_configured_slug (settings : StorageSettings) :
    ∀ root ∈ CatalogRootRegistry.configuredRoots settings, Readable root.slug := by
  intro root hroot
  obtain ⟨entry, hentry, rfl⟩ :=
    List.mem_map.mp ((List.perm_insertionSort _ _).mem_iff.mp hroot)
  obtain ⟨setting, hsetting, hpath⟩ := List.mem_filterMap.mp hentry
  obtain ⟨path, -, rfl⟩ := Option.map_eq_some_iff.mp hpath
  have hnames : ∀ pair ∈ [(py "immich_library_root", settings.immichLibraryRoot),
      (py "immich_uploads_path", settings.immichUploadsPath),
      (py "immich_thumbs_path", settings.immichThumbsPath),
      (py "immich_profile_path", settings.immichProfilePath),
      (py "immich_video_path", settings.immichVideoPath)],
      Readable ((rootSpecs.lookup pair.1).getD (pair.1, py "unknown")).1 := by
    simp only [List.forall_mem_cons]
    exact ⟨by decide, by decide, by decide, by decide, by decide, List.forall_mem_nil _⟩
  exact hnames setting hsetting

theorem ReadableCatalog.sync {settings : StorageSettings} {times : PyStr → Instant}
    (h : ReadableCatalog db) (hsync : CatalogRootRegistry.sync settings times db = some db') :
    ReadableCatalog db' := by
  have hroots := readable_configured_slug settings
  unfold CatalogRootRegistry.sync at hsync
  generalize CatalogRootRegistry.configuredRoots settings = roots at hsync hroots
  induction roots generalizing db with
  | nil =>
      cases hsync
      exact h
  | cons root rest ih =>
      rw [List.foldlM_cons] at hsync
      obtain ⟨next, hnext, hrest⟩ := Option.bind_eq_some_iff.mp hsync
      obtain ⟨hfirst, hlater⟩ := List.forall_mem_cons.mp hroots
      exact ih (h.upsertStorageRoot hfirst hnext) hrest hlater

theorem ReadableCatalog.snapshotFileRow (h : ReadableCatalog db) {file : FileRecord}
    {row : SnapshotFileRow} (hfile : file ∈ db.fileRecord.rows)
    (hrow : db.snapshotFileRow file = some row) : row.Readable := by
  obtain ⟨root, hroot, hrest⟩ := Option.bind_eq_some_iff.mp hrow
  obtain ⟨snapshot, -, hrest⟩ := Option.bind_eq_some_iff.mp hrest
  split at hrest
  · cases hrest
    exact ⟨h.slugs root (List.mem_of_find?_eq_some hroot), (h.files file hfile).1,
      (h.files file hfile).2⟩
  · cases hrest

theorem ReadableCatalog.latestFiles (h : ReadableCatalog db) :
    ∀ row ∈ db.listLatestSnapshotFiles none none, row.Readable := by
  intro row hrow
  have hlisted := (List.perm_insertionSort SnapshotFileRow.before _).mem_iff.mp hrow
  obtain ⟨file, hfile, hjoined⟩ := List.mem_filterMap.mp (List.mem_of_mem_filter hlisted)
  exact h.snapshotFileRow hfile hjoined

theorem ReadableCatalog.zeroByteFiles (h : ReadableCatalog db) (limit : Nat) :
    ∀ row ∈ db.listZeroByteFiles none limit, row.Readable := by
  intro row hrow
  have hlisted := (List.perm_insertionSort SnapshotFileRow.before _).mem_iff.mp
    (List.mem_of_mem_take hrow)
  obtain ⟨file, hfile, hjoined⟩ := List.mem_filterMap.mp (List.mem_of_mem_filter hlisted)
  exact h.snapshotFileRow (List.mem_of_mem_filter hfile) hjoined

end Catalog

theorem sync_of_prepareSnapshotState {resolvePath : PurePath → PurePath}
    {settings : StorageSettings} {times : PyStr → Instant} {db synced : CatalogDb}
    {snapshotState : CatalogSnapshotState}
    (h : prepareSnapshotState resolvePath settings times db = some (synced, snapshotState)) :
    CatalogRootRegistry.sync settings times db = some synced := by
  unfold prepareSnapshotState at h
  cases hsync : CatalogRootRegistry.sync settings times db with
  | none =>
      rw [hsync] at h
      cases h
  | some first =>
      rw [hsync] at h
      exact congrArg some (congrArg Prod.fst (Option.some.inj h))

/-! ## The comparison -/

/-- A compared state shows what the asset rows and the catalog have. -/
theorem readable_compare {settings : StorageSettings} {text : CaseMapping} {db : CatalogDb}
    {snapshotState : CatalogSnapshotState} {assets : List AssetRow}
    {assetFiles : List AssetFileRow} (hassets : ∀ asset ∈ assets, asset.Readable)
    (hcatalog : ReadableCatalog db) :
    (compare settings text db snapshotState assets assetFiles).Readable := by
  have hconsidered : ∀ asset ∈ assets.filter
      (assetWithinSnapshotWindow snapshotState.comparisonWindowStartedAt), asset.Readable :=
    fun asset hasset => hassets asset (List.mem_of_mem_filter hasset)
  have horiginal : ∀ {asset : AssetRow} {originalPath : PyStr} {resolved : ResolvedStoragePath},
      asset.Readable → truthyPath asset.originalPath = some originalPath →
      resolve settings originalPath = some resolved →
        Readable originalPath ∧ Readable resolved.relativePath := by
    intro asset originalPath resolved hasset hpath hresolved
    have hreadable := readable_truthyPath hasset.originalPath originalPath hpath
    exact ⟨hreadable, readable_resolve hreadable hresolved⟩
  constructor
  · exact hconsidered
  · exact fun row hrow => hcatalog.latestFiles row (List.mem_of_mem_filter hrow)
  · exact fun row hrow => hcatalog.zeroByteFiles _ row (List.mem_of_mem_filter hrow)
  · intro row hrow
    simp only [compare, dbMissingRows_foldl, ClassifiedAssets.none, List.nil_append,
      List.mem_flatMap] at hrow
    obtain ⟨asset, hasset, hmissing⟩ := hrow
    obtain ⟨originalPath, resolved, hpath, hresolved, -, -, rfl⟩ :=
      mem_dbMissingRows_classifyAsset.mp hmissing
    have hreadable := hconsidered asset hasset
    obtain ⟨hdatabase, hrelative⟩ := horiginal hreadable hpath hresolved
    exact ⟨hreadable.id, hdatabase, hrelative⟩
  · intro entry hentry
    have hmem := ((originals_classifyAssets _ .none _).2 entry).mp hentry
    rcases hmem with hnone | ⟨asset, hasset, -, originalPath, resolved, ⟨hpath, hresolved⟩, -, heq⟩
    · cases hnone
    · rw [← heq]
      exact (horiginal (hconsidered asset hasset) hpath hresolved).2

namespace Remediation

/-- Nothing a request reads has a high surrogate. -/
structure Environment.Readable (environment : Environment) (database : Postgres) : Prop where
  roots : ReadableRoots environment.settings
  catalog : ReadableCatalog environment.catalog
  rows : ∀ entry ∈ database.entries, ReadableRow entry.row
  lower : ∀ text, Json.Readable text → Json.Readable (environment.text.lower text)
  errors : ∀ path, ∀ error ∈ environment.existsError path, Json.Readable error
  inspections : ∀ path, (∀ tool ∈ (environment.inspectOpenFileHandles path).tool,
    Json.Readable tool) ∧ Json.Readable (environment.inspectOpenFileHandles path).reason

section Environment

variable {environment : Environment} {database : Postgres} {files : StorageFiles}

theorem Environment.Readable.context (h : environment.Readable database) :
    (environment.context database files).Readable where
  roots := h.roots
  lower := h.lower
  errors := by
    intro path error herror
    simp only [Environment.context, Environment.reads] at herror
    split at herror
    · next found hfound =>
        cases herror
        exact h.errors path error hfound
    · cases herror
  users := by
    intro rows hrows
    simp only [Environment.context] at hrows
    split at hrows
    · cases hrows
    · exact readable_listUsers h.rows hrows

theorem readable_collectedState {state : CatalogConsistencyState}
    (h : environment.Readable database)
    (hstate : collectedState environment database = some (some state)) : state.Readable := by
  unfold collectedState at hstate
  split at hstate
  · cases hstate
  next synced snapshotState hprepared =>
  split at hstate
  · cases hstate
  simp only [Option.bind_eq_bind, Option.bind_eq_some_iff] at hstate
  obtain ⟨assets, hassets, assetFiles, -, hrest⟩ := hstate
  split at hrest
  · cases hrest
  next collected found hcollect =>
  cases hrest
  have hsync := sync_of_prepareSnapshotState hprepared
  cases hagain : prepareSnapshotState environment.resolvePath environment.settings
      environment.rootTimes synced with
  | none =>
      simp only [collect, hagain] at hcollect
      cases hcollect
  | some prepared =>
      obtain ⟨prepared, preparedState⟩ := prepared
      rw [(collect_eq_compare hagain hcollect).2]
      exact readable_compare (readable_listAllAssets h.rows hassets)
        ((h.catalog.sync hsync).sync (sync_of_prepareSnapshotState hagain))

/-- Every finding of a scan is readable. -/
theorem readable_scan {result : ScanResult} (h : environment.Readable database)
    (hscan : scan environment database files = some result) :
    (∀ finding ∈ result.brokenDbOriginals, finding.Readable) ∧
      (∀ finding ∈ result.zeroByteFindings, finding.Readable) ∧
      ∀ finding ∈ result.fuseHiddenOrphans, finding.Readable := by
  unfold scan at hscan
  cases hcollected : collectedState environment database with
  | none =>
      rw [hcollected] at hscan
      cases hscan
  | some collected =>
      rw [hcollected] at hscan
      have hresult := Option.some.inj hscan
      subst hresult
      cases collected with
      | none => exact ⟨List.forall_mem_nil _, List.forall_mem_nil _, List.forall_mem_nil _⟩
      | some state =>
          have hstate := readable_collectedState h hcollected
          exact ⟨readable_brokenDbOriginals h.context hstate,
            readable_zeroByteFindings h.context hstate,
            readable_fuseHiddenFindings h.roots h.inspections hstate⟩

end Environment

end Remediation

end ImmichDoctor.Catalog
