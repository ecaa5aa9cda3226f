import ImmichDoctor.Catalog.BrokenOriginals
/-!
# The search for a relocated original

Of the cached files that have the name of a missing original, the search takes the first
one that is listed and compares only its checksum. A file further down the list that is
the original is found only when that first one is it too. The comparison is one of texts: a
checksum that is loaded as `bytes` is compared as its `repr`, which no file has.
-/

namespace ImmichDoctor.Catalog

open ImmichDoctor.Library
open ImmichDoctor.Storage

/-! ## Candidates -/

/-- The file has the name that is searched for and is not where the original is expected. -/
def IsCandidate (asset : AssetRow) (row : DbMissingRow) (item : SnapshotFileRow) : Prop :=
  asset.searchName ≠ [] ∧ item.fileName = asset.searchName ∧
    ¬ (item.rootSlug = sourceRootSlug ∧ item.relativePath = row.relativePath)

instance (asset : AssetRow) (row : DbMissingRow) (item : SnapshotFileRow) :
    Decidable (IsCandidate asset row item) := by
  unfold IsCandidate
  infer_instance

/-! ## The content of an asset -/

/-- The value of a checksum column is the checksum of these bytes: the bytes of a `bytea`, the
hexadecimal digits of a text, with or without a prefix. -/
def ChecksumValue.Denotes (text : CaseMapping) (bytes : List UInt8) : ChecksumValue → Prop
  | .text value => withoutHexPrefix (text.lower value.strip) = hexBytes bytes
  | .bytea value => value = bytes

/-- The first checksum column of the asset that has a value. -/
def AssetRow.storedChecksum (asset : AssetRow) : Option ChecksumValue :=
  asset.checksum.filter (fun value => value.str.strip ≠ []) <|>
    asset.originalChecksum.filter fun value => value.str.strip ≠ []

/-- The algorithm of a checksum: the one the asset names, else the one with as many bytes. -/
def IsAlgorithmOf (text : CaseMapping) (asset : AssetRow) (bytes : List UInt8)
    (algorithm : PyStr) : Prop :=
  match truthyPath asset.checksumAlgorithm with
  | some explicitAlgorithm => algorithm = text.lower explicitAlgorithm ∧ algorithm ≠ []
  | none => bytes.length = 32 ∧ algorithm = py "sha256" ∨
      bytes.length = 20 ∧ algorithm = py "sha1"

/-- The checksum that the asset has is the digest of the file's content. -/
def ContentMatches (context : RemediationContext) (asset : AssetRow) (item : SnapshotFileRow) :
    Prop :=
  ∃ stored bytes algorithm, asset.storedChecksum = some stored ∧
    stored.Denotes context.text bytes ∧ IsAlgorithmOf context.text asset bytes algorithm ∧
    context.reads.digest (.parse (absolutePathOf context.settings item)) algorithm = some bytes

/-- A file of the uploads other than the expected one, with the file name and the content
of the asset. -/
structure IsRelocatedOriginal (context : RemediationContext) (asset : AssetRow)
    (row : DbMissingRow) (item : SnapshotFileRow) : Prop where
  root : item.rootSlug = sourceRootSlug
  elsewhere : item.relativePath ≠ row.relativePath
  name : asset.originalFileName = some item.fileName
  content : ContentMatches context asset item

/-- The asset of the missing row is classified as found with its content whenever one of
the cached files is its relocated original. -/
def SearchComplete (context : RemediationContext) (state : CatalogConsistencyState)
    (row : DbMissingRow) : Prop :=
  ∀ asset, state.assetRows.find? (fun item => item.id = row.assetId) = some asset →
    (∃ item ∈ state.latestFiles, IsRelocatedOriginal context asset row item) →
      (brokenDbOriginalFinding context state row).map (·.classification) =
        some .foundWithHashMatch

/-- The checksum of the asset is loaded as a text. -/
def AssetRow.HasTextChecksum (asset : AssetRow) : Prop :=
  ∃ text, asset.storedChecksum = some (.text text)

/-- The first candidate that is listed lies in the uploads, is there and has the content. -/
def FirstCandidateMatches (context : RemediationContext) (state : CatalogConsistencyState)
    (asset : AssetRow) (row : DbMissingRow) : Prop :=
  ∃ item, state.latestFiles.find? (fun item => IsCandidate asset row item) = some item ∧
    item.rootSlug = sourceRootSlug ∧
    context.reads.pathExists (.parse (absolutePathOf context.settings item)) = .ok true ∧
    ContentMatches context asset item

/-! ## The comparison of checksums -/

/-- The comparison takes the file for the asset's. -/
def MatchesHash (context : RemediationContext) (asset : AssetRow) (item : SnapshotFileRow) :
    Prop :=
  checksumMatch context asset (absolutePathOf context.settings item) = .ok (some true)

section Checksums

variable {context : RemediationContext} {asset : AssetRow} {item : SnapshotFileRow}
  {bytes : List UInt8}

theorem truthyPath_map_str (column : Option ChecksumValue) :
    truthyPath (column.map ChecksumValue.str) =
      (column.filter fun value => value.str.strip ≠ []).map fun value => value.str.strip := by
  cases column with
  | none => rfl
  | some value =>
      unfold truthyPath
      by_cases hblank : value.str.strip = []
      · simp [hblank]
      · simp [hblank]

/-- The text that is compared is that of the stored value. -/
theorem assetChecksumValue_eq (asset : AssetRow) :
    assetChecksumValue asset = asset.storedChecksum.map fun value => value.str.strip := by
  unfold assetChecksumValue AssetRow.storedChecksum
  rw [truthyPath_map_str, truthyPath_map_str]
  cases asset.checksum.filter fun value => value.str.strip ≠ [] with
  | none => rfl
  | some value => rfl

theorem storedChecksum_ne_nil {stored : ChecksumValue} (h : asset.storedChecksum = some stored) :
    stored.str.strip ≠ [] := by
  have hcolumn : ∀ column : Option ChecksumValue,
      column.filter (fun value => value.str.strip ≠ []) = some stored → stored.str.strip ≠ [] := by
    intro column hfound
    exact of_decide_eq_true (Option.filter_eq_some_iff.mp hfound).2
  unfold AssetRow.storedChecksum at h
  cases hfirst : asset.checksum.filter fun value => value.str.strip ≠ [] with
  | some value =>
      rw [hfirst] at h
      exact hcolumn _ (hfirst.trans h)
  | none =>
      rw [hfirst] at h
      exact hcolumn _ h

/-- A checksum of hexadecimal digits shows its length. -/
theorem isHexOf_hexBytes (length : Nat) :
    isHexOf length (hexBytes bytes) = true ↔ 2 * bytes.length = length := by
  have hdigits : ((hexBytes bytes).all fun c => (py "0123456789abcdef").contains c) = true := by
    rw [List.all_eq_true]
    intro c hc
    have hdigit := isHexDigit_of_mem_hexBytes hc
    have hcontains : ∀ c < 128, IsHexDigit c →
        (py "0123456789abcdef").contains c = true := by
      unfold IsHexDigit
      decide
    refine hcontains c ?_ hdigit
    unfold IsHexDigit at hdigit
    omega
  rw [isHexOf, hdigits, length_hexBytes, Bool.and_true, decide_eq_true_iff]

/-- The algorithm that is found for a text is that of the bytes it denotes. -/
theorem assetChecksumAlgorithm_iff {text algorithm : PyStr}
    (hstored : asset.storedChecksum = some (.text text))
    (hdenotes : (ChecksumValue.text text).Denotes context.text bytes) :
    (assetChecksumAlgorithm context.text asset = some algorithm ∧ algorithm ≠ []) ↔
      IsAlgorithmOf context.text asset bytes algorithm := by
  unfold assetChecksumAlgorithm IsAlgorithmOf
  cases truthyPath asset.checksumAlgorithm with
  | some explicitAlgorithm =>
      simp only [Option.some.injEq]
      rw [eq_comm]
  | none =>
      have hdigits : withoutHexPrefix (context.text.lower text.strip) = hexBytes bytes := hdenotes
      simp only [assetChecksumValue_eq, hstored, Option.map_some, Option.bind_some,
        ChecksumValue.str, hdigits, isHexOf_hexBytes]
      by_cases hlong : bytes.length = 32
      · rw [if_pos (by omega)]
        constructor
        · rintro ⟨heq, -⟩
          cases heq
          exact Or.inl ⟨hlong, rfl⟩
        · rintro (⟨-, rfl⟩ | ⟨hshort, -⟩)
          · exact ⟨rfl, by decide⟩
          · omega
      · rw [if_neg (by omega)]
        by_cases hshort : bytes.length = 20
        · rw [if_pos (by omega)]
          constructor
          · rintro ⟨heq, -⟩
            cases heq
            exact Or.inr ⟨hshort, rfl⟩
          · rintro (⟨hlong, -⟩ | ⟨-, rfl⟩)
            · omega
            · exact ⟨rfl, by decide⟩
        · rw [if_neg (by omega)]
          refine iff_of_false (fun h => by cases h.1) ?_
          rintro (⟨h, -⟩ | ⟨h, -⟩)
          · omega
          · omega

/-- A `repr` is never a text of hexadecimal digits. -/
theorem withoutHexPrefix_reprBytes_ne (hlower : LowersAscii context.text.lower)
    (value : List UInt8) :
    withoutHexPrefix (context.text.lower (reprBytes value)) ≠ hexBytes bytes := by
  obtain ⟨quote, rest, hquote, heq⟩ := lower_reprBytes hlower value
  rw [heq, withoutHexPrefix, if_neg (by simp)]
  intro h
  have hmem : quote ∈ hexBytes bytes := by
    rw [← h]
    simp
  exact hquote (isHexDigit_of_mem_hexBytes hmem)

/-- A file passes when it is there and its digest is what the text says. -/
theorem verifyFileChecksum_iff (hlower : LowersAscii context.text.lower) {path : PurePath}
    {value algorithm : PyStr} :
    verifyFileChecksum context path value algorithm = .ok (some true) ↔
      context.reads.pathExists path = .ok true ∧
      ∃ bytes, context.reads.digest path algorithm = some bytes ∧
        withoutHexPrefix (context.text.lower value.strip) = hexBytes bytes := by
  unfold verifyFileChecksum StorageReads.computeFileChecksum
  cases context.reads.pathExists path with
  | error searchError => exact iff_of_false (fun h => by cases h) (fun h => by cases h.1)
  | ok found =>
      cases found with
      | false => exact iff_of_false (fun h => by cases h) (fun h => by cases h.1)
      | true =>
          cases context.reads.digest path algorithm with
          | none => exact iff_of_false (fun h => by cases h) (fun ⟨_, _, h, _⟩ => by cases h)
          | some bytes =>
              have hhex : context.text.lower (hexBytes bytes) = hexBytes bytes :=
                lower_hexBytes hlower
              simp [bind, Except.bind, pure, Except.pure, hhex, eq_comm]

/-- The comparison answers yes for the files that are there and have the content, but for no
file when the checksum is loaded as bytes. -/
theorem matchesHash_iff (hlower : LowersAscii context.text.lower) :
    MatchesHash context asset item ↔ asset.HasTextChecksum ∧
      context.reads.pathExists (.parse (absolutePathOf context.settings item)) = .ok true ∧
      ContentMatches context asset item := by
  unfold MatchesHash checksumMatch
  rw [assetChecksumValue_eq]
  cases hstored : asset.storedChecksum with
  | none =>
      refine iff_of_false (fun h => by cases h) ?_
      rintro ⟨⟨text, htext⟩, -⟩
      cases hstored.symm.trans htext
  | some stored =>
      cases stored with
      | bytea value =>
          refine iff_of_false (fun h => ?_) ?_
          · have hvalue : (ChecksumValue.bytea value).str.strip = reprBytes value := by
              have hne := storedChecksum_ne_nil hstored
              simp only [ChecksumValue.str] at hne ⊢
              split_ifs at hne ⊢ with hempty
              · exact absurd rfl hne
              · exact strip_reprBytes value
            simp only [Option.map_some, hvalue] at h
            split at h
            · next checksumValue algorithm hchecksum _ =>
                cases hchecksum
                split_ifs at h with hempty
                · cases h
                · obtain ⟨-, bytes, -, hdigest⟩ := (verifyFileChecksum_iff hlower).mp h
                  rw [strip_reprBytes] at hdigest
                  exact withoutHexPrefix_reprBytes_ne hlower value hdigest
            · cases h
          · rintro ⟨⟨text, htext⟩, -⟩
            cases hstored.symm.trans htext
      | text text =>
          simp only [Option.map_some, ChecksumValue.str]
          constructor
          · intro h
            split at h
            · next checksumValue algorithm hchecksum halgorithm =>
                cases hchecksum
                split_ifs at h with hempty
                · cases h
                · obtain ⟨hexists, bytes, hdigest, hdenotes⟩ := (verifyFileChecksum_iff hlower).mp h
                  rw [PyStr.strip_strip] at hdenotes
                  have hfound := (assetChecksumAlgorithm_iff hstored hdenotes).mp
                    ⟨halgorithm, hempty⟩
                  exact ⟨⟨text, hstored⟩, hexists, .text text, bytes, algorithm, hstored, hdenotes,
                    hfound, hdigest⟩
            · cases h
          · rintro ⟨-, hexists, stored, bytes, algorithm, hstored', hdenotes, halgorithm, hdigest⟩
            cases hstored.symm.trans hstored'
            obtain ⟨hfound, hne⟩ := (assetChecksumAlgorithm_iff hstored hdenotes).mpr halgorithm
            rw [hfound]
            simp only [if_neg hne]
            rw [verifyFileChecksum_iff hlower, PyStr.strip_strip]
            exact ⟨hexists, bytes, hdigest, hdenotes⟩

end Checksums

/-! ## The file that is taken -/

section Search

variable {context : RemediationContext} {state : CatalogConsistencyState} {uploadsRoot : PurePath}
  {asset : AssetRow} {row : DbMissingRow}

theorem searchForRelocatedFile_eq (settings : StorageSettings)
    (latestFiles : List SnapshotFileRow) :
    searchForRelocatedFile settings latestFiles asset.searchName row.relativePath =
      (latestFiles.find? fun item => IsCandidate asset row item).map (locatedFile settings) := by
  unfold searchForRelocatedFile
  by_cases hname : asset.searchName = []
  · rw [if_pos hname]
    have hnone : (latestFiles.find? fun item => decide (IsCandidate asset row item)) = none := by
      rw [List.find?_eq_none]
      intro item _
      simp [IsCandidate, hname]
    rw [hnone]
    rfl
  · rw [if_neg hname, filesNamed, List.find?_filter]
    congr 2
    funext item
    by_cases hfile : item.fileName = asset.searchName
    · simp [IsCandidate, hfile, hname]
    · simp [IsCandidate, hfile]

/-- A located file is a match when it lies in the uploads and has the content. -/
theorem locatedFinding_classification_iff (located : LocatedFile) (matched : Option Bool) :
    (locatedFinding context state uploadsRoot asset row located matched).classification =
        .foundWithHashMatch ↔
      matched = some true ∧ located.rootSlug = sourceRootSlug := by
  unfold locatedFinding
  by_cases hfound : matched = some true ∧ located.rootSlug = sourceRootSlug
  · rw [if_pos hfound]
    exact iff_of_true rfl hfound
  · rw [if_neg hfound]
    refine iff_of_false ?_ hfound
    split
    · intro h
      cases h
    · split
      · intro h
        cases h
      · intro h
        cases h

/-- The verdict on a missing row is that of the first candidate alone. -/
theorem findingOfAsset_classification_iff (hlower : LowersAscii context.text.lower) :
    (findingOfAsset context state uploadsRoot asset row).classification = .foundWithHashMatch ↔
      asset.HasTextChecksum ∧ FirstCandidateMatches context state asset row := by
  unfold findingOfAsset FirstCandidateMatches
  rw [searchForRelocatedFile_eq]
  cases hfirst : state.latestFiles.find? fun item => IsCandidate asset row item with
  | none =>
      refine iff_of_false (fun h => ?_) (by simp)
      cases h
  | some item =>
      have hmatches : MatchesHash context asset item ↔ _ := matchesHash_iff hlower
      unfold MatchesHash at hmatches
      simp only [Option.map_some, Option.some.injEq, exists_eq_left', locatedFile]
      cases hmatch : checksumMatch context asset (absolutePathOf context.settings item) with
      | error searchError =>
          refine iff_of_false (fun h => ?_) ?_
          · cases h
          · rintro ⟨htext, -, hcontent⟩
            have hfound := hmatches.mpr ⟨htext, hcontent⟩
            cases hmatch.symm.trans hfound
      | ok matched =>
          rw [hmatch, Except.ok.injEq] at hmatches
          simp only [locatedFinding_classification_iff]
          rw [hmatches]
          constructor
          · rintro ⟨⟨htext, hcontent⟩, hslug⟩
            exact ⟨htext, hslug, hcontent⟩
          · rintro ⟨htext, hslug, hcontent⟩
            exact ⟨⟨htext, hcontent⟩, hslug⟩

/-- The search is complete if and only if, whenever a relocated original is cached, the
uploads are configured, the checksum of the asset is loaded as a text, and the first candidate
that is listed is such a file. -/
theorem search_complete_iff (context : RemediationContext) (state : CatalogConsistencyState)
    (row : DbMissingRow) (hlower : LowersAscii context.text.lower) :
    SearchComplete context state row ↔
      ∀ asset, state.assetRows.find? (fun item => item.id = row.assetId) = some asset →
        (∃ item ∈ state.latestFiles, IsRelocatedOriginal context asset row item) →
          context.settings.immichUploadsPath.isSome ∧ asset.HasTextChecksum ∧
            FirstCandidateMatches context state asset row := by
  unfold SearchComplete
  refine forall_congr' fun asset => forall_congr' fun hasset => forall_congr' fun _ => ?_
  unfold brokenDbOriginalFinding
  rw [hasset]
  cases context.settings.immichUploadsPath with
  | none => simp
  | some uploadsRoot =>
      simp only [Option.map_some, Option.some.injEq, Option.isSome_some, true_and]
      exact findingOfAsset_classification_iff hlower

end Search

/-! ## A file of the same name before the original -/

section SameName

def sameNameAsset : AssetRow where
  id := py "a"
  type := some (py "IMAGE")
  createdAt := none
  updatedAt := none
  originalFileName := some (py "a.jpg")
  originalPath := some (py "/data/upload/old/a.jpg")
  encodedVideoPath := none
  livePhotoVideoId := none
  checksum := some (.text (List.replicate 40 97))

def sameNameRow : DbMissingRow where
  assetId := py "a"
  assetName := some (py "a.jpg")
  assetType := some (py "IMAGE")
  databasePath := py "/data/upload/old/a.jpg"
  resolvedRoot := py "uploads"
  relativePath := py "old/a.jpg"
  mappingMode := .runtime
  classification := none

def sameNameFile (parent : PyStr) : SnapshotFileRow where
  rootSlug := py "uploads"
  rootType := py "source"
  snapshotId := 1
  generation := 1
  relativePath := parent ++ py "/a.jpg"
  parentRelativePath := parent
  fileName := py "a.jpg"
  extension := some (py ".jpg")
  sizeBytes := 1
  modifiedAtFs := none
  fileTypeGuess := py "image"
  mediaClassGuess := py "image"
  zeroByteFlag := false

def sameNameState : CatalogConsistencyState where
  latestSnapshots := []
  latestFiles := [sameNameFile (py "m"), sameNameFile (py "n")]
  assetRows := [sameNameAsset]
  assetFileRows := []
  zeroByteRows := []
  classified := { ClassifiedAssets.none with dbMissingRows := [sameNameRow] }
  storageMissingRows := []
  orphanRows := []
  snapshotBasis := []
  latestScanCommittedAt := none
  comparisonWindowStartedAt := none
  comparisonWindowCommittedAt := none
  configuredRootSlugs := [py "uploads"]

/-- Only the file below `n` has the content of the asset. -/
def sameNameContext : RemediationContext where
  settings := ⟨none, some (.parse (py "/data/upload")), none, none, none⟩
  text := ⟨List.map lowerAscii, id⟩
  reads :=
    { pathExists := fun _ => .ok true
      digest := fun path _ =>
        if path = .parse (py "/data/upload/n/a.jpg") then some (List.replicate 20 170)
        else some (List.replicate 20 171) }
  users := none

/-- The original below `n` is found when it is the first that is listed. -/
theorem search_complete_iff_first :
    SearchComplete sameNameContext
      { sameNameState with latestFiles := [sameNameFile (py "n"), sameNameFile (py "m")] }
      sameNameRow := by
  refine (search_complete_iff _ _ _ fun text _ => rfl).mpr ?_
  intro asset hasset _
  cases hasset
  have hcontent : ContentMatches sameNameContext sameNameAsset (sameNameFile (py "n")) :=
    ⟨.text (List.replicate 40 97), List.replicate 20 170, py "sha1", rfl, rfl,
      Or.inr ⟨rfl, rfl⟩, by decide⟩
  exact ⟨rfl, ⟨List.replicate 40 97, rfl⟩, sameNameFile (py "n"), rfl, rfl, rfl, hcontent⟩

/-- The original below `n` is passed over for the file below `m`. -/
theorem same_name_hides_original :
    ¬ ∀ (context : RemediationContext) (state : CatalogConsistencyState),
      LowersAscii context.text.lower → ∀ row ∈ state.classified.dbMissingRows,
        SearchComplete context state row := by
  intro h
  have hcomplete := h sameNameContext sameNameState (fun text _ => rfl) sameNameRow
    List.mem_cons_self
  have hcontent : ContentMatches sameNameContext sameNameAsset (sameNameFile (py "n")) :=
    ⟨.text (List.replicate 40 97), List.replicate 20 170, py "sha1", rfl, rfl,
      Or.inr ⟨rfl, rfl⟩, by decide⟩
  have hmatch := hcomplete sameNameAsset (by decide)
    ⟨sameNameFile (py "n"), List.mem_cons_of_mem _ List.mem_cons_self,
      ⟨rfl, by decide, rfl, hcontent⟩⟩
  revert hmatch
  decide

end SameName

end ImmichDoctor.Catalog
