import ImmichDoctor.Catalog.RootRegistry
import ImmichDoctor.Library.ByteTexts
import Mathlib.Data.List.Infix
/-!
# The consistency state

`CatalogConsistencyStateCollector`: the comparison of the original paths of the Immich
database with the files of the current snapshots. Timestamps are what
`parse_timestamp` makes of them; the check results, which only report, are left out.
-/

namespace ImmichDoctor.Catalog

open ImmichDoctor.Library
open ImmichDoctor.Storage

/-! ## The snapshot state -/

structure CatalogSnapshotState where
  syncedRoots : List StorageRoot
  effectiveRootSlugs : List PyStr
  latestSnapshots : List LatestSnapshotRow
  /-- A dictionary; the slugs are those of rows of one table, so none occurs twice. -/
  snapshotBySlug : List (PyStr × ScanSnapshot)
  staleRootSlugs : List PyStr
  missingRootSlugs : List PyStr
  ready : Bool
  comparisonWindowStartedAt : Option Instant
  comparisonWindowCommittedAt : Option Instant

/-- The rows of `list_latest_snapshots` with a current snapshot, by slug. -/
def currentSnapshots (latestSnapshots : List LatestSnapshotRow) : List (PyStr × ScanSnapshot) :=
  latestSnapshots.filterMap fun row =>
    if row.snapshotCurrent then row.snapshot.map fun snapshot => (row.root.slug, snapshot)
    else none

/-- `prepare_snapshot_state`; it writes the configured roots to the catalog first. -/
def prepareSnapshotState (resolvePath : PurePath → PurePath) (settings : StorageSettings)
    (now : PyStr → Instant) (db : CatalogDb) : Option (CatalogDb × CatalogSnapshotState) := do
  let synced ← CatalogRootRegistry.sync settings now db
  let effectiveRootSlugs := (CatalogRootRegistry.scanRoots resolvePath settings).map (·.slug)
  let latestSnapshots := synced.listLatestSnapshots none
  let snapshotBySlug := currentSnapshots latestSnapshots
  let staleRootSlugs := ((latestSnapshots.filter fun row =>
    row.snapshot.isSome && !row.snapshotCurrent && effectiveRootSlugs.contains row.root.slug).map
      fun row => row.root.slug).insertionSort (· ≤ ·)
  let missingRootSlugs := effectiveRootSlugs.filter fun slug =>
    (snapshotBySlug.lookup slug).isNone && !staleRootSlugs.contains slug
  let current := effectiveRootSlugs.filterMap fun slug => snapshotBySlug.lookup slug
  some (synced,
    { syncedRoots := synced.listStorageRoots
      effectiveRootSlugs
      latestSnapshots
      snapshotBySlug
      staleRootSlugs
      missingRootSlugs
      ready := missingRootSlugs.isEmpty && staleRootSlugs.isEmpty
      comparisonWindowStartedAt := (current.map (·.startedAt)).min?
      comparisonWindowCommittedAt := (current.filterMap (·.committedAt)).max? })

/-! ## Rows of the Immich database -/

/-- A value of a checksum column; the `bytea` of Immich is loaded as `bytes`. -/
inductive ChecksumValue
  | text (value : PyStr)
  | bytea (value : List UInt8)
  deriving DecidableEq

/-- `str(value or "")`. -/
def ChecksumValue.str : ChecksumValue → PyStr
  | text value => value
  | bytea value => if value = [] then [] else reprBytes value

/-- A row of `list_all_assets_for_catalog_consistency`. -/
structure AssetRow where
  id : PyStr
  type : Option PyStr
  createdAt : Option Instant
  updatedAt : Option Instant
  originalFileName : Option PyStr
  originalPath : Option PyStr
  encodedVideoPath : Option PyStr
  livePhotoVideoId : Option PyStr
  ownerId : Option PyStr := none
  checksum : Option ChecksumValue := none
  originalChecksum : Option ChecksumValue := none
  checksumAlgorithm : Option PyStr := none
  deriving DecidableEq

/-- A row of `list_all_asset_files_for_catalog_consistency`. -/
structure AssetFileRow where
  id : PyStr
  assetId : PyStr
  type : PyStr
  path : PyStr
  deriving DecidableEq

/-- What the database adapter answers. -/
inductive PostgresAnswer
  | noDsn
  | unreachable
  | tables (assets : List AssetRow) (assetFiles : List AssetFileRow)

/-- `str.lower` and `str.upper`. -/
structure CaseMapping where
  lower : PyStr → PyStr
  upper : PyStr → PyStr

/-- `truthy_path`. -/
def truthyPath (value : Option PyStr) : Option PyStr :=
  let text := (value.getD []).strip
  if text = [] then none else some text

/-! ## The comparison window -/

/-- `_asset_within_snapshot_window`. -/
def assetWithinSnapshotWindow (startedAt : Option Instant) (row : AssetRow) : Bool :=
  match startedAt with
  | none => true
  | some cutoff => row.createdAt.all (· ≤ cutoff) && row.updatedAt.all (· ≤ cutoff)

/-- `_row_within_snapshot_window` for `modified_at_fs`. -/
def rowWithinSnapshotWindow (startedAt : Option Instant) (modifiedAtFs : Option Instant) : Bool :=
  match startedAt with
  | none => true
  | some cutoff => modifiedAtFs.all (· ≤ cutoff)

/-! ## Findings -/

def sourceRootSlug : PyStr := py "uploads"

/-- `DERIVATIVE_ROOT_SLUGS`. -/
def derivativeRootSlugs : List PyStr := [py "thumbs", py "profile", py "video"]

structure DbMissingRow where
  assetId : PyStr
  assetName : Option PyStr
  assetType : Option PyStr
  databasePath : PyStr
  resolvedRoot : PyStr
  relativePath : PyStr
  mappingMode : MappingMode
  classification : Option PyStr
  deriving DecidableEq

/-- A row with the path kind `original`. -/
structure UnmappedRow where
  assetId : PyStr
  assetName : Option PyStr
  databasePath : PyStr
  mappingStatus : PyStr
  resolvedRoot : Option PyStr
  mappingMode : Option MappingMode
  deriving DecidableEq

structure StorageMissingRow where
  rootSlug : PyStr
  relativePath : PyStr
  absolutePath : Option PurePath
  fileName : PyStr
  sizeBytes : Nat
  snapshotId : Nat
  generation : Nat
  deriving DecidableEq

structure OrphanRow where
  assetId : PyStr
  derivativeType : PyStr
  rootSlug : PyStr
  relativePath : PyStr
  absolutePath : PurePath
  databasePath : PyStr
  originalRelativePath : PyStr
  deriving DecidableEq

structure SnapshotBasisRow where
  rootSlug : PyStr
  snapshotId : Nat
  generation : Nat
  startedAt : Instant
  committedAt : Option Instant
  absolutePath : PyStr

/-! ## The comparison -/

/-- What is fixed while the asset rows are classified. -/
structure ComparisonContext where
  settings : StorageSettings
  text : CaseMapping
  latestFiles : List SnapshotFileRow
  assetRows : List AssetRow

namespace ComparisonContext

variable (context : ComparisonContext)

/-- `files_by_root[slug]`. -/
def filesOf (slug : PyStr) : List SnapshotFileRow :=
  context.latestFiles.filter fun row => row.rootSlug = slug

def uploadsIndex : List PyStr :=
  (context.filesOf sourceRootSlug).map (·.relativePath)

/-- `derivative_indexes.get(slug, set())`. -/
def derivativeIndex (slug : PyStr) : List PyStr :=
  if slug ∈ derivativeRootSlugs ∨ slug = sourceRootSlug then
    (context.filesOf slug).map (·.relativePath)
  else []

def livePhotoVideoIds : List PyStr :=
  context.assetRows.filterMap fun asset =>
    if (truthyPath asset.livePhotoVideoId).isSome then asset.livePhotoVideoId else none

/-- `_is_valid_motion_video_component`. -/
def isValidMotionVideoComponent (asset : AssetRow) (originalPath resolvedRoot : PyStr) : Bool :=
  resolvedRoot = py "video" &&
    context.text.upper (asset.type.getD []).strip = py "VIDEO" &&
    decide (py "/encoded-video/" <:+: originalPath.forwardSlashes) &&
    context.livePhotoVideoIds.contains asset.id.strip

end ComparisonContext

/-- What the loop over the asset rows fills; `originalByAsset` has the last entry first. -/
structure ClassifiedAssets where
  dbMissingRows : List DbMissingRow
  unmappedRows : List UnmappedRow
  dbOriginalIndex : List PyStr
  originalByAsset : List (PyStr × PyStr)
  totalAssetsScanned : Nat
  validMotionVideoComponents : Nat

def ClassifiedAssets.none : ClassifiedAssets :=
  ⟨[], [], [], [], 0, 0⟩

def dbMissingRow (asset : AssetRow) (originalPath : PyStr) (resolved : ResolvedStoragePath)
    (classification : Option PyStr) : DbMissingRow where
  assetId := asset.id
  assetName := truthyPath asset.originalFileName
  assetType := asset.type
  databasePath := originalPath
  resolvedRoot := resolved.rootSlug
  relativePath := resolved.relativePath
  mappingMode := resolved.mappingMode
  classification := classification

def unmappedRow (asset : AssetRow) (originalPath mappingStatus : PyStr)
    (resolved : Option ResolvedStoragePath) : UnmappedRow where
  assetId := asset.id
  assetName := truthyPath asset.originalFileName
  databasePath := originalPath
  mappingStatus := mappingStatus
  resolvedRoot := resolved.map (·.rootSlug)
  mappingMode := resolved.map (·.mappingMode)

/-- A round of the loop over the asset rows. -/
def classifyAsset (context : ComparisonContext) (classified : ClassifiedAssets) (asset : AssetRow) :
    ClassifiedAssets :=
  match truthyPath asset.originalPath with
  | none => classified
  | some originalPath =>
      let scanned :=
        { classified with totalAssetsScanned := classified.totalAssetsScanned + 1 }
      match resolve context.settings originalPath with
      | none =>
          let status := if looksLikeLegacyImmichPath originalPath then py "legacy_path_unmapped"
            else py "unrecognized_path"
          { scanned with
            unmappedRows := scanned.unmappedRows ++ [unmappedRow asset originalPath status none] }
      | some resolved =>
          if resolved.rootSlug ≠ sourceRootSlug then
            if context.isValidMotionVideoComponent asset originalPath resolved.rootSlug then
              if resolved.relativePath ∈ context.derivativeIndex resolved.rootSlug then
                { scanned with
                  validMotionVideoComponents := scanned.validMotionVideoComponents + 1 }
              else
                { scanned with
                  dbMissingRows := scanned.dbMissingRows ++
                    [dbMissingRow asset originalPath resolved
                      (some (py "valid_motion_video_component_missing_on_storage"))] }
            else
              { scanned with
                unmappedRows := scanned.unmappedRows ++
                  [unmappedRow asset originalPath (py "unexpected_root") (some resolved)] }
          else
            { scanned with
              dbOriginalIndex := resolved.relativePath :: scanned.dbOriginalIndex
              originalByAsset := (asset.id, resolved.relativePath) :: scanned.originalByAsset
              dbMissingRows :=
                if resolved.relativePath ∈ context.uploadsIndex then scanned.dbMissingRows
                else scanned.dbMissingRows ++ [dbMissingRow asset originalPath resolved none] }

/-! ## Files without an asset -/

/-- `_is_original_candidate`. -/
def isOriginalCandidate (text : CaseMapping) (row : SnapshotFileRow) : Bool :=
  text.lower (row.extension.getD []) ≠ py ".xmp" &&
    !(row.fileName = py ".immich" || (py ".fuse_hidden").isPrefixOf row.fileName) &&
    !(py ".xmp").isSuffixOf row.relativePath

def storageMissingRow (settings : StorageSettings) (row : SnapshotFileRow) : StorageMissingRow where
  rootSlug := row.rootSlug
  relativePath := row.relativePath
  absolutePath := settings.immichUploadsPath.map fun path => joinRoot path row.relativePath
  fileName := row.fileName
  sizeBytes := row.sizeBytes
  snapshotId := row.snapshotId
  generation := row.generation

def storageMissingRows (context : ComparisonContext) (dbOriginalIndex : List PyStr) :
    List StorageMissingRow :=
  (((context.filesOf sourceRootSlug).filter (isOriginalCandidate context.text)).filter
    fun row => row.relativePath ∉ dbOriginalIndex).map (storageMissingRow context.settings)

/-! ## Derivatives without an original -/

/-- `_append_orphan_row`; the keys are those of the rows there are. -/
def appendOrphanRow (context : ComparisonContext) (assetId originalRelativePath : PyStr)
    (orphans : List OrphanRow) (derivative : PyStr × PyStr) : List OrphanRow :=
  match resolve context.settings derivative.2 with
  | none => orphans
  | some resolved =>
      if resolved.relativePath ∉ context.derivativeIndex resolved.rootSlug then orphans
      else if orphans.any fun row => row.assetId = assetId && row.derivativeType = derivative.1 &&
          row.relativePath = resolved.relativePath then orphans
      else orphans ++
        [{ assetId := assetId
           derivativeType := derivative.1
           rootSlug := resolved.rootSlug
           relativePath := resolved.relativePath
           absolutePath := resolved.absolutePath
           databasePath := derivative.2
           originalRelativePath := originalRelativePath }]

/-- The derivatives of an asset with their types. -/
def derivativesOf (assetFileRows : List AssetFileRow) (asset : AssetRow) : List (PyStr × PyStr) :=
  ((truthyPath asset.encodedVideoPath).map fun path => (py "encoded_video", path)).toList ++
    (assetFileRows.filter fun row => row.assetId = asset.id).map fun row => (row.type, row.path)

def appendOrphansOf (context : ComparisonContext) (assetFileRows : List AssetFileRow)
    (originalByAsset : List (PyStr × PyStr)) (orphans : List OrphanRow) (asset : AssetRow) :
    List OrphanRow :=
  match originalByAsset.lookup asset.id with
  | none => orphans
  | some originalRelativePath =>
      if originalRelativePath ∈ context.uploadsIndex then orphans
      else (derivativesOf assetFileRows asset).foldl
        (appendOrphanRow context asset.id originalRelativePath) orphans

/-! ## Collection -/

structure CatalogConsistencyState where
  latestSnapshots : List LatestSnapshotRow
  latestFiles : List SnapshotFileRow
  assetRows : List AssetRow
  assetFileRows : List AssetFileRow
  zeroByteRows : List SnapshotFileRow
  classified : ClassifiedAssets
  storageMissingRows : List StorageMissingRow
  orphanRows : List OrphanRow
  snapshotBasis : List SnapshotBasisRow
  latestScanCommittedAt : Option Instant
  comparisonWindowStartedAt : Option Instant
  comparisonWindowCommittedAt : Option Instant
  configuredRootSlugs : List PyStr

inductive CollectError
  /-- A statement on the catalog fails. -/
  | catalog
  | snapshotsRequired
  | dsnRequired
  | connectionRequired
  deriving DecidableEq

def CollectError.message : CollectError → Option PyStr
  | catalog => none
  | snapshotsRequired =>
      some (py "Catalog consistency state requires current committed snapshots.")
  | dsnRequired => some (py "Database DSN is required to collect catalog consistency state.")
  | connectionRequired =>
      some (py "PostgreSQL connection is required to collect catalog consistency state.")

/-- The rows of the latest snapshots the state is based on. -/
def basisRows (snapshotState : CatalogSnapshotState) : List (StorageRoot × ScanSnapshot) :=
  snapshotState.latestSnapshots.filterMap fun row =>
    if row.snapshotCurrent && snapshotState.effectiveRootSlugs.contains row.root.slug then
      row.snapshot.map fun snapshot => (row.root, snapshot)
    else none

def snapshotBasisRow (entry : StorageRoot × ScanSnapshot) : SnapshotBasisRow where
  rootSlug := entry.1.slug
  snapshotId := entry.2.id
  generation := entry.2.generation
  startedAt := entry.2.startedAt
  committedAt := entry.2.committedAt
  absolutePath := entry.1.absolutePath

/-- The comparison of the asset rows with the catalog. -/
def compare (settings : StorageSettings) (text : CaseMapping) (db : CatalogDb)
    (snapshotState : CatalogSnapshotState) (assets : List AssetRow)
    (assetFiles : List AssetFileRow) : CatalogConsistencyState :=
  let startedAt := snapshotState.comparisonWindowStartedAt
  let latestFiles := (db.listLatestSnapshotFiles none none).filter fun row =>
    rowWithinSnapshotWindow startedAt row.modifiedAtFs
  let assetRows := assets.filter (assetWithinSnapshotWindow startedAt)
  let assetFileRows :=
    assetFiles.filter fun row => assetRows.any fun asset => asset.id = row.assetId
  let context : ComparisonContext := ⟨settings, text, latestFiles, assetRows⟩
  let classified := assetRows.foldl (classifyAsset context) .none
  { latestSnapshots := snapshotState.latestSnapshots
    latestFiles
    assetRows
    assetFileRows
    zeroByteRows := (db.listZeroByteFiles none 10000).filter fun row =>
      rowWithinSnapshotWindow startedAt row.modifiedAtFs
    classified
    storageMissingRows := storageMissingRows context classified.dbOriginalIndex
    orphanRows :=
      assetRows.foldl (appendOrphansOf context assetFileRows classified.originalByAsset) []
    snapshotBasis := (basisRows snapshotState).map snapshotBasisRow
    latestScanCommittedAt := ((basisRows snapshotState).filterMap (·.2.committedAt)).max?
    comparisonWindowStartedAt := startedAt
    comparisonWindowCommittedAt := snapshotState.comparisonWindowCommittedAt
    configuredRootSlugs := snapshotState.syncedRoots.map (·.slug) }

/-- `collect`: the catalog with its roots written, and the state. -/
def collect (resolvePath : PurePath → PurePath) (settings : StorageSettings) (text : CaseMapping)
    (now : PyStr → Instant) (postgres : PostgresAnswer) (db : CatalogDb) :
    Except CollectError (CatalogDb × CatalogConsistencyState) :=
  match prepareSnapshotState resolvePath settings now db with
  | none => .error .catalog
  | some (synced, snapshotState) =>
      if !snapshotState.ready then .error .snapshotsRequired
      else
        match postgres with
        | .noDsn => .error .dsnRequired
        | .unreachable => .error .connectionRequired
        | .tables assets assetFiles =>
            .ok (synced, compare settings text synced snapshotState assets assetFiles)

end ImmichDoctor.Catalog
