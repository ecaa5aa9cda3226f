import ImmichDoctor.Catalog.ConsistencyState
import ImmichDoctor.Library.JsonValue
/-!
# Broken originals

The findings of `CatalogRemediationService` about assets whose original is missing: the
search for a file of the same name among the cached ones, the comparison of its checksum
with that of the asset, and the classification that decides what may be done.
-/

namespace ImmichDoctor.Catalog

open ImmichDoctor.Library
open ImmichDoctor.Storage

/-! ## Models -/

inductive CatalogRemediationFindingKind
  | brokenDbOriginal
  | zeroByteFile
  | fuseHiddenOrphan
  deriving DecidableEq

def CatalogRemediationFindingKind.value : CatalogRemediationFindingKind → PyStr
  | .brokenDbOriginal => py "broken_db_original"
  | .zeroByteFile => py "zero_byte_file"
  | .fuseHiddenOrphan => py "fuse_hidden_orphan"

inductive CatalogRemediationActionKind
  | brokenDbCleanup
  | brokenDbPathFix
  | zeroByteDelete
  | fuseHiddenDelete
  deriving DecidableEq

def CatalogRemediationActionKind.value : CatalogRemediationActionKind → PyStr
  | .brokenDbCleanup => py "broken_db_cleanup"
  | .brokenDbPathFix => py "broken_db_path_fix"
  | .zeroByteDelete => py "zero_byte_delete"
  | .fuseHiddenDelete => py "fuse_hidden_delete"

inductive BrokenDbOriginalClassification
  | missingConfirmed
  | foundElsewhere
  | foundWithHashMatch
  | unresolvedSearchError
  deriving DecidableEq

def BrokenDbOriginalClassification.value : BrokenDbOriginalClassification → PyStr
  | .missingConfirmed => py "missing_confirmed"
  | .foundElsewhere => py "found_elsewhere"
  | .foundWithHashMatch => py "found_with_hash_match"
  | .unresolvedSearchError => py "unresolved_search_error"

structure BrokenDbOriginalFinding where
  findingId : PyStr
  kind : CatalogRemediationFindingKind
  assetId : PyStr
  assetName : Option PyStr
  assetType : Option PyStr
  classification : BrokenDbOriginalClassification
  expectedDatabasePath : PyStr
  expectedRelativePath : PyStr
  expectedAbsolutePath : Option PyStr
  foundRootSlug : Option PyStr
  foundRelativePath : Option PyStr
  foundAbsolutePath : Option PyStr
  foundSizeBytes : Option Nat
  expectedSizeBytes : Option Nat
  checksumValue : Option PyStr
  checksumAlgorithm : Option PyStr
  checksumMatch : Option Bool
  ownerId : Option PyStr
  ownerLabel : Option PyStr
  eligibleActions : List CatalogRemediationActionKind
  actionReason : PyStr
  searchError : Option PyStr := none
  message : PyStr := []

namespace BrokenDbOriginalFinding

def supportsAction (finding : BrokenDbOriginalFinding) (action : CatalogRemediationActionKind) :
    Bool :=
  finding.eligibleActions.contains action

def textValue (value : Option PyStr) : JsonValue :=
  value.elim .null .str

def sizeValue (value : Option Nat) : JsonValue :=
  value.elim .null fun n => .int n

/-- `to_dict`. -/
def toDict (finding : BrokenDbOriginalFinding) : JsonValue :=
  .obj
    [(py "finding_id", .str finding.findingId),
      (py "kind", .str finding.kind.value),
      (py "asset_id", .str finding.assetId),
      (py "asset_name", textValue finding.assetName),
      (py "asset_type", textValue finding.assetType),
      (py "classification", .str finding.classification.value),
      (py "expected_database_path", .str finding.expectedDatabasePath),
      (py "expected_relative_path", .str finding.expectedRelativePath),
      (py "expected_absolute_path", textValue finding.expectedAbsolutePath),
      (py "found_root_slug", textValue finding.foundRootSlug),
      (py "found_relative_path", textValue finding.foundRelativePath),
      (py "found_absolute_path", textValue finding.foundAbsolutePath),
      (py "found_size_bytes", sizeValue finding.foundSizeBytes),
      (py "expected_size_bytes", sizeValue finding.expectedSizeBytes),
      (py "checksum_value", textValue finding.checksumValue),
      (py "checksum_algorithm", textValue finding.checksumAlgorithm),
      (py "checksum_match", finding.checksumMatch.elim .null .bool),
      (py "owner_id", textValue finding.ownerId),
      (py "owner_label", textValue finding.ownerLabel),
      (py "eligible_actions", .list (finding.eligibleActions.map fun action => .str action.value)),
      (py "action_eligible", .bool !finding.eligibleActions.isEmpty),
      (py "action_reason", .str finding.actionReason),
      (py "search_error", textValue finding.searchError),
      (py "message", .str finding.message)]

end BrokenDbOriginalFinding

/-! ## What the service reads -/

/-- A row of `list_users_for_catalog_consistency`. -/
structure UserRow where
  id : Option PyStr
  name : Option PyStr
  storageLabel : Option PyStr
  email : Option PyStr
  firstName : Option PyStr
  lastName : Option PyStr

/-- `FilesystemAdapter`, as far as the search uses it. `path_exists` may raise, with the
given text; the digest of a file's content is `none` where it cannot be computed. -/
structure StorageReads where
  pathExists : PurePath → Except PyStr Bool
  digest : PurePath → PyStr → Option (List UInt8)

/-- `compute_file_checksum`, by the name of the algorithm. -/
def StorageReads.computeFileChecksum (reads : StorageReads) (path : PurePath) (algorithm : PyStr) :
    Option PyStr :=
  (reads.digest path algorithm).map hexBytes

/-- What the findings are built from besides the state. -/
structure RemediationContext where
  settings : StorageSettings
  text : CaseMapping
  reads : StorageReads
  /-- `none` without a DSN and when the query fails. -/
  users : Option (List UserRow)

/-! ## Owners -/

/-- `_display_name_for_user`. -/
def displayNameForUser (row : UserRow) : PyStr :=
  match truthyPath row.name <|> truthyPath row.storageLabel <|> truthyPath row.email with
  | some value => value
  | none =>
      match truthyPath row.firstName, truthyPath row.lastName with
      | some first, some last => first ++ py " " ++ last
      | some name, none | none, some name => name
      | none, none => if row.id.getD [] = [] then py "Unknown owner" else row.id.getD []

/-- `_owner_labels`, with the last entry first. -/
def ownerLabels (users : Option (List UserRow)) : List (PyStr × PyStr) :=
  ((users.getD []).filterMap fun row =>
    (truthyPath row.id).map fun ownerId => (ownerId, displayNameForUser row)).reverse

/-- `text.strip("/")`. -/
def stripSlashes (text : PyStr) : PyStr :=
  ((text.dropWhile (· = 47)).reverse.dropWhile (· = 47)).reverse

/-- `_owner_label_from_relative_path`. -/
def ownerLabelFromRelativePath (relativePath : PyStr) : Option PyStr :=
  let normalized := stripSlashes relativePath.forwardSlashes
  if normalized = [] then none
  else
    let firstSegment := PyStr.strip (normalized.takeWhile (· ≠ 47))
    if firstSegment = [] then none else some firstSegment

/-- `_resolve_owner_label`. -/
def resolveOwnerLabel (ownerId : Option PyStr) (relativePath : PyStr)
    (labels : List (PyStr × PyStr)) : Option PyStr :=
  match ownerId.bind fun id => labels.lookup id with
  | some label => some label
  | none => if relativePath = [] then none else ownerLabelFromRelativePath relativePath

/-- `asset_owner_ids.get(asset_id)`. -/
def assetOwnerId (assetRows : List AssetRow) (assetId : PyStr) : Option PyStr :=
  (assetRows.reverse.find? fun asset => asset.id = assetId).bind fun asset =>
    truthyPath asset.ownerId

/-! ## Checksums -/

/-- `_asset_checksum_value`. -/
def assetChecksumValue (asset : AssetRow) : Option PyStr :=
  truthyPath (asset.checksum.map ChecksumValue.str) <|>
    truthyPath (asset.originalChecksum.map ChecksumValue.str)

/-- The text without the `\x` it may start with. -/
def withoutHexPrefix (text : PyStr) : PyStr :=
  if [92, 120] <+: text then text.drop 2 else text

def isHexOf (length : Nat) (text : PyStr) : Bool :=
  text.length = length && text.all fun c => (py "0123456789abcdef").contains c

/-- `_asset_checksum_algorithm`. -/
def assetChecksumAlgorithm (text : CaseMapping) (asset : AssetRow) : Option PyStr :=
  match truthyPath asset.checksumAlgorithm with
  | some explicitAlgorithm => some (text.lower explicitAlgorithm)
  | none =>
      (assetChecksumValue asset).bind fun checksumValue =>
        let normalized := withoutHexPrefix (text.lower checksumValue)
        if isHexOf 64 normalized then some (py "sha256")
        else if isHexOf 40 normalized then some (py "sha1")
        else none

/-- `_verify_file_checksum`. -/
def verifyFileChecksum (context : RemediationContext) (path : PurePath)
    (checksumValue checksumAlgorithm : PyStr) : Except PyStr (Option Bool) := do
  if !(← context.reads.pathExists path) then return none
  let normalized := withoutHexPrefix (context.text.lower checksumValue.strip)
  return (context.reads.computeFileChecksum path checksumAlgorithm).map fun actual =>
    context.text.lower actual = normalized

/-- The comparison a finding makes, when the asset has both a value and an algorithm. -/
def checksumMatch (context : RemediationContext) (asset : AssetRow) (absolutePath : PyStr) :
    Except PyStr (Option Bool) :=
  match assetChecksumValue asset, assetChecksumAlgorithm context.text asset with
  | some checksumValue, some checksumAlgorithm =>
      if checksumAlgorithm = [] then .ok none
      else verifyFileChecksum context (.parse absolutePath) checksumValue checksumAlgorithm
  | _, _ => .ok none

/-! ## The search -/

/-- `root / text`. -/
def slash (root : PurePath) (text : PyStr) : PurePath :=
  if (PurePath.parse text).anchor = .relative then joinRoot root text else .parse text

/-- `_root_path_for`. -/
def rootPathFor (settings : StorageSettings) (rootSlug : PyStr) : Option PurePath :=
  if rootSlug = py "uploads" then settings.immichUploadsPath
  else if rootSlug = py "thumbs" then settings.immichThumbsPath
  else if rootSlug = py "profile" then settings.immichProfilePath
  else if rootSlug = py "video" then settings.immichVideoPath
  else if rootSlug = py "library" then settings.immichLibraryRoot
  else none

structure LocatedFile where
  rootSlug : PyStr
  relativePath : PyStr
  absolutePath : PyStr
  fileName : PyStr
  sizeBytes : Nat

/-- `_absolute_path_for(...) or Path(root_slug) / relative_path`, as text. -/
def absolutePathOf (settings : StorageSettings) (item : SnapshotFileRow) : PyStr :=
  (slash ((rootPathFor settings item.rootSlug).getD (.parse item.rootSlug)) item.relativePath).text

def locatedFile (settings : StorageSettings) (item : SnapshotFileRow) : LocatedFile where
  rootSlug := item.rootSlug
  relativePath := item.relativePath
  absolutePath := absolutePathOf settings item
  fileName := item.fileName
  sizeBytes := item.sizeBytes

/-- `files_by_name.get(name, [])`. -/
def filesNamed (latestFiles : List SnapshotFileRow) (name : PyStr) : List SnapshotFileRow :=
  latestFiles.filter fun row => row.fileName ≠ [] && row.fileName = name

/-- `_search_for_relocated_file`. -/
def searchForRelocatedFile (settings : StorageSettings) (latestFiles : List SnapshotFileRow)
    (assetName expectedRelativePath : PyStr) : Option LocatedFile :=
  if assetName = [] then none
  else
    ((filesNamed latestFiles assetName).find? fun item =>
      !(item.rootSlug = sourceRootSlug && item.relativePath = expectedRelativePath)).map
        (locatedFile settings)

/-! ## Findings -/

/-- `str(asset.get("originalFileName") or "").strip()`. -/
def AssetRow.searchName (asset : AssetRow) : PyStr :=
  (asset.originalFileName.getD []).strip

/-- `value or None` of a text. -/
def textOrNone (value : PyStr) : Option PyStr :=
  if value = [] then none else some value

section Findings

variable (context : RemediationContext) (state : CatalogConsistencyState) (uploadsRoot : PurePath)
  (asset : AssetRow) (row : DbMissingRow)

/-- What all findings about a missing row have in common; it is that of a search error. -/
def searchErrorFinding (searchError : PyStr) : BrokenDbOriginalFinding where
  findingId := py "broken-db-original:" ++ row.assetId
  kind := .brokenDbOriginal
  assetId := row.assetId
  assetName := textOrNone asset.searchName
  assetType := textOrNone (asset.type.getD [])
  classification := .unresolvedSearchError
  expectedDatabasePath := row.databasePath
  expectedRelativePath := row.relativePath
  expectedAbsolutePath := some (slash uploadsRoot row.relativePath).text
  foundRootSlug := none
  foundRelativePath := none
  foundAbsolutePath := none
  foundSizeBytes := none
  expectedSizeBytes := none
  checksumValue := assetChecksumValue asset
  checksumAlgorithm := assetChecksumAlgorithm context.text asset
  checksumMatch := none
  ownerId := assetOwnerId state.assetRows row.assetId
  ownerLabel := resolveOwnerLabel (assetOwnerId state.assetRows row.assetId) row.relativePath
    (ownerLabels context.users)
  eligibleActions := []
  actionReason := py "Relocation search did not complete safely."
  searchError := some searchError
  message := py "Relocation search failed and the row remains inspect-only."

def missingConfirmedFinding : BrokenDbOriginalFinding :=
  { searchErrorFinding context state uploadsRoot asset row [] with
    classification := .missingConfirmed
    eligibleActions := [.brokenDbCleanup]
    actionReason := py ("The expected storage path is absent and no candidate file was found " ++
      "in the current cached storage inventory.")
    searchError := none
    message := py ("Expected storage path is missing and the cached storage inventory " ++
      "found no relocation candidate.") }

/-- `_build_located_broken_db_finding`, once the checksums have been compared. -/
def locatedFinding (located : LocatedFile) (matched : Option Bool) : BrokenDbOriginalFinding :=
  let found : BrokenDbOriginalFinding :=
    { searchErrorFinding context state uploadsRoot asset row [] with
      findingId := py "broken-db-original:" ++ asset.id
      assetId := asset.id
      assetName := truthyPath asset.originalFileName
      assetType := truthyPath asset.type
      foundRootSlug := some located.rootSlug
      foundRelativePath := some located.relativePath
      foundAbsolutePath := some located.absolutePath
      foundSizeBytes := some located.sizeBytes
      checksumMatch := matched
      searchError := none
      classification := .foundElsewhere
      message := py ("Expected storage path is missing, but a candidate file was found " ++
        "elsewhere in the cached storage inventory.") }
  if matched = some true ∧ located.rootSlug = sourceRootSlug then
    { found with
      classification := .foundWithHashMatch
      eligibleActions := [.brokenDbPathFix]
      actionReason := py ("The candidate file matches the DB checksum and can be used " ++
        "for an explicit DB path fix.")
      message := py ("A relocated file was found and its checksum matches the DB checksum. " ++
        "This row is eligible for explicit path correction.") }
  else if matched = some false then
    { found with
      actionReason := py ("A candidate file was found, but its checksum does not match " ++
        "the DB checksum.") }
  else if (assetChecksumValue asset).isSome ∧
      assetChecksumAlgorithm context.text asset = none then
    { found with
      actionReason := py ("A candidate file was found, but the DB checksum format is " ++
        "not supported for auto-verification.") }
  else
    { found with
      actionReason := py ("A candidate file was found elsewhere in storage. " ++
        "This row remains inspect-only by default.") }

/-- The finding about a missing row of an asset. -/
def findingOfAsset : BrokenDbOriginalFinding :=
  match searchForRelocatedFile context.settings state.latestFiles asset.searchName
      row.relativePath with
  | none => missingConfirmedFinding context state uploadsRoot asset row
  | some located =>
      match checksumMatch context asset located.absolutePath with
      | .error searchError => searchErrorFinding context state uploadsRoot asset row searchError
      | .ok matched => locatedFinding context state uploadsRoot asset row located matched

/-- A round of the loop over the missing rows. -/
def brokenDbOriginalFinding : Option BrokenDbOriginalFinding :=
  match context.settings.immichUploadsPath,
      state.assetRows.find? fun item => item.id = row.assetId with
  | some uploadsRoot, some asset => some (findingOfAsset context state uploadsRoot asset row)
  | _, _ => none

/-- `_build_broken_db_original_findings`. -/
def buildBrokenDbOriginalFindings : List BrokenDbOriginalFinding :=
  state.classified.dbMissingRows.filterMap (brokenDbOriginalFinding context state)

end Findings

end ImmichDoctor.Catalog
