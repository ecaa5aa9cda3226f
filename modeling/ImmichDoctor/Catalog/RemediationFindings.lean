import ImmichDoctor.Catalog.BrokenOriginals
/-!
# Findings about files

The findings of `CatalogRemediationService` about files of the current snapshots: files
without content, and what a FUSE mount has left of files that were open when they were
deleted. Rows of one asset id are one row, as the ids are those of a primary key.
-/

namespace ImmichDoctor.Catalog

open ImmichDoctor.Library
open ImmichDoctor.Storage

/-- `_absolute_path_for`. -/
def absolutePathFor (settings : StorageSettings) (rootSlug relativePath : PyStr) :
    Option PurePath :=
  (rootPathFor settings rootSlug).map fun root => slash root relativePath

/-! ## Files without content -/

inductive ZeroByteClassification
  | zeroByteUploadOrphan
  | zeroByteUploadCritical
  | zeroByteVideoDerivative
  | zeroByteThumbDerivative
  | ignoreInternal
  deriving DecidableEq

def ZeroByteClassification.value : ZeroByteClassification → PyStr
  | .zeroByteUploadOrphan => py "zero_byte_upload_orphan"
  | .zeroByteUploadCritical => py "zero_byte_upload_critical"
  | .zeroByteVideoDerivative => py "zero_byte_video_derivative"
  | .zeroByteThumbDerivative => py "zero_byte_thumb_derivative"
  | .ignoreInternal => py "ignore_internal"

structure ZeroByteFinding where
  findingId : PyStr
  kind : CatalogRemediationFindingKind
  rootSlug : PyStr
  relativePath : PyStr
  absolutePath : PyStr
  fileName : PyStr
  sizeBytes : Nat
  classification : ZeroByteClassification
  assetId : Option PyStr
  assetName : Option PyStr
  ownerId : Option PyStr
  ownerLabel : Option PyStr
  dbReferenceKind : Option PyStr
  originalRelativePath : Option PyStr
  eligibleActions : List CatalogRemediationActionKind
  actionReason : PyStr
  message : PyStr := []

namespace ZeroByteFinding

def supportsAction (finding : ZeroByteFinding) (action : CatalogRemediationActionKind) : Bool :=
  finding.eligibleActions.contains action

/-- `to_dict`. -/
def toDict (finding : ZeroByteFinding) : JsonValue :=
  .obj
    [(py "finding_id", .str finding.findingId),
      (py "kind", .str finding.kind.value),
      (py "root_slug", .str finding.rootSlug),
      (py "relative_path", .str finding.relativePath),
      (py "absolute_path", .str finding.absolutePath),
      (py "file_name", .str finding.fileName),
      (py "size_bytes", .int finding.sizeBytes),
      (py "classification", .str finding.classification.value),
      (py "asset_id", BrokenDbOriginalFinding.textValue finding.assetId),
      (py "asset_name", BrokenDbOriginalFinding.textValue finding.assetName),
      (py "owner_id", BrokenDbOriginalFinding.textValue finding.ownerId),
      (py "owner_label", BrokenDbOriginalFinding.textValue finding.ownerLabel),
      (py "db_reference_kind", BrokenDbOriginalFinding.textValue finding.dbReferenceKind),
      (py "original_relative_path",
        BrokenDbOriginalFinding.textValue finding.originalRelativePath),
      (py "eligible_actions", .list (finding.eligibleActions.map fun action => .str action.value)),
      (py "action_eligible", .bool !finding.eligibleActions.isEmpty),
      (py "action_reason", .str finding.actionReason),
      (py "message", .str finding.message)]

end ZeroByteFinding

section ZeroByte

variable (context : RemediationContext) (state : CatalogConsistencyState)

/-- `_build_derivative_asset_index`, with the last entry first. -/
def buildDerivativeAssetIndex : List ((PyStr × PyStr) × PyStr) :=
  let entry (pathText : Option PyStr) (assetId : PyStr) : Option ((PyStr × PyStr) × PyStr) :=
    ((truthyPath pathText).bind (resolve context.settings)).map fun resolved =>
      ((resolved.rootSlug, resolved.relativePath), assetId)
  ((state.assetRows.filterMap fun asset => entry asset.encodedVideoPath asset.id) ++
    state.assetFileRows.filterMap fun derivative => entry (some derivative.path) derivative.assetId
    ).reverse

/-- `original_asset_by_relative.get(relative_path)`. -/
def originalAssetByRelative (relativePath : PyStr) : Option PyStr :=
  (state.classified.originalByAsset.find? fun entry => entry.2 = relativePath).map (·.1)

/-- `asset_by_id.get(asset_id) if asset_id is not None else None`. -/
def assetById (assetId : Option PyStr) : Option AssetRow :=
  assetId.bind fun id => state.assetRows.reverse.find? fun asset => asset.id = id

/-- What all findings about a file without content have in common; it is that of an upload
without an asset. -/
def zeroByteOrphanFinding (row : SnapshotFileRow) (absolutePath : PurePath) : ZeroByteFinding where
  findingId := py "zero-byte:" ++ row.rootSlug ++ 58 :: row.relativePath
  kind := .zeroByteFile
  rootSlug := row.rootSlug
  relativePath := row.relativePath
  absolutePath := absolutePath.text
  fileName := row.fileName
  sizeBytes := row.sizeBytes
  classification := .zeroByteUploadOrphan
  assetId := none
  assetName := none
  ownerId := none
  ownerLabel := ownerLabelFromRelativePath row.relativePath
  dbReferenceKind := some (py "none")
  originalRelativePath := none
  eligibleActions := []
  actionReason := py ("The zero-byte upload has no DB original reference and should be " ++
    "quarantined before any final delete.")
  message := py ("The zero-byte upload is an orphan storage artifact and is limited " ++
    "to quarantine-first handling.")

/-- The finding about a file without content of an asset. -/
def zeroByteAssetFinding (row : SnapshotFileRow) (absolutePath : PurePath) (asset : AssetRow) :
    ZeroByteFinding :=
  let ownerId := assetOwnerId state.assetRows asset.id
  { zeroByteOrphanFinding row absolutePath with
    assetId := some asset.id
    assetName := truthyPath asset.originalFileName
    ownerId := ownerId
    ownerLabel := resolveOwnerLabel ownerId row.relativePath (ownerLabels context.users) }

def zeroByteCriticalFinding (row : SnapshotFileRow) (absolutePath : PurePath) (asset : AssetRow) :
    ZeroByteFinding :=
  { zeroByteAssetFinding context state row absolutePath asset with
    classification := .zeroByteUploadCritical
    dbReferenceKind := some (py "original_path")
    originalRelativePath := some row.relativePath
    actionReason := py ("The zero-byte upload is referenced by the DB as the original file " ++
      "and may only be quarantined.")
    message := py ("The original upload is zero bytes, remains wired in the DB, and " ++
      "must not be deleted directly.") }

def zeroByteDerivativeFinding (row : SnapshotFileRow) (absolutePath : PurePath) (asset : AssetRow)
    (originalRelativePath : PyStr) : ZeroByteFinding :=
  { zeroByteAssetFinding context state row absolutePath asset with
    classification :=
      if row.rootSlug = py "video" then .zeroByteVideoDerivative else .zeroByteThumbDerivative
    dbReferenceKind := some (py "derivative_path")
    originalRelativePath := some originalRelativePath
    actionReason := py ("The zero-byte derivative is linked to an asset whose " ++
      "original upload still exists and should be quarantined first.")
    message := py ("The derivative is zero bytes and remains DB-linked, so it is limited " ++
      "to quarantine-first handling.") }

/-- `state.uploads_rows`. -/
def uploadsRows : List SnapshotFileRow :=
  state.latestFiles.filter fun row => row.rootSlug = sourceRootSlug

/-- A round of the loop over the files without content. -/
def zeroByteFinding (row : SnapshotFileRow) : Option ZeroByteFinding :=
  if row.fileName = py ".immich" || (py ".fuse_hidden").isPrefixOf row.fileName then none
  else
    match absolutePathFor context.settings row.rootSlug row.relativePath with
    | none => none
    | some absolutePath =>
        if row.rootSlug = sourceRootSlug then
          match assetById state (originalAssetByRelative state row.relativePath) with
          | some asset => some (zeroByteCriticalFinding context state row absolutePath asset)
          | none => some (zeroByteOrphanFinding row absolutePath)
        else if row.rootSlug ≠ py "thumbs" ∧ row.rootSlug ≠ py "video" then none
        else
          match assetById state
              ((buildDerivativeAssetIndex context state).lookup (row.rootSlug,
                row.relativePath)) with
          | none => none
          | some asset =>
              match state.classified.originalByAsset.lookup asset.id with
              | none => none
              | some originalRelativePath =>
                  if originalRelativePath ∈ (uploadsRows state).map (·.relativePath) then
                    some (zeroByteDerivativeFinding context state row absolutePath asset
                      originalRelativePath)
                  else none

/-- `_build_zero_byte_findings`. -/
def buildZeroByteFindings : List ZeroByteFinding :=
  state.zeroByteRows.filterMap (zeroByteFinding context state)

end ZeroByte

/-! ## Hidden files of a FUSE mount -/

inductive FuseHiddenOrphanClassification
  | blockedInUse
  | deletableOrphan
  | checkFailed
  deriving DecidableEq

def FuseHiddenOrphanClassification.value : FuseHiddenOrphanClassification → PyStr
  | .blockedInUse => py "blocked_in_use"
  | .deletableOrphan => py "deletable_orphan"
  | .checkFailed => py "check_failed"

structure FuseHiddenOrphanFinding where
  findingId : PyStr
  kind : CatalogRemediationFindingKind
  rootSlug : PyStr
  relativePath : PyStr
  absolutePath : PyStr
  fileName : PyStr
  sizeBytes : Nat
  classification : FuseHiddenOrphanClassification
  ownerId : Option PyStr
  ownerLabel : Option PyStr
  eligibleActions : List CatalogRemediationActionKind
  actionReason : PyStr
  inUseCheckTool : Option PyStr
  inUseCheckReason : Option PyStr
  message : PyStr := []

namespace FuseHiddenOrphanFinding

def supportsAction (finding : FuseHiddenOrphanFinding) (action : CatalogRemediationActionKind) :
    Bool :=
  finding.eligibleActions.contains action

/-- `to_dict`. -/
def toDict (finding : FuseHiddenOrphanFinding) : JsonValue :=
  .obj
    [(py "finding_id", .str finding.findingId),
      (py "kind", .str finding.kind.value),
      (py "root_slug", .str finding.rootSlug),
      (py "relative_path", .str finding.relativePath),
      (py "absolute_path", .str finding.absolutePath),
      (py "file_name", .str finding.fileName),
      (py "size_bytes", .int finding.sizeBytes),
      (py "classification", .str finding.classification.value),
      (py "owner_id", BrokenDbOriginalFinding.textValue finding.ownerId),
      (py "owner_label", BrokenDbOriginalFinding.textValue finding.ownerLabel),
      (py "eligible_actions", .list (finding.eligibleActions.map fun action => .str action.value)),
      (py "action_eligible", .bool !finding.eligibleActions.isEmpty),
      (py "action_reason", .str finding.actionReason),
      (py "in_use_check_tool", BrokenDbOriginalFinding.textValue finding.inUseCheckTool),
      (py "in_use_check_reason", BrokenDbOriginalFinding.textValue finding.inUseCheckReason),
      (py "message", .str finding.message)]

end FuseHiddenOrphanFinding

/-- What `inspect_open_file_handles` says of a path. -/
inductive HandleStatus
  | skipped
  | unavailable
  | failed
  | inUse
  | notInUse
  deriving DecidableEq

structure HandleInspection where
  status : HandleStatus
  tool : Option PyStr
  reason : PyStr

section FuseHidden

variable (inspectOpenFileHandles : PurePath → HandleInspection)

/-- The finding about a hidden file whose use could not be checked. -/
def fuseCheckFailedFinding (uploadsRoot : PurePath) (row : SnapshotFileRow) :
    FuseHiddenOrphanFinding :=
  let absolutePath := slash uploadsRoot row.relativePath
  let inspection := inspectOpenFileHandles absolutePath
  { findingId := py "fuse-hidden:" ++ row.rootSlug ++ 58 :: row.relativePath
    kind := .fuseHiddenOrphan
    rootSlug := row.rootSlug
    relativePath := row.relativePath
    absolutePath := absolutePath.text
    fileName := row.fileName
    sizeBytes := row.sizeBytes
    classification := .checkFailed
    ownerId := none
    ownerLabel := ownerLabelFromRelativePath row.relativePath
    eligibleActions := [.fuseHiddenDelete]
    actionReason := py ("The in-use check is unavailable from the current runtime. " ++
      "Try deleting the artifact directly; if it is still locked, deletion will fail.")
    inUseCheckTool := inspection.tool
    inUseCheckReason := truthyPath (some inspection.reason)
    message := py ("The in-use check could not be completed safely, but a direct delete " ++
      "can still be attempted.") }

/-- A round of the loop over the uploaded files. -/
def fuseHiddenFinding (uploadsRoot : PurePath) (row : SnapshotFileRow) :
    Option FuseHiddenOrphanFinding :=
  if row.fileName = py ".immich" || !(py ".fuse_hidden").isPrefixOf row.fileName then none
  else
    let unchecked := fuseCheckFailedFinding inspectOpenFileHandles uploadsRoot row
    match (inspectOpenFileHandles (slash uploadsRoot row.relativePath)).status with
    | .inUse =>
        some { unchecked with
          classification := .blockedInUse
          eligibleActions := []
          actionReason := py "The orphan artifact is still held open by a process."
          message := py "The file is still in use and cannot be removed safely." }
    | .skipped =>
        some { unchecked with
          classification := .deletableOrphan
          actionReason := py ("Container runtime skips host-only lock checks. " ++
            "Try deleting the artifact directly; if it is still locked, deletion will fail.")
          message := py ("Container runtime cannot reliably inspect host-managed FUSE locks. " ++
            "Try deleting the orphan artifact directly.") }
    | .notInUse =>
        some { unchecked with
          classification := .deletableOrphan
          actionReason := py
            "The orphan artifact is not reported as in use. Try deleting it directly."
          message := py "The orphan artifact can be deleted directly." }
    | .unavailable | .failed => some unchecked

/-- `_build_fuse_hidden_findings`. -/
def buildFuseHiddenFindings (settings : StorageSettings) (state : CatalogConsistencyState) :
    List FuseHiddenOrphanFinding :=
  match settings.immichUploadsPath with
  | none => []
  | some uploadsRoot =>
      (uploadsRows state).filterMap (fuseHiddenFinding inspectOpenFileHandles uploadsRoot)

end FuseHidden

end ImmichDoctor.Catalog
