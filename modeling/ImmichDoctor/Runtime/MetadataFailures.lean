import ImmichDoctor.Runtime.MetadataRepair
/-!
# Causes of metadata failures

`MetadataFailureInspectService`: the cause of the failure of an asset, by what is found out
about its source file, and the actions it suggests and makes available. Messages that only
report are left out.
-/

namespace ImmichDoctor.Runtime

open ImmichDoctor.Library

inductive FileIntegrityStatus
  | fileOk
  | fileMissing
  | fileEmpty
  | filePermissionDenied
  | fileTruncated
  | fileContainerBroken
  | fileCorrupted
  | fileTypeMismatch
  | fileUnknownProblem
  deriving DecidableEq

inductive MetadataFailureCause
  | causedByMissingFile
  | causedByEmptyFile
  | causedByCorruptedFile
  | causedByPermissionError
  | causedByPathMismatch
  | causedByUnsupportedFormat
  | causedByRuntimeToolingError
  | immichBugSuspected
  | unknown
  deriving DecidableEq

inductive MetadataFailureLevel
  | primary
  | secondary
  deriving DecidableEq

inductive ConfidenceLevel
  | high
  | medium
  | low
  deriving DecidableEq

/-- What is found out about the source file of an asset. -/
structure SourceFinding where
  status : FileIntegrityStatus
  path : PyStr
  /-- `details["probe_error_category"]`. -/
  probeErrorCategory : Option PyStr

/-- `_is_path_mismatch`; `resolvePath` stands for `Path.resolve`. -/
def isPathMismatch (resolvePath : PurePath → PurePath) (libraryRoot : Option PurePath)
    (pathValue : PyStr) : Bool :=
  let path := PurePath.parse pathValue
  if path.anchor = .relative then true
  else
    match libraryRoot with
    | none => false
    | some root => ((resolvePath path).relativeTo? (resolvePath root)).isNone

/-- `_classify_root_cause`. -/
def classifyRootCause (resolvePath : PurePath → PurePath) (libraryRoot : Option PurePath)
    (finding : SourceFinding) :
    MetadataFailureCause × MetadataFailureLevel × SuggestedAction × ConfidenceLevel :=
  let unexplained :=
    if finding.probeErrorCategory = some (py "tool_missing") ∨
        finding.probeErrorCategory = some (py "runtime_tooling_error") then
      (.causedByRuntimeToolingError, .primary, .inspectRuntimeTooling, .medium)
    else if finding.status = .fileOk then (.immichBugSuspected, .primary, .retryJobs, .low)
    else (.unknown, .primary, .dangerousUnknown, .low)
  match finding.status with
  | .fileMissing =>
      if isPathMismatch resolvePath libraryRoot finding.path then
        (.causedByPathMismatch, .secondary, .reportOnly, .medium)
      else (.causedByMissingFile, .secondary, .reportOnly, .high)
  | .fileEmpty => (.causedByEmptyFile, .secondary, .markUnrecoverable, .high)
  | .filePermissionDenied => (.causedByPermissionError, .secondary, .fixPermissions, .high)
  | .fileTruncated | .fileContainerBroken | .fileCorrupted =>
      (.causedByCorruptedFile, .secondary, .quarantineCorrupt, .high)
  | .fileTypeMismatch => (.causedByUnsupportedFormat, .secondary, .markUnrecoverable, .medium)
  | .fileOk | .fileUnknownProblem => unexplained

/-- `_available_actions`. -/
def availableActions : MetadataFailureCause → List SuggestedAction
  | .causedByMissingFile => [.reportOnly, .markUnrecoverable]
  | .causedByEmptyFile => [.reportOnly, .markUnrecoverable]
  | .causedByCorruptedFile => [.reportOnly, .quarantineCorrupt]
  | .causedByPermissionError => [.fixPermissions, .reportOnly]
  | .causedByPathMismatch => [.reportOnly]
  | .causedByUnsupportedFormat => [.reportOnly, .markUnrecoverable]
  | .causedByRuntimeToolingError => [.inspectRuntimeTooling, .reportOnly]
  | .immichBugSuspected => [.retryJobs, .requeue, .reportOnly]
  | .unknown => [.dangerousUnknown]

/-- An asset row with the finding of its source file. -/
structure MetadataFailureCandidate where
  assetId : PyStr
  originalPath : PyStr
  source : Option SourceFinding

/-- `_build_diagnostic`. -/
def buildDiagnostic (resolvePath : PurePath → PurePath) (libraryRoot : Option PurePath)
    (candidate : MetadataFailureCandidate) : MetadataFailureDiagnostic :=
  let diagnosticId := py "metadata_failure:" ++ candidate.assetId
  match candidate.source with
  | none =>
      { diagnosticId := diagnosticId
        assetId := candidate.assetId
        suggestedAction := .dangerousUnknown
        sourcePath := candidate.originalPath
        availableActions := [.dangerousUnknown] }
  | some finding =>
      let (rootCause, _, suggestedAction, _) := classifyRootCause resolvePath libraryRoot finding
      { diagnosticId := diagnosticId
        assetId := candidate.assetId
        suggestedAction := suggestedAction
        sourcePath := finding.path
        availableActions := availableActions rootCause }

end ImmichDoctor.Runtime
