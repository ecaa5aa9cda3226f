import ImmichDoctor.Backup.SnapshotRuns
import ImmichDoctor.Catalog.Observation
import ImmichDoctor.Core.Models
/-!
# Readers of snapshots

What is made of the manifests of the folder: the checks of `BackupVerifyService`, the list of
`BackupSnapshotVisibilityService` and the simulation of `BackupRestoreSimulationService`. An id
of a snapshot is a name. The texts of errors, the instructions and the recommendations are left
out.
-/

namespace ImmichDoctor.Backup

open ImmichDoctor.Library
open ImmichDoctor.Core
open ImmichDoctor.Catalog (suffixOf)

variable (localOffset : CivilTime → Option UtcOffset)

/-! ## The store -/

/-- `load_snapshot_from_path`; `none` when it raises. -/
def loadManifest : ManifestText → Option BackupSnapshot
  | .whole payload => BackupSnapshot.fromDict localOffset payload.reread
  | .cut => none

/-- `list_snapshot_manifest_paths`. -/
def listSnapshotManifests (folder : SnapshotFolder) : List (PyStr × ManifestText) :=
  (folder.rows.filter fun file => py ".json" <:+ file.1).insertionSort fun a b => a.1 ≤ b.1

/-- `BackupSnapshotStore.list_snapshots`; `none` when it raises. -/
def loadSnapshots (folder : SnapshotFolder) : Option (List BackupSnapshot) :=
  (listSnapshotManifests folder).mapM fun file => loadManifest localOffset file.2

/-- A name in the folder without its suffix. -/
structure SnapshotId where
  text : PyStr
  slashless : 47 ∉ text
  deriving DecidableEq

/-- `load_snapshot`; `none` when it raises. -/
def loadSnapshotIn (folder : SnapshotFolder) (snapshotId : SnapshotId) : Option BackupSnapshot := do
  let file ← folder.find? (manifestName snapshotId.text)
  loadManifest localOffset file.2

/-! ## Verification -/

/-- `snapshot_consistency_error`. -/
def snapshotConsistencyError (snapshot : BackupSnapshot) : Option PyStr :=
  if suffixOf (nameOf snapshot.manifestPath) ≠ py ".json" then
    some (py "Snapshot manifest path must point to a JSON file.")
  else if snapshot.kind ∈ [.preRepair, .postRepair] ∧ snapshot.repairRunId = none then
    some (py "Repair-classified snapshots must reference a repair run ID.")
  else if snapshot.kind ∉ [.preRepair, .postRepair, .periodic, .manual] then
    some (py "Snapshot kind is unsupported.")
  else
    match snapshot.coverage with
    | .filesOnly =>
        if snapshot.fileArtifacts = [] ∨ snapshot.dbArtifact ≠ none then
          some (py "Files-only snapshot must contain file artifacts and no db artifact.")
        else none
    | .dbOnly =>
        if snapshot.fileArtifacts ≠ [] ∨ snapshot.dbArtifact = none then
          some (py "DB-only snapshot must contain exactly one db artifact.")
        else none
    | .paired =>
        if snapshot.fileArtifacts = [] ∨ snapshot.dbArtifact = none then
          some (py "Paired snapshot must contain both file artifacts and a db artifact.")
        else none

/-- What the checks of one snapshot say about it. -/
def snapshotDetails (snapshot : BackupSnapshot) : List (PyStr × JsonValue) :=
  [(py "snapshot_id", .str snapshot.snapshotId),
    (py "kind", .str snapshot.kind.value),
    (py "coverage", .str snapshot.coverage.value),
    (py "manifest_path", .str snapshot.manifestPath.text)]

/-- The check of one manifest; the text of the error that a manifest raises is left out. -/
def manifestCheck (folderPath : PurePath) (file : PyStr × ManifestText) : CheckResult :=
  match loadManifest localOffset file.2 with
  | none =>
      { name := py "backup_snapshot_manifest:" ++
          file.1.take (file.1.length - (suffixOf file.1).length)
        status := .fail
        message := py "Snapshot manifest could not be parsed safely."
        details := [(py "manifest_path", .str (joinText folderPath file.1).text)] }
  | some snapshot =>
      match snapshotConsistencyError snapshot with
      | some error =>
          { name := py "backup_snapshot:" ++ snapshot.snapshotId
            status := .fail
            message := error
            details := snapshotDetails snapshot }
      | none =>
          { name := py "backup_snapshot:" ++ snapshot.snapshotId
            status := .pass
            message := py "Snapshot manifest structure matches declared snapshot coverage."
            details := snapshotDetails snapshot ++
              [(py "repair_run_id", .ofText? snapshot.repairRunId)] }

/-- The manifest is loaded and has no error. -/
def isValidManifest (file : PyStr × ManifestText) : Bool :=
  match loadManifest localOffset file.2 with
  | none => false
  | some snapshot => (snapshotConsistencyError snapshot).isNone

/-- `_snapshot_checks`. -/
def snapshotChecks (folderPath : PurePath) (folder : SnapshotFolder) : List CheckResult :=
  let manifests := listSnapshotManifests folder
  if manifests = [] then
    [{ name := py "backup_snapshot_manifests"
       status := .skip
       message := py "No persisted backup snapshot manifests found yet." }]
  else
    [{ name := py "backup_snapshot_manifests"
       status := .pass
       message := py "Found " ++ PyStr.decimal manifests.length ++
         py " persisted backup snapshot manifests."
       details := [(py "count", .int manifests.length)] }] ++
      manifests.map (manifestCheck localOffset folderPath) ++
      if manifests.all (isValidManifest localOffset) then
        [{ name := py "backup_snapshot_reference_integrity"
           status := .pass
           message := py "Snapshot manifests passed current manifest-structure checks." }]
      else []

/-- `BackupVerifyService.run`, where the checks of the target and of the tools are given. -/
def verifyBackup (targetPath : Option PurePath) (targetChecks toolChecks : List CheckResult)
    (folderPath : PurePath) (folder : SnapshotFolder) : ValidationReport where
  summary := py ("Backup verification completed for current target-readiness and " ++
    "snapshot-manifest checks.")
  checks :=
    match targetPath with
    | none =>
        { name := py "backup_target_configured"
          status := .fail
          message := py "Backup target path is not configured." } :: toolChecks
    | some path =>
        { name := py "backup_target_configured"
          status := .pass
          message := py "Backup target path is configured."
          details := [(py "path", .str path.text)] } ::
          targetChecks ++ snapshotChecks localOffset folderPath folder ++ toolChecks

/-! ## Visibility -/

structure SnapshotSummary where
  snapshotId : PyStr
  createdAt : PyStr
  kind : PyStr
  coverage : PyStr
  repairRunId : Option PyStr
  manifestPath : PyStr
  fileArtifactCount : Nat
  hasDbArtifact : Bool
  basicValidity : PyStr
  validityMessage : PyStr

/-- `summarize_backup_snapshot`; no error has an empty text. -/
def summarizeBackupSnapshot (snapshot : BackupSnapshot) : SnapshotSummary :=
  let consistencyError := snapshotConsistencyError snapshot
  { snapshotId := snapshot.snapshotId
    createdAt := snapshot.createdAt.isoformat
    kind := snapshot.kind.value
    coverage := snapshot.coverage.value
    repairRunId := snapshot.repairRunId
    manifestPath := snapshot.manifestPath.text
    fileArtifactCount := snapshot.fileArtifacts.length
    hasDbArtifact := snapshot.dbArtifact.isSome
    basicValidity := if consistencyError = none then py "valid" else py "invalid"
    validityMessage := consistencyError.getD
      (py "Snapshot manifest structure is valid. Artifact content is not verified here.") }

/-- The items of `BackupSnapshotVisibilityService.list_snapshots`; `none` when it raises. -/
def listSnapshots (folder : SnapshotFolder) : Option (List SnapshotSummary) := do
  let snapshots ← loadSnapshots localOffset folder
  return (snapshots.map summarizeBackupSnapshot).insertionSort fun a b => b.createdAt ≤ a.createdAt

/-! ## Simulation of a restore -/

inductive RestoreReadiness
  | ready
  | blocked
  | simulationOnly
  deriving DecidableEq

structure RestoreBlocker where
  code : PyStr
  message : PyStr
  severity : PyStr := py "error"

structure SelectedSnapshot where
  snapshotId : PyStr
  kind : PyStr
  coverage : PyStr
  repairRunId : Option PyStr
  manifestPath : PyStr
  selectionSource : PyStr

structure RestoreSimulationResult where
  summary : PyStr
  readiness : RestoreReadiness
  checks : List CheckResult
  selectedSnapshot : Option SelectedSnapshot := none
  blockers : List RestoreBlocker

/-- `RestoreSimulationResult.overall_status`. -/
def RestoreSimulationResult.overallStatus (result : RestoreSimulationResult) : CheckStatus :=
  .overall (result.checks.map (·.status) ++ [
    match result.readiness with
    | .blocked => .fail
    | .simulationOnly => .warn
    | .ready => .pass])

/-- `exit_code`. -/
def RestoreSimulationResult.exitCode (result : RestoreSimulationResult) : Nat :=
  if result.overallStatus = .fail then 1 else 0

/-- `_select_snapshot`, where `loadRun` gives the pre-repair snapshot of a run; `none` when it
raises. -/
def selectSnapshot (loadRun : PyStr → Option (Option SnapshotId)) (folder : SnapshotFolder)
    (snapshotId : Option SnapshotId) (repairRunId : Option PyStr) :
    Option (Option (BackupSnapshot × PyStr)) :=
  match repairRunId.filter (· ≠ []) with
  | some repairRunId => do
      match ← loadRun repairRunId with
      | none => return none
      | some linkedSnapshotId =>
          if snapshotId.all (· = linkedSnapshotId) then
            return some (← loadSnapshotIn localOffset folder linkedSnapshotId, py "repair_linked")
          else return none
  | none =>
      match snapshotId with
      | none => return none
      | some snapshotId =>
          return some (← loadSnapshotIn localOffset folder snapshotId, py "manual")

/-- The blockers of a selected snapshot. -/
def restoreBlockers (snapshot : BackupSnapshot) : List RestoreBlocker :=
  (if snapshot.coverage ≠ .paired then
    [{ code := py "snapshot_coverage_insufficient"
       message := py "Snapshot coverage `" ++ snapshot.coverage.value ++
         py "` cannot provide full DB + file rollback." }]
  else []) ++
  (if snapshot.dbArtifact = none then
    [{ code := py "missing_db_artifact"
       message := py "Selected snapshot does not contain a database artifact." }]
  else []) ++
  if snapshot.fileArtifacts = [] then
    [{ code := py "missing_file_artifacts"
       message := py "Selected snapshot does not contain file artifacts." }]
  else []

/-- `BackupRestoreSimulationService.simulate`; `none` when it raises. -/
def simulateRestore (loadRun : PyStr → Option (Option SnapshotId)) (folder : SnapshotFolder)
    (snapshotId : Option SnapshotId) (repairRunId : Option PyStr) :
    Option RestoreSimulationResult := do
  match ← selectSnapshot localOffset loadRun folder snapshotId repairRunId with
  | none =>
      return {
        summary :=
          py "Full restore simulation is blocked because no safe snapshot is available."
        readiness := .blocked
        checks := [{
          name := py "snapshot_selection"
          status := .fail
          message := py "Restore simulation is blocked because no snapshot was selected." }]
        blockers := [{
          code := py "snapshot_unavailable"
          message := py "No safe snapshot could be selected for restore simulation." }] }
  | some (snapshot, selectionSource) =>
      let blockers := restoreBlockers snapshot
      return {
        summary :=
          if blockers.isEmpty then
            py "Full restore simulation generated deterministic manual steps."
          else py "Full restore simulation found blockers for the selected snapshot."
        readiness := if blockers.isEmpty then .simulationOnly else .blocked
        checks := [
          { name := py "snapshot_selection"
            status := .pass
            message := py "Selected snapshot `" ++ snapshot.snapshotId ++ py "` from `" ++
              selectionSource ++ py "`."
            details := [
              (py "selection_source", .str selectionSource),
              (py "coverage", .str snapshot.coverage.value)] },
          { name := py "restore_execution_mode"
            status := if blockers.isEmpty then .warn else .fail
            message :=
              if blockers.isEmpty then
                py "Full restore orchestration is currently simulation-only."
              else py "Full restore execution is blocked for the selected snapshot." }]
        selectedSnapshot := some {
          snapshotId := snapshot.snapshotId
          kind := snapshot.kind.value
          coverage := snapshot.coverage.value
          repairRunId := snapshot.repairRunId
          manifestPath := snapshot.manifestPath.text
          selectionSource }
        blockers }

end ImmichDoctor.Backup
