import ImmichDoctor.Catalog.DatabaseReads
import ImmichDoctor.Catalog.PathFix
import ImmichDoctor.Catalog.QuarantineItems
import ImmichDoctor.Catalog.RemediationFindings
import ImmichDoctor.Consistency.MissingAssetApply
/-!
# Catalog remediation

The previews and applies of `CatalogRemediationService` with all their kinds of action, on
the Immich database and the files of the storage roots. Other writers may change both
between two requests. Paths are without links and `..`; restore points and the writes of the
roots to the catalog are left out.
-/

namespace ImmichDoctor.Catalog.Remediation

open ImmichDoctor.Library
open ImmichDoctor.Db
open ImmichDoctor.Repair
open ImmichDoctor.Storage

abbrev StorageFiles := FileSystem PyStr Nat

/-! ## What a request meets -/

/-- What a request meets besides the database, the files and the stored runs. -/
structure Environment where
  settings : StorageSettings
  text : CaseMapping
  resolvePath : PurePath → PurePath
  /-- The times at which the configured roots are written to the catalog. -/
  rootTimes : PyStr → Instant
  catalog : CatalogDb
  /-- A DSN is configured. -/
  configured : Bool
  /-- `validate_connection` succeeds. -/
  reachable : Bool
  parseTimestamp : PyStr → Option Instant
  /-- The query of the users raises. -/
  usersFail : Bool
  /-- `path_exists` raises, with the given text. -/
  existsError : PurePath → Option PyStr
  /-- The digest of a content, by the name of the algorithm. -/
  digest : PyStr → Nat → Option (List UInt8)
  inspectOpenFileHandles : PurePath → HandleInspection
  now : Int
  /-- What becomes of the statement or the deletion for a finding, by its id. -/
  writes : PyStr → FixUpdate
  entryIds : PyStr → PyStr
  restorePointIds : PyStr → PyStr
  /-- An exception or a crash ends the apply after so many of its findings. -/
  cutOff : Option Nat

/-- `FilesystemAdapter` on the files there are. -/
def Environment.reads (environment : Environment) (files : StorageFiles) : StorageReads where
  pathExists := fun path =>
    match environment.existsError path with
    | some error => .error error
    | none => .ok (files.lookup path.parts).isSome
  digest := fun path algorithm =>
    match files.lookup path.parts with
    | some (.file content) => environment.digest algorithm content
    | _ => none

def Environment.context (environment : Environment) (database : Postgres) (files : StorageFiles) :
    RemediationContext where
  settings := environment.settings
  text := environment.text
  reads := environment.reads files
  users := if environment.usersFail then none else listUsers database

/-! ## The scan -/

structure ScanResult where
  brokenDbOriginals : List BrokenDbOriginalFinding
  zeroByteFindings : List ZeroByteFinding
  fuseHiddenOrphans : List FuseHiddenOrphanFinding

/-- The state the findings are built from, when the snapshots are current and the database
can be read; the outer `none` is a scan that raises. -/
def collectedState (environment : Environment) (database : Postgres) :
    Option (Option CatalogConsistencyState) :=
  match prepareSnapshotState environment.resolvePath environment.settings environment.rootTimes
      environment.catalog with
  | none => none
  | some (synced, snapshotState) =>
      if !snapshotState.ready || !environment.configured || !environment.reachable then some none
      else do
        let assets ← listAllAssets environment.parseTimestamp database
        let assetFiles ← listAllAssetFiles database
        match collect environment.resolvePath environment.settings environment.text
            environment.rootTimes (.tables assets assetFiles) synced with
        | .error _ => none
        | .ok (_, state) => some (some state)

/-- The findings of a collected state. -/
def findingsOf (environment : Environment) (database : Postgres) (files : StorageFiles)
    (state : CatalogConsistencyState) : ScanResult :=
  let context := environment.context database files
  { brokenDbOriginals := buildBrokenDbOriginalFindings context state
    zeroByteFindings := buildZeroByteFindings context state
    fuseHiddenOrphans :=
      buildFuseHiddenFindings environment.inspectOpenFileHandles environment.settings state }

/-- `scan`; `none` when it raises. -/
def scan (environment : Environment) (database : Postgres) (files : StorageFiles) :
    Option ScanResult :=
  (collectedState environment database).map fun collected =>
    (collected.map (findingsOf environment database files)).getD ⟨[], [], []⟩

/-! ## Selection -/

/-- The findings of one kind that are selected. -/
inductive Selection
  | brokenDbOriginals (findings : List BrokenDbOriginalFinding)
  | zeroByteFiles (findings : List ZeroByteFinding)
  | fuseHiddenOrphans (findings : List FuseHiddenOrphanFinding)

namespace Selection

/-- What the fingerprints are taken of. -/
def toDicts : Selection → List JsonValue
  | brokenDbOriginals findings => findings.map (·.toDict)
  | zeroByteFiles findings => findings.map (·.toDict)
  | fuseHiddenOrphans findings => findings.map (·.toDict)

/-- `current_scope_ids`. -/
def ids : Selection → List PyStr
  | brokenDbOriginals findings => findings.map (·.assetId)
  | zeroByteFiles findings => findings.map (·.findingId)
  | fuseHiddenOrphans findings => findings.map (·.findingId)

end Selection

/-- `_db_fingerprint` and `_file_fingerprint`. -/
def fingerprint (digest : PyStr → PyStr) (selection : Selection) : PyStr :=
  fingerprintPayload digest (.list selection.toDicts)

/-- `_select_zero_byte_findings`. -/
def selectZeroByteFindings (findings : List ZeroByteFinding) (findingIds : List PyStr)
    (selectAll : Bool) : List ZeroByteFinding :=
  findings.filter fun finding =>
    finding.supportsAction .zeroByteDelete &&
      (selectAll || findingIds.contains finding.findingId)

/-- `_select_fuse_hidden_orphans`. -/
def selectFuseHiddenOrphans (findings : List FuseHiddenOrphanFinding) (findingIds : List PyStr)
    (selectAll : Bool) : List FuseHiddenOrphanFinding :=
  findings.filter fun finding =>
    finding.supportsAction .fuseHiddenDelete &&
      (selectAll || findingIds.contains finding.findingId)

/-- The findings of a scan that a preview or an apply selects. -/
def select (result : ScanResult) (findingKind : CatalogRemediationFindingKind)
    (actionKind : CatalogRemediationActionKind) (ids : List PyStr) (selectAll : Bool) : Selection :=
  match findingKind with
  | .brokenDbOriginal =>
      .brokenDbOriginals (selectBrokenDbOriginals result.brokenDbOriginals ids selectAll actionKind)
  | .zeroByteFile => .zeroByteFiles (selectZeroByteFindings result.zeroByteFindings ids selectAll)
  | .fuseHiddenOrphan =>
      .fuseHiddenOrphans (selectFuseHiddenOrphans result.fuseHiddenOrphans ids selectAll)

/-! ## Preview -/

/-- The kind of the findings an action is previewed for. -/
def findingKind : CatalogRemediationActionKind → CatalogRemediationFindingKind
  | .brokenDbCleanup | .brokenDbPathFix => .brokenDbOriginal
  | .zeroByteDelete => .zeroByteFile
  | .fuseHiddenDelete => .fuseHiddenOrphan

/-- `scope_key`. -/
def idsKey : CatalogRemediationFindingKind → PyStr
  | .brokenDbOriginal => py "asset_ids"
  | .zeroByteFile | .fuseHiddenOrphan => py "finding_ids"

/-- The scope of `_preview_result`. -/
def previewScope (actionKind : CatalogRemediationActionKind) (ids : List PyStr)
    (selectAll : Bool) : JsonValue :=
  .obj
    [(py "domain", .str (py "consistency.catalog_remediation")),
      (py "action", .str (py "preview")),
      (py "finding_kind", .str (findingKind actionKind).value),
      (py "action_kind", .str actionKind.value),
      (idsKey (findingKind actionKind), .list (ids.map .str)),
      (py "select_all", .bool selectAll)]

/-- One of the four previews; the ids of the run and of its token are new. -/
structure PreviewRequest where
  environment : Environment
  actionKind : CatalogRemediationActionKind
  ids : List PyStr
  selectAll : Bool
  repairRunId : PyStr
  tokenId : PyStr

namespace PreviewRequest

variable (request : PreviewRequest)

/-- What the preview selects; `none` when its scan raises. -/
def selected (database : Postgres) (files : StorageFiles) : Option Selection :=
  (scan request.environment database files).map fun result =>
    select result (findingKind request.actionKind) request.actionKind request.ids request.selectAll

/-- The run and the token of `_preview_result`. -/
def record (digest : PyStr → PyStr) (selection : Selection) : RunRecord :=
  let scope := previewScope request.actionKind selection.ids request.selectAll
  ⟨⟨request.repairRunId, .planned, []⟩, scope,
    createPlanToken request.tokenId request.environment.now scope (fingerprint digest selection)
      (fingerprint digest selection)⟩

end PreviewRequest

/-! ## The guard of an apply -/

/-- `CatalogRemediationFindingKind(str(scope["finding_kind"]))`. -/
def scopeFindingKind (scope : JsonValue) : Option CatalogRemediationFindingKind :=
  match scopeField scope (py "finding_kind") with
  | some (.str text) =>
      [.brokenDbOriginal, .zeroByteFile, .fuseHiddenOrphan].find? fun kind => kind.value = text
  | _ => none

/-- `CatalogRemediationActionKind(str(scope["action_kind"]))`. -/
def scopeActionKind (scope : JsonValue) : Option CatalogRemediationActionKind :=
  match scopeField scope (py "action_kind") with
  | some (.str text) =>
      [.brokenDbCleanup, .brokenDbPathFix, .zeroByteDelete, .fuseHiddenDelete].find? fun kind =>
        kind.value = text
  | _ => none

/-- `scope.get(key, [])`; the ids of a preview are texts. -/
def scopeIds (scope : JsonValue) (key : PyStr) : List PyStr :=
  match scopeField scope key with
  | some (.list items) =>
      items.filterMap fun item =>
        match item with
        | .str text => some text
        | _ => none
  | _ => []

/-- The findings an apply selects for the scope of its run; `none` when the scope raises. -/
def selectedFor (scope : JsonValue) (result : ScanResult) :
    Option (CatalogRemediationActionKind × Selection) := do
  let kind ← scopeFindingKind scope
  let actionKind ← scopeActionKind scope
  some (actionKind,
    select result kind actionKind (scopeIds scope (idsKey kind)) (scopeSelectAll scope))

/-- What the stored runs see of an apply. -/
def runEnvironment (digest : PyStr → PyStr) (environment : Environment) (selection : Selection)
    (outcomes : List OperationOutcome) : Repair.ApplyEnvironment where
  digest := digest
  now := environment.now
  configured := environment.configured
  dbFingerprint := fingerprint digest selection
  fileFingerprint := fingerprint digest selection
  currentIds := selection.ids
  preconditions := true
  outcomes := outcomes

/-- The plan token is valid for what is selected. -/
def admitted (digest : PyStr → PyStr) (record : RunRecord) (environment : Environment)
    (selection : Selection) : Bool :=
  (validatedScope record (runEnvironment digest environment selection [])
      .catalogRemediation).any
    (guardPasses record (runEnvironment digest environment selection []) .catalogRemediation)

/-! ## The actions -/

section Actions

variable (environment : Environment)

/-- One item after the other, up to one that raises: what is left, what became of the items,
and whether all of them were reached. -/
def applyEach {σ α : Type} (round : σ → α → Option (σ × OperationOutcome)) :
    σ → List α → σ × List OperationOutcome × Bool
  | s, [] => (s, [], true)
  | s, item :: items =>
      match round s item with
      | none => (s, [], false)
      | some (next, outcome) =>
          let (final, outcomes, finished) := applyEach round next items
          (final, outcome :: outcomes, finished)

/-- The finding `_apply_broken_db_cleanup` makes up for the removal of an asset. -/
def syntheticFinding (finding : BrokenDbOriginalFinding) :
    Consistency.MissingAssetReferenceFinding where
  findingId := finding.findingId
  assetId := finding.assetId
  assetType := (textOrNone (finding.assetType.getD [])).getD (py "unknown")
  status := .missingOnDisk
  logicalPath := finding.expectedDatabasePath
  resolvedPhysicalPath := finding.expectedRelativePath
  ownerId := none
  createdAt := none
  updatedAt := none
  scanTimestamp := []
  repairReadiness := .ready
  repairBlockers := []
  repairBlockerDetails := []
  message := finding.message

/-- `_map_missing_asset_operation`. -/
def mapMissingAssetOperation : Consistency.MissingAssetOperationStatus → OperationStatus
  | .applied => .applied
  | .alreadyRemoved => .alreadyRemoved
  | .failed => .failed
  | _ => .skipped

/-- A round of `_apply_broken_db_cleanup`. -/
def cleanupRound (repairRunId : PyStr) (relations : List AssetReferenceRelation)
    (database : Postgres) (finding : BrokenDbOriginalFinding) :
    Option (Postgres × OperationOutcome) :=
  let outcome (status : OperationStatus) : OperationOutcome :=
    { operation := .removeMissingAssetReference
      entryId := environment.entryIds finding.findingId
      assetId := some finding.assetId
      originalPath := some finding.expectedDatabasePath
      status := status }
  (Consistency.applySingleAsset repairRunId (environment.restorePointIds finding.findingId)
      finding.assetId (some (syntheticFinding finding)) relations
      ⟨database, fun _ => database, database⟩).map fun result =>
    match result.deleted with
    | none => (database, outcome (mapMissingAssetOperation result.item.status))
    | some after =>
        if environment.writes finding.findingId = .updateFails then (database, outcome .failed)
        else (after, outcome (mapMissingAssetOperation result.item.status))

/-- A round of `_apply_broken_db_path_fix`. -/
def pathFixRound (database : Postgres) (finding : BrokenDbOriginalFinding) :
    Option (Postgres × OperationOutcome) :=
  let outcome (originalPath : Option PyStr) (status : OperationStatus) : OperationOutcome :=
    { operation := .fixAssetOriginalPath
      entryId := environment.entryIds finding.findingId
      assetId := some finding.assetId
      originalPath := originalPath
      status := status }
  match truthyPath finding.foundAbsolutePath with
  | none => some (database, outcome none .skipped)
  | some targetPath =>
      if environment.writes finding.findingId = .updateFails then
        some (database, outcome none .failed)
      else
        match writeOriginalPath database finding.assetId targetPath with
        | none => some (database, outcome none .failed)
        | some (old, updated) =>
            if environment.writes finding.findingId = .journalFails then
              some (updated, outcome none .failed)
            else some (updated, outcome (some (old.getD (py "None"))) .applied)

/-- A round of the loops that delete files, below a root there has to be. -/
def deleteRound (operation : RepairOperation) (root : Option PurePath) (findingId : PyStr)
    (absolutePath : PyStr) (files : StorageFiles) : Option (StorageFiles × OperationOutcome) :=
  let targetPath := PurePath.parse absolutePath
  let outcome (status : OperationStatus) : OperationOutcome :=
    { operation := operation
      entryId := environment.entryIds findingId
      assetId := none
      originalPath := some absolutePath
      status := status }
  if !root.any fun root => CatalogRootRegistry.isChildPath environment.resolvePath root targetPath
  then some (files, outcome .skipped)
  else if (environment.existsError targetPath).isSome then none
  else if (files.lookup targetPath.parts).isNone then some (files, outcome .alreadyRemoved)
  else
    match deleteFile files (environment.writes findingId = .updateFails) targetPath.parts with
    | (kept, false) => some (kept, outcome .failed)
    | (left, true) =>
        if environment.writes findingId = .journalFails then some (left, outcome .failed)
        else some (left, outcome .applied)

/-- A round of `_apply_zero_byte_findings`. -/
def zeroByteRound (files : StorageFiles) (finding : ZeroByteFinding) :
    Option (StorageFiles × OperationOutcome) :=
  deleteRound environment .zeroByteDelete (rootPathFor environment.settings finding.rootSlug)
    finding.findingId finding.absolutePath files

/-- A round of `_apply_fuse_hidden_orphans`. -/
def fuseHiddenRound (uploadsRoot : PurePath) (files : StorageFiles)
    (finding : FuseHiddenOrphanFinding) : Option (StorageFiles × OperationOutcome) :=
  deleteRound environment .fuseHiddenDelete (some uploadsRoot) finding.findingId
    finding.absolutePath files

/-- The database and the files, what became of the findings, and whether the action came to
its end. -/
structure ActionResult where
  database : Postgres
  files : StorageFiles
  outcomes : List OperationOutcome
  finished : Bool

/-- The findings an apply reaches before it is cut off. -/
def reached {α : Type} (findings : List α) : List α :=
  match environment.cutOff with
  | none => findings
  | some count => findings.take count

/-- `_apply_broken_db_cleanup`, `_apply_broken_db_path_fix`, `_apply_zero_byte_findings` and
`_apply_fuse_hidden_orphans`; no preview writes a scope whose kinds do not belong together. -/
def runAction (repairRunId : PyStr) (actionKind : CatalogRemediationActionKind)
    (selection : Selection) (database : Postgres) (files : StorageFiles) : ActionResult :=
  let ofDatabase (result : Postgres × List OperationOutcome × Bool) : ActionResult :=
    ⟨result.1, files, result.2.1, result.2.2 && environment.cutOff.isNone⟩
  let ofFiles (result : StorageFiles × List OperationOutcome × Bool) : ActionResult :=
    ⟨database, result.1, result.2.1, result.2.2 && environment.cutOff.isNone⟩
  match actionKind, selection with
  | .brokenDbCleanup, .brokenDbOriginals findings =>
      if !environment.configured then ⟨database, files, [], true⟩
      else
        ofDatabase (applyEach
          (cleanupRound environment repairRunId (Consistency.detectProfile database).relations)
          database (reached environment findings))
  | .brokenDbPathFix, .brokenDbOriginals findings =>
      if !environment.configured then ⟨database, files, [], true⟩
      else ofDatabase (applyEach (pathFixRound environment) database (reached environment findings))
  | .zeroByteDelete, .zeroByteFiles findings =>
      ofFiles (applyEach (zeroByteRound environment) files (reached environment findings))
  | .fuseHiddenDelete, .fuseHiddenOrphans findings =>
      match environment.settings.immichUploadsPath with
      | none => ⟨database, files, [], true⟩
      | some uploadsRoot =>
          ofFiles (applyEach (fuseHiddenRound environment uploadsRoot) files
            (reached environment findings))
  | _, _ => ⟨database, files, [], false⟩

end Actions

/-! ## The system -/

structure State where
  database : Postgres
  files : StorageFiles
  store : RepairStore

inductive Request
  | preview (request : PreviewRequest)
  | apply (environment : Environment) (repairRunId : PyStr)
  /-- Other writers leave another database and other files. -/
  | changed (database : Postgres) (files : StorageFiles)
  /-- A write of another request to the stored runs. -/
  | storeWrite (write : StoreWrite)

/-- The writes to the stored runs; a run that is cut off does not get its last status. -/
def storeWrites (digest : PyStr → PyStr) (record : RunRecord) (environment : Environment)
    (selection : Selection) (outcomes : List OperationOutcome) (finished : Bool) :
    List StoreWrite :=
  let writes := applyWrites record (runEnvironment digest environment selection outcomes)
    .catalogRemediation
  if finished then writes else writes.dropLast

/-- `apply` of a run with what its scan selects. -/
def applyRun (digest : PyStr → PyStr) (record : RunRecord) (environment : Environment)
    (actionKind : CatalogRemediationActionKind) (selection : Selection) (s : State) :
    Option State :=
  if admitted digest record environment selection then
    let result := runAction environment record.repairRunId actionKind selection s.database s.files
    (runWrites s.store (storeWrites digest record environment selection result.outcomes
      result.finished)).map fun store => ⟨result.database, result.files, store⟩
  else
    (runWrites s.store (storeWrites digest record environment selection [] true)).map fun store =>
      { s with store }

/-- What an apply of a stored run selects; `none` when it raises before. -/
def State.selected (s : State) (environment : Environment) (record : RunRecord) :
    Option (CatalogRemediationActionKind × Selection) :=
  (scan environment s.database s.files).bind (selectedFor record.scope)

/-- A request that raises before it writes leaves everything as it is. -/
def State.step (digest : PyStr → PyStr) (s : State) : Request → Option State
  | .preview request => do
      let selection ← request.selected s.database s.files
      let store ← StoreWrite.run s.store (.createRun (request.record digest selection))
      some { s with store }
  | .apply environment repairRunId =>
      match s.store.find? repairRunId with
      | none => some s
      | some record =>
          match s.selected environment record with
          | none => some s
          | some (actionKind, selection) =>
              applyRun digest record environment actionKind selection s
  | .changed database files => some { s with database, files }
  | .storeWrite write => (write.run s.store).map fun store => { s with store }

end ImmichDoctor.Catalog.Remediation
