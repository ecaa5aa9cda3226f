import ImmichDoctor.Catalog.ConsistencyState
import ImmichDoctor.Services.JobRuntime
/-!
# The catalog workflow

`CatalogWorkflowService`: the requests that start a catalog scan or a consistency
validation, and those that start one on the way. Each look at the job runtime and at the
catalog is a step of its own. What an answer holds is left out, and so is the look for a
finished job, whose record decides only whether a request ends without a new one.
-/

namespace ImmichDoctor.Catalog

open ImmichDoctor.Library
open ImmichDoctor.Storage
open ImmichDoctor.Services

/-- `CATALOG_SCAN_JOB_TYPE`. -/
def catalogScanJobType : PyStr := py "catalog_inventory_scan"

/-- `CATALOG_CONSISTENCY_JOB_TYPE`. -/
def catalogConsistencyJobType : PyStr := py "catalog_consistency_validation"

/-- What the service reads besides the catalog and the runtime. -/
structure WorkflowConfig where
  settings : StorageSettings
  resolvePath : PurePath → PurePath

/-! ## Reads of the catalog -/

/-- `find_latest_incomplete_scan_session`, with the slug of the joined root. -/
def latestIncompleteSession (db : CatalogDb) : Option (ScanSession × PyStr) := do
  let session ← db.findLatestIncompleteScanSession
  let root ← db.storageRootById session.storageRootId
  some (session, root.slug)

/-- The session `_recover_scan_job_if_needed` resumes or retires. -/
def sessionToRecover (db : CatalogDb) : Option (ScanSession × PyStr) :=
  (latestIncompleteSession db).filter fun entry => entry.1.status = .running

/-- The session `resume_scan` resumes. -/
def sessionToResume (db : CatalogDb) : Option (ScanSession × PyStr) :=
  (latestIncompleteSession db).filter fun entry =>
    entry.1.status = .paused || entry.1.status = .stopped

namespace WorkflowConfig

variable (config : WorkflowConfig)

def effectiveRootSlugs : List PyStr :=
  (CatalogRootRegistry.scanRoots config.resolvePath config.settings).map (·.slug)

/-- `_scan_coverage` as far as `hasCompleteCoverage`; it writes the configured roots first. -/
def scanCoverage (now : PyStr → Instant) (db : CatalogDb) : Option (CatalogDb × Bool) :=
  (prepareSnapshotState config.resolvePath config.settings now db).map fun (synced, coverage) =>
    (synced, !coverage.effectiveRootSlugs.isEmpty && coverage.staleRootSlugs.isEmpty &&
      coverage.missingRootSlugs.isEmpty)

end WorkflowConfig

/-! ## Requests -/

inductive WorkflowRequest
  | getScanJob
  | startScan (force : Bool)
  | resumeScan
  | getConsistencyJob
  | startConsistency (force : Bool)
  deriving DecidableEq

/-- Where a request is; the names are those of what comes next. -/
inductive RequestPhase
  | idle
  /-- The first check of a request. -/
  | entered (request : WorkflowRequest)
  | startScanFree (force : Bool)
  | getConsistencyFree
  | startConsistencyFree (force : Bool)
  /-- `_recover_scan_job_if_needed`, called by `get_scan_job` or by `start_scan`. -/
  | recover (force : Option Bool)
  | retire (force : Option Bool) (sessionId : SessionId)
  | reopen (sessionId : SessionId) (summary : PyStr)
  | requestResume
  | findPaused
  | readCoverage (force : Bool)
  | queueScan (force : Bool)
  | queueConsistency (force : Bool)
  | startJob (jobType summary : PyStr)
  deriving DecidableEq

/-- What follows when nothing was recovered. -/
def afterRecovery : Option Bool → RequestPhase
  | none => .idle
  | some force => .queueScan force

def recoverySummary (rootSlug : PyStr) : PyStr :=
  py "Catalog scan recovery queued for root `" ++ rootSlug ++ py "`."

def resumeSummary (rootSlug : PyStr) : PyStr :=
  py "Catalog scan resume queued for root `" ++ rootSlug ++ py "`."

/-- The read of `_recover_scan_job_if_needed`. -/
def WorkflowConfig.recovery (config : WorkflowConfig) (db : CatalogDb) (force : Option Bool) :
    RequestPhase :=
  match sessionToRecover db with
  | none => afterRecovery force
  | some (session, rootSlug) =>
      if rootSlug ∈ config.effectiveRootSlugs then .reopen session.id (recoverySummary rootSlug)
      else .retire force session.id

/-- The read of `resume_scan`. -/
def resumption (db : CatalogDb) : RequestPhase :=
  match sessionToResume db with
  | none => .idle
  | some (session, rootSlug) => .reopen session.id (resumeSummary rootSlug)

/-! ## The service -/

structure WorkflowSystem where
  jobs : JobSystem
  catalog : CatalogDb
  requests : Nat → RequestPhase

/-- A new process finds whatever catalog an earlier one has left. -/
def WorkflowSystem.start (catalog : CatalogDb) : WorkflowSystem :=
  ⟨.start, catalog, fun _ => .idle⟩

inductive WorkflowLabel
  | request (caller : Nat) (request : WorkflowRequest)
  | check (caller : Nat)
  | requestResume (caller : Nat)
  | findSession (caller : Nat)
  | retire (caller : Nat) (now : Instant)
  | reopen (caller : Nat) (now : Instant)
  | readCoverage (caller : Nat) (now : PyStr → Instant)
  | answerLatest (caller : Nat)
  | queue (caller : Nat)
  | startJob (caller : Nat) (id : JobId)
  /-- An exception ends the request. -/
  | fail (caller : Nat)
  /-- A step of the job runtime. -/
  | job (label : JobLabel)
  /-- Somebody else, such as the worker of a scan, writes the catalog. -/
  | write (catalog : CatalogDb)

/-- The steps that go on with a job which was created or looked up. -/
def continuesJob : JobLabel → Bool
  | .submit _ | .register _ | .signal _ | .prepare _ | .persist _ | .persistFails _
  | .worker _ _ => true
  | _ => false

namespace WorkflowSystem

variable (s : WorkflowSystem)

def setRequest (caller : Nat) (phase : RequestPhase) : WorkflowSystem :=
  { s with requests := Function.update s.requests caller phase }

/-- A look for an active job of the type, and what follows if there is one and if there is none. -/
def checked (caller : Nat) (jobType : PyStr) (found free : RequestPhase) : WorkflowSystem :=
  let (active, runtime) := s.jobs.runtime.activeJob jobType
  { s with
    jobs := { s.jobs with runtime := runtime }
    requests := Function.update s.requests caller (if active.isSome then found else free) }

/-- One step of a request, of the job runtime or of the catalog. -/
def step (config : WorkflowConfig) : WorkflowLabel → Option WorkflowSystem
  | .request caller request =>
      match s.requests caller, s.jobs.callers caller with
      | .idle, .idle => some (s.setRequest caller (.entered request))
      | _, _ => none
  | .check caller =>
      match s.requests caller with
      | .entered .getScanJob =>
          some (s.checked caller catalogScanJobType .idle (.recover none))
      | .entered (.startScan force) =>
          some (s.checked caller catalogConsistencyJobType .idle (.startScanFree force))
      | .startScanFree force =>
          some (s.checked caller catalogScanJobType .idle (.recover (some force)))
      | .entered .resumeScan =>
          some (s.checked caller catalogScanJobType .requestResume .findPaused)
      | .entered .getConsistencyJob =>
          some (s.checked caller catalogConsistencyJobType .idle .getConsistencyFree)
      | .getConsistencyFree => some (s.checked caller catalogScanJobType .idle .idle)
      | .entered (.startConsistency force) =>
          some (s.checked caller catalogScanJobType .idle (.startConsistencyFree force))
      | .startConsistencyFree force =>
          some (s.checked caller catalogConsistencyJobType .idle (.readCoverage force))
      | _ => none
  | .requestResume caller =>
      match s.requests caller with
      | .requestResume =>
          (s.jobs.step (.lookUp caller .resume catalogScanJobType)).map fun jobs =>
            { s with jobs := jobs, requests := Function.update s.requests caller .idle }
      | _ => none
  | .findSession caller =>
      match s.requests caller with
      | .recover force => some (s.setRequest caller (config.recovery s.catalog force))
      | .findPaused => some (s.setRequest caller (resumption s.catalog))
      | _ => none
  | .retire caller now =>
      match s.requests caller with
      | .retire force sessionId =>
          some { s with
            catalog := s.catalog.markSessionFailed now sessionId
            requests := Function.update s.requests caller (afterRecovery force) }
      | _ => none
  | .reopen caller now =>
      match s.requests caller with
      | .reopen sessionId summary =>
          some { s with
            catalog := s.catalog.reopenScanSession now sessionId
            requests := Function.update s.requests caller (.startJob catalogScanJobType summary) }
      | _ => none
  | .readCoverage caller now =>
      match s.requests caller with
      | .readCoverage force =>
          (config.scanCoverage now s.catalog).map fun (synced, complete) =>
            { s with
              catalog := synced
              requests := Function.update s.requests caller
                (if complete then .queueConsistency force else .entered (.startScan true)) }
      | _ => none
  | .answerLatest caller =>
      match s.requests caller with
      | .queueScan false | .queueConsistency false => some (s.setRequest caller .idle)
      | _ => none
  | .queue caller =>
      match s.requests caller with
      | .queueScan _ =>
          some (s.setRequest caller (.startJob catalogScanJobType (py "Catalog scan queued.")))
      | .queueConsistency _ =>
          some (s.setRequest caller
            (.startJob catalogConsistencyJobType (py "Catalog consistency validation queued.")))
      | _ => none
  | .startJob caller id =>
      match s.requests caller with
      | .startJob jobType summary =>
          (s.jobs.runtime.createJob id jobType summary).map fun runtime =>
            { s with
              jobs := s.jobs.setCaller caller (.created jobType id) runtime
              requests := Function.update s.requests caller .idle }
      | _ => none
  | .fail caller => some (s.setRequest caller .idle)
  | .job label =>
      if continuesJob label then (s.jobs.step label).map fun jobs => { s with jobs := jobs }
      else none
  | .write catalog => some { s with catalog := catalog }

end WorkflowSystem

end ImmichDoctor.Catalog
