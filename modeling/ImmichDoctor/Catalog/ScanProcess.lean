import ImmichDoctor.Catalog.RuntimeController
import ImmichDoctor.Catalog.StoreOps
/-!
# The scan process

`CatalogWorkflowService._run_scan_job` and `_run_resumed_scan_job` over
`CatalogInventoryScanService.run`: a job takes its roots one after the other,
prepares the work queue of each, runs the worker threads on it, and then either
interrupts or commits the session. A label is one atomic action of one thread, of
an operator or of the outside world; the threads interleave freely. What a thread
reads from the file system is part of its label. A process that dies leaves the
catalog as it is and loses the rest.
-/

namespace ImmichDoctor.Catalog

open ImmichDoctor.Library

/-- The events of the job handle, as `control_state_provider` reports them. -/
structure ControlState where
  pauseRequested : Bool
  stopRequested : Bool
  deriving DecidableEq

inductive StopReason
  | paused
  | stopped
  deriving DecidableEq

/-- A request to stop goes before a request to pause. -/
def ControlState.reason (control : ControlState) : Option StopReason :=
  if control.stopRequested then some .stopped
  else if control.pauseRequested then some .paused
  else none

/-- `catalog_scan_workers`, as `validate_catalog_scan_workers` admits it. -/
structure WorkerCount where
  value : Nat
  one_le : 1 ≤ value
  le_max : value ≤ 64

/-- The result of observing the files of a claimed row. -/
structure ObservedBatch where
  files : List CatalogFileObservation
  errorCount : Nat
  bytesDelta : Nat
  lastRelativePath : Option PyStr
  deriving DecidableEq

/-- Where a worker thread is in `_scan_worker_loop`. -/
inductive WorkerPhase
  | checkControl
  /-- The job is to pause or stop: requeue, record the request, return. -/
  | leave (reason : StopReason)
  | waitRunnable
  /-- The worker itself is stopped: requeue and return. -/
  | leaveStopped
  | claim
  | claimedNothing
  | observe (row : DirectoryQueueRow)
  | apply (row : DirectoryQueueRow) (observed : ObservedBatch)
  | count (fileCount : Nat)
  | recheck
  | returned
  | raised

/-- Where the thread that runs a root is in `_run_incremental_root_scan`. -/
inductive ScanStage
  | preparing
  | scanning (workers : List WorkerPhase)
  | interrupted (reason : StopReason)
  | requeued (reason : StopReason)
  | completing

/-- The locals of `_run_incremental_root_scan`. -/
structure RootScan where
  sessionId : SessionId
  storageRootId : Nat
  snapshotId : Nat
  maxFiles : Option Int
  stopReason : Option StopReason
  filesSeen : Nat
  stage : ScanStage

/-- What `run` is called for: a new session of a root, or an existing session. -/
inductive ScanTarget
  | fresh (storageRootId : Nat)
  | resume (sessionId : SessionId)

/-- The locals of a job; all of its roots share the controller. -/
structure ScanJob where
  controller : ScanRuntimeController
  maxFiles : Option Int
  targets : List ScanTarget
  current : Option RootScan

structure ScanSystem where
  catalog : CatalogState
  control : ControlState
  job : Option ScanJob

inductive ScanEvent
  | syncRoot (root : CatalogRootSpec)
  | startJob (targets : List ScanTarget) (workers : WorkerCount) (maxFiles : Option Int)
  | requestPause
  | requestResume
  | requestStop
  | pauseActor (actorId : ActorId)
  | resumeActor (actorId : ActorId)
  | stopActor (actorId : ActorId)
  /-- `_select_session_or_root`; the session id is used for a new session. -/
  | select (sessionId : SessionId)
  /-- The root directory cannot be read. -/
  | failRoot
  /-- `_prepare_directory_queue` found the items and saw the request, if any. -/
  | prepare (workItems : List QueuedWorkItem) (seen : Option StopReason)
  /-- A step of worker `index + 1`; `observed` is what it reads when it observes. -/
  | work (index : Nat) (observed : ObservedBatch)
  /-- The loop of worker `index + 1` ends with an exception. -/
  | raise (index : Nat)
  | join
  | requeue
  | interrupt
  | commit
  /-- The job returns. -/
  | endJob
  /-- The process dies, or the thread of the job raises. -/
  | crash

namespace WorkerPhase

/-- Whether the thread is still in its loop. -/
def live : WorkerPhase → Bool
  | returned => false
  | raised => false
  | _ => true

/-- The queue row a worker has claimed and not applied yet. -/
def claimed? : WorkerPhase → Option DirectoryQueueRow
  | observe row => some row
  | apply row _ => some row
  | _ => none

end WorkerPhase

/-- What the worker threads share. -/
structure WorkerShared where
  catalog : CatalogState
  controller : ScanRuntimeController
  stopReason : Option StopReason
  filesSeen : Nat

namespace RootScan

/-- The batch a worker writes for its claimed row. -/
def application (scan : RootScan) (row : DirectoryQueueRow) (observed : ObservedBatch) :
    DirectoryApplication where
  sessionId := scan.sessionId
  storageRootId := scan.storageRootId
  snapshotId := scan.snapshotId
  relativePath := row.relativePath
  fileObservations := observed.files
  errorCount := observed.errorCount
  bytesDelta := observed.bytesDelta
  lastRelativePath := observed.lastRelativePath

/-- The batch of a row with a payload: its own error count and last path are added. -/
def observedOf (row : DirectoryQueueRow) (observed : ObservedBatch) : ObservedBatch :=
  match row.payloadJson with
  | none => observed
  | some _ =>
      { observed with
        errorCount := observed.errorCount + row.payloadErrorCount
        lastRelativePath := observed.lastRelativePath <|> row.payloadLastRelativePath }

/-- One action of a worker thread. -/
def workerStep (scan : RootScan) (control : ControlState) (now : Instant) (worker : ActorId)
    (read : ObservedBatch) (shared : WorkerShared) :
    WorkerPhase → Option (WorkerPhase × WorkerShared)
  | .checkControl =>
      match control.reason with
      | some reason => some (.leave reason, { shared with stopReason := some reason })
      | none => some (.waitRunnable, shared)
  | .leave reason => do
      let catalog ← shared.catalog.step
        (now, .requeueProcessingDirectoriesForWorker scan.sessionId worker.text)
      let requested := match reason with
        | .stopped => (shared.controller.requestStop worker).2
        | .paused => (shared.controller.requestPause worker).2
      some (.returned, { shared with catalog, controller := requested.markIdle worker })
  | .waitRunnable =>
      match shared.controller.waitUntilRunnable worker with
      | (.stopped, controller) => some (.leaveStopped, { shared with controller })
      | (.waiting, controller) => some (.waitRunnable, { shared with controller })
      | (.running, controller) => some (.claim, { shared with controller })
  | .leaveStopped => do
      let catalog ← shared.catalog.step
        (now, .requeueProcessingDirectoriesForWorker scan.sessionId worker.text)
      some (.returned, { shared with catalog })
  | .claim => do
      let catalog ← shared.catalog.step (now, .claimNextDirectory scan.sessionId worker.text)
      match shared.catalog.db.claimNextDirectory scan.sessionId worker.text with
      | none =>
          some (.claimedNothing,
            { shared with catalog, controller := shared.controller.markIdle worker })
      | some (row, _) =>
          some (.observe row, { shared with
            catalog
            controller := shared.controller.markRunning worker (some row.relativePath) })
  | .claimedNothing =>
      if shared.controller.collectorFinished then some (.returned, shared)
      else some (.checkControl, shared)
  | .observe row => some (.apply row (observedOf row read), shared)
  | .apply row observed => do
      let catalog ← shared.catalog.step
        (now, .applyDirectoryFiles (scan.application row observed))
      some (.count observed.files.length, { shared with catalog })
  | .count fileCount =>
      let filesSeen := shared.filesSeen + fileCount
      let full := scan.maxFiles.any fun maxFiles => maxFiles ≤ (filesSeen : Int)
      some (.recheck, { shared with
        filesSeen
        stopReason := if full && shared.stopReason.isNone then some .paused else shared.stopReason
        controller := shared.controller.markIdle worker })
  | .recheck =>
      if shared.stopReason = some .paused then some (.returned, shared)
      else some (.checkControl, shared)
  | .returned => none
  | .raised => none

end RootScan

namespace ScanSystem

def start (clock : Instant) : ScanSystem where
  catalog := .start clock
  control := ⟨false, false⟩
  job := none

/-- The scan that is being run, if any. -/
def scan? (s : ScanSystem) : Option RootScan :=
  s.job.bind (·.current)

def withJob (s : ScanSystem) (f : ScanJob → Option ScanSystem) : Option ScanSystem :=
  s.job.bind f

def withScan (s : ScanSystem) (f : ScanJob → RootScan → Option ScanSystem) : Option ScanSystem :=
  s.withJob fun job => job.current.bind (f job)

/-- `_select_session_or_root`: a new session, or an existing one that is reopened. -/
def openSession (s : ScanSystem) (now : Instant) (sessionId : SessionId) (job : ScanJob) :
    ScanTarget → Option (CatalogState × SessionId)
  | .fresh storageRootId =>
      if s.control.stopRequested then none
      else do
        let catalog ← s.catalog.step
          (now, .createScanSession sessionId storageRootId job.maxFiles)
        some (catalog, sessionId)
  | .resume resumed => do
      let catalog ← s.catalog.step (now, .reopenScanSession resumed)
      some (catalog, resumed)

/-- `run` for the next target, up to the session row it works on. -/
def select (s : ScanSystem) (now : Instant) (sessionId : SessionId) (job : ScanJob)
    (target : ScanTarget) (rest : List ScanTarget) : Option ScanSystem := do
  let (catalog, selected) ← s.openSession now sessionId job target
  let session ← catalog.db.getScanSession selected
  let _ ← catalog.db.storageRootById session.storageRootId
  some { s with
    catalog
    job := some { job with
      targets := rest
      current := some
        { sessionId := selected
          storageRootId := session.storageRootId
          snapshotId := session.snapshotId
          maxFiles := job.maxFiles
          stopReason := none
          filesSeen := session.filesSeen
          stage := .preparing } } }

def updateScan (s : ScanSystem) (job : ScanJob) (scan : RootScan) : ScanSystem :=
  { s with job := some { job with current := some scan } }

/-- `_prepare_directory_queue` after the directory walk, and the start of the threads. -/
def prepare (s : ScanSystem) (now : Instant) (workItems : List QueuedWorkItem)
    (seen : Option StopReason) (job : ScanJob) (scan : RootScan) : Option ScanSystem := do
  let catalog ← s.catalog.step (now, .seedDirectoryWorkQueue scan.sessionId workItems)
  let walked := { s with catalog }
  match seen with
  | some reason =>
      let requested := match reason with
        | .stopped => (job.controller.requestStop .collector).2
        | .paused => (job.controller.requestPause .collector).2
      some (walked.updateScan { job with controller := requested.markIdle .collector }
        { scan with stopReason := some reason, stage := .interrupted reason })
  | none =>
      let workers := job.controller.actorIds.map fun _ => WorkerPhase.checkControl
      some (walked.updateScan { job with controller := job.controller.markCollectorFinished }
        { scan with stage := .scanning workers })

def work (s : ScanSystem) (now : Instant) (index : Nat) (read : ObservedBatch) (job : ScanJob)
    (scan : RootScan) : Option ScanSystem :=
  match scan.stage with
  | .scanning workers => do
      let phase ← workers[index]?
      let (next, shared) ← scan.workerStep s.control now (.worker (index + 1)) read
        ⟨s.catalog, job.controller, scan.stopReason, scan.filesSeen⟩ phase
      some ({ s with catalog := shared.catalog }.updateScan
        { job with controller := shared.controller }
        { scan with
          stopReason := shared.stopReason
          filesSeen := shared.filesSeen
          stage := .scanning (workers.set index next) })
  | _ => none

def raise (s : ScanSystem) (index : Nat) (job : ScanJob) (scan : RootScan) : Option ScanSystem :=
  match scan.stage with
  | .scanning workers => do
      let phase ← workers[index]?
      if phase.live then
        some (s.updateScan job { scan with stage := .scanning (workers.set index .raised) })
      else none
  | _ => none

/-- The threads are joined and the stop reason decides what happens to the session. -/
def join (s : ScanSystem) (job : ScanJob) (scan : RootScan) : Option ScanSystem :=
  match scan.stage with
  | .scanning workers =>
      if workers.any WorkerPhase.live then none
      else
        match scan.stopReason with
        | some reason => some (s.updateScan job { scan with stage := .interrupted reason })
        | none =>
            some (s.updateScan { job with controller := job.controller.markScanCompleted }
              { scan with stage := .completing })
  | _ => none

def requeue (s : ScanSystem) (now : Instant) (job : ScanJob) (scan : RootScan) :
    Option ScanSystem :=
  match scan.stage with
  | .interrupted reason => do
      let collecting ← s.catalog.step (now, .requeueCollectingDirectories scan.sessionId)
      let catalog ← collecting.step (now, .requeueProcessingDirectories scan.sessionId)
      some ({ s with catalog }.updateScan job { scan with stage := .requeued reason })
  | _ => none

/-- The session is marked and the job returns. -/
def interrupt (s : ScanSystem) (now : Instant) (scan : RootScan) : Option ScanSystem :=
  match scan.stage with
  | .requeued .stopped => do
      let catalog ← s.catalog.step (now, .markSessionStopped scan.sessionId)
      some { s with catalog, job := none }
  | .requeued .paused => do
      let catalog ← s.catalog.step (now, .markSessionPaused scan.sessionId)
      some { s with catalog, job := none }
  | _ => none

def commit (s : ScanSystem) (now : Instant) (job : ScanJob) (scan : RootScan) :
    Option ScanSystem :=
  match scan.stage with
  | .completing => do
      let catalog ← s.catalog.step (now, .commitScanSession scan.sessionId)
      some { s with catalog, job := some { job with current := none } }
  | _ => none

/-- The root is not readable: the session fails and so does the job. -/
def failRoot (s : ScanSystem) (now : Instant) (scan : RootScan) : Option ScanSystem :=
  match scan.stage with
  | .preparing => do
      let catalog ← s.catalog.step (now, .markSessionFailed scan.sessionId)
      some { s with catalog, job := none }
  | _ => none

def updateController (s : ScanSystem)
    (f : ScanRuntimeController → Bool × ScanRuntimeController) : Option ScanSystem :=
  s.withJob fun job => some { s with job := some { job with controller := (f job.controller).2 } }

/-- One atomic action at a time. -/
def step (s : ScanSystem) (label : Instant × ScanEvent) : Option ScanSystem :=
  match label with
  | (now, .syncRoot root) =>
      (s.catalog.step (now, .upsertStorageRoot root)).map fun catalog => { s with catalog }
  | (_, .startJob targets workers maxFiles) =>
      match s.job with
      | some _ => none
      | none => some { s with
          control := ⟨false, false⟩
          job := some ⟨.create workers.value, maxFiles, targets, none⟩ }
  | (_, .requestPause) =>
      s.withJob fun _ => some { s with control := { s.control with pauseRequested := true } }
  | (_, .requestResume) =>
      s.withJob fun _ => some { s with control := { s.control with pauseRequested := false } }
  | (_, .requestStop) =>
      s.withJob fun _ => some { s with control := { s.control with stopRequested := true } }
  | (_, .pauseActor actorId) => s.updateController (·.requestPause actorId)
  | (_, .resumeActor actorId) => s.updateController (·.requestResume actorId)
  | (_, .stopActor actorId) => s.updateController (·.requestStop actorId)
  | (now, .select sessionId) =>
      s.withJob fun job =>
        match job.current, job.targets with
        | none, target :: rest => s.select now sessionId job target rest
        | _, _ => none
  | (now, .failRoot) => s.withScan fun _ scan => s.failRoot now scan
  | (now, .prepare workItems seen) =>
      s.withScan fun job scan =>
        match scan.stage with
        | .preparing => s.prepare now workItems seen job scan
        | _ => none
  | (now, .work index read) => s.withScan (s.work now index read)
  | (_, .raise index) => s.withScan (s.raise index)
  | (_, .join) => s.withScan s.join
  | (now, .requeue) => s.withScan (s.requeue now)
  | (now, .interrupt) => s.withScan fun _ scan => s.interrupt now scan
  | (now, .commit) => s.withScan (s.commit now)
  | (_, .endJob) =>
      s.withJob fun job => if job.current.isNone then some { s with job := none } else none
  | (_, .crash) => some { s with control := ⟨false, false⟩, job := none }

end ScanSystem

end ImmichDoctor.Catalog
