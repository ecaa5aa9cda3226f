import ImmichDoctor.Catalog.ScanProcess
/-!
# Steps of the scan process

What a step of a worker thread and a step of the whole process can be, each as a
relation with one case for every way through the code.
-/

namespace ImmichDoctor.Catalog

open ImmichDoctor.Library

/-! ## Workers -/

/-- What a worker that leaves for a request does to the controller. -/
def ScanRuntimeController.leftFor (c : ScanRuntimeController) (worker : ActorId) :
    StopReason → ScanRuntimeController
  | .stopped => (c.requestStop worker).2.markIdle worker
  | .paused => (c.requestPause worker).2.markIdle worker

/-- What is counted after a batch, with the file limit. -/
def RootScan.counted (scan : RootScan) (worker : ActorId) (fileCount : Nat)
    (shared : WorkerShared) :
    WorkerShared :=
  let filesSeen := shared.filesSeen + fileCount
  let full := scan.maxFiles.any fun maxFiles => maxFiles ≤ (filesSeen : Int)
  { shared with
    filesSeen
    stopReason := if full && shared.stopReason.isNone then some .paused else shared.stopReason
    controller := shared.controller.markIdle worker }

/-- What a step of a worker does. -/
inductive WorkerStep (scan : RootScan) (control : ControlState) (now : Instant) (worker : ActorId)
    (read : ObservedBatch) (shared : WorkerShared) : WorkerPhase → WorkerPhase → WorkerShared → Prop
  | sees {reason : StopReason} (hcontrol : control.reason = some reason) :
      WorkerStep scan control now worker read shared .checkControl (.leave reason)
        { shared with stopReason := some reason }
  | goesOn (hcontrol : control.reason = none) :
      WorkerStep scan control now worker read shared .checkControl .waitRunnable shared
  | leaves {reason : StopReason} {catalog : CatalogState}
      (hcall : shared.catalog.step
        (now, .requeueProcessingDirectoriesForWorker scan.sessionId worker.text) = some catalog) :
      WorkerStep scan control now worker read shared (.leave reason) .returned
        { shared with catalog, controller := shared.controller.leftFor worker reason }
  | waitStopped (hstopped : worker ∈ shared.controller.stopped) :
      WorkerStep scan control now worker read shared .waitRunnable .leaveStopped
        { shared with controller := (shared.controller.waitUntilRunnable worker).2 }
  | waits (hstopped : worker ∉ shared.controller.stopped)
      (hpaused : worker ∈ shared.controller.paused) :
      WorkerStep scan control now worker read shared .waitRunnable .waitRunnable
        { shared with controller := (shared.controller.waitUntilRunnable worker).2 }
  | runs (hstopped : worker ∉ shared.controller.stopped)
      (hpaused : worker ∉ shared.controller.paused) :
      WorkerStep scan control now worker read shared .waitRunnable .claim
        { shared with controller := (shared.controller.waitUntilRunnable worker).2 }
  | leavesStopped {catalog : CatalogState}
      (hcall : shared.catalog.step
        (now, .requeueProcessingDirectoriesForWorker scan.sessionId worker.text) = some catalog) :
      WorkerStep scan control now worker read shared .leaveStopped .returned
        { shared with catalog }
  | claims {row : DirectoryQueueRow} {catalog : CatalogState} {claimed : CatalogDb}
      (hcall : shared.catalog.step (now, .claimNextDirectory scan.sessionId worker.text) =
        some catalog)
      (hclaim : shared.catalog.db.claimNextDirectory scan.sessionId worker.text =
        some (row, claimed)) :
      WorkerStep scan control now worker read shared .claim (.observe row)
        { shared with
          catalog
          controller := shared.controller.markRunning worker (some row.relativePath) }
  | claimsNothing {catalog : CatalogState}
      (hcall : shared.catalog.step (now, .claimNextDirectory scan.sessionId worker.text) =
        some catalog)
      (hclaim : shared.catalog.db.claimNextDirectory scan.sessionId worker.text = none) :
      WorkerStep scan control now worker read shared .claim .claimedNothing
        { shared with catalog, controller := shared.controller.markIdle worker }
  | ends (hfinished : shared.controller.collectorFinished = true) :
      WorkerStep scan control now worker read shared .claimedNothing .returned shared
  | retries (hfinished : shared.controller.collectorFinished = false) :
      WorkerStep scan control now worker read shared .claimedNothing .checkControl shared
  | observes {row : DirectoryQueueRow} :
      WorkerStep scan control now worker read shared (.observe row)
        (.apply row (RootScan.observedOf row read)) shared
  | applies {row : DirectoryQueueRow} {observed : ObservedBatch} {catalog : CatalogState}
      (hcall : shared.catalog.step
        (now, .applyDirectoryFiles (scan.application row observed)) = some catalog) :
      WorkerStep scan control now worker read shared (.apply row observed)
        (.count observed.files.length) { shared with catalog }
  | counts {fileCount : Nat} :
      WorkerStep scan control now worker read shared (.count fileCount) .recheck
        (scan.counted worker fileCount shared)
  | halts (hreason : shared.stopReason = some .paused) :
      WorkerStep scan control now worker read shared .recheck .returned shared
  | repeats (hreason : shared.stopReason ≠ some .paused) :
      WorkerStep scan control now worker read shared .recheck .checkControl shared

theorem workerStep_cases {scan : RootScan} {control : ControlState} {now : Instant}
    {worker : ActorId} {read : ObservedBatch} {shared shared' : WorkerShared}
    {phase next : WorkerPhase}
    (hstep : scan.workerStep control now worker read shared phase = some (next, shared')) :
    WorkerStep scan control now worker read shared phase next shared' := by
  cases phase with
  | checkControl =>
      simp only [RootScan.workerStep] at hstep
      split at hstep
      · next reason hreason =>
          cases hstep
          exact .sees hreason
      · next hreason =>
          cases hstep
          exact .goesOn hreason
  | leave reason =>
      obtain ⟨catalog, hcall, hnext⟩ := Option.bind_eq_some_iff.mp hstep
      cases hnext
      cases reason <;> exact .leaves hcall
  | waitRunnable =>
      have hwait : scan.workerStep control now worker read shared .waitRunnable =
          some (match (shared.controller.waitUntilRunnable worker).1 with
            | .stopped => .leaveStopped
            | .waiting => .waitRunnable
            | .running => .claim,
          { shared with controller := (shared.controller.waitUntilRunnable worker).2 }) := by
        simp only [RootScan.workerStep]
        split <;> next hpair => rw [hpair]
      rw [hwait] at hstep
      cases hstep
      by_cases hstopped : worker ∈ shared.controller.stopped
      · have houtcome : (shared.controller.waitUntilRunnable worker).1 = .stopped := by
          rw [ScanRuntimeController.waitUntilRunnable, if_pos hstopped]
        rw [houtcome]
        exact .waitStopped hstopped
      · by_cases hpaused : worker ∈ shared.controller.paused
        · have houtcome : (shared.controller.waitUntilRunnable worker).1 = .waiting := by
            rw [ScanRuntimeController.waitUntilRunnable, if_neg hstopped, if_pos hpaused]
          rw [houtcome]
          exact .waits hstopped hpaused
        · have houtcome : (shared.controller.waitUntilRunnable worker).1 = .running := by
            rw [ScanRuntimeController.waitUntilRunnable, if_neg hstopped, if_neg hpaused]
          rw [houtcome]
          exact .runs hstopped hpaused
  | leaveStopped =>
      obtain ⟨catalog, hcall, hnext⟩ := Option.bind_eq_some_iff.mp hstep
      cases hnext
      exact .leavesStopped hcall
  | claim =>
      obtain ⟨catalog, hcall, hnext⟩ := Option.bind_eq_some_iff.mp hstep
      split at hnext
      · next hclaim =>
          cases hnext
          exact .claimsNothing hcall hclaim
      · next hclaim =>
          cases hnext
          exact .claims hcall hclaim
  | claimedNothing =>
      simp only [RootScan.workerStep] at hstep
      split at hstep
      · next hfinished =>
          cases hstep
          exact .ends hfinished
      · next hfinished =>
          cases hstep
          exact .retries (Bool.eq_false_iff.mpr hfinished)
  | observe row =>
      cases hstep
      exact .observes
  | apply row observed =>
      obtain ⟨catalog, hcall, hnext⟩ := Option.bind_eq_some_iff.mp hstep
      cases hnext
      exact .applies hcall
  | count fileCount =>
      cases hstep
      exact .counts
  | recheck =>
      simp only [RootScan.workerStep] at hstep
      split at hstep
      · next hreason =>
          cases hstep
          exact .halts hreason
      · next hreason =>
          cases hstep
          exact .repeats hreason
  | returned => cases hstep
  | raised => cases hstep

/-! ## The process -/

/-- What a request to the whole job sets. -/
def ScanEvent.signal : ScanEvent → Option (ControlState → ControlState)
  | .requestPause => some fun control => { control with pauseRequested := true }
  | .requestResume => some fun control => { control with pauseRequested := false }
  | .requestStop => some fun control => { control with stopRequested := true }
  | _ => none

/-- What a request to a single actor does to the controller. -/
def ScanEvent.actorRequest : ScanEvent → Option (ScanRuntimeController → ScanRuntimeController)
  | .pauseActor actorId => some fun c => (c.requestPause actorId).2
  | .resumeActor actorId => some fun c => (c.requestResume actorId).2
  | .stopActor actorId => some fun c => (c.requestStop actorId).2
  | _ => none

/-- The locals of a root whose session has been selected. -/
def RootScan.opened (session : ScanSession) (sessionId : SessionId) (maxFiles : Option Int) :
    RootScan where
  sessionId := sessionId
  storageRootId := session.storageRootId
  snapshotId := session.snapshotId
  maxFiles := maxFiles
  stopReason := none
  filesSeen := session.filesSeen
  stage := .preparing

/-- What a step of the process does. -/
inductive ScanStep (s : ScanSystem) (now : Instant) : ScanEvent → ScanSystem → Prop
  | synced {root : CatalogRootSpec} {catalog : CatalogState}
      (hcall : s.catalog.step (now, .upsertStorageRoot root) = some catalog) :
      ScanStep s now (.syncRoot root) { s with catalog }
  | started {targets : List ScanTarget} {workers : WorkerCount} {maxFiles : Option Int}
      (hidle : s.job = none) :
      ScanStep s now (.startJob targets workers maxFiles)
        { s with
          control := ⟨false, false⟩
          job := some ⟨.create workers.value, maxFiles, targets, none⟩ }
  | signalled {event : ScanEvent} {job : ScanJob} {f : ControlState → ControlState}
      (hevent : event.signal = some f) (hjob : s.job = some job) :
      ScanStep s now event { s with control := f s.control }
  | asked {event : ScanEvent} {job : ScanJob} {f : ScanRuntimeController → ScanRuntimeController}
      (hevent : event.actorRequest = some f) (hjob : s.job = some job) :
      ScanStep s now event { s with job := some { job with controller := f job.controller } }
  | selected {sessionId selectedId : SessionId} {job : ScanJob} {target : ScanTarget}
      {rest : List ScanTarget} {catalog : CatalogState} {session : ScanSession}
      {root : StorageRoot} (hjob : s.job = some job) (hcurrent : job.current = none)
      (htargets : job.targets = target :: rest)
      (hopen : s.openSession now sessionId job target = some (catalog, selectedId))
      (hsession : catalog.db.getScanSession selectedId = some session)
      (hroot : catalog.db.storageRootById session.storageRootId = some root) :
      ScanStep s now (.select sessionId)
        { s with
          catalog
          job := some { job with
            targets := rest
            current := some (.opened session selectedId job.maxFiles) } }
  | rootFailed {job : ScanJob} {scan : RootScan} {catalog : CatalogState}
      (hjob : s.job = some job) (hcurrent : job.current = some scan)
      (hstage : scan.stage = .preparing)
      (hcall : s.catalog.step (now, .markSessionFailed scan.sessionId) = some catalog) :
      ScanStep s now .failRoot { s with catalog, job := none }
  | prepared {job : ScanJob} {scan : RootScan} {workItems : List QueuedWorkItem}
      {catalog : CatalogState} (hjob : s.job = some job) (hcurrent : job.current = some scan)
      (hstage : scan.stage = .preparing)
      (hcall : s.catalog.step (now, .seedDirectoryWorkQueue scan.sessionId workItems) =
        some catalog) :
      ScanStep s now (.prepare workItems none)
        ({ s with catalog }.updateScan
          { job with controller := job.controller.markCollectorFinished }
          { scan with
            stage := .scanning (job.controller.actorIds.map fun _ => WorkerPhase.checkControl) })
  | preparedInterrupted {job : ScanJob} {scan : RootScan} {workItems : List QueuedWorkItem}
      {reason : StopReason} {catalog : CatalogState} (hjob : s.job = some job)
      (hcurrent : job.current = some scan) (hstage : scan.stage = .preparing)
      (hcall : s.catalog.step (now, .seedDirectoryWorkQueue scan.sessionId workItems) =
        some catalog) :
      ScanStep s now (.prepare workItems (some reason))
        ({ s with catalog }.updateScan
          { job with controller := job.controller.leftFor .collector reason }
          { scan with stopReason := some reason, stage := .interrupted reason })
  | worked {index : Nat} {read : ObservedBatch} {job : ScanJob} {scan : RootScan}
      {workers : List WorkerPhase} {phase next : WorkerPhase} {shared : WorkerShared}
      (hjob : s.job = some job) (hcurrent : job.current = some scan)
      (hstage : scan.stage = .scanning workers) (hphase : workers[index]? = some phase)
      (hworker : WorkerStep scan s.control now (.worker (index + 1)) read
        ⟨s.catalog, job.controller, scan.stopReason, scan.filesSeen⟩ phase next shared) :
      ScanStep s now (.work index read)
        ({ s with catalog := shared.catalog }.updateScan
          { job with controller := shared.controller }
          { scan with
            stopReason := shared.stopReason
            filesSeen := shared.filesSeen
            stage := .scanning (workers.set index next) })
  | workerRaised {index : Nat} {job : ScanJob} {scan : RootScan} {workers : List WorkerPhase}
      {phase : WorkerPhase} (hjob : s.job = some job) (hcurrent : job.current = some scan)
      (hstage : scan.stage = .scanning workers) (hphase : workers[index]? = some phase)
      (hlive : phase.live = true) :
      ScanStep s now (.raise index)
        (s.updateScan job { scan with stage := .scanning (workers.set index .raised) })
  | joinedInterrupted {job : ScanJob} {scan : RootScan} {workers : List WorkerPhase}
      {reason : StopReason} (hjob : s.job = some job) (hcurrent : job.current = some scan)
      (hstage : scan.stage = .scanning workers) (hlive : workers.any WorkerPhase.live = false)
      (hreason : scan.stopReason = some reason) :
      ScanStep s now .join (s.updateScan job { scan with stage := .interrupted reason })
  | joined {job : ScanJob} {scan : RootScan} {workers : List WorkerPhase}
      (hjob : s.job = some job) (hcurrent : job.current = some scan)
      (hstage : scan.stage = .scanning workers) (hlive : workers.any WorkerPhase.live = false)
      (hreason : scan.stopReason = none) :
      ScanStep s now .join (s.updateScan
        { job with controller := job.controller.markScanCompleted }
          { scan with stage := .completing })
  | requeued {job : ScanJob} {scan : RootScan} {reason : StopReason}
      {collecting catalog : CatalogState} (hjob : s.job = some job)
      (hcurrent : job.current = some scan) (hstage : scan.stage = .interrupted reason)
      (hcollecting : s.catalog.step (now, .requeueCollectingDirectories scan.sessionId) =
        some collecting)
      (hcall : collecting.step (now, .requeueProcessingDirectories scan.sessionId) = some catalog) :
      ScanStep s now .requeue ({ s with catalog }.updateScan job
        { scan with stage := .requeued reason })
  | interruptedStopped {job : ScanJob} {scan : RootScan} {catalog : CatalogState}
      (hjob : s.job = some job) (hcurrent : job.current = some scan)
      (hstage : scan.stage = .requeued .stopped)
      (hcall : s.catalog.step (now, .markSessionStopped scan.sessionId) = some catalog) :
      ScanStep s now .interrupt { s with catalog, job := none }
  | interruptedPaused {job : ScanJob} {scan : RootScan} {catalog : CatalogState}
      (hjob : s.job = some job) (hcurrent : job.current = some scan)
      (hstage : scan.stage = .requeued .paused)
      (hcall : s.catalog.step (now, .markSessionPaused scan.sessionId) = some catalog) :
      ScanStep s now .interrupt { s with catalog, job := none }
  | committed {job : ScanJob} {scan : RootScan} {catalog : CatalogState}
      (hjob : s.job = some job) (hcurrent : job.current = some scan)
      (hstage : scan.stage = .completing)
      (hcall : s.catalog.step (now, .commitScanSession scan.sessionId) = some catalog) :
      ScanStep s now .commit { s with catalog, job := some { job with current := none } }
  | ended {job : ScanJob} (hjob : s.job = some job) (hcurrent : job.current = none) :
      ScanStep s now .endJob { s with job := none }
  | crashed : ScanStep s now .crash { s with control := ⟨false, false⟩, job := none }

section Inversion

variable {s t : ScanSystem} {now : Instant}

theorem ScanSystem.scan?_eq_some {job : ScanJob} {scan : RootScan} (hjob : s.job = some job)
    (hcurrent : job.current = some scan) : s.scan? = some scan := by
  rw [scan?, hjob]
  exact hcurrent

theorem ScanEvent.actorIds_actorRequest {event : ScanEvent}
    {f : ScanRuntimeController → ScanRuntimeController} (hevent : event.actorRequest = some f)
    (c : ScanRuntimeController) : (f c).actorIds = c.actorIds := by
  cases event with
  | pauseActor actorId =>
      cases hevent
      exact ScanRuntimeController.actorIds_requestPause c actorId
  | resumeActor actorId =>
      cases hevent
      exact ScanRuntimeController.actorIds_requestResume c actorId
  | stopActor actorId =>
      cases hevent
      exact ScanRuntimeController.actorIds_requestStop c actorId
  | _ => cases hevent

/-- A new job has at least one worker. -/
theorem ScanRuntimeController.actorIds_create_ne_nil (workers : WorkerCount) :
    (ScanRuntimeController.create workers.value).actorIds ≠ [] := by
  have hone := workers.one_le
  rw [actorIds_create]
  simp only [ne_eq, List.map_eq_nil_iff, List.range'_eq_nil_iff]
  omega

@[simp] theorem ScanRuntimeController.actorIds_leftFor (c : ScanRuntimeController)
    (worker : ActorId) (reason : StopReason) : (c.leftFor worker reason).actorIds = c.actorIds := by
  cases reason <;> simp [leftFor]

theorem job_of_withJob {f : ScanJob → Option ScanSystem} (hstep : s.withJob f = some t) :
    ∃ job, s.job = some job ∧ f job = some t :=
  Option.bind_eq_some_iff.mp hstep

theorem scan_of_withScan {f : ScanJob → RootScan → Option ScanSystem}
    (hstep : s.withScan f = some t) :
    ∃ job scan, s.job = some job ∧ job.current = some scan ∧ f job scan = some t := by
  obtain ⟨job, hjob, hrest⟩ := job_of_withJob hstep
  obtain ⟨scan, hcurrent, hf⟩ := Option.bind_eq_some_iff.mp hrest
  exact ⟨job, scan, hjob, hcurrent, hf⟩

theorem scanStep_of_select {sessionId : SessionId}
    (hstep : s.step (now, .select sessionId) = some t) : ScanStep s now (.select sessionId) t := by
  obtain ⟨job, hjob, hf⟩ := job_of_withJob hstep
  split at hf
  · next target rest hcurrent htargets =>
      simp only [ScanSystem.select, Option.bind_eq_bind, Option.bind_eq_some_iff] at hf
      obtain ⟨⟨catalog, selected⟩, hopen, session, hsession, root, hroot, ht⟩ := hf
      cases ht
      exact .selected hjob hcurrent htargets hopen hsession hroot
  · cases hf

theorem scanStep_of_prepare {workItems : List QueuedWorkItem} {seen : Option StopReason}
    (hstep : s.step (now, .prepare workItems seen) = some t) :
    ScanStep s now (.prepare workItems seen) t := by
  obtain ⟨job, scan, hjob, hcurrent, hf⟩ := scan_of_withScan hstep
  split at hf
  · next hstage =>
      obtain ⟨catalog, hcall, ht⟩ := Option.bind_eq_some_iff.mp hf
      cases seen with
      | none =>
          cases ht
          exact .prepared hjob hcurrent hstage hcall
      | some reason =>
          cases ht
          cases reason <;> exact .preparedInterrupted hjob hcurrent hstage hcall
  · cases hf

theorem scanStep_of_work {index : Nat} {read : ObservedBatch}
    (hstep : s.step (now, .work index read) = some t) : ScanStep s now (.work index read) t := by
  obtain ⟨job, scan, hjob, hcurrent, hf⟩ := scan_of_withScan hstep
  unfold ScanSystem.work at hf
  split at hf
  · next workers hstage =>
      obtain ⟨phase, hphase, hrest⟩ := Option.bind_eq_some_iff.mp hf
      obtain ⟨⟨next, shared⟩, hworker, ht⟩ := Option.bind_eq_some_iff.mp hrest
      cases ht
      exact .worked hjob hcurrent hstage hphase (workerStep_cases hworker)
  · cases hf

theorem scanStep_of_raise {index : Nat} (hstep : s.step (now, .raise index) = some t) :
    ScanStep s now (.raise index) t := by
  obtain ⟨job, scan, hjob, hcurrent, hf⟩ := scan_of_withScan hstep
  unfold ScanSystem.raise at hf
  split at hf
  · next workers hstage =>
      obtain ⟨phase, hphase, ht⟩ := Option.bind_eq_some_iff.mp hf
      split at ht
      · next hlive =>
          cases ht
          exact .workerRaised hjob hcurrent hstage hphase hlive
      · cases ht
  · cases hf

theorem scanStep_of_join (hstep : s.step (now, .join) = some t) : ScanStep s now .join t := by
  obtain ⟨job, scan, hjob, hcurrent, hf⟩ := scan_of_withScan hstep
  unfold ScanSystem.join at hf
  split at hf
  · next workers hstage =>
      split at hf
      · cases hf
      · next hlive =>
          have hall : workers.any WorkerPhase.live = false := Bool.eq_false_iff.mpr hlive
          split at hf
          · next reason hreason =>
              cases hf
              exact .joinedInterrupted hjob hcurrent hstage hall hreason
          · next hreason =>
              cases hf
              exact .joined hjob hcurrent hstage hall hreason
  · cases hf

theorem scanStep_of_end {event : ScanEvent}
    (hevent : event = .requeue ∨ event = .interrupt ∨ event = .commit ∨ event = .failRoot)
    (hstep : s.step (now, event) = some t) : ScanStep s now event t := by
  rcases hevent with rfl | rfl | rfl | rfl
  · obtain ⟨job, scan, hjob, hcurrent, hf⟩ := scan_of_withScan hstep
    unfold ScanSystem.requeue at hf
    split at hf
    · next reason hstage =>
        obtain ⟨collecting, hcollecting, hrest⟩ := Option.bind_eq_some_iff.mp hf
        obtain ⟨catalog, hcall, ht⟩ := Option.bind_eq_some_iff.mp hrest
        cases ht
        exact .requeued hjob hcurrent hstage hcollecting hcall
    · cases hf
  · obtain ⟨job, scan, hjob, hcurrent, hf⟩ := scan_of_withScan hstep
    unfold ScanSystem.interrupt at hf
    split at hf
    · next hstage =>
        obtain ⟨catalog, hcall, ht⟩ := Option.bind_eq_some_iff.mp hf
        cases ht
        exact .interruptedStopped hjob hcurrent hstage hcall
    · next hstage =>
        obtain ⟨catalog, hcall, ht⟩ := Option.bind_eq_some_iff.mp hf
        cases ht
        exact .interruptedPaused hjob hcurrent hstage hcall
    · cases hf
  · obtain ⟨job, scan, hjob, hcurrent, hf⟩ := scan_of_withScan hstep
    unfold ScanSystem.commit at hf
    split at hf
    · next hstage =>
        obtain ⟨catalog, hcall, ht⟩ := Option.bind_eq_some_iff.mp hf
        cases ht
        exact .committed hjob hcurrent hstage hcall
    · cases hf
  · obtain ⟨job, scan, hjob, hcurrent, hf⟩ := scan_of_withScan hstep
    unfold ScanSystem.failRoot at hf
    split at hf
    · next hstage =>
        obtain ⟨catalog, hcall, ht⟩ := Option.bind_eq_some_iff.mp hf
        cases ht
        exact .rootFailed hjob hcurrent hstage hcall
    · cases hf

theorem scanStep_of_step {event : ScanEvent} (hstep : s.step (now, event) = some t) :
    ScanStep s now event t := by
  cases event with
  | syncRoot root =>
      obtain ⟨catalog, hcall, rfl⟩ := Option.map_eq_some_iff.mp hstep
      exact .synced hcall
  | startJob targets workers maxFiles =>
      simp only [ScanSystem.step] at hstep
      split at hstep
      · cases hstep
      · next hidle =>
          cases hstep
          exact .started hidle
  | requestPause =>
      obtain ⟨job, hjob, ht⟩ := job_of_withJob hstep
      cases ht
      exact .signalled (show ScanEvent.requestPause.signal = some _ from rfl) hjob
  | requestResume =>
      obtain ⟨job, hjob, ht⟩ := job_of_withJob hstep
      cases ht
      exact .signalled (show ScanEvent.requestResume.signal = some _ from rfl) hjob
  | requestStop =>
      obtain ⟨job, hjob, ht⟩ := job_of_withJob hstep
      cases ht
      exact .signalled (show ScanEvent.requestStop.signal = some _ from rfl) hjob
  | pauseActor actorId =>
      obtain ⟨job, hjob, ht⟩ := job_of_withJob hstep
      cases ht
      exact .asked (show (ScanEvent.pauseActor actorId).actorRequest = some _ from rfl) hjob
  | resumeActor actorId =>
      obtain ⟨job, hjob, ht⟩ := job_of_withJob hstep
      cases ht
      exact .asked (show (ScanEvent.resumeActor actorId).actorRequest = some _ from rfl) hjob
  | stopActor actorId =>
      obtain ⟨job, hjob, ht⟩ := job_of_withJob hstep
      cases ht
      exact .asked (show (ScanEvent.stopActor actorId).actorRequest = some _ from rfl) hjob
  | select sessionId => exact scanStep_of_select hstep
  | failRoot => exact scanStep_of_end (by simp) hstep
  | prepare workItems seen => exact scanStep_of_prepare hstep
  | work index read => exact scanStep_of_work hstep
  | raise index => exact scanStep_of_raise hstep
  | join => exact scanStep_of_join hstep
  | requeue => exact scanStep_of_end (by simp) hstep
  | interrupt => exact scanStep_of_end (by simp) hstep
  | commit => exact scanStep_of_end (by simp) hstep
  | endJob =>
      obtain ⟨job, hjob, hf⟩ := job_of_withJob hstep
      split at hf
      · next hnone =>
          cases hf
          exact .ended hjob (Option.isNone_iff_eq_none.mp hnone)
      · cases hf
  | crash =>
      cases hstep
      exact .crashed

end Inversion

end ImmichDoctor.Catalog
