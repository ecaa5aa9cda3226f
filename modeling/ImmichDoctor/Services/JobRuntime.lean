import ImmichDoctor.Library.Text
import Mathlib.Logic.Function.Basic
/-!
# The background job runtime

`ManagedJobHandle` and `BackgroundJobRuntime`: job records and their files, the
dictionaries keyed by job type, and the wrapper that a worker thread runs a job in. A
method that writes a record is two steps, one that copies the record of the handle and
one that writes the copy. The result payload and the times of a record are left out.
-/

namespace ImmichDoctor.Services

open ImmichDoctor.Library

/-! ## Records -/

inductive BackgroundJobState
  | pending
  | running
  | pausing
  | paused
  | resuming
  | stopping
  | stopped
  | partial_
  | completed
  | failed
  | unsupported
  | cancelRequested
  | canceled
  deriving DecidableEq

/-- `TERMINAL_BACKGROUND_JOB_STATES`. -/
def terminalBackgroundJobStates : List BackgroundJobState :=
  [.partial_, .completed, .failed, .unsupported, .canceled, .paused, .stopped]

def BackgroundJobState.terminal (state : BackgroundJobState) : Bool :=
  terminalBackgroundJobStates.contains state

abbrev JobId := Nat

structure BackgroundJobRecord where
  jobType : PyStr
  state : BackgroundJobState
  summary : PyStr
  cancelRequested : Bool
  error : Option PyStr
  deriving DecidableEq

/-! ## Handles -/

/-- What `request_pause`, `request_resume` and `request_stop` ask for. -/
inductive JobRequest
  | pause
  | resume
  | stop
  deriving DecidableEq

structure ManagedJobHandle where
  record : BackgroundJobRecord
  stopEvent : Bool
  pauseEvent : Bool

namespace ManagedJobHandle

variable (handle : ManagedJobHandle)

/-- The record `update` and `mark_finished` write. -/
def updated (state : BackgroundJobState) (summary : PyStr) (error : Option PyStr) :
    BackgroundJobRecord :=
  { handle.record with
    state := state
    summary := summary
    error := error
    cancelRequested := handle.stopEvent }

/-- The record `mark_started` writes. -/
def started : BackgroundJobRecord :=
  { handle.record with state := .running }

/-- The record of a job whose runner raised. -/
def failed (error : PyStr) : BackgroundJobRecord :=
  handle.updated .failed (py "Background job failed.") (some error)

/-- The event a request sets or clears. -/
def signal : JobRequest → ManagedJobHandle
  | .pause => { handle with pauseEvent := true }
  | .resume => { handle with pauseEvent := false }
  | .stop => { handle with stopEvent := true }

/-- The record a request writes. -/
def requested : JobRequest → BackgroundJobRecord
  | .pause => { handle.record with state := .pausing, summary := py "Pause requested." }
  | .resume => { handle.record with state := .resuming, summary := py "Resume requested." }
  | .stop =>
      { handle.record with
        state := .stopping
        summary := py "Stop requested."
        cancelRequested := true }

end ManagedJobHandle

/-! ## Jobs -/

/-- Where `_run_job` is; a record is one that is about to be written. -/
inductive WorkerPhase
  | submitting
  | queued
  | starting (record : BackgroundJobRecord)
  | running
  | updating (record : BackgroundJobRecord)
  | finishing (record : BackgroundJobRecord)
  | failing (record : BackgroundJobRecord)
  | cleaning
  | done
  deriving DecidableEq

structure Job where
  /-- What its file holds. -/
  persisted : BackgroundJobRecord
  handle : ManagedJobHandle
  phase : WorkerPhase

/-- A job as `start_job` creates it. -/
def Job.new (jobType summary : PyStr) : Job :=
  let record : BackgroundJobRecord := ⟨jobType, .pending, summary, false, none⟩
  ⟨record, ⟨record, false, false⟩, .submitting⟩

/-- The record is written to its file and kept by the handle. -/
def Job.persist (job : Job) (record : BackgroundJobRecord) : Job :=
  { job with persisted := record, handle := { job.handle with record := record } }

/-- The worker has not left `_run_job`, so its future is not done. -/
def Job.active (job : Job) : Prop :=
  job.phase ≠ .done

instance (job : Job) : Decidable job.active := inferInstanceAs (Decidable (_ ≠ _))

structure JobRuntime where
  jobs : JobId → Option Job
  /-- `_active_jobs`. -/
  activeJobs : PyStr → Option JobId
  /-- `_job_attachments`; an attachment is known by the job whose runner set it. -/
  jobAttachments : PyStr → Option JobId

def JobRuntime.empty : JobRuntime :=
  ⟨fun _ => none, fun _ => none, fun _ => none⟩

/-- What a worker does next. -/
inductive WorkerAction
  | pick
  | attach
  | update (state : BackgroundJobState) (summary : PyStr) (error : Option PyStr)
  | finish (state : BackgroundJobState) (summary : PyStr)
  | raise (error : PyStr)
  | persist
  | persistFails (error : PyStr)
  | cleanUp
  deriving DecidableEq

/-- `_run_job` up to its `finally` block; the exception of a write in `mark_started` leaves
it, the one of a write in `update` is the runner's, and the one of the write that reports
the end is followed by a report of failure. -/
def Job.act (job : Job) : WorkerAction → Option Job
  | .pick =>
      match job.phase with
      | .queued => some { job with phase := .starting job.handle.started }
      | _ => none
  | .update state summary error =>
      match job.phase with
      | .running => some { job with phase := .updating (job.handle.updated state summary error) }
      | _ => none
  | .finish state summary =>
      match job.phase with
      | .running => some { job with phase := .finishing (job.handle.updated state summary none) }
      | _ => none
  | .raise error =>
      match job.phase with
      | .running => some { job with phase := .failing (job.handle.failed error) }
      | _ => none
  | .persist =>
      match job.phase with
      | .starting record | .updating record => some { job.persist record with phase := .running }
      | .finishing record | .failing record => some { job.persist record with phase := .cleaning }
      | _ => none
  | .persistFails error =>
      match job.phase with
      | .starting _ => some { job with phase := .done }
      | .updating _ => some { job with phase := .running }
      | .finishing _ => some { job with phase := .failing (job.handle.failed error) }
      | .failing _ => some { job with phase := .cleaning }
      | _ => none
  | .attach | .cleanUp => none

namespace JobRuntime

variable (runtime : JobRuntime)

def setJob (id : JobId) (job : Job) : JobRuntime :=
  { runtime with jobs := Function.update runtime.jobs id (some job) }

/-- The first part of `start_job`: a record with a fresh id is persisted. -/
def createJob (id : JobId) (jobType summary : PyStr) : Option JobRuntime :=
  match runtime.jobs id with
  | some _ => none
  | none => some (runtime.setJob id (.new jobType summary))

/-- The job is handed to the executor. -/
def submit (id : JobId) : Option JobRuntime :=
  match runtime.jobs id with
  | some job =>
      if job.phase = .submitting then some (runtime.setJob id { job with phase := .queued })
      else none
  | none => none

/-- The last part of `start_job`. -/
def register (jobType : PyStr) (id : JobId) : JobRuntime :=
  { runtime with activeJobs := Function.update runtime.activeJobs jobType (some id) }

/-- `active_job`: the record of the registered job, which is dropped when its future is done. -/
def activeJob (jobType : PyStr) : Option BackgroundJobRecord × JobRuntime :=
  match runtime.activeJobs jobType with
  | none => (none, runtime)
  | some id =>
      match runtime.jobs id with
      | none => (none, runtime)
      | some job =>
          (some job.handle.record,
            if job.active then runtime
            else { runtime with activeJobs := Function.update runtime.activeJobs jobType none })

/-- The `finally` block of `_run_job`. -/
def cleanUp (id : JobId) (job : Job) : JobRuntime :=
  let jobType := job.handle.record.jobType
  { jobs := Function.update runtime.jobs id (some { job with phase := .done })
    activeJobs :=
      if runtime.activeJobs jobType = some id then
        Function.update runtime.activeJobs jobType none
      else runtime.activeJobs
    jobAttachments := Function.update runtime.jobAttachments jobType none }

/-- One step of the worker of a job. -/
def workerStep (id : JobId) (action : WorkerAction) : Option JobRuntime :=
  match runtime.jobs id with
  | none => none
  | some job =>
      match action with
      | .attach =>
          if job.phase = .running then
            some { runtime with
              jobAttachments :=
                Function.update runtime.jobAttachments job.handle.record.jobType (some id) }
          else none
      | .cleanUp => if job.phase = .cleaning then some (runtime.cleanUp id job) else none
      | action => (job.act action).map (runtime.setJob id)

end JobRuntime

/-! ## Callers -/

/-- Where a request of the API is. -/
inductive CallerPhase
  | idle
  /-- `active_job` returned `None` to a method that starts jobs of this type. -/
  | checked (jobType : PyStr)
  | created (jobType : PyStr) (id : JobId)
  | submitted (jobType : PyStr) (id : JobId)
  /-- The handle of the job was looked up. -/
  | holding (request : JobRequest) (id : JobId)
  | signalled (request : JobRequest) (id : JobId)
  | writing (id : JobId) (record : BackgroundJobRecord)
  deriving DecidableEq

structure JobSystem where
  runtime : JobRuntime
  callers : Nat → CallerPhase

def JobSystem.start : JobSystem :=
  ⟨.empty, fun _ => .idle⟩

inductive JobLabel
  | checkActive (caller : Nat) (jobType : PyStr)
  | abandon (caller : Nat)
  | createJob (caller : Nat) (id : JobId) (summary : PyStr)
  | submit (caller : Nat)
  | register (caller : Nat)
  | lookUp (caller : Nat) (request : JobRequest) (jobType : PyStr)
  | signal (caller : Nat)
  | prepare (caller : Nat)
  | persist (caller : Nat)
  | persistFails (caller : Nat)
  | worker (id : JobId) (action : WorkerAction)
  deriving DecidableEq

namespace JobSystem

variable (s : JobSystem)

def setCaller (caller : Nat) (phase : CallerPhase) (runtime : JobRuntime) : JobSystem :=
  ⟨runtime, Function.update s.callers caller phase⟩

/-- One step of a caller or of a worker. -/
def step : JobLabel → Option JobSystem
  | .checkActive caller jobType =>
      match s.callers caller with
      | .idle =>
          let (active, runtime) := s.runtime.activeJob jobType
          some (s.setCaller caller (if active.isNone then .checked jobType else .idle) runtime)
      | _ => none
  | .abandon caller =>
      match s.callers caller with
      | .checked _ => some (s.setCaller caller .idle s.runtime)
      | _ => none
  | .createJob caller id summary =>
      match s.callers caller with
      | .checked jobType =>
          (s.runtime.createJob id jobType summary).map (s.setCaller caller (.created jobType id))
      | _ => none
  | .submit caller =>
      match s.callers caller with
      | .created jobType id =>
          (s.runtime.submit id).map (s.setCaller caller (.submitted jobType id))
      | _ => none
  | .register caller =>
      match s.callers caller with
      | .submitted jobType id => some (s.setCaller caller .idle (s.runtime.register jobType id))
      | _ => none
  | .lookUp caller request jobType =>
      match s.callers caller with
      | .idle =>
          match s.runtime.activeJobs jobType with
          | none => some s
          | some id => some (s.setCaller caller (.holding request id) s.runtime)
      | _ => none
  | .signal caller =>
      match s.callers caller with
      | .holding request id =>
          (s.runtime.jobs id).map fun job =>
            s.setCaller caller (.signalled request id)
              (s.runtime.setJob id { job with handle := job.handle.signal request })
      | _ => none
  | .prepare caller =>
      match s.callers caller with
      | .signalled request id =>
          (s.runtime.jobs id).map fun job =>
            s.setCaller caller (.writing id (job.handle.requested request)) s.runtime
      | _ => none
  | .persist caller =>
      match s.callers caller with
      | .writing id record =>
          (s.runtime.jobs id).map fun job =>
            s.setCaller caller .idle (s.runtime.setJob id (job.persist record))
      | _ => none
  | .persistFails caller =>
      match s.callers caller with
      | .writing _ _ => some (s.setCaller caller .idle s.runtime)
      | _ => none
  | .worker id action => (s.runtime.workerStep id action).map fun runtime => ⟨runtime, s.callers⟩

end JobSystem

end ImmichDoctor.Services
