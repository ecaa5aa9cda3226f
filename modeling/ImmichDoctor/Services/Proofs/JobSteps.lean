import ImmichDoctor.Library.Transition
import ImmichDoctor.Services.JobRuntime
/-!
# Steps of workers and callers

What an action of a worker does to its job, and to the dictionaries of the runtime, and what
a step of the whole system does.
-/

namespace ImmichDoctor.Services

open ImmichDoctor.Library

/-- The record the worker is about to write. -/
def WorkerPhase.pending : WorkerPhase → Option BackgroundJobRecord
  | .starting record | .updating record | .finishing record | .failing record => some record
  | _ => none

/-- The state a worker's action is about to write. -/
def WorkerAction.written : WorkerAction → Option BackgroundJobState
  | .update state _ _ | .finish state _ => some state
  | _ => none

section Actions

variable {job next : Job} {action : WorkerAction}

/-- An action of the worker that does not write keeps the file. -/
theorem Job.act_cases (hact : job.act action = some next) :
    (action = .persist ∧ ∃ record, job.phase.pending = some record ∧
        next.persisted = record ∧ next.phase.pending = none ∧
        next.phase ≠ .submitting ∧ next.phase ≠ .queued) ∨
      (action ≠ .persist ∧ next.persisted = job.persisted ∧ next.phase ≠ .submitting ∧
        next.phase ≠ .queued ∧ ∀ record, next.phase.pending = some record →
          record.state.terminal = true ∨ (job.phase = .queued) ∨
            ∃ state, action.written = some state ∧ record.state = state) := by
  cases action with
  | attach => cases hact
  | cleanUp => cases hact
  | persist =>
      left
      simp only [act] at hact
      cases hphase : job.phase with
      | starting record | updating record | finishing record | failing record =>
          rw [hphase] at hact
          cases hact
          exact ⟨rfl, record, rfl, rfl, rfl, nofun, nofun⟩
      | submitting | queued | running | cleaning | done =>
          rw [hphase] at hact
          cases hact
  | pick =>
      right
      simp only [act] at hact
      split at hact
      · next hphase =>
          cases hact
          exact ⟨nofun, rfl, nofun, nofun, fun _ _ => Or.inr (Or.inl hphase)⟩
      · cases hact
  | update state summary error =>
      right
      simp only [act] at hact
      split at hact
      · cases hact
        refine ⟨nofun, rfl, nofun, nofun, fun record hrecord => Or.inr (Or.inr ⟨state, rfl, ?_⟩)⟩
        cases hrecord
        rfl
      · cases hact
  | finish state summary =>
      right
      simp only [act] at hact
      split at hact
      · cases hact
        refine ⟨nofun, rfl, nofun, nofun, fun record hrecord => Or.inr (Or.inr ⟨state, rfl, ?_⟩)⟩
        cases hrecord
        rfl
      · cases hact
  | raise error =>
      right
      simp only [act] at hact
      split at hact
      · cases hact
        refine ⟨nofun, rfl, nofun, nofun, fun record hrecord => Or.inl ?_⟩
        cases hrecord
        rfl
      · cases hact
  | persistFails error =>
      right
      simp only [act] at hact
      split at hact
      · cases hact
        exact ⟨nofun, rfl, nofun, nofun, nofun⟩
      · cases hact
        exact ⟨nofun, rfl, nofun, nofun, nofun⟩
      · cases hact
        refine ⟨nofun, rfl, nofun, nofun, fun record hrecord => Or.inl ?_⟩
        cases hrecord
        rfl
      · cases hact
        exact ⟨nofun, rfl, nofun, nofun, nofun⟩
      · cases hact

/-- A worker that takes a step before its `finally` block is not done. -/
theorem Job.active_of_act (hact : job.act action = some next) : job.active := by
  intro hdone
  cases action with
  | attach | cleanUp => cases hact
  | pick | update state summary error | finish state summary | raise error | persist
  | persistFails error =>
      simp only [act, hdone] at hact
      cases hact

end Actions

/-- A worker's step is an action on its job, the registration of an attachment, or the
`finally` block. -/
theorem JobRuntime.workerStep_cases {runtime after : JobRuntime} {id : JobId}
    {action : WorkerAction} (hstep : runtime.workerStep id action = some after) :
    ∃ job, runtime.jobs id = some job ∧
      ((action = .attach ∧ job.phase = .running ∧ after = { runtime with
          jobAttachments :=
            Function.update runtime.jobAttachments job.handle.record.jobType (some id) }) ∨
        (action = .cleanUp ∧ job.phase = .cleaning ∧ after = runtime.cleanUp id job) ∨
        ∃ next, job.act action = some next ∧ after = runtime.setJob id next) := by
  cases hjob : runtime.jobs id with
  | none =>
      rw [workerStep, hjob] at hstep
      cases hstep
  | some job =>
      refine ⟨job, rfl, ?_⟩
      cases action with
      | attach =>
          left
          simp only [workerStep, hjob] at hstep
          split at hstep
          · next hrunning =>
              cases hstep
              exact ⟨rfl, hrunning, rfl⟩
          · cases hstep
      | cleanUp =>
          right; left
          simp only [workerStep, hjob] at hstep
          split at hstep
          · next hcleaning =>
              cases hstep
              exact ⟨rfl, hcleaning, rfl⟩
          · cases hstep
      | pick | update state summary error | finish state summary | raise error | persist
      | persistFails error =>
          right; right
          simp only [workerStep, hjob] at hstep
          obtain ⟨next, hact, rfl⟩ := Option.map_eq_some_iff.mp hstep
          exact ⟨next, hact, rfl⟩

/-! ## The look for an active job -/

namespace JobRuntime

variable (runtime : JobRuntime) (jobType : PyStr)

theorem jobs_activeJob : (runtime.activeJob jobType).2.jobs = runtime.jobs := by
  unfold activeJob
  split
  · rfl
  split
  · rfl
  · simp only
    split <;> rfl

/-- It drops the registration of a job that is done, and no other. -/
theorem activeJobs_activeJob :
    (runtime.activeJob jobType).2.activeJobs = runtime.activeJobs ∨
      ∃ id job, runtime.activeJobs jobType = some id ∧ runtime.jobs id = some job ∧ ¬ job.active ∧
        (runtime.activeJob jobType).2.activeJobs =
          Function.update runtime.activeJobs jobType none := by
  unfold activeJob
  split
  · exact Or.inl rfl
  · next id hregistered =>
      split
      · exact Or.inl rfl
      · next job hjob =>
          by_cases hactive : job.active
          · exact Or.inl (by simp only [if_pos hactive])
          · exact Or.inr ⟨id, job, hregistered, hjob, hactive, by simp only [if_neg hactive]⟩

end JobRuntime

/-! ## Steps of the system -/

/-- What holds of a caller after one of them moved on. -/
theorem callers_update {callers : Nat → CallerPhase} {caller other : Nat} {phase : CallerPhase}
    (P : CallerPhase → Prop) (h : P (Function.update callers caller phase other)) :
    other = caller ∧ P phase ∨ other ≠ caller ∧ P (callers other) :=
  of_update P h

/-- A job that is there after one was written is that one, or it was there before. -/
theorem jobs_update {jobs : JobId → Option Job} {id other : JobId} {next found : Job}
    (h : Function.update jobs id (some next) other = some found) :
    other = id ∧ found = next ∨ other ≠ id ∧ jobs other = some found :=
  (of_update (· = some found) h).imp_left fun ⟨hid, hnext⟩ => ⟨hid, (Option.some.inj hnext).symm⟩

namespace JobSystem

/-- The steps with the phase their caller was in and the job they are about. -/
inductive Does (s : JobSystem) : JobLabel → JobSystem → Prop
  | checkActive {caller : Nat} {jobType : PyStr} (hidle : s.callers caller = .idle) :
      Does s (.checkActive caller jobType)
        (s.setCaller caller
          (if (s.runtime.activeJob jobType).1.isNone then .checked jobType else .idle)
          (s.runtime.activeJob jobType).2)
  | abandon {caller : Nat} {jobType : PyStr} (hchecked : s.callers caller = .checked jobType) :
      Does s (.abandon caller) (s.setCaller caller .idle s.runtime)
  | createJob {caller : Nat} {jobType : PyStr} {id : JobId} {summary : PyStr}
      (hchecked : s.callers caller = .checked jobType) (hfresh : s.runtime.jobs id = none) :
      Does s (.createJob caller id summary)
        (s.setCaller caller (.created jobType id) (s.runtime.setJob id (.new jobType summary)))
  | submit {caller : Nat} {jobType : PyStr} {id : JobId} {job : Job}
      (hcreated : s.callers caller = .created jobType id) (hjob : s.runtime.jobs id = some job)
      (hphase : job.phase = .submitting) :
      Does s (.submit caller) (s.setCaller caller (.submitted jobType id)
        (s.runtime.setJob id { job with phase := .queued }))
  | register {caller : Nat} {jobType : PyStr} {id : JobId}
      (hsubmitted : s.callers caller = .submitted jobType id) :
      Does s (.register caller) (s.setCaller caller .idle (s.runtime.register jobType id))
  | lookUpNone {caller : Nat} {request : JobRequest} {jobType : PyStr}
      (hidle : s.callers caller = .idle) (hnone : s.runtime.activeJobs jobType = none) :
      Does s (.lookUp caller request jobType) s
  | lookUp {caller : Nat} {request : JobRequest} {jobType : PyStr} {id : JobId}
      (hidle : s.callers caller = .idle) (hactive : s.runtime.activeJobs jobType = some id) :
      Does s (.lookUp caller request jobType)
        (s.setCaller caller (.holding request id) s.runtime)
  | signal {caller : Nat} {request : JobRequest} {id : JobId} {job : Job}
      (hholding : s.callers caller = .holding request id) (hjob : s.runtime.jobs id = some job) :
      Does s (.signal caller) (s.setCaller caller (.signalled request id)
        (s.runtime.setJob id { job with handle := job.handle.signal request }))
  | prepare {caller : Nat} {request : JobRequest} {id : JobId} {job : Job}
      (hsignalled : s.callers caller = .signalled request id)
      (hjob : s.runtime.jobs id = some job) :
      Does s (.prepare caller)
        (s.setCaller caller (.writing id (job.handle.requested request)) s.runtime)
  | persist {caller : Nat} {id : JobId} {record : BackgroundJobRecord} {job : Job}
      (hwriting : s.callers caller = .writing id record) (hjob : s.runtime.jobs id = some job) :
      Does s (.persist caller) (s.setCaller caller .idle (s.runtime.setJob id (job.persist record)))
  | persistFails {caller : Nat} {id : JobId} {record : BackgroundJobRecord}
      (hwriting : s.callers caller = .writing id record) :
      Does s (.persistFails caller) (s.setCaller caller .idle s.runtime)
  | worker {id : JobId} {action : WorkerAction} {runtime : JobRuntime}
      (hworker : s.runtime.workerStep id action = some runtime) :
      Does s (.worker id action) ⟨runtime, s.callers⟩

variable {s t : JobSystem}

theorem does_of_step {label : JobLabel} (hstep : s.step label = some t) : s.Does label t := by
  cases label with
  | checkActive caller jobType =>
      simp only [step] at hstep
      split at hstep
      · next hidle => exact Option.some.inj hstep ▸ .checkActive hidle
      · cases hstep
  | abandon caller =>
      simp only [step] at hstep
      split at hstep
      · next jobType hchecked => exact Option.some.inj hstep ▸ .abandon hchecked
      · cases hstep
  | createJob caller id summary =>
      simp only [step] at hstep
      split at hstep
      · next jobType hchecked =>
          obtain ⟨runtime, hcreate, rfl⟩ := Option.map_eq_some_iff.mp hstep
          unfold JobRuntime.createJob at hcreate
          split at hcreate
          · cases hcreate
          · next hfresh => exact Option.some.inj hcreate ▸ .createJob hchecked hfresh
      · cases hstep
  | submit caller =>
      simp only [step] at hstep
      split at hstep
      · next jobType id hcreated =>
          obtain ⟨runtime, hsubmit, rfl⟩ := Option.map_eq_some_iff.mp hstep
          unfold JobRuntime.submit at hsubmit
          split at hsubmit
          · next job hjob =>
              split at hsubmit
              · next hphase => exact Option.some.inj hsubmit ▸ .submit hcreated hjob hphase
              · cases hsubmit
          · cases hsubmit
      · cases hstep
  | register caller =>
      simp only [step] at hstep
      split at hstep
      · next jobType id hsubmitted => exact Option.some.inj hstep ▸ .register hsubmitted
      · cases hstep
  | lookUp caller request jobType =>
      simp only [step] at hstep
      split at hstep
      · next hidle =>
          split at hstep
          · next hnone => exact Option.some.inj hstep ▸ .lookUpNone hidle hnone
          · next id hactive => exact Option.some.inj hstep ▸ .lookUp hidle hactive
      · cases hstep
  | signal caller =>
      simp only [step] at hstep
      split at hstep
      · next request id hholding =>
          obtain ⟨job, hjob, rfl⟩ := Option.map_eq_some_iff.mp hstep
          exact .signal hholding hjob
      · cases hstep
  | prepare caller =>
      simp only [step] at hstep
      split at hstep
      · next request id hsignalled =>
          obtain ⟨job, hjob, rfl⟩ := Option.map_eq_some_iff.mp hstep
          exact .prepare hsignalled hjob
      · cases hstep
  | persist caller =>
      simp only [step] at hstep
      split at hstep
      · next id record hwriting =>
          obtain ⟨job, hjob, rfl⟩ := Option.map_eq_some_iff.mp hstep
          exact .persist hwriting hjob
      · cases hstep
  | persistFails caller =>
      simp only [step] at hstep
      split at hstep
      · next id record hwriting => exact Option.some.inj hstep ▸ .persistFails hwriting
      · cases hstep
  | worker id action =>
      obtain ⟨runtime, hworker, rfl⟩ := Option.map_eq_some_iff.mp hstep
      exact .worker hworker

end JobSystem

end ImmichDoctor.Services
