import ImmichDoctor.Services.Proofs.JobSteps
/-!
# Terminal job states

A request writes its state without a look at the state there is, so a terminal state stays
only when nobody holds the job's handle when it is written, and nobody looks the job up
afterwards. Under that condition it stays for the rest of the run.
-/

namespace ImmichDoctor.Services

open ImmichDoctor.Library

/-! ## What is in flight -/

/-- The caller has looked the job up and its request is not written yet. -/
def CallerPhase.Engaged (id : JobId) : CallerPhase → Prop
  | .holding _ other | .signalled _ other | .writing other _ => other = id
  | _ => False

/-- The file of the job holds a terminal state. -/
def JobRuntime.Terminal (runtime : JobRuntime) (id : JobId) : Prop :=
  ∃ job, runtime.jobs id = some job ∧ job.persisted.state.terminal = true

/-- A job is looked up, and given a state that is not terminal by its worker, only before a
terminal state is written, which is done while no caller holds its handle. -/
def RequestsInTime (s : JobSystem) : JobLabel → Prop
  | .lookUp _ _ jobType => ∀ id, s.runtime.activeJobs jobType = some id → ¬ s.runtime.Terminal id
  | .worker id .persist =>
      ∀ job record, s.runtime.jobs id = some job → job.phase.pending = some record →
        record.state.terminal = true → ∀ caller, ¬ (s.callers caller).Engaged id
  | .worker id action =>
      ∀ state, action.written = some state → state.terminal = false → ¬ s.runtime.Terminal id
  | _ => True

/-! ## The invariant -/

/-- A job with a terminal state is held by no caller, and its worker writes no other state. -/
structure JobSettled (callers : Nat → CallerPhase) (id : JobId) (job : Job) : Prop where
  free : job.persisted.state.terminal = true → ∀ caller, ¬ (callers caller).Engaged id
  kept : job.persisted.state.terminal = true → ∀ record, job.phase.pending = some record →
    record.state.terminal = true
  fresh : job.phase = .submitting ∨ job.phase = .queued → job.persisted.state.terminal = false

theorem JobSettled.new (callers : Nat → CallerPhase) (id : JobId) (jobType summary : PyStr) :
    JobSettled callers id (.new jobType summary) :=
  ⟨fun hterminal => (Bool.false_ne_true hterminal).elim,
    fun hterminal => (Bool.false_ne_true hterminal).elim, fun _ => rfl⟩

structure Settled (s : JobSystem) : Prop where
  jobs : ∀ id job, s.runtime.jobs id = some job → JobSettled s.callers id job
  requests : ∀ caller id record, s.callers caller = .writing id record →
    record.state.terminal = false

theorem requested_not_terminal (handle : ManagedJobHandle) (request : JobRequest) :
    (handle.requested request).state.terminal = false := by
  cases request with
  | pause => rfl
  | resume => rfl
  | stop => rfl

section Step

variable {s t : JobSystem} {id : JobId} {job : Job} {caller : Nat} {phase : CallerPhase}

/-- A caller moves on, and what it becomes engaged with is not terminal. -/
theorem Settled.setCaller {runtime : JobRuntime} (h : Settled s)
    (hjobs : runtime.jobs = s.runtime.jobs)
    (hengaged : ∀ id job, phase.Engaged id → s.runtime.jobs id = some job →
      job.persisted.state.terminal = false)
    (hrecord : ∀ id record, phase = .writing id record → record.state.terminal = false) :
    Settled (s.setCaller caller phase runtime) where
  jobs := by
    intro id job hjob
    have hjob' : s.runtime.jobs id = some job := by rw [← hjobs]; exact hjob
    have hold := h.jobs id job hjob'
    refine ⟨fun hterminal other hother => ?_, hold.kept, hold.fresh⟩
    rcases callers_update (·.Engaged id) hother with ⟨-, hphase⟩ | ⟨-, hbefore⟩
    · rw [hengaged id job hphase hjob'] at hterminal
      cases hterminal
    · exact hold.free hterminal other hbefore
  requests := by
    intro other id record hwriting
    rcases callers_update (· = .writing id record) hwriting with ⟨-, hphase⟩ | ⟨-, hbefore⟩
    · exact hrecord id record hphase
    · exact h.requests other id record hbefore

/-- A job is replaced by a settled one. -/
theorem Settled.setJob {runtime : JobRuntime} (h : Settled s)
    (hjobs : runtime.jobs = Function.update s.runtime.jobs id (some job))
    (hjob : JobSettled s.callers id job) : Settled ⟨runtime, s.callers⟩ where
  jobs := by
    intro other found hfound
    have hfound' : Function.update s.runtime.jobs id (some job) other = some found := by
      rw [← hjobs]; exact hfound
    rcases jobs_update hfound' with ⟨rfl, rfl⟩ | ⟨-, hold⟩
    · exact hjob
    · exact h.jobs other found hold
  requests := h.requests

theorem Settled.setRuntimeJob (h : Settled s) (id : JobId) {job : Job}
    (hjob : JobSettled s.callers id job) : Settled ⟨s.runtime.setJob id job, s.callers⟩ :=
  h.setJob rfl hjob

/-- What held a terminal state still does. -/
def KeepsTerminal (before after : JobRuntime) : Prop :=
  ∀ id, before.Terminal id → after.Terminal id

theorem keepsTerminal_of_jobs {before after : JobRuntime} (hjobs : after.jobs = before.jobs) :
    KeepsTerminal before after := by
  rintro id ⟨job, hjob, hterminal⟩
  exact ⟨job, by rw [hjobs]; exact hjob, hterminal⟩

theorem keepsTerminal_of_update {before after : JobRuntime}
    (hjobs : after.jobs = Function.update before.jobs id (some job))
    (hjob : ∀ old, before.jobs id = some old → old.persisted.state.terminal = true →
      job.persisted.state.terminal = true) : KeepsTerminal before after := by
  rintro other ⟨old, hold, hterminal⟩
  by_cases heq : other = id
  · subst heq
    exact ⟨job, by rw [hjobs, Function.update_self], hjob old hold hterminal⟩
  · exact ⟨old, by rw [hjobs, Function.update_of_ne heq]; exact hold, hterminal⟩

theorem Settled.not_terminal (h : Settled s) (hengaged : (s.callers caller).Engaged id)
    (hjob : s.runtime.jobs id = some job) : job.persisted.state.terminal = false := by
  cases hterminal : job.persisted.state.terminal with
  | false => rfl
  | true => exact absurd hengaged ((h.jobs id job hjob).free hterminal caller)

/-- A worker's step under the condition. -/
theorem Settled.worker {action : WorkerAction} {runtime : JobRuntime} (h : Settled s)
    (hok : RequestsInTime s (.worker id action))
    (hstep : s.runtime.workerStep id action = some runtime) :
    Settled ⟨runtime, s.callers⟩ ∧ KeepsTerminal s.runtime runtime := by
  obtain ⟨job, hjob, hcases⟩ := JobRuntime.workerStep_cases hstep
  have hsettled := h.jobs id job hjob
  rcases hcases with ⟨-, -, rfl⟩ | ⟨-, -, rfl⟩ | ⟨next, hact, rfl⟩
  · exact ⟨⟨h.jobs, h.requests⟩, keepsTerminal_of_jobs rfl⟩
  · refine ⟨h.setJob rfl ⟨hsettled.free, nofun, nofun⟩, keepsTerminal_of_update rfl ?_⟩
    intro old hold hterminal
    rw [hjob] at hold
    cases hold
    exact hterminal
  · rcases Job.act_cases hact with ⟨rfl, record, hpending, hwritten, hnone, hfirst, hsecond⟩ |
      ⟨hother, hsame, hfirst, hsecond, hrecord⟩
    · -- the pending record is written
      have hfree : record.state.terminal = true → ∀ caller, ¬ (s.callers caller).Engaged id :=
        hok job record hjob hpending
      refine ⟨h.setJob rfl ⟨?_, ?_, ?_⟩, keepsTerminal_of_update rfl ?_⟩
      · rw [hwritten]
        exact hfree
      · rw [hnone]
        exact fun _ => nofun
      · exact fun hphase => (hphase.elim hfirst hsecond).elim
      · intro old hold hterminal
        rw [hjob] at hold
        cases hold
        rw [hwritten]
        exact hsettled.kept hterminal record hpending
    · -- the file is kept, and a record that is prepared is in time
      have hintime : ∀ state, action.written = some state → state.terminal = false →
          ¬ s.runtime.Terminal id := by
        cases action with
        | persist => exact absurd rfl hother
        | attach | pick | update state summary error | finish state summary | raise error
        | persistFails error | cleanUp => exact hok
      refine ⟨h.setJob rfl ⟨?_, ?_, ?_⟩, keepsTerminal_of_update rfl ?_⟩
      · rw [hsame]
        exact hsettled.free
      · rw [hsame]
        intro hterminal record hpending
        rcases hrecord record hpending with hyes | hqueued | ⟨state, hstate, heq⟩
        · exact hyes
        · rw [hsettled.fresh (Or.inr hqueued)] at hterminal
          cases hterminal
        · rw [heq]
          cases hnot : state.terminal with
          | true => rfl
          | false => exact absurd ⟨job, hjob, hterminal⟩ (hintime state hstate hnot)
      · exact fun hphase => (hphase.elim hfirst hsecond).elim
      · intro old hold hterminal
        rw [hjob] at hold
        cases hold
        rw [hsame]
        exact hterminal

/-- A caller moves on to nothing. -/
theorem Settled.leave (h : Settled s) (caller : Nat) :
    Settled (s.setCaller caller .idle s.runtime) ∧ KeepsTerminal s.runtime s.runtime :=
  ⟨h.setCaller rfl (fun _ _ hengaged => hengaged.elim) nofun, keepsTerminal_of_jobs rfl⟩

/-- A job is replaced by a settled one with a terminal state where there was one. -/
theorem Settled.replace {next : Job} (h : Settled s) (hjob : s.runtime.jobs id = some job)
    (hsettled : JobSettled s.callers id next)
    (hkeeps : job.persisted.state.terminal = true → next.persisted.state.terminal = true) :
    Settled ⟨s.runtime.setJob id next, s.callers⟩ ∧
      KeepsTerminal s.runtime (s.runtime.setJob id next) := by
  refine ⟨h.setRuntimeJob id hsettled, keepsTerminal_of_update rfl fun old hold => ?_⟩
  rw [hjob] at hold
  cases hold
  exact hkeeps

/-- Every step under the condition keeps the invariant and the terminal states. -/
theorem Settled.step {label : JobLabel} (h : Settled s) (hok : RequestsInTime s label)
    (hstep : s.step label = some t) : Settled t ∧ KeepsTerminal s.runtime t.runtime := by
  cases JobSystem.does_of_step hstep with
  | @checkActive caller jobType hidle =>
      have hjobs := s.runtime.jobs_activeJob jobType
      refine ⟨h.setCaller hjobs ?_ ?_, keepsTerminal_of_jobs hjobs⟩
      · intro id job hengaged
        split at hengaged <;> exact hengaged.elim
      · intro id record hwriting
        split at hwriting <;> cases hwriting
  | abandon hchecked => exact h.leave _
  | @createJob caller jobType id summary hchecked hfresh =>
      refine ⟨?_, keepsTerminal_of_update rfl fun old hold => ?_⟩
      · have hset := h.setRuntimeJob id (JobSettled.new s.callers id jobType summary)
        exact hset.setCaller rfl (fun _ _ hengaged => hengaged.elim) nofun
      · rw [hfresh] at hold
        cases hold
  | @submit caller jobType id job hcreated hjob hphase =>
      have hold := h.jobs id job hjob
      have hsettled : JobSettled s.callers id { job with phase := .queued } :=
        ⟨hold.free, (fun _ _ hpending => by cases hpending), fun _ => hold.fresh (Or.inl hphase)⟩
      obtain ⟨hset, hkeeps⟩ := h.replace hjob hsettled fun hterminal => hterminal
      exact ⟨hset.setCaller rfl (fun _ _ hengaged => hengaged.elim) nofun, hkeeps⟩
  | register hsubmitted =>
      exact ⟨h.setCaller rfl (fun _ _ hengaged => hengaged.elim) nofun, keepsTerminal_of_jobs rfl⟩
  | lookUpNone hidle hnone => exact ⟨h, keepsTerminal_of_jobs rfl⟩
  | lookUp hidle hactive =>
      refine ⟨h.setCaller rfl ?_ nofun, keepsTerminal_of_jobs rfl⟩
      rintro other job rfl hjob
      cases hterminal : job.persisted.state.terminal with
      | false => rfl
      | true => exact absurd ⟨job, hjob, hterminal⟩ (hok _ hactive)
  | @signal caller request id job hholding hjob =>
      have hold := h.jobs id job hjob
      have hnot := h.not_terminal (by rw [hholding]; exact rfl) hjob
      have hsettled : JobSettled s.callers id { job with handle := job.handle.signal request } :=
        ⟨hold.free, hold.kept, hold.fresh⟩
      obtain ⟨hset, hkeeps⟩ := h.replace hjob hsettled fun hterminal => hterminal
      refine ⟨hset.setCaller rfl ?_ nofun, hkeeps⟩
      rintro other found rfl hfound
      rcases jobs_update hfound with ⟨-, rfl⟩ | ⟨hne, -⟩
      · exact hnot
      · exact absurd rfl hne
  | prepare hsignalled hjob =>
      refine ⟨h.setCaller rfl ?_ ?_, keepsTerminal_of_jobs rfl⟩
      · rintro other found rfl hfound
        exact h.not_terminal (by rw [hsignalled]; exact rfl) hfound
      · intro other record hwriting
        cases hwriting
        exact requested_not_terminal _ _
  | @persist caller id record job hwriting hjob =>
      -- the record is not terminal, and neither was the one it replaces
      have hnot := h.requests caller id record hwriting
      have hbefore := h.not_terminal (by rw [hwriting]; exact rfl) hjob
      have hsettled : JobSettled s.callers id (job.persist record) :=
        ⟨fun hterminal => absurd (hterminal.symm.trans hnot) nofun,
          fun hterminal => absurd (hterminal.symm.trans hnot) nofun, fun _ => hnot⟩
      obtain ⟨hset, hkeeps⟩ := h.replace hjob hsettled fun hterminal =>
        absurd (hterminal.symm.trans hbefore) nofun
      exact ⟨hset.setCaller rfl (fun _ _ hengaged => hengaged.elim) nofun, hkeeps⟩
  | persistFails hwriting => exact h.leave _
  | worker hworker => exact h.worker hok hworker

end Step

theorem settled_start : Settled JobSystem.start where
  jobs := by
    intro id job hjob
    cases hjob
  requests := by
    intro caller id record hwriting
    cases hwriting

/-! ## Runs -/

section Runs

variable {s t : JobSystem} {first second : List JobLabel} {id : JobId}

/-- In a run whose requests are all in time a terminal state that was written stays terminal. -/
theorem terminal_states_absorbing
    (hfirst : Steps JobSystem.step RequestsInTime JobSystem.start first s)
    (hterminal : s.runtime.Terminal id)
    (hsecond : Steps JobSystem.step RequestsInTime s second t) : t.runtime.Terminal id := by
  have hsettled : Settled s :=
    hfirst.invariant (fun _ _ _ hok hstep hs => (hs.step hok hstep).1) settled_start
  clear hfirst
  induction hsecond with
  | refl s => exact hterminal
  | head hok hstep _ ih =>
      obtain ⟨hnext, hkeeps⟩ := hsettled.step hok hstep
      exact ih (hkeeps id hterminal) hnext

end Runs

/-! ## A request that comes too late -/

/-- A job is started and its worker runs. -/
def startedJob : List JobLabel :=
  [.checkActive 0 (py "backup"), .createJob 0 7 (py "Queued."), .submit 0, .register 0,
    .worker 7 .pick, .worker 7 .persist]

/-- A stop request looks the job up, then the job completes, then the request is written. -/
def stoppedTooLate : JobSystem :=
  Steps.last JobSystem.step JobSystem.start (startedJob ++ [JobLabel.lookUp 1 .stop (py "backup"),
    .worker 7 (.finish .completed (py "Done.")), .worker 7 .persist])

theorem late_request_leaves_terminal_state :
    Reachable JobSystem.step JobSystem.start stoppedTooLate ∧
      stoppedTooLate.runtime.Terminal 7 ∧
      ∃ t, exec JobSystem.step stoppedTooLate [.signal 1, .prepare 1, .persist 1] = some t ∧
        ¬ t.runtime.Terminal 7 := by
  refine ⟨Reachable.of_exec (Steps.exec_eq_last (by decide)), ⟨_, rfl, by decide⟩, _, rfl, ?_⟩
  rintro ⟨job, hjob, hterminal⟩
  cases hjob
  exact absurd hterminal (by decide)

/-- Nobody holds a job when all callers are idle. -/
theorem not_engaged_of_idle {s : JobSystem} {id : JobId}
    (hidle : ∀ caller, s.callers caller = .idle) (caller : Nat) :
    ¬ (s.callers caller).Engaged id := by
  rw [hidle caller]
  exact fun hengaged => hengaged

/-- A job is asked to pause while it runs, and runs to its end. -/
def pausedJob : List JobLabel :=
  startedJob ++ [JobLabel.lookUp 1 .pause (py "backup"), .signal 1, .prepare 1, .persist 1,
    .worker 7 (.finish .completed (py "Done.")), .worker 7 .persist]

/-- A stop that is asked for afterwards finds no active job. -/
def askedAgain : List JobLabel :=
  [.worker 7 .cleanUp, .checkActive 2 (py "backup"), .lookUp 1 .stop (py "backup")]

theorem terminal_states_absorbing_completed :
    ∃ s t, exec JobSystem.step JobSystem.start pausedJob = some s ∧
      exec JobSystem.step s askedAgain = some t ∧ t.runtime.Terminal 7 := by
  have hruns : ∃ s t, Steps JobSystem.step RequestsInTime JobSystem.start pausedJob s ∧
      exec JobSystem.step JobSystem.start pausedJob = some s ∧ s.runtime.Terminal 7 ∧
      Steps JobSystem.step RequestsInTime s askedAgain t ∧
      exec JobSystem.step s askedAgain = some t := by
    refine ⟨_, _, .head trivial rfl <| .head trivial rfl <| .head trivial rfl <|
      .head trivial rfl <| .head ?_ rfl <| .head ?_ rfl <| .head ?_ rfl <| .head trivial rfl <|
      .head trivial rfl <| .head trivial rfl <| .head ?_ rfl <| .head ?_ rfl <| .refl _, rfl,
      ⟨_, rfl, rfl⟩, .head (fun _ => nofun) rfl (.head trivial rfl (.head ?_ rfl (.refl _))), rfl⟩
    · exact fun _ => nofun
    · exact fun _ _ _ _ _ => not_engaged_of_idle fun caller => by
        simp [JobSystem.setCaller, JobSystem.start]
    · intro id hactive
      cases hactive
      rintro ⟨job, hjob, hterminal⟩
      cases hjob
      cases hterminal
    · intro state hstate hnot
      cases hstate
      cases hnot
    · exact fun _ _ _ _ _ => not_engaged_of_idle fun caller => by
        simp [JobSystem.setCaller, JobSystem.start]
    · intro id hactive
      cases hactive
  obtain ⟨s, t, hfirst, hexec, hterminal, hsecond, hagain⟩ := hruns
  exact ⟨s, t, hexec, hagain, terminal_states_absorbing hfirst hterminal hsecond⟩

end ImmichDoctor.Services
