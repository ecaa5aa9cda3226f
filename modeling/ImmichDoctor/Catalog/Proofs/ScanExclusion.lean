import ImmichDoctor.Catalog.StoreOps
import ImmichDoctor.Catalog.WorkflowService
import ImmichDoctor.Services.Proofs.ActiveJobs
/-!
# Scans and consistency validations

A request decides to start a job after its checks, and two of the paths to a scan make no
check for a consistency validation. When every decision is made while what there is to check
is still so, there is at most one active job, and a scan never runs beside a validation.
-/

namespace ImmichDoctor.Catalog

open ImmichDoctor.Library
open ImmichDoctor.Services

/-! ## Active jobs -/

def ActiveJob (jobs : JobSystem) (id : JobId) : Prop :=
  ∃ job, jobs.runtime.jobs id = some job ∧ job.active

/-- The caller has the job created and not registered. -/
def Creating (jobs : JobSystem) (caller : Nat) (id : JobId) : Prop :=
  ∃ jobType, (jobs.callers caller).Creates jobType id

/-- The types of the jobs the service starts. -/
def WorkflowType (jobType : PyStr) : Prop :=
  jobType = catalogScanJobType ∨ jobType = catalogConsistencyJobType

/-- A scan and a validation are not active at the same time. -/
def ScanExcludesConsistency (s : WorkflowSystem) : Prop :=
  ∀ a b scan validation, s.jobs.runtime.jobs a = some scan →
    s.jobs.runtime.jobs b = some validation → scan.jobType = catalogScanJobType →
    validation.jobType = catalogConsistencyJobType → ¬ (scan.active ∧ validation.active)

/-! ## Decisions to start a job -/

/-- The request has decided to start a job. -/
def RequestPhase.starts : RequestPhase → Bool
  | .reopen _ _ | .startJob _ _ => true
  | _ => false

/-- The caller is between its decision to start a job and the registration of the job. -/
def Launching (s : WorkflowSystem) (caller : Nat) : Prop :=
  (s.requests caller).starts = true ∨ ∃ id, Creating s.jobs caller id

/-- The next step of the request is a decision to start a job. -/
def Decides (config : WorkflowConfig) (s : WorkflowSystem) (caller : Nat) : Prop :=
  match s.requests caller with
  | .recover force => (config.recovery s.catalog force).starts = true
  | .findPaused => (resumption s.catalog).starts = true
  | .queueScan _ | .queueConsistency _ => True
  | _ => False

/-- No job is registered, and no request is about to register one. -/
structure NothingStarted (s : WorkflowSystem) : Prop where
  scan : s.jobs.runtime.activeJobs catalogScanJobType = none
  consistency : s.jobs.runtime.activeJobs catalogConsistencyJobType = none
  launching : ∀ caller, ¬ Launching s caller

/-- A request decides to start a job only while no other one was started. -/
def StartsWhileFree (config : WorkflowConfig) (s : WorkflowSystem) : WorkflowLabel → Prop
  | .findSession caller | .queue caller => Decides config s caller → NothingStarted s
  | _ => True

/-! ## The invariant -/

structure Alone (s : WorkflowSystem) : Prop where
  single : ∀ a b, ActiveJob s.jobs a → ActiveJob s.jobs b → a = b
  known : ∀ id, ActiveJob s.jobs id →
    (∃ jobType, s.jobs.runtime.activeJobs jobType = some id) ∨ ∃ caller, Creating s.jobs caller id
  launching : ∀ caller, Launching s caller →
    (∀ other, Launching s other → other = caller) ∧
      ∀ id, ActiveJob s.jobs id → Creating s.jobs caller id
  keys : ∀ jobType id, s.jobs.runtime.activeJobs jobType = some id → WorkflowType jobType
  created : ∀ caller jobType id, (s.jobs.callers caller).Creates jobType id → WorkflowType jobType
  starts : ∀ caller jobType summary, s.requests caller = .startJob jobType summary →
    WorkflowType jobType
  free : ∀ caller, s.requests caller ≠ .idle → s.jobs.callers caller = .idle

theorem not_creating_idle {jobs : JobSystem} {caller : Nat} (hidle : jobs.callers caller = .idle)
    (id : JobId) : ¬ Creating jobs caller id := by
  rintro ⟨jobType, hcreates⟩
  rw [hidle] at hcreates
  rcases hcreates with hno | hno
  · cases hno
  · cases hno

namespace Alone

variable {s : WorkflowSystem}

/-- There is no active job where nothing was started. -/
theorem not_active (h : Alone s) (hfree : NothingStarted s) (id : JobId) :
    ¬ ActiveJob s.jobs id := by
  intro hactive
  rcases h.known id hactive with ⟨jobType, hregistered⟩ | ⟨caller, hcreating⟩
  · rcases h.keys jobType id hregistered with rfl | rfl
    · rw [hfree.scan] at hregistered
      cases hregistered
    · rw [hfree.consistency] at hregistered
      cases hregistered
  · exact hfree.launching caller (Or.inr ⟨id, hcreating⟩)

theorem excludes (h : Alone s) : ScanExcludesConsistency s := by
  rintro a b scan validation hscan hvalidation hscanType hvalidationType ⟨hactiveScan, hactive⟩
  have hsame : a = b := h.single a b ⟨scan, hscan, hactiveScan⟩ ⟨validation, hvalidation, hactive⟩
  subst hsame
  rw [hscan] at hvalidation
  cases hvalidation
  rw [hscanType] at hvalidationType
  exact absurd hvalidationType (by decide)

/-! ## Steps of a request -/

/-- A request moves on, and the registrations may lose jobs that are done. -/
theorem move {caller : Nat} {phase : RequestPhase} {runtime : JobRuntime} {catalog : CatalogDb}
    (h : Alone s) (hjobs : runtime.jobs = s.jobs.runtime.jobs)
    (hkept : ∀ jobType id, s.jobs.runtime.activeJobs jobType = some id → ActiveJob s.jobs id →
      runtime.activeJobs jobType = some id)
    (hless : ∀ jobType id, runtime.activeJobs jobType = some id →
      s.jobs.runtime.activeJobs jobType = some id)
    (hstarts : phase.starts = true → Launching s caller ∨ NothingStarted s)
    (htype : ∀ jobType summary, phase = .startJob jobType summary → WorkflowType jobType)
    (hidle : phase ≠ .idle → s.jobs.callers caller = .idle) :
    Alone ⟨{ s.jobs with runtime := runtime }, catalog,
      Function.update s.requests caller phase⟩ := by
  have hactive : ∀ id, ActiveJob { s.jobs with runtime := runtime } id → ActiveJob s.jobs id := by
    rintro id ⟨job, hjob, hjobActive⟩
    exact ⟨job, by rw [← hjobs]; exact hjob, hjobActive⟩
  have hbefore : ∀ other, Launching ⟨{ s.jobs with runtime := runtime }, catalog,
      Function.update s.requests caller phase⟩ other →
      Launching s other ∨ other = caller ∧ NothingStarted s := by
    rintro other (hrequest | hcreating)
    · by_cases heq : other = caller
      · subst heq
        have hphase : (Function.update s.requests other phase other).starts = true := hrequest
        rw [Function.update_self] at hphase
        exact (hstarts hphase).imp_right fun hnothing => ⟨rfl, hnothing⟩
      · have hphase : (Function.update s.requests caller phase other).starts = true := hrequest
        rw [Function.update_of_ne heq] at hphase
        exact Or.inl (Or.inl hphase)
    · exact Or.inl (Or.inr hcreating)
  refine ⟨fun a b ha hb => h.single a b (hactive a ha) (hactive b hb), ?_, ?_, ?_,
    h.created, ?_, ?_⟩
  · intro id hid
    refine (h.known id (hactive id hid)).imp_left ?_
    rintro ⟨jobType, hregistered⟩
    exact ⟨jobType, hkept jobType id hregistered (hactive id hid)⟩
  · intro launcher hlauncher
    rcases hbefore launcher hlauncher with hold | ⟨rfl, hnothing⟩
    · obtain ⟨honly, hcreating⟩ := h.launching launcher hold
      refine ⟨fun other hother => ?_, fun id hid => hcreating id (hactive id hid)⟩
      rcases hbefore other hother with hotherOld | ⟨-, hnothing⟩
      · exact honly other hotherOld
      · exact absurd hold (hnothing.launching launcher)
    · refine ⟨fun other hother => ?_,
        fun id hid => absurd (hactive id hid) (h.not_active hnothing id)⟩
      rcases hbefore other hother with hotherOld | ⟨hsame, -⟩
      · exact absurd hotherOld (hnothing.launching other)
      · exact hsame
  · exact fun jobType id hregistered => h.keys jobType id (hless jobType id hregistered)
  · intro other jobType summary hstart
    by_cases heq : other = caller
    · subst heq
      have hphase :
          Function.update s.requests other phase other = .startJob jobType summary := hstart
      rw [Function.update_self] at hphase
      exact htype jobType summary hphase
    · have hphase : Function.update s.requests caller phase other = .startJob jobType summary :=
        hstart
      rw [Function.update_of_ne heq] at hphase
      exact h.starts other jobType summary hphase
  · intro other hbusy
    by_cases heq : other = caller
    · subst heq
      have hphase : Function.update s.requests other phase other ≠ .idle := hbusy
      rw [Function.update_self] at hphase
      exact hidle hphase
    · have hphase : Function.update s.requests caller phase other ≠ .idle := hbusy
      rw [Function.update_of_ne heq] at hphase
      exact h.free other hphase

/-- A request moves on without a look at the runtime. -/
theorem moveOnly {caller : Nat} {phase : RequestPhase} {catalog : CatalogDb} (h : Alone s)
    (hstarts : phase.starts = true → Launching s caller ∨ NothingStarted s)
    (htype : ∀ jobType summary, phase = .startJob jobType summary → WorkflowType jobType)
    (hbusy : s.requests caller ≠ .idle) :
    Alone ⟨s.jobs, catalog, Function.update s.requests caller phase⟩ :=
  h.move rfl (fun _ _ hregistered _ => hregistered) (fun _ _ hregistered => hregistered) hstarts
    htype fun _ => h.free caller hbusy

/-- A request moves on to a phase in which it starts nothing. -/
theorem moveHarmless {caller : Nat} {phase : RequestPhase} {catalog : CatalogDb} (h : Alone s)
    (hharmless : phase.starts = false) (hbusy : s.requests caller ≠ .idle) :
    Alone ⟨s.jobs, catalog, Function.update s.requests caller phase⟩ := by
  refine h.moveOnly (fun hstarts => ?_) ?_ hbusy
  · rw [hharmless] at hstarts
    cases hstarts
  · rintro jobType summary rfl
    cases hharmless

/-- A look for an active job. -/
theorem checked {caller : Nat} {jobType : PyStr} {found free : RequestPhase} (h : Alone s)
    (hfound : found.starts = false) (hfree : free.starts = false)
    (hbusy : s.requests caller ≠ .idle) : Alone (s.checked caller jobType found free) := by
  have hcases := s.jobs.runtime.activeJobs_activeJob jobType
  have hkept : ∀ other id, s.jobs.runtime.activeJobs other = some id → ActiveJob s.jobs id →
      (s.jobs.runtime.activeJob jobType).2.activeJobs other = some id := by
    rintro other id hregistered ⟨job, hjob, hactive⟩
    rcases hcases with heq | ⟨dropped, old, hdropped, hold, hnot, heq⟩
    · rw [heq]
      exact hregistered
    · have hne : other ≠ jobType := by
        rintro rfl
        rw [hdropped] at hregistered
        cases hregistered
        rw [hold] at hjob
        cases hjob
        exact hnot hactive
      rw [heq, Function.update_of_ne hne]
      exact hregistered
  have hless : ∀ other id, (s.jobs.runtime.activeJob jobType).2.activeJobs other = some id →
      s.jobs.runtime.activeJobs other = some id := by
    intro other id hregistered
    rcases hcases with heq | ⟨dropped, old, hdropped, hold, hnot, heq⟩
    · rw [heq] at hregistered
      exact hregistered
    · rw [heq] at hregistered
      by_cases hsame : other = jobType
      · subst hsame
        rw [Function.update_self] at hregistered
        cases hregistered
      · rw [Function.update_of_ne hsame] at hregistered
        exact hregistered
  have hphase : (if (s.jobs.runtime.activeJob jobType).1.isSome then found else free).starts =
      false := by
    split
    · exact hfound
    · exact hfree
  refine h.move (s.jobs.runtime.jobs_activeJob jobType) hkept hless ?_ ?_ fun _ =>
    h.free caller hbusy
  · intro hstarts
    exact absurd (hphase.symm.trans hstarts) nofun
  · intro other summary hstart
    exact absurd (hphase.symm.trans (congrArg RequestPhase.starts hstart)) nofun

/-! ## Steps of the job runtime -/

/-- The job of a request that has decided to start one. -/
theorem startJob {caller : Nat} {id : JobId} {jobType summary : PyStr} {runtime : JobRuntime}
    (h : Alone s) (hphase : s.requests caller = .startJob jobType summary)
    (hcreate : s.jobs.runtime.createJob id jobType summary = some runtime) :
    Alone ⟨s.jobs.setCaller caller (.created jobType id) runtime, s.catalog,
      Function.update s.requests caller .idle⟩ := by
  have hlaunching : Launching s caller := Or.inl (by rw [hphase]; rfl)
  obtain ⟨honly, hcreating⟩ := h.launching caller hlaunching
  have hidle : s.jobs.callers caller = .idle := h.free caller (by rw [hphase]; nofun)
  have hnone : ∀ other, ¬ ActiveJob s.jobs other := fun other hother =>
    not_creating_idle hidle other (hcreating other hother)
  unfold JobRuntime.createJob at hcreate
  split at hcreate
  · cases hcreate
  cases hcreate
  have hactive : ∀ other, ActiveJob (s.jobs.setCaller caller (.created jobType id)
      (s.jobs.runtime.setJob id (.new jobType summary))) other → other = id := by
    rintro other ⟨job, hjob, hjobActive⟩
    rcases jobs_update hjob with ⟨hsame, -⟩ | ⟨-, hold⟩
    · exact hsame
    · exact absurd ⟨job, hold, hjobActive⟩ (hnone other)
  have hnew : Creating (s.jobs.setCaller caller (.created jobType id)
      (s.jobs.runtime.setJob id (.new jobType summary))) caller id :=
    ⟨jobType, Or.inl (Function.update_self ..)⟩
  have hothers : ∀ other, other ≠ caller → (Function.update s.requests caller .idle other).starts =
      true ∨ (∃ found, Creating (s.jobs.setCaller caller (.created jobType id)
        (s.jobs.runtime.setJob id (.new jobType summary))) other found) → Launching s other := by
    rintro other hne (hrequest | ⟨found, createdType, hcreates⟩)
    · rw [Function.update_of_ne hne] at hrequest
      exact Or.inl hrequest
    · rcases callers_update (·.Creates createdType found) hcreates with ⟨hsame, -⟩ |
        ⟨-, hold⟩
      · exact absurd hsame hne
      · exact Or.inr ⟨found, createdType, hold⟩
  have hlauncher : ∀ other, (Function.update s.requests caller .idle other).starts = true ∨
      (∃ found, Creating (s.jobs.setCaller caller (.created jobType id)
        (s.jobs.runtime.setJob id (.new jobType summary))) other found) → other = caller := by
    intro other hother
    by_contra hne
    exact hne (honly other (hothers other hne hother))
  refine ⟨?_, ?_, ?_, h.keys, ?_, ?_, ?_⟩
  · intro a b ha hb
    rw [hactive a ha, hactive b hb]
  · intro other hother
    rw [hactive other hother]
    exact Or.inr ⟨caller, hnew⟩
  · intro launcher hstarting
    rw [hlauncher launcher hstarting]
    refine ⟨hlauncher, fun other hother => ?_⟩
    rw [hactive other hother]
    exact hnew
  · intro other createdType found hcreates
    rcases callers_update (·.Creates createdType found) hcreates with ⟨-, hnewPhase⟩ |
      ⟨-, hold⟩
    · rcases hnewPhase with hsame | hno
      · cases hsame
        exact h.starts caller jobType summary hphase
      · cases hno
    · exact h.created other createdType found hold
  · intro other startType startSummary hstart
    have hstart' :
        Function.update s.requests caller .idle other = .startJob startType startSummary :=
      hstart
    by_cases hsame : other = caller
    · subst hsame
      rw [Function.update_self] at hstart'
      cases hstart'
    · rw [Function.update_of_ne hsame] at hstart'
      exact h.starts other startType startSummary hstart'
  · intro other hbusy
    have hbusy' : Function.update s.requests caller .idle other ≠ .idle := hbusy
    by_cases hsame : other = caller
    · subst hsame
      rw [Function.update_self] at hbusy'
      exact absurd rfl hbusy'
    · rw [Function.update_of_ne hsame] at hbusy'
      exact (Function.update_of_ne hsame ..).trans (h.free other hbusy')

/-- The created job is registered. -/
theorem register {caller : Nat} {id : JobId} {jobType : PyStr} (h : Alone s)
    (hsubmitted : s.jobs.callers caller = .submitted jobType id) :
    Alone ⟨s.jobs.setCaller caller .idle (s.jobs.runtime.register jobType id), s.catalog,
      s.requests⟩ := by
  have hcreates : (s.jobs.callers caller).Creates jobType id := Or.inr hsubmitted
  obtain ⟨honly, hcreating⟩ := h.launching caller (Or.inr ⟨id, jobType, hcreates⟩)
  have hactive : ∀ other, ActiveJob s.jobs other → other = id := by
    intro other hother
    obtain ⟨createdType, hcreated⟩ := hcreating other hother
    rw [hsubmitted] at hcreated
    rcases hcreated with hno | hsame
    · cases hno
    · cases hsame
      rfl
  have hbefore : ∀ other found, Creating (s.jobs.setCaller caller .idle
      (s.jobs.runtime.register jobType id)) other found → other ≠ caller ∧
      Creating s.jobs other found := by
    rintro other found ⟨createdType, hcreated⟩
    rcases callers_update (·.Creates createdType found) hcreated with ⟨-, hno⟩ |
      ⟨hne, hold⟩
    · rcases hno with hno | hno
      · cases hno
      · cases hno
    · exact ⟨hne, createdType, hold⟩
  have hnobody : ∀ other, ¬ Launching ⟨s.jobs.setCaller caller .idle
      (s.jobs.runtime.register jobType id), s.catalog, s.requests⟩ other := by
    rintro other (hrequest | ⟨found, hcreated⟩)
    · have hsame := honly other (Or.inl hrequest)
      subst hsame
      have hidle := h.free other (by rintro hidle; rw [hidle] at hrequest; cases hrequest)
      rw [hidle] at hsubmitted
      cases hsubmitted
    · obtain ⟨hne, hold⟩ := hbefore other found hcreated
      exact hne (honly other (Or.inr ⟨found, hold⟩))
  refine ⟨h.single, ?_, fun other hother => absurd hother (hnobody other), ?_, ?_, h.starts, ?_⟩
  · intro other hother
    rw [hactive other hother]
    exact Or.inl ⟨jobType, Function.update_self ..⟩
  · intro other found hregistered
    have hregistered' : Function.update s.jobs.runtime.activeJobs jobType (some id) other =
        some found := hregistered
    by_cases hsame : other = jobType
    · subst hsame
      exact h.created caller other id hcreates
    · rw [Function.update_of_ne hsame] at hregistered'
      exact h.keys other found hregistered'
  · intro other createdType found hcreated
    rcases callers_update (·.Creates createdType found) hcreated with ⟨-, hno⟩ |
      ⟨-, hold⟩
    · rcases hno with hno | hno
      · cases hno
      · cases hno
    · exact h.created other createdType found hold
  · intro other hbusy
    by_cases hsame : other = caller
    · subst hsame
      exact Function.update_self ..
    · exact (Function.update_of_ne hsame ..).trans (h.free other hbusy)

end Alone

/-- A step that starts and registers no job. -/
structure Quiet (before after : JobSystem) : Prop where
  active : ∀ id, ActiveJob after id → ActiveJob before id
  kept : ∀ jobType id, before.runtime.activeJobs jobType = some id → ActiveJob after id →
    after.runtime.activeJobs jobType = some id
  less : ∀ jobType id, after.runtime.activeJobs jobType = some id →
    before.runtime.activeJobs jobType = some id
  creates : ∀ caller jobType id, (after.callers caller).Creates jobType id ↔
    (before.callers caller).Creates jobType id
  idle : ∀ caller, before.callers caller = .idle → after.callers caller = .idle

namespace Quiet

variable {before : JobSystem} {caller : Nat} {phase : CallerPhase}

/-- A caller that was not idle moves on without a change in what it creates. -/
theorem of_move {runtime : JobRuntime} (hactive : ∀ id,
      ActiveJob (before.setCaller caller phase runtime) id → ActiveJob before id)
    (hregistered : runtime.activeJobs = before.runtime.activeJobs)
    (hbusy : before.callers caller ≠ .idle)
    (hcreates : ∀ jobType id, phase.Creates jobType id ↔
      (before.callers caller).Creates jobType id) :
    Quiet before (before.setCaller caller phase runtime) where
  active := hactive
  kept := fun jobType id h _ => (congrFun hregistered jobType).trans h
  less := fun jobType id h => (congrFun hregistered jobType).symm.trans h
  creates := by
    intro other jobType created
    have hcallers : (before.setCaller caller phase runtime).callers other =
        Function.update before.callers caller phase other := rfl
    rw [hcallers]
    by_cases hsame : other = caller
    · subst hsame
      rw [Function.update_self]
      exact hcreates jobType created
    · rw [Function.update_of_ne hsame]
  idle := by
    intro other hidle
    have hne : other ≠ caller := by
      rintro rfl
      exact hbusy hidle
    exact (Function.update_of_ne hne ..).trans hidle

/-- On the way a job is replaced by one that is active only if it was. -/
theorem of_setJob {id : JobId} {job next : Job} (hjob : before.runtime.jobs id = some job)
    (hactive : next.active → job.active) (hbusy : before.callers caller ≠ .idle)
    (hcreates : ∀ jobType id, phase.Creates jobType id ↔
      (before.callers caller).Creates jobType id) :
    Quiet before (before.setCaller caller phase (before.runtime.setJob id next)) := by
  refine of_move ?_ rfl hbusy hcreates
  rintro other ⟨found, hfound, hfoundActive⟩
  rcases jobs_update hfound with ⟨rfl, rfl⟩ | ⟨-, hold⟩
  · exact ⟨job, hjob, hactive hfoundActive⟩
  · exact ⟨found, hold, hfoundActive⟩

theorem submit {jobType : PyStr} {id : JobId} {job : Job}
    (hcreated : before.callers caller = .created jobType id)
    (hjob : before.runtime.jobs id = some job) (hphase : job.phase = .submitting) :
    Quiet before (before.setCaller caller (.submitted jobType id)
      (before.runtime.setJob id { job with phase := .queued })) := by
  refine of_setJob hjob (fun _ => ?_) (by rw [hcreated]; simp) fun otherType other => ?_
  · rw [Job.active, hphase]
    simp
  · rw [hcreated]
    constructor
    · rintro (hno | hsame)
      · cases hno
      · cases hsame
        exact Or.inl rfl
    · rintro (hsame | hno)
      · cases hsame
        exact Or.inr rfl
      · cases hno

/-- A phase in which a caller creates nothing. -/
theorem not_creates (phase : CallerPhase) (hcreated : ∀ jobType id, phase ≠ .created jobType id)
    (hsubmitted : ∀ jobType id, phase ≠ .submitted jobType id) {jobType : PyStr} {id : JobId} :
    ¬ phase.Creates jobType id := by
  rintro (h | h)
  · exact hcreated jobType id h
  · exact hsubmitted jobType id h

theorem worker {id : JobId} {action : WorkerAction} {runtime : JobRuntime}
    (hstep : before.runtime.workerStep id action = some runtime)
    (hsingle : ∀ a b, ActiveJob before a → ActiveJob before b → a = b) :
    Quiet before ⟨runtime, before.callers⟩ := by
  obtain ⟨job, hjob, hcases⟩ := JobRuntime.workerStep_cases hstep
  rcases hcases with ⟨-, -, rfl⟩ | ⟨-, hcleaning, rfl⟩ | ⟨next, hact, rfl⟩
  · exact ⟨fun _ hactive => hactive, fun _ _ hregistered _ => hregistered,
      fun _ _ hregistered => hregistered, fun _ _ _ => Iff.rfl, fun _ hidle => hidle⟩
  · have hactive : ActiveJob before id := ⟨job, hjob, by rw [Job.active, hcleaning]; simp⟩
    have hnone : ∀ other, ¬ ActiveJob ⟨before.runtime.cleanUp id job, before.callers⟩ other := by
      rintro other ⟨found, hfound, hfoundActive⟩
      rcases jobs_update hfound with ⟨-, rfl⟩ | ⟨hne, hold⟩
      · exact hfoundActive rfl
      · exact hne (hsingle other id ⟨found, hold, hfoundActive⟩ hactive)
    refine ⟨fun other hother => absurd hother (hnone other),
      fun _ other _ hother => absurd hother (hnone other), fun jobType other hregistered => ?_,
      fun _ _ _ => Iff.rfl, fun _ hidle => hidle⟩
    simp only [JobRuntime.cleanUp] at hregistered
    split at hregistered
    · by_cases hsame : jobType = job.handle.record.jobType
      · subst hsame
        rw [Function.update_self] at hregistered
        cases hregistered
      · rw [Function.update_of_ne hsame] at hregistered
        exact hregistered
    · exact hregistered
  · refine ⟨?_, fun _ _ hregistered _ => hregistered, fun _ _ hregistered => hregistered,
      fun _ _ _ => Iff.rfl, fun _ hidle => hidle⟩
    rintro other ⟨found, hfound, hfoundActive⟩
    rcases jobs_update hfound with ⟨rfl, rfl⟩ | ⟨-, hold⟩
    · exact ⟨job, hjob, Job.active_of_act hact⟩
    · exact ⟨found, hold, hfoundActive⟩

/-- The steps that go on with a job start and register none, but for the registration itself. -/
theorem of_step {after : JobSystem} {label : JobLabel} (hcontinues : continuesJob label = true)
    (hregister : ∀ caller, label ≠ .register caller) (hstep : before.step label = some after)
    (hsingle : ∀ a b, ActiveJob before a → ActiveJob before b → a = b) : Quiet before after := by
  cases JobSystem.does_of_step hstep with
  | checkActive hidle => cases hcontinues
  | abandon hchecked => cases hcontinues
  | createJob hchecked hfresh => cases hcontinues
  | lookUpNone hidle hnone => cases hcontinues
  | lookUp hidle hactive => cases hcontinues
  | register hsubmitted => exact absurd rfl (hregister _)
  | submit hcreated hjob hphase => exact submit hcreated hjob hphase
  | @signal caller request id job hholding hjob =>
      refine of_setJob hjob (fun hactive => hactive) (by rw [hholding]; nofun) fun _ _ => ?_
      rw [hholding]
      exact iff_of_false (not_creates (.signalled request id) nofun nofun)
        (not_creates (.holding request id) nofun nofun)
  | @prepare caller request id job hsignalled hjob =>
      refine of_move (fun _ hactive => hactive) rfl (by rw [hsignalled]; nofun) fun _ _ => ?_
      rw [hsignalled]
      exact iff_of_false (not_creates (.writing id (job.handle.requested request)) nofun nofun)
        (not_creates (.signalled request id) nofun nofun)
  | @persist caller id record job hwriting hjob =>
      refine of_setJob hjob (fun hactive => hactive) (by rw [hwriting]; nofun) fun _ _ => ?_
      rw [hwriting]
      exact iff_of_false (not_creates .idle nofun nofun)
        (not_creates (.writing id record) nofun nofun)
  | @persistFails caller id record hwriting =>
      refine of_move (fun _ hactive => hactive) rfl (by rw [hwriting]; nofun) fun _ _ => ?_
      rw [hwriting]
      exact iff_of_false (not_creates .idle nofun nofun)
        (not_creates (.writing id record) nofun nofun)
  | worker hworker => exact worker hworker hsingle

end Quiet

namespace Alone

variable {config : WorkflowConfig} {s t : WorkflowSystem}

theorem quiet {jobs : JobSystem} (h : Alone s) (hquiet : Quiet s.jobs jobs) :
    Alone ⟨jobs, s.catalog, s.requests⟩ := by
  have hcreating : ∀ caller id, Creating jobs caller id ↔ Creating s.jobs caller id :=
    fun caller id => exists_congr fun jobType => hquiet.creates caller jobType id
  have hlaunching :
      ∀ caller, Launching ⟨jobs, s.catalog, s.requests⟩ caller → Launching s caller := by
    rintro caller (hrequest | ⟨id, hcreates⟩)
    · exact Or.inl hrequest
    · exact Or.inr ⟨id, (hcreating caller id).mp hcreates⟩
  refine ⟨fun a b ha hb => h.single a b (hquiet.active a ha) (hquiet.active b hb), ?_, ?_, ?_, ?_,
    h.starts, fun caller hbusy => hquiet.idle caller (h.free caller hbusy)⟩
  · intro id hactive
    rcases h.known id (hquiet.active id hactive) with ⟨jobType, hregistered⟩ | ⟨caller, hcreates⟩
    · exact Or.inl ⟨jobType, hquiet.kept jobType id hregistered hactive⟩
    · exact Or.inr ⟨caller, (hcreating caller id).mpr hcreates⟩
  · intro caller hlaunch
    obtain ⟨honly, hactive⟩ := h.launching caller (hlaunching caller hlaunch)
    refine ⟨fun other hother => honly other (hlaunching other hother), fun id hid => ?_⟩
    exact (hcreating caller id).mpr (hactive id (hquiet.active id hid))
  · exact fun jobType id hregistered => h.keys jobType id (hquiet.less jobType id hregistered)
  · intro caller jobType id hcreates
    exact h.created caller jobType id ((hquiet.creates caller jobType id).mp hcreates)

/-- A request looks the active scan job up to resume it. -/
theorem lookUp {caller : Nat} {request : JobRequest} {jobType : PyStr} {jobs : JobSystem}
    (h : Alone s) (hidle : s.requests caller = .idle)
    (hstep : s.jobs.step (.lookUp caller request jobType) = some jobs) :
    Alone ⟨jobs, s.catalog, s.requests⟩ := by
  cases JobSystem.does_of_step hstep with
  | lookUpNone hcaller hnone => exact h
  | @lookUp _ _ _ id hcaller hregistered =>
      have hcreates : ∀ other createdType found,
          (Function.update s.jobs.callers caller (.holding request id) other).Creates createdType
            found → (s.jobs.callers other).Creates createdType found := by
        intro other createdType found hcreates
        rcases callers_update (·.Creates createdType found) hcreates with ⟨-, hno⟩ |
          ⟨-, hold⟩
        · exact absurd hno (Quiet.not_creates (.holding request id) nofun nofun)
        · exact hold
      have hkept : ∀ other createdType found,
          (s.jobs.callers other).Creates createdType found →
          (Function.update s.jobs.callers caller (.holding request id) other).Creates createdType
            found := by
        intro other createdType found hcreated
        have hne : other ≠ caller := by
          rintro rfl
          exact not_creating_idle hcaller found ⟨createdType, hcreated⟩
        rw [Function.update_of_ne hne]
        exact hcreated
      have hlaunching : ∀ other, Launching ⟨s.jobs.setCaller caller (.holding request id)
          s.jobs.runtime, s.catalog, s.requests⟩ other → Launching s other := by
        rintro other (hrequest | ⟨found, createdType, hcreated⟩)
        · exact Or.inl hrequest
        · exact Or.inr ⟨found, createdType, hcreates other createdType found hcreated⟩
      refine ⟨h.single, ?_, ?_, h.keys, ?_, h.starts, ?_⟩
      · intro found hactive
        refine (h.known found hactive).imp_right ?_
        rintro ⟨other, createdType, hcreated⟩
        exact ⟨other, createdType, hkept other createdType found hcreated⟩
      · intro other hlaunch
        obtain ⟨honly, hactive⟩ := h.launching other (hlaunching other hlaunch)
        refine ⟨fun third hthird => honly third (hlaunching third hthird), fun found hfound => ?_⟩
        obtain ⟨createdType, hcreated⟩ := hactive found hfound
        exact ⟨createdType, hkept other createdType found hcreated⟩
      · intro other createdType found hcreated
        exact h.created other createdType found (hcreates other createdType found hcreated)
      · intro other hbusy
        have hne : other ≠ caller := by
          rintro rfl
          exact hbusy hidle
        exact (Function.update_of_ne hne ..).trans (h.free other hbusy)

/-- A step of the job runtime that goes on with a job. -/
theorem job {label : JobLabel} {jobs : JobSystem} (h : Alone s)
    (hcontinues : continuesJob label = true) (hstep : s.jobs.step label = some jobs) :
    Alone ⟨jobs, s.catalog, s.requests⟩ := by
  by_cases hregister : ∃ caller, label = .register caller
  · obtain ⟨caller, rfl⟩ := hregister
    cases JobSystem.does_of_step hstep with
    | register hsubmitted => exact h.register hsubmitted
  · exact h.quiet
      (Quiet.of_step hcontinues (fun caller heq => hregister ⟨caller, heq⟩) hstep h.single)

theorem not_starts_afterRecovery (force : Option Bool) : (afterRecovery force).starts = false := by
  cases force with
  | none => rfl
  | some force => rfl

/-- No phase but the last one is about to start a job. -/
theorem recovery_ne_startJob (db : CatalogDb) (force : Option Bool) (jobType summary : PyStr) :
    config.recovery db force ≠ .startJob jobType summary := by
  unfold WorkflowConfig.recovery
  split
  · cases force with
    | none => nofun
    | some force => nofun
  · split
    · nofun
    · nofun

theorem resumption_ne_startJob (db : CatalogDb) (jobType summary : PyStr) :
    resumption db ≠ .startJob jobType summary := by
  unfold resumption
  split
  · nofun
  · nofun

/-- Every step under the condition keeps the invariant. -/
theorem step {label : WorkflowLabel} (h : Alone s) (hok : StartsWhileFree config s label)
    (hstep : s.step config label = some t) : Alone t := by
  cases label with
  | request caller request =>
      simp only [WorkflowSystem.step] at hstep
      split at hstep
      · next hrequest hcaller =>
          cases hstep
          exact h.move rfl (fun _ _ hregistered _ => hregistered)
            (fun _ _ hregistered => hregistered)
            nofun nofun fun _ => hcaller
      · cases hstep
  | check caller =>
      simp only [WorkflowSystem.step] at hstep
      split at hstep
      all_goals first
        | next hphase =>
            cases hstep
            exact h.checked rfl rfl (by rw [hphase]; nofun)
        | cases hstep
  | requestResume caller =>
      simp only [WorkflowSystem.step] at hstep
      split at hstep
      · next hphase =>
          obtain ⟨jobs, hjobs, rfl⟩ := Option.map_eq_some_iff.mp hstep
          have hidle : Alone ⟨s.jobs, s.catalog, Function.update s.requests caller .idle⟩ :=
            h.moveHarmless rfl (by rw [hphase]; nofun)
          exact hidle.lookUp (Function.update_self ..) hjobs
      · cases hstep
  | findSession caller =>
      simp only [WorkflowSystem.step] at hstep
      split at hstep
      · next force hphase =>
          cases hstep
          refine h.moveOnly (fun hstarts => Or.inr (hok ?_)) ?_ (by rw [hphase]; nofun)
          · simp only [Decides, hphase]
            exact hstarts
          · exact fun _ _ heq => absurd heq (recovery_ne_startJob _ _ _ _)
      · next hphase =>
          cases hstep
          refine h.moveOnly (fun hstarts => Or.inr (hok ?_)) ?_ (by rw [hphase]; nofun)
          · simp only [Decides, hphase]
            exact hstarts
          · exact fun _ _ heq => absurd heq (resumption_ne_startJob _ _ _)
      · cases hstep
  | retire caller now =>
      simp only [WorkflowSystem.step] at hstep
      split at hstep
      · next force sessionId hphase =>
          cases hstep
          exact h.moveHarmless (not_starts_afterRecovery force) (by rw [hphase]; nofun)
      · cases hstep
  | reopen caller now =>
      simp only [WorkflowSystem.step] at hstep
      split at hstep
      · next sessionId summary hphase =>
          cases hstep
          refine h.moveOnly (fun _ => Or.inl (Or.inl ?_)) ?_ (by rw [hphase]; nofun)
          · rw [hphase]
            rfl
          · intro jobType startSummary heq
            cases heq
            exact Or.inl rfl
      · cases hstep
  | readCoverage caller now =>
      simp only [WorkflowSystem.step] at hstep
      split at hstep
      · next force hphase =>
          obtain ⟨⟨synced, complete⟩, -, rfl⟩ := Option.map_eq_some_iff.mp hstep
          refine h.moveHarmless ?_ (by rw [hphase]; nofun)
          cases complete with
          | true => rfl
          | false => rfl
      · cases hstep
  | answerLatest caller =>
      simp only [WorkflowSystem.step] at hstep
      split at hstep
      all_goals first
        | next hphase =>
            cases hstep
            exact h.moveHarmless rfl (by rw [hphase]; nofun)
        | cases hstep
  | queue caller =>
      simp only [WorkflowSystem.step] at hstep
      split at hstep
      · next force hphase =>
          cases hstep
          refine h.moveOnly (fun _ => Or.inr (hok ?_)) ?_ (by rw [hphase]; nofun)
          · simp only [Decides, hphase]
          · intro jobType summary heq
            cases heq
            exact Or.inl rfl
      · next force hphase =>
          cases hstep
          refine h.moveOnly (fun _ => Or.inr (hok ?_)) ?_ (by rw [hphase]; nofun)
          · simp only [Decides, hphase]
          · intro jobType summary heq
            cases heq
            exact Or.inr rfl
      · cases hstep
  | startJob caller id =>
      simp only [WorkflowSystem.step] at hstep
      split at hstep
      · next jobType summary hphase =>
          obtain ⟨runtime, hcreate, rfl⟩ := Option.map_eq_some_iff.mp hstep
          exact h.startJob hphase hcreate
      · cases hstep
  | fail caller =>
      simp only [WorkflowSystem.step] at hstep
      cases hstep
      exact h.move rfl (fun _ _ hregistered _ => hregistered) (fun _ _ hregistered => hregistered)
        nofun nofun fun hno => absurd rfl hno
  | job label =>
      simp only [WorkflowSystem.step] at hstep
      split at hstep
      · next hcontinues =>
          obtain ⟨jobs, hjobs, rfl⟩ := Option.map_eq_some_iff.mp hstep
          exact h.job hcontinues hjobs
      · cases hstep
  | write catalog =>
      simp only [WorkflowSystem.step] at hstep
      cases hstep
      exact ⟨h.single, h.known, h.launching, h.keys, h.created, h.starts, h.free⟩

end Alone

theorem alone_start (catalog : CatalogDb) : Alone (WorkflowSystem.start catalog) where
  single := by
    rintro a b ⟨job, hjob, -⟩
    cases hjob
  known := by
    rintro id ⟨job, hjob, -⟩
    cases hjob
  launching := by
    rintro caller (hrequest | ⟨id, hcreating⟩)
    · cases hrequest
    · exact absurd hcreating (not_creating_idle rfl id)
  keys := by
    intro jobType id hregistered
    cases hregistered
  created := by
    intro caller jobType id hcreates
    exact absurd hcreates (Quiet.not_creates .idle nofun nofun)
  starts := by
    intro caller jobType summary hstart
    cases hstart
  free := fun _ _ => rfl

/-! ## Runs -/

/-- In a run whose requests decide to start a job only while no other one was started, a scan
and a consistency validation are never active together. -/
theorem scan_excludes_consistency {config : WorkflowConfig} {catalog : CatalogDb}
    {labels : List WorkflowLabel} {s : WorkflowSystem}
    (hrun : Steps (fun s label => s.step config label) (StartsWhileFree config)
      (WorkflowSystem.start catalog) labels s) : ScanExcludesConsistency s := by
  have halone : Alone s :=
    hrun.invariant (fun _ _ _ hok hstep h => h.step hok hstep) (alone_start catalog)
  exact halone.excludes

/-! ## A status request during a validation -/

/-- One configured root. -/
def uploadsConfig : WorkflowConfig :=
  ⟨⟨none, some (.parse (py "/u")), none, none, none⟩, id⟩

/-- A scan of the root was committed, and the session of a second one is still running. -/
def interruptedCatalog : CatalogDb :=
  (Steps.last CatalogState.step (CatalogState.start 0)
    [(1, .upsertStorageRoot ⟨py "uploads", py "immich_uploads_path", py "source", py "/u"⟩),
      (2, .createScanSession (py "first") 1 none), (3, .commitScanSession (py "first")),
      (4, .createScanSession (py "second") 1 none)]).db

/-- A validation is started, and then somebody asks for the scan job. -/
def askedDuringValidation : List WorkflowLabel :=
  [.request 0 (.startConsistency false), .check 0, .check 0, .readCoverage 0 fun _ => 5, .queue 0,
    .startJob 0 7, .job (.submit 0), .job (.register 0), .request 1 .getScanJob, .check 1,
    .findSession 1, .reopen 1 6, .startJob 1 8]

def scanDuringValidation : WorkflowSystem :=
  Steps.last (fun s label => s.step uploadsConfig label) (WorkflowSystem.start interruptedCatalog)
    askedDuringValidation

theorem scan_starts_during_validation :
    Reachable (fun s label => s.step uploadsConfig label) (WorkflowSystem.start interruptedCatalog)
      scanDuringValidation ∧ ¬ ScanExcludesConsistency scanDuringValidation := by
  refine ⟨Reachable.of_exec (Steps.exec_eq_last (by decide)), fun hexcludes => ?_⟩
  exact hexcludes 8 7 _ _ rfl rfl (by decide) (by decide) ⟨nofun, nofun⟩

/-- The first two steps of a status request in a new process start nothing. -/
theorem nothingStarted_of_recover (catalog : CatalogDb) :
    NothingStarted ⟨.start, catalog, Function.update (Function.update (fun _ => .idle) 0
      (.entered .getScanJob)) 0 (.recover none)⟩ where
  scan := rfl
  consistency := rfl
  launching := by
    rintro caller (hrequest | ⟨id, hcreating⟩)
    · have hphase : (Function.update (Function.update (fun _ => RequestPhase.idle) 0
          (.entered .getScanJob)) 0 (.recover none) caller).starts = true := hrequest
      by_cases hsame : caller = 0
      · subst hsame
        rw [Function.update_self] at hphase
        cases hphase
      · rw [Function.update_of_ne hsame, Function.update_of_ne hsame] at hphase
        cases hphase
    · exact absurd hcreating (not_creating_idle rfl id)

/-- The interrupted session is recovered before a validation is asked for. -/
def recoveredBeforeValidation : List WorkflowLabel :=
  [.request 0 .getScanJob, .check 0, .findSession 0, .reopen 0 5, .startJob 0 7, .job (.submit 0),
    .job (.register 0), .request 1 (.startConsistency false), .check 1]

theorem scan_excludes_consistency_recovered :
    ∃ s, exec (fun s label => s.step uploadsConfig label) (WorkflowSystem.start interruptedCatalog)
      recoveredBeforeValidation = some s ∧ ScanExcludesConsistency s := by
  have hrun : ∃ s, Steps (fun s label => s.step uploadsConfig label)
      (StartsWhileFree uploadsConfig) (WorkflowSystem.start interruptedCatalog)
      recoveredBeforeValidation s ∧
      exec (fun s label => s.step uploadsConfig label) (WorkflowSystem.start interruptedCatalog)
        recoveredBeforeValidation = some s := by
    refine ⟨_, .head trivial rfl <| .head trivial rfl <| .head ?_ rfl <| .head trivial rfl <|
      .head trivial rfl <| .head trivial rfl <| .head trivial rfl <| .head trivial rfl <|
      .head trivial rfl <| .refl _, rfl⟩
    exact fun _ => nothingStarted_of_recover interruptedCatalog
  obtain ⟨s, hsteps, hexec⟩ := hrun
  exact ⟨s, hexec, scan_excludes_consistency hsteps⟩

end ImmichDoctor.Catalog
