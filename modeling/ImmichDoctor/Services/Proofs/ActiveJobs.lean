import ImmichDoctor.Services.Proofs.JobSteps
/-!
# One active job per type

A method that starts jobs looks for an active one, submits a new one and registers it in
three steps. When no two requests of one type are between the first and the last of these,
every active job is registered or is being started, and there is one of each type.
-/

namespace ImmichDoctor.Services

open ImmichDoctor.Library

def Job.jobType (job : Job) : PyStr :=
  job.handle.record.jobType

/-! ## Start requests -/

/-- The caller has the job created and not registered. -/
def CallerPhase.Creates (jobType : PyStr) (id : JobId) (phase : CallerPhase) : Prop :=
  phase = .created jobType id ∨ phase = .submitted jobType id

/-- The caller is between the check for an active job and the registration of its own. -/
def CallerPhase.Starting (jobType : PyStr) (phase : CallerPhase) : Prop :=
  phase = .checked jobType ∨ ∃ id, phase.Creates jobType id

/-- A request finds no registered job only while no other one is starting a job of the type. -/
def StartsInTurn (s : JobSystem) : JobLabel → Prop
  | .checkActive _ jobType =>
      s.runtime.activeJobs jobType = none → ∀ caller, ¬ (s.callers caller).Starting jobType
  | _ => True

/-- No two jobs of one type are active. -/
def OneActive (s : JobSystem) : Prop :=
  ∀ a b jobA jobB, s.runtime.jobs a = some jobA → s.runtime.jobs b = some jobB →
    jobA.jobType = jobB.jobType → jobA.active → jobB.active → a = b

/-- An attachment is that of the active job of its type. -/
def AttachmentsActive (s : JobSystem) : Prop :=
  ∀ jobType id, s.runtime.jobAttachments jobType = some id →
    ∃ job, s.runtime.jobs id = some job ∧ job.jobType = jobType ∧ job.active

/-! ## The invariant -/

/-- The runner has been entered, and the worker is not done. -/
def WorkerPhase.Entered : WorkerPhase → Prop
  | .running | .updating _ | .finishing _ | .failing _ | .cleaning => True
  | _ => False

/-- The records a job is about to get keep its type. -/
def Job.Typed (job : Job) : Prop :=
  ∀ record, job.phase.pending = some record → record.jobType = job.jobType

structure Exclusive (s : JobSystem) : Prop where
  one : ∀ jobType a b, (s.callers a).Starting jobType → (s.callers b).Starting jobType → a = b
  checked : ∀ jobType caller, s.callers caller = .checked jobType →
    ∀ id job, s.runtime.jobs id = some job → job.jobType = jobType → ¬ job.active
  creates : ∀ jobType caller id, (s.callers caller).Creates jobType id →
    (∃ job, s.runtime.jobs id = some job ∧ job.jobType = jobType) ∧
      ∀ other job, s.runtime.jobs other = some job → job.jobType = jobType → job.active →
        other = id
  known : ∀ id job, s.runtime.jobs id = some job → job.active →
    s.runtime.activeJobs job.jobType = some id ∨
      ∃ caller, (s.callers caller).Creates job.jobType id
  registered : ∀ jobType id, s.runtime.activeJobs jobType = some id →
    ∃ job, s.runtime.jobs id = some job ∧ job.jobType = jobType
  attachments : ∀ jobType id, s.runtime.jobAttachments jobType = some id →
    ∃ job, s.runtime.jobs id = some job ∧ job.jobType = jobType ∧ job.phase.Entered
  typed : ∀ id job, s.runtime.jobs id = some job → job.Typed
  writes : ∀ caller id record, s.callers caller = .writing id record →
    ∃ job, s.runtime.jobs id = some job ∧ record.jobType = job.jobType

namespace Exclusive

variable {s : JobSystem} {id : JobId} {job next : Job}

theorem oneActive (h : Exclusive s) : OneActive s := by
  intro a b jobA jobB hjobA hjobB htype hactiveA hactiveB
  rcases h.known a jobA hjobA hactiveA with hregA | ⟨caller, hcreates⟩
  · rcases h.known b jobB hjobB hactiveB with hregB | ⟨caller, hcreates⟩
    · rw [htype, hregB] at hregA
      cases hregA
      rfl
    · exact (h.creates _ caller b hcreates).2 a jobA hjobA htype hactiveA
  · exact ((h.creates _ caller a hcreates).2 b jobB hjobB htype.symm hactiveB).symm

theorem attachmentsActive (h : Exclusive s) : AttachmentsActive s := by
  intro jobType id hattached
  obtain ⟨job, hjob, htype, hentered⟩ := h.attachments jobType id hattached
  refine ⟨job, hjob, htype, fun hdone => ?_⟩
  rw [hdone] at hentered
  exact hentered

/-- A job of the same type is still there after one was replaced by its own next state. -/
theorem exists_update {jobs : JobId → Option Job} {other : JobId} {jobType : PyStr}
    (hjob : jobs id = some job) (htype : next.jobType = job.jobType)
    (h : ∃ found, jobs other = some found ∧ found.jobType = jobType) :
    ∃ found, Function.update jobs id (some next) other = some found ∧ found.jobType = jobType := by
  obtain ⟨found, hfound, hfoundType⟩ := h
  by_cases heq : other = id
  · subst heq
    rw [hjob] at hfound
    cases hfound
    exact ⟨next, Function.update_self .., htype.trans hfoundType⟩
  · exact ⟨found, by rw [Function.update_of_ne heq]; exact hfound, hfoundType⟩

/-- A job goes on to a state of the same type that is not active unless it was. -/
theorem setJob (h : Exclusive s) (hjob : s.runtime.jobs id = some job)
    (htype : next.jobType = job.jobType) (hactive : next.active → job.active)
    (htyped : next.Typed)
    (hentered : ∀ jobType, s.runtime.jobAttachments jobType = some id → next.phase.Entered) :
    Exclusive ⟨s.runtime.setJob id next, s.callers⟩ where
  one := h.one
  checked := by
    intro jobType caller hchecked other found hfound hfoundType hfoundActive
    rcases jobs_update hfound with ⟨rfl, rfl⟩ | ⟨-, hold⟩
    · exact h.checked jobType caller hchecked other job hjob (htype.symm.trans hfoundType)
        (hactive hfoundActive)
    · exact h.checked jobType caller hchecked other found hold hfoundType hfoundActive
  creates := by
    intro jobType caller created hcreates
    obtain ⟨hexists, honly⟩ := h.creates jobType caller created hcreates
    refine ⟨exists_update hjob htype hexists, fun other found hfound hfoundType hfoundActive => ?_⟩
    rcases jobs_update hfound with ⟨rfl, rfl⟩ | ⟨-, hold⟩
    · exact honly other job hjob (htype.symm.trans hfoundType) (hactive hfoundActive)
    · exact honly other found hold hfoundType hfoundActive
  known := by
    intro other found hfound hfoundActive
    rcases jobs_update hfound with ⟨rfl, rfl⟩ | ⟨-, hold⟩
    · rw [htype]
      exact h.known other job hjob (hactive hfoundActive)
    · exact h.known other found hold hfoundActive
  registered := fun jobType other hregistered =>
    exists_update hjob htype (h.registered jobType other hregistered)
  attachments := by
    intro jobType other hattached
    obtain ⟨found, hfound, hfoundType, hfoundEntered⟩ := h.attachments jobType other hattached
    by_cases heq : other = id
    · subst heq
      rw [hjob] at hfound
      cases hfound
      exact ⟨next, Function.update_self .., htype.trans hfoundType, hentered jobType hattached⟩
    · exact ⟨found, (Function.update_of_ne heq ..).trans hfound, hfoundType, hfoundEntered⟩
  typed := by
    intro other found hfound
    rcases jobs_update hfound with ⟨rfl, rfl⟩ | ⟨-, hold⟩
    · exact htyped
    · exact h.typed other found hold
  writes := by
    intro caller other record hwriting
    obtain ⟨found, hfound, hrecord⟩ := h.writes caller other record hwriting
    by_cases heq : other = id
    · subst heq
      rw [hjob] at hfound
      cases hfound
      exact ⟨next, Function.update_self .., hrecord.trans htype.symm⟩
    · exact ⟨found, (Function.update_of_ne heq ..).trans hfound, hrecord⟩

/-- The invariant as far as one caller is concerned. -/
structure CallerFits (runtime : JobRuntime) (callers : Nat → CallerPhase) (caller : Nat)
    (phase : CallerPhase) : Prop where
  one : ∀ jobType, phase.Starting jobType → ∀ other, other ≠ caller →
    ¬ (callers other).Starting jobType
  checked : ∀ jobType, phase = .checked jobType →
    ∀ id job, runtime.jobs id = some job → job.jobType = jobType → ¬ job.active
  creates : ∀ jobType id, phase.Creates jobType id →
    (∃ job, runtime.jobs id = some job ∧ job.jobType = jobType) ∧
      ∀ other job, runtime.jobs other = some job → job.jobType = jobType → job.active → other = id
  writes : ∀ id record, phase = .writing id record →
    ∃ job, runtime.jobs id = some job ∧ record.jobType = job.jobType

/-- A caller that starts nothing and writes nothing fits. -/
theorem CallerFits.of_not_starting {runtime : JobRuntime} {callers : Nat → CallerPhase}
    {caller : Nat} {phase : CallerPhase} (hstarting : ∀ jobType, ¬ phase.Starting jobType)
    (hwrites : ∀ id record, phase = .writing id record →
      ∃ job, runtime.jobs id = some job ∧ record.jobType = job.jobType) :
    CallerFits runtime callers caller phase where
  one := fun jobType h => absurd h (hstarting jobType)
  checked := fun jobType h => absurd (Or.inl h) (hstarting jobType)
  creates := fun jobType id h => absurd (Or.inr ⟨id, h⟩) (hstarting jobType)
  writes := hwrites

/-- A caller moves on, and the registrations change so that every active job is still known. -/
theorem move {runtime : JobRuntime} {caller : Nat} {phase : CallerPhase} (h : Exclusive s)
    (hjobs : runtime.jobs = s.runtime.jobs)
    (hattachments : runtime.jobAttachments = s.runtime.jobAttachments)
    (hfits : CallerFits runtime s.callers caller phase)
    (hknown : ∀ id job, runtime.jobs id = some job → job.active →
      runtime.activeJobs job.jobType = some id ∨
        ∃ other, (Function.update s.callers caller phase other).Creates job.jobType id)
    (hregistered : ∀ jobType id, runtime.activeJobs jobType = some id →
      ∃ job, runtime.jobs id = some job ∧ job.jobType = jobType) :
    Exclusive (s.setCaller caller phase runtime) where
  one := by
    intro jobType a b hstartA hstartB
    rcases callers_update (·.Starting jobType) hstartA with ⟨rfl, hphaseA⟩ | ⟨hneA, hoffA⟩
    · rcases callers_update (·.Starting jobType) hstartB with ⟨rfl, -⟩ | ⟨hneB, hoffB⟩
      · rfl
      · exact absurd hoffB (hfits.one jobType hphaseA b hneB)
    · rcases callers_update (·.Starting jobType) hstartB with ⟨rfl, hphaseB⟩ | ⟨-, hoffB⟩
      · exact absurd hoffA (hfits.one jobType hphaseB a hneA)
      · exact h.one jobType a b hoffA hoffB
  checked := by
    intro jobType other hchecked
    rcases callers_update (· = .checked jobType) hchecked with ⟨rfl, hphase⟩ | ⟨-, hoff⟩
    · exact hfits.checked jobType hphase
    · intro id job hjob
      exact h.checked jobType other hoff id job (by rw [← hjobs]; exact hjob)
  creates := by
    intro jobType other id hcreates
    rcases callers_update (·.Creates jobType id) hcreates with ⟨rfl, hphase⟩ | ⟨-, hoff⟩
    · exact hfits.creates jobType id hphase
    · have hold := h.creates jobType other id hoff
      rw [← hjobs] at hold
      exact hold
  known := hknown
  registered := hregistered
  attachments := by
    intro jobType id hattached
    have hattached' : runtime.jobAttachments jobType = some id := hattached
    rw [hattachments] at hattached'
    obtain ⟨job, hjob, hrest⟩ := h.attachments jobType id hattached'
    exact ⟨job, by rw [← hjobs] at hjob; exact hjob, hrest⟩
  typed := by
    intro id job hjob
    have hjob' : runtime.jobs id = some job := hjob
    rw [hjobs] at hjob'
    exact h.typed id job hjob'
  writes := by
    intro other id record hwriting
    rcases callers_update (· = .writing id record) hwriting with ⟨rfl, hphase⟩ | ⟨-, hoff⟩
    · exact hfits.writes id record hphase
    · obtain ⟨job, hjob, hrecord⟩ := h.writes other id record hoff
      exact ⟨job, by rw [← hjobs] at hjob; exact hjob, hrecord⟩

/-- A caller that has created nothing moves on, and the runtime stays as it is. -/
theorem moveOnly {caller : Nat} {phase : CallerPhase} (h : Exclusive s)
    (hnothing : ∀ jobType id, ¬ (s.callers caller).Creates jobType id)
    (hfits : CallerFits s.runtime s.callers caller phase) :
    Exclusive (s.setCaller caller phase s.runtime) := by
  refine h.move rfl rfl hfits (fun id job hjob hactive => ?_) h.registered
  refine (h.known id job hjob hactive).imp_right ?_
  rintro ⟨other, hcreates⟩
  have hne : other ≠ caller := by
    rintro rfl
    exact hnothing _ _ hcreates
  exact ⟨other, by rw [Function.update_of_ne hne]; exact hcreates⟩

/-- The check for an active job. -/
theorem checkActive {caller : Nat} {jobType : PyStr} (h : Exclusive s)
    (hok : s.runtime.activeJobs jobType = none → ∀ caller, ¬ (s.callers caller).Starting jobType)
    (hidle : s.callers caller = .idle) :
    Exclusive (s.setCaller caller
      (if (s.runtime.activeJob jobType).1.isNone then .checked jobType else .idle)
      (s.runtime.activeJob jobType).2) := by
  have hnothing : ∀ jobType id, ¬ (s.callers caller).Creates jobType id := by
    rw [hidle]
    rintro jobType id (hcreated | hsubmitted)
    · cases hcreated
    · cases hsubmitted
  cases hactive : s.runtime.activeJobs jobType with
  | none =>
      have heq : s.runtime.activeJob jobType = (none, s.runtime) := by
        rw [JobRuntime.activeJob, hactive]
      rw [heq]
      refine h.moveOnly hnothing ⟨?_, ?_, ?_, nofun⟩
      · rintro other (hchecked | ⟨id, hcreated | hsubmitted⟩) caller -
        · cases hchecked
          exact hok hactive caller
        · cases hcreated
        · cases hsubmitted
      · rintro other hchecked id job hjob rfl hjobActive
        cases hchecked
        rcases h.known id job hjob hjobActive with hregistered | ⟨caller, hcreates⟩
        · rw [hactive] at hregistered
          cases hregistered
        · exact hok hactive caller (Or.inr ⟨id, hcreates⟩)
      · rintro other id (hcreated | hsubmitted)
        · cases hcreated
        · cases hsubmitted
  | some id =>
      obtain ⟨job, hjob, htype⟩ := h.registered jobType id hactive
      have heq : s.runtime.activeJob jobType = (some job.handle.record,
          if job.active then s.runtime
          else { s.runtime with
            activeJobs := Function.update s.runtime.activeJobs jobType none }) := by
        rw [JobRuntime.activeJob, hactive]
        simp only [hjob]
      rw [heq]
      have hfits : CallerFits s.runtime s.callers caller .idle := by
        refine .of_not_starting ?_ nofun
        rintro other (hchecked | ⟨_, hcreated | hsubmitted⟩)
        · cases hchecked
        · cases hcreated
        · cases hsubmitted
      by_cases hjobActive : job.active
      · simp only [if_pos hjobActive]
        exact h.moveOnly hnothing hfits
      · simp only [if_neg hjobActive]
        have hother : ∀ other found, s.runtime.jobs other = some found → found.active →
            s.runtime.activeJobs found.jobType = some other → found.jobType ≠ jobType := by
          intro other found hfound hfoundActive hregistered heqType
          rw [heqType, hactive] at hregistered
          cases hregistered
          rw [hjob] at hfound
          cases hfound
          exact hjobActive hfoundActive
        refine h.move rfl rfl ⟨hfits.one, hfits.checked, hfits.creates, hfits.writes⟩ ?_ ?_
        · intro other found hfound hfoundActive
          rcases h.known other found hfound hfoundActive with hregistered | ⟨creator, hcreates⟩
          · left
            have hne := hother other found hfound hfoundActive hregistered
            exact (Function.update_of_ne hne ..).trans hregistered
          · right
            have hne : creator ≠ caller := by
              rintro rfl
              exact hnothing _ _ hcreates
            exact ⟨creator, by rw [Function.update_of_ne hne]; exact hcreates⟩
        · intro other found hregistered
          have hregistered' :
              Function.update s.runtime.activeJobs jobType none other = some found := hregistered
          by_cases heqType : other = jobType
          · subst heqType
            rw [Function.update_self] at hregistered'
            cases hregistered'
          · rw [Function.update_of_ne heqType] at hregistered'
            exact h.registered other found hregistered'

/-- A new job of a type without an active one. -/
theorem createJob {caller : Nat} {jobType summary : PyStr} (h : Exclusive s)
    (hchecked : s.callers caller = .checked jobType) (hfresh : s.runtime.jobs id = none) :
    Exclusive (s.setCaller caller (.created jobType id)
      (s.runtime.setJob id (.new jobType summary))) := by
  have hstarting : (s.callers caller).Starting jobType := Or.inl hchecked
  have hother : ∀ other found, s.runtime.jobs other = some found → other ≠ id := by
    rintro other found hfound rfl
    rw [hfresh] at hfound
    cases hfound
  have hkeep : ∀ other found, s.runtime.jobs other = some found →
      (s.runtime.setJob id (.new jobType summary)).jobs other = some found :=
    fun other found hfound => (Function.update_of_ne (hother other found hfound) ..).trans hfound
  refine ⟨?_, ?_, ?_, ?_, ?_, ?_, ?_, ?_⟩
  · intro other a b hstartA hstartB
    have hback : ∀ c, (Function.update s.callers caller (.created jobType id) c).Starting other →
        (s.callers c).Starting other := by
      intro c hc
      rcases callers_update (·.Starting other) hc with ⟨rfl, hnew⟩ | ⟨-, hold⟩
      · rcases hnew with hno | ⟨_, hcreated | hno⟩
        · cases hno
        · cases hcreated
          exact hstarting
        · cases hno
      · exact hold
    exact h.one other a b (hback a hstartA) (hback b hstartB)
  · intro other c hc found job hjob htype
    rcases callers_update (· = .checked other) hc with ⟨-, hno⟩ | ⟨hne, hold⟩
    · cases hno
    · rcases jobs_update hjob with ⟨-, rfl⟩ | ⟨-, hbefore⟩
      · have htype' : jobType = other := htype
        subst htype'
        exact absurd (h.one jobType c caller (Or.inl hold) hstarting) hne
      · exact h.checked other c hold found job hbefore htype
  · intro other c created hc
    rcases callers_update (·.Creates other created) hc with ⟨-, hnew⟩ | ⟨hne, hold⟩
    · have heq : other = jobType ∧ created = id := by
        rcases hnew with hcreated | hno
        · cases hcreated
          exact ⟨rfl, rfl⟩
        · cases hno
      obtain ⟨rfl, rfl⟩ := heq
      refine ⟨⟨_, Function.update_self .., rfl⟩, fun found job hjob htype hactive => ?_⟩
      rcases jobs_update hjob with ⟨hid, -⟩ | ⟨-, hbefore⟩
      · exact hid
      · exact absurd hactive (h.checked other caller hchecked found job hbefore htype)
    · obtain ⟨⟨job, hjob, htype⟩, honly⟩ := h.creates other c created hold
      refine ⟨⟨job, hkeep created job hjob, htype⟩, fun found next hnext hnextType hactive => ?_⟩
      rcases jobs_update hnext with ⟨-, rfl⟩ | ⟨-, hbefore⟩
      · have htype' : jobType = other := hnextType
        subst htype'
        exact absurd (h.one jobType c caller (Or.inr ⟨created, hold⟩) hstarting) hne
      · exact honly found next hbefore hnextType hactive
  · intro other found hfound hactive
    rcases jobs_update hfound with ⟨rfl, rfl⟩ | ⟨-, hbefore⟩
    · exact Or.inr ⟨caller, Or.inl (Function.update_self ..)⟩
    · refine (h.known other found hbefore hactive).imp_right ?_
      rintro ⟨c, hcreates⟩
      have hne : c ≠ caller := by
        rintro rfl
        rw [hchecked] at hcreates
        rcases hcreates with hno | hno
        · cases hno
        · cases hno
      refine ⟨c, ?_⟩
      have heq : (s.setCaller caller (.created jobType id)
          (s.runtime.setJob id (.new jobType summary))).callers c = s.callers c :=
        Function.update_of_ne hne ..
      rw [heq]
      exact hcreates
  · intro other found hregistered
    obtain ⟨job, hjob, htype⟩ := h.registered other found hregistered
    exact ⟨job, hkeep found job hjob, htype⟩
  · intro other found hattached
    obtain ⟨job, hjob, hrest⟩ := h.attachments other found hattached
    exact ⟨job, hkeep found job hjob, hrest⟩
  · intro other found hfound
    rcases jobs_update hfound with ⟨-, rfl⟩ | ⟨-, hbefore⟩
    · exact fun _ => nofun
    · exact h.typed other found hbefore
  · intro c other record hwriting
    rcases callers_update (· = .writing other record) hwriting with ⟨-, hno⟩ | ⟨-, hold⟩
    · cases hno
    · obtain ⟨job, hjob, hrecord⟩ := h.writes c other record hold
      exact ⟨job, hkeep other job hjob, hrecord⟩

theorem not_starting_of_ne {phase : CallerPhase} (hchecked : ∀ jobType, phase ≠ .checked jobType)
    (hcreated : ∀ jobType id, phase ≠ .created jobType id)
    (hsubmitted : ∀ jobType id, phase ≠ .submitted jobType id) (jobType : PyStr) :
    ¬ phase.Starting jobType := by
  rintro (h | ⟨id, h | h⟩)
  · exact hchecked jobType h
  · exact hcreated jobType id h
  · exact hsubmitted jobType id h

/-- A caller that starts nothing goes on to start nothing. -/
theorem moveIdle {caller : Nat} {phase : CallerPhase} (h : Exclusive s)
    (hbefore : ∀ jobType, ¬ (s.callers caller).Starting jobType)
    (hafter : ∀ jobType, ¬ phase.Starting jobType)
    (hwrites : ∀ id record, phase = .writing id record →
      ∃ job, s.runtime.jobs id = some job ∧ record.jobType = job.jobType) :
    Exclusive (s.setCaller caller phase s.runtime) := by
  refine h.moveOnly (fun jobType id hcreates => ?_) (.of_not_starting hafter hwrites)
  exact hbefore jobType (Or.inr ⟨id, hcreates⟩)

end Exclusive

/-- What an action of a worker keeps. -/
theorem Job.act_keeps {job next : Job} {action : WorkerAction} (htyped : job.Typed)
    (hact : job.act action = some next) :
    next.jobType = job.jobType ∧ (next.active → job.active) ∧ next.Typed ∧
      (job.phase.Entered → next.phase.Entered) := by
  have hfailing : ∀ error record, (WorkerPhase.failing (job.handle.failed error)).pending =
      some record → record.jobType = job.jobType := by
    intro error record hrecord
    cases hrecord
    rfl
  cases action with
  | attach => cases hact
  | cleanUp => cases hact
  | pick =>
      simp only [act] at hact
      split at hact
      · next hphase =>
          cases hact
          refine ⟨rfl, fun _ => by rw [active, hphase]; simp, fun record hrecord => ?_, ?_⟩
          · cases hrecord
            rfl
          · rw [hphase]
            exact id
      · cases hact
  | update state summary error | finish state summary =>
      simp only [act] at hact
      split at hact
      · next hphase =>
          cases hact
          refine ⟨rfl, fun _ => by rw [active, hphase]; simp, fun record hrecord => ?_,
            fun _ => trivial⟩
          cases hrecord
          rfl
      · cases hact
  | raise error =>
      simp only [act] at hact
      split at hact
      · next hphase =>
          cases hact
          exact ⟨rfl, (fun _ => by rw [active, hphase]; simp), hfailing error, fun _ => trivial⟩
      · cases hact
  | persist =>
      simp only [act] at hact
      cases hphase : job.phase with
      | starting record | updating record | finishing record | failing record =>
          rw [hphase] at hact
          cases hact
          have htype : record.jobType = job.jobType := htyped record (by rw [hphase]; rfl)
          exact ⟨htype, (fun _ => by rw [active, hphase]; simp),
            (fun _ hrecord => by cases hrecord),
            fun _ => trivial⟩
      | submitting | queued | running | cleaning | done =>
          rw [hphase] at hact
          cases hact
  | persistFails error =>
      simp only [act] at hact
      cases hphase : job.phase with
      | starting record =>
          rw [hphase] at hact
          cases hact
          exact ⟨rfl, (fun h => absurd rfl h), (fun _ hrecord => by cases hrecord), fun h => h⟩
      | updating record | failing record =>
          rw [hphase] at hact
          cases hact
          exact ⟨rfl, (fun _ => by rw [active, hphase]; simp), (fun _ hrecord => by cases hrecord),
            fun _ => trivial⟩
      | finishing record =>
          rw [hphase] at hact
          cases hact
          exact ⟨rfl, (fun _ => by rw [active, hphase]; simp), hfailing error, fun _ => trivial⟩
      | submitting | queued | running | cleaning | done =>
          rw [hphase] at hact
          cases hact

namespace Exclusive

variable {s t : JobSystem} {id : JobId} {job next : Job}

/-- The job an attachment belongs to has been entered. -/
theorem entered_of_attachment (h : Exclusive s) (hjob : s.runtime.jobs id = some job)
    {jobType : PyStr} (hattached : s.runtime.jobAttachments jobType = some id) :
    job.phase.Entered := by
  obtain ⟨found, hfound, -, hentered⟩ := h.attachments jobType id hattached
  rw [hjob] at hfound
  cases hfound
  exact hentered

/-- The `finally` block of an active job. -/
theorem cleanUp (h : Exclusive s) (hjob : s.runtime.jobs id = some job)
    (hphase : job.phase = .cleaning) : Exclusive ⟨s.runtime.cleanUp id job, s.callers⟩ := by
  have hactive : job.active := by
    rw [Job.active, hphase]
    nofun
  have honly := h.oneActive
  refine ⟨h.one, ?_, ?_, ?_, ?_, ?_, ?_, ?_⟩
  · intro jobType caller hchecked other found hfound htype hfoundActive
    rcases jobs_update hfound with ⟨rfl, rfl⟩ | ⟨-, hold⟩
    · exact hfoundActive rfl
    · exact h.checked jobType caller hchecked other found hold htype hfoundActive
  · intro jobType caller created hcreates
    obtain ⟨hexists, hunique⟩ := h.creates jobType caller created hcreates
    refine ⟨exists_update hjob rfl hexists, fun other found hfound htype hfoundActive => ?_⟩
    rcases jobs_update hfound with ⟨rfl, rfl⟩ | ⟨-, hold⟩
    · exact absurd rfl hfoundActive
    · exact hunique other found hold htype hfoundActive
  · intro other found hfound hfoundActive
    rcases jobs_update hfound with ⟨rfl, rfl⟩ | ⟨hne, hold⟩
    · exact absurd rfl hfoundActive
    · refine (h.known other found hold hfoundActive).imp_left fun hregistered => ?_
      -- the job of the other active worker has another type
      have htypes : found.jobType ≠ job.jobType := fun htype =>
        hne (honly other id found job hold hjob htype hfoundActive hactive)
      simp only [JobRuntime.cleanUp]
      split
      · exact (Function.update_of_ne htypes ..).trans hregistered
      · exact hregistered
  · intro jobType other hregistered
    have hbefore : s.runtime.activeJobs jobType = some other := by
      simp only [JobRuntime.cleanUp] at hregistered
      split at hregistered
      · by_cases htypes : jobType = job.handle.record.jobType
        · subst htypes
          rw [Function.update_self] at hregistered
          cases hregistered
        · rw [Function.update_of_ne htypes] at hregistered
          exact hregistered
      · exact hregistered
    exact exists_update hjob rfl (h.registered jobType other hbefore)
  · intro jobType other hattached
    have hattached' : Function.update s.runtime.jobAttachments job.handle.record.jobType none
        jobType = some other := hattached
    by_cases htypes : jobType = job.handle.record.jobType
    · subst htypes
      rw [Function.update_self] at hattached'
      cases hattached'
    · rw [Function.update_of_ne htypes] at hattached'
      obtain ⟨found, hfound, htype, hentered⟩ := h.attachments jobType other hattached'
      have hne : other ≠ id := by
        rintro rfl
        rw [hjob] at hfound
        cases hfound
        exact htypes htype.symm
      exact ⟨found, (Function.update_of_ne hne ..).trans hfound, htype, hentered⟩
  · intro other found hfound
    rcases jobs_update hfound with ⟨rfl, rfl⟩ | ⟨-, hold⟩
    · exact fun _ => nofun
    · exact h.typed other found hold
  · intro caller other record hwriting
    obtain ⟨found, hfound, hrecord⟩ := h.writes caller other record hwriting
    have hkept : ∃ after, (s.runtime.cleanUp id job).jobs other = some after ∧
        after.jobType = found.jobType :=
      exists_update hjob rfl ⟨found, hfound, rfl⟩
    obtain ⟨after, hafter, htype⟩ := hkept
    exact ⟨after, hafter, hrecord.trans htype.symm⟩

theorem worker {action : WorkerAction} {runtime : JobRuntime} (h : Exclusive s)
    (hstep : s.runtime.workerStep id action = some runtime) : Exclusive ⟨runtime, s.callers⟩ := by
  obtain ⟨job, hjob, hcases⟩ := JobRuntime.workerStep_cases hstep
  rcases hcases with ⟨-, hrunning, rfl⟩ | ⟨-, hcleaning, rfl⟩ | ⟨next, hact, rfl⟩
  · refine ⟨h.one, h.checked, h.creates, h.known, h.registered, ?_, h.typed, h.writes⟩
    intro jobType other hattached
    have hattached' : Function.update s.runtime.jobAttachments job.handle.record.jobType (some id)
        jobType = some other := hattached
    by_cases htypes : jobType = job.handle.record.jobType
    · subst htypes
      rw [Function.update_self] at hattached'
      cases hattached'
      exact ⟨job, hjob, rfl, by rw [hrunning]; exact trivial⟩
    · rw [Function.update_of_ne htypes] at hattached'
      exact h.attachments jobType other hattached'
  · exact h.cleanUp hjob hcleaning
  · obtain ⟨htype, hactive, htyped, hentered⟩ := Job.act_keeps (h.typed id job hjob) hact
    exact h.setJob hjob htype hactive htyped fun jobType hattached =>
      hentered (h.entered_of_attachment hjob hattached)

/-- A created job is handed to the executor. -/
theorem submit {caller : Nat} {jobType : PyStr} (h : Exclusive s)
    (hcreated : s.callers caller = .created jobType id) (hjob : s.runtime.jobs id = some job)
    (hphase : job.phase = .submitting) :
    Exclusive (s.setCaller caller (.submitted jobType id)
      (s.runtime.setJob id { job with phase := .queued })) := by
  have hcreates : (s.callers caller).Creates jobType id := Or.inl hcreated
  have hset : Exclusive ⟨s.runtime.setJob id { job with phase := .queued }, s.callers⟩ := by
    refine h.setJob hjob rfl (fun _ => ?_) (fun _ hrecord => by cases hrecord) ?_
    · rw [Job.active, hphase]
      nofun
    · intro other hattached
      have hentered := h.entered_of_attachment hjob hattached
      rw [hphase] at hentered
      exact hentered.elim
  refine hset.move rfl rfl ⟨?_, nofun, ?_, nofun⟩ ?_ hset.registered
  · rintro other (hno | ⟨found, hno | hsame⟩) creator hne hstarting
    · cases hno
    · cases hno
    · cases hsame
      exact hne (h.one jobType creator caller hstarting (Or.inr ⟨id, hcreates⟩))
  · rintro other found (hno | hsame)
    · cases hno
    · cases hsame
      exact hset.creates jobType caller id hcreates
  · intro other found hfound hactive
    refine (hset.known other found hfound hactive).imp_right ?_
    rintro ⟨creator, hold⟩
    by_cases heq : creator = caller
    · subst heq
      refine ⟨creator, ?_⟩
      rw [Function.update_self]
      rw [hcreated] at hold
      rcases hold with hsame | hno
      · cases hsame
        exact Or.inr rfl
      · cases hno
    · exact ⟨creator, by rw [Function.update_of_ne heq]; exact hold⟩

/-- The submitted job is registered, and it is the only active one of its type. -/
theorem register {caller : Nat} {jobType : PyStr} (h : Exclusive s)
    (hsubmitted : s.callers caller = .submitted jobType id) :
    Exclusive (s.setCaller caller .idle (s.runtime.register jobType id)) := by
  obtain ⟨hexists, honly⟩ := h.creates jobType caller id (Or.inr hsubmitted)
  refine h.move rfl rfl (.of_not_starting ?_ nofun) ?_ ?_
  · rintro other (hno | ⟨_, hno | hno⟩)
    · cases hno
    · cases hno
    · cases hno
  · intro other found hfound hactive
    by_cases htype : found.jobType = jobType
    · left
      rw [honly other found hfound htype hactive, htype]
      exact Function.update_self ..
    · rcases h.known other found hfound hactive with hregistered | ⟨creator, hcreates⟩
      · exact Or.inl ((Function.update_of_ne htype ..).trans hregistered)
      · right
        have hne : creator ≠ caller := by
          rintro rfl
          rw [hsubmitted] at hcreates
          rcases hcreates with hno | hsame
          · cases hno
          · cases hsame
            exact htype rfl
        exact ⟨creator, by rw [Function.update_of_ne hne]; exact hcreates⟩
  · intro other found hregistered
    have hregistered' : Function.update s.runtime.activeJobs jobType (some id) other =
        some found := hregistered
    by_cases htype : other = jobType
    · subst htype
      rw [Function.update_self] at hregistered'
      cases hregistered'
      exact hexists
    · rw [Function.update_of_ne htype] at hregistered'
      exact h.registered other found hregistered'

theorem not_starting_idle (jobType : PyStr) : ¬ CallerPhase.idle.Starting jobType := by
  apply not_starting_of_ne
  · nofun
  · nofun
  · nofun

/-- Every step under the condition keeps the invariant. -/
theorem step {label : JobLabel} (h : Exclusive s) (hok : StartsInTurn s label)
    (hstep : s.step label = some t) : Exclusive t := by
  cases JobSystem.does_of_step hstep with
  | checkActive hidle => exact h.checkActive hok hidle
  | abandon hchecked =>
      refine h.moveOnly ?_ (.of_not_starting not_starting_idle nofun)
      rw [hchecked]
      rintro other found (hno | hno)
      · cases hno
      · cases hno
  | createJob hchecked hfresh => exact h.createJob hchecked hfresh
  | submit hcreated hjob hphase => exact h.submit hcreated hjob hphase
  | register hsubmitted => exact h.register hsubmitted
  | lookUpNone hidle hnone => exact h
  | lookUp hidle hactive =>
      refine h.moveIdle ?_ (not_starting_of_ne nofun nofun nofun) nofun
      rw [hidle]
      exact not_starting_idle
  | @signal caller request id job hholding hjob =>
      have hsame : (job.handle.signal request).record = job.handle.record := by
        cases request with
        | pause | resume | stop => rfl
      have hset : Exclusive ⟨s.runtime.setJob id
          { job with handle := job.handle.signal request }, s.callers⟩ := by
        refine h.setJob hjob (congrArg BackgroundJobRecord.jobType hsame)
          (fun hactive => hactive) (fun record hrecord => ?_) (fun jobType hattached => ?_)
        · exact (h.typed id job hjob record hrecord).trans
            (congrArg BackgroundJobRecord.jobType hsame.symm)
        · exact (h.entered_of_attachment hjob hattached : job.phase.Entered)
      have hbefore : ∀ jobType, ¬ (s.callers caller).Starting jobType := by
        rw [hholding]
        exact not_starting_of_ne nofun nofun nofun
      exact hset.moveIdle hbefore (not_starting_of_ne nofun nofun nofun) nofun
  | @prepare caller request id job hsignalled hjob =>
      refine h.moveIdle ?_ (not_starting_of_ne nofun nofun nofun) ?_
      · rw [hsignalled]
        exact not_starting_of_ne nofun nofun nofun
      · intro other record hwriting
        cases hwriting
        refine ⟨job, hjob, ?_⟩
        cases request with
        | pause | resume | stop => rfl
  | @persist caller id record job hwriting hjob =>
      obtain ⟨found, hfound, htype⟩ := h.writes caller id record hwriting
      rw [hjob] at hfound
      cases hfound
      have hset : Exclusive ⟨s.runtime.setJob id (job.persist record), s.callers⟩ := by
        refine h.setJob hjob htype (fun hactive => hactive) (fun other hother => ?_)
          (fun jobType hattached => ?_)
        · exact (h.typed id job hjob other hother).trans htype.symm
        · exact (h.entered_of_attachment hjob hattached : job.phase.Entered)
      have hbefore : ∀ jobType, ¬ (s.callers caller).Starting jobType := by
        rw [hwriting]
        exact not_starting_of_ne nofun nofun nofun
      exact hset.moveIdle hbefore not_starting_idle nofun
  | persistFails hwriting =>
      refine h.moveIdle ?_ not_starting_idle nofun
      rw [hwriting]
      exact not_starting_of_ne nofun nofun nofun
  | worker hworker => exact h.worker hworker

end Exclusive

theorem exclusive_start : Exclusive JobSystem.start where
  one := by
    rintro jobType a b hstarting
    exact absurd hstarting (Exclusive.not_starting_idle jobType)
  checked := by
    intro jobType caller hchecked
    cases hchecked
  creates := by
    rintro jobType caller id hcreates
    exact absurd (Or.inr ⟨id, hcreates⟩) (Exclusive.not_starting_idle jobType)
  known := by
    intro id job hjob
    cases hjob
  registered := by
    intro jobType id hregistered
    cases hregistered
  attachments := by
    intro jobType id hattached
    cases hattached
  typed := by
    intro id job hjob
    cases hjob
  writes := by
    intro caller id record hwriting
    cases hwriting

/-! ## Runs -/

/-- A worker leaves the attachments of the other jobs as they are. -/
def AttachmentsKept (s : JobSystem) : Prop :=
  ∀ id action t, s.step (.worker id action) = some t →
    ∀ jobType other, s.runtime.jobAttachments jobType = some other → other ≠ id →
      t.runtime.jobAttachments jobType = some other

theorem Exclusive.attachmentsKept {s : JobSystem} (h : Exclusive s) : AttachmentsKept s := by
  intro id action t hstep jobType other hattached hne
  cases JobSystem.does_of_step hstep with
  | worker hworker =>
      obtain ⟨job, hjob, hcases⟩ := JobRuntime.workerStep_cases hworker
      obtain ⟨found, hfound, hfoundType, hfoundActive⟩ :=
        h.attachmentsActive jobType other hattached
      -- the worker that takes the step is active, so the attachment has another type
      have htypes : job.active → jobType ≠ job.jobType := fun hactive htype =>
        hne (h.oneActive other id found job hfound hjob
          (hfoundType.trans htype) hfoundActive hactive)
      rcases hcases with ⟨-, hrunning, rfl⟩ | ⟨-, hcleaning, rfl⟩ | ⟨next, -, rfl⟩
      · have hactive : job.active := by
          rw [Job.active, hrunning]
          nofun
        exact (Function.update_of_ne (htypes hactive) ..).trans hattached
      · have hactive : job.active := by
          rw [Job.active, hcleaning]
          nofun
        exact (Function.update_of_ne (htypes hactive) ..).trans hattached
      · exact hattached

section Runs

variable {s : JobSystem} {labels : List JobLabel}

theorem Exclusive.of_run
    (hrun : Steps JobSystem.step StartsInTurn JobSystem.start labels s) : Exclusive s :=
  hrun.invariant (fun _ _ _ hok hstep h => h.step hok hstep) exclusive_start

/-- In a run whose start requests of one type take turns, no two jobs of one type are active,
and the attachments belong to the active jobs. -/
theorem one_active_job_per_type
    (hrun : Steps JobSystem.step StartsInTurn JobSystem.start labels s) :
    OneActive s ∧ AttachmentsActive s ∧ AttachmentsKept s :=
  have h := Exclusive.of_run hrun
  ⟨h.oneActive, h.attachmentsActive, h.attachmentsKept⟩

end Runs

/-! ## Two requests at once -/

/-- Both callers find no active job, and both start one. -/
def startedTwice : List JobLabel :=
  [.checkActive 0 (py "catalog_inventory_scan"), .checkActive 1 (py "catalog_inventory_scan"),
    .createJob 0 7 (py "Catalog scan queued."), .createJob 1 8 (py "Catalog scan queued."),
    .submit 0, .submit 1, .register 0, .register 1]

/-- The second job has its attachment registered, and the first one is about to clean up. -/
def startedTwiceAttached : List JobLabel :=
  startedTwice ++ [JobLabel.worker 7 .pick, .worker 7 .persist, .worker 7 .attach, .worker 8 .pick,
    .worker 8 .persist, .worker 8 .attach, .worker 7 (.finish .completed (py "Done.")),
    .worker 7 .persist]

/-- The system after these requests. -/
def twoScans : JobSystem :=
  Steps.last JobSystem.step JobSystem.start startedTwiceAttached

theorem two_active_scan_jobs :
    Reachable JobSystem.step JobSystem.start twoScans ∧ ¬ OneActive twoScans ∧
      ¬ AttachmentsKept twoScans := by
  refine ⟨Reachable.of_exec (Steps.exec_eq_last (by decide)), fun hone => ?_, fun hkept => ?_⟩
  · exact absurd (hone 7 8 _ _ rfl rfl rfl nofun nofun) (by decide)
  · have hgone := hkept 7 .cleanUp _ rfl (py "catalog_inventory_scan") 8 rfl (by decide)
    cases hgone

/-- The second request comes after the first has registered its job. -/
theorem one_active_job_per_type_second_request :
    ∃ s, exec JobSystem.step JobSystem.start [.checkActive 0 (py "catalog_inventory_scan"),
      .createJob 0 7 (py "Catalog scan queued."), .submit 0, .register 0,
      .checkActive 1 (py "catalog_inventory_scan")] = some s ∧
      OneActive s ∧ AttachmentsActive s ∧ AttachmentsKept s := by
  have hrun : ∃ s, Steps JobSystem.step StartsInTurn JobSystem.start
      [.checkActive 0 (py "catalog_inventory_scan"),
        .createJob 0 7 (py "Catalog scan queued."), .submit 0, .register 0,
        .checkActive 1 (py "catalog_inventory_scan")] s ∧
      exec JobSystem.step JobSystem.start [.checkActive 0 (py "catalog_inventory_scan"),
        .createJob 0 7 (py "Catalog scan queued."), .submit 0, .register 0,
        .checkActive 1 (py "catalog_inventory_scan")] = some s := by
    refine ⟨_, .head ?_ rfl <| .head trivial rfl <| .head trivial rfl <| .head trivial rfl <|
      .head ?_ rfl <| .refl _, rfl⟩
    · exact fun _ _ => Exclusive.not_starting_idle _
    · intro hnone
      cases hnone
  obtain ⟨s, hsteps, hexec⟩ := hrun
  exact ⟨s, hexec, one_active_job_per_type hsteps⟩

end ImmichDoctor.Services
