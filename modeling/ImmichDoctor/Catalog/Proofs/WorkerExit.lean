import ImmichDoctor.Catalog.Proofs.ScanCommit
import ImmichDoctor.Catalog.Proofs.ScanSteps
/-!
# Workers leave their loop

Once the job is to pause or stop, or the file limit was reached, every step of a worker
brings it closer to the end of its loop. Only a worker that waits for its own resume goes
round in `wait_until_runnable`, which does not look at the job's requests.
-/

namespace ImmichDoctor.Catalog

open ImmichDoctor.Library

/-! ## The controller -/

namespace ScanRuntimeController

variable {c : ScanRuntimeController} {worker other : ActorId}

/-- The actor waits in `wait_until_runnable`. -/
def Waits (c : ScanRuntimeController) (worker : ActorId) : Prop :=
  worker ∉ c.stopped ∧ worker ∈ c.paused

instance : Decidable (c.Waits worker) := inferInstanceAs (Decidable (_ ∧ _))

theorem Waits.of_requestPause (h : (c.requestPause other).2.Waits worker) (hne : worker ≠ other) :
    c.Waits worker := by
  unfold requestPause at h
  split at h
  · exact ⟨h.1, (List.mem_insert_iff.mp h.2).resolve_left hne⟩
  · exact h

theorem Waits.of_requestResume (h : (c.requestResume other).2.Waits worker) : c.Waits worker := by
  unfold requestResume at h
  split at h
  · exact h
  · exact ⟨h.1, List.mem_of_mem_erase h.2⟩

theorem Waits.of_requestStop (h : (c.requestStop other).2.Waits worker) : c.Waits worker := by
  unfold requestStop at h
  split at h
  · exact ⟨fun hmem => h.1 (List.mem_insert_of_mem hmem), List.mem_of_mem_erase h.2⟩
  · exact h

theorem Waits.of_leftFor {reason : StopReason} (h : (c.leftFor other reason).Waits worker)
    (hne : worker ≠ other) : c.Waits worker := by
  cases reason with
  | stopped => exact Waits.of_requestStop h
  | paused => exact Waits.of_requestPause h hne

theorem waits_waitUntilRunnable :
    (c.waitUntilRunnable other).2.Waits worker ↔ c.Waits worker := by
  unfold waitUntilRunnable
  split
  · exact Iff.rfl
  · split <;> exact Iff.rfl

@[simp] theorem collectorFinished_requestPause :
    (c.requestPause worker).2.collectorFinished = c.collectorFinished := by
  unfold requestPause
  split <;> rfl

@[simp] theorem collectorFinished_requestResume :
    (c.requestResume worker).2.collectorFinished = c.collectorFinished := by
  unfold requestResume
  split <;> rfl

@[simp] theorem collectorFinished_requestStop :
    (c.requestStop worker).2.collectorFinished = c.collectorFinished := by
  unfold requestStop
  split <;> rfl

@[simp] theorem collectorFinished_leftFor {reason : StopReason} :
    (c.leftFor worker reason).collectorFinished = c.collectorFinished := by
  cases reason with
  | stopped => exact collectorFinished_requestStop
  | paused => exact collectorFinished_requestPause

@[simp] theorem collectorFinished_waitUntilRunnable :
    (c.waitUntilRunnable worker).2.collectorFinished = c.collectorFinished := by
  unfold waitUntilRunnable
  split
  · rfl
  · split <;> rfl

end ScanRuntimeController

/-- A worker does not touch the flag of the collector. -/
theorem WorkerStep.collectorFinished {scan : RootScan} {control : ControlState} {now : Instant}
    {worker : ActorId} {read : ObservedBatch} {shared shared' : WorkerShared}
    {phase next : WorkerPhase}
    (hstep : WorkerStep scan control now worker read shared phase next shared') :
    shared'.controller.collectorFinished = shared.controller.collectorFinished := by
  cases hstep with
  | leaves => exact ScanRuntimeController.collectorFinished_leftFor
  | waitStopped => exact ScanRuntimeController.collectorFinished_waitUntilRunnable
  | waits => exact ScanRuntimeController.collectorFinished_waitUntilRunnable
  | runs => exact ScanRuntimeController.collectorFinished_waitUntilRunnable
  | _ => rfl

theorem ScanEvent.collectorFinished_actorRequest {event : ScanEvent}
    {f : ScanRuntimeController → ScanRuntimeController} (hevent : event.actorRequest = some f)
    (c : ScanRuntimeController) : (f c).collectorFinished = c.collectorFinished := by
  cases event <;> cases hevent
  · exact ScanRuntimeController.collectorFinished_requestPause
  · exact ScanRuntimeController.collectorFinished_requestResume
  · exact ScanRuntimeController.collectorFinished_requestStop

/-! ## The collector of a scan -/

/-- While the workers run, the collector of the job has finished. -/
def CollectorDone (s : ScanSystem) : Prop :=
  ∀ job scan workers, s.job = some job → job.current = some scan →
    scan.stage = .scanning workers → job.controller.collectorFinished = true

theorem CollectorDone.step {s t : ScanSystem} {now : Instant} {event : ScanEvent}
    (h : CollectorDone s) (hstep : s.step (now, event) = some t) : CollectorDone t := by
  intro job' scan' workers' hjob' hcurrent' hstage'
  cases scanStep_of_step hstep with
  | synced => exact h job' scan' workers' hjob' hcurrent' hstage'
  | started => cases hjob'; cases hcurrent'
  | signalled => exact h job' scan' workers' hjob' hcurrent' hstage'
  | asked hevent hjob =>
      cases hjob'
      rw [ScanEvent.collectorFinished_actorRequest hevent]
      exact h _ scan' workers' hjob hcurrent' hstage'
  | selected => cases hjob'; cases hcurrent'; cases hstage'
  | rootFailed => cases hjob'
  | prepared => cases hjob'; rfl
  | preparedInterrupted => cases hjob'; cases hcurrent'; cases hstage'
  | worked hjob hcurrent hstage hphase hworker =>
      cases hjob'
      exact hworker.collectorFinished.trans (h _ _ _ hjob hcurrent hstage)
  | workerRaised hjob hcurrent hstage =>
      have hdone := h _ _ _ hjob hcurrent hstage
      cases hjob'
      exact hdone
  | joinedInterrupted => cases hjob'; cases hcurrent'; cases hstage'
  | joined => cases hjob'; cases hcurrent'; cases hstage'
  | requeued => cases hjob'; cases hcurrent'; cases hstage'
  | interruptedStopped => cases hjob'
  | interruptedPaused => cases hjob'
  | committed => cases hjob'; cases hcurrent'
  | ended => cases hjob'
  | crashed => cases hjob'

theorem collectorDone_of_reachable {clock : Instant} {s : ScanSystem}
    (hreach : Reachable ScanSystem.step (ScanSystem.start clock) s) : CollectorDone s := by
  have hstart : CollectorDone (ScanSystem.start clock) := by
    intro job scan workers hjob
    cases hjob
  exact hreach.invariant (fun _ _ _ hstep hs => hs.step hstep) hstart

/-! ## One worker -/

/-- The locals a worker thread of the running scan sees. -/
structure WorkerAt (s : ScanSystem) (index : Nat) (job : ScanJob) (scan : RootScan)
    (phase : WorkerPhase) : Prop where
  running : s.job = some job
  current : job.current = some scan
  atPhase : ∃ workers, scan.stage = .scanning workers ∧ workers[index]? = some phase

/-- The job is to pause or stop, or the stop reason of the scan lets workers end. -/
def Requested (control : ControlState) (scan : RootScan) : Prop :=
  control.reason.isSome = true ∨ scan.stopReason = some .paused

/-- The worker waits for its own resume, or is about to. -/
def HeldAt (control : ControlState) (c : ScanRuntimeController) (worker : ActorId) :
    WorkerPhase → Prop
  | .waitRunnable => c.Waits worker
  | .checkControl => control.reason = none ∧ c.Waits worker
  | _ => False

/-- How many steps a worker has left in its loop. -/
def WorkerPhase.stepsLeft (control : ControlState) : WorkerPhase → Nat
  | .returned => 0
  | .raised => 0
  | .leave _ => 1
  | .leaveStopped => 1
  | .claimedNothing => 1
  | .checkControl => if control.reason.isSome then 2 else 9
  | .recheck => 3
  | .count _ => 4
  | .apply _ _ => 5
  | .observe _ => 6
  | .claim => 7
  | .waitRunnable => 8

theorem WorkerPhase.stepsLeft_le (control : ControlState) (phase : WorkerPhase) :
    phase.stepsLeft control ≤ 9 := by
  cases phase with
  | checkControl =>
      simp only [stepsLeft]
      split <;> omega
  | _ =>
      simp only [stepsLeft]
      omega

section OwnStep

variable {scan : RootScan} {control : ControlState} {now : Instant} {worker : ActorId}
  {read : ObservedBatch} {shared shared' : WorkerShared} {phase next : WorkerPhase}

/-- A request stays recorded whatever a worker does. -/
theorem WorkerStep.stopReason
    (hstep : WorkerStep scan control now worker read shared phase next shared')
    (hrequest : control.reason.isSome = true ∨ shared.stopReason = some .paused) :
    control.reason.isSome = true ∨ shared'.stopReason = some .paused := by
  cases hstep with
  | sees hcontrol => exact .inl (by rw [hcontrol]; rfl)
  | counts =>
      refine hrequest.imp_right fun hpaused => ?_
      simp [RootScan.counted, hpaused]
  | _ => exact hrequest

/-- Every step of the worker itself brings it closer to its end. -/
theorem WorkerStep.stepsLeft_lt
    (hstep : WorkerStep scan control now worker read shared phase next shared')
    (hdone : shared.controller.collectorFinished = true)
    (hrequest : control.reason.isSome = true ∨ shared.stopReason = some .paused)
    (hfree : ¬ HeldAt control shared.controller worker phase) :
    next.stepsLeft control < phase.stepsLeft control ∧
      ¬ HeldAt control shared'.controller worker next := by
  cases hstep with
  | sees hcontrol =>
      simp only [WorkerPhase.stepsLeft, hcontrol]
      exact ⟨by simp, id⟩
  | goesOn hcontrol =>
      simp only [WorkerPhase.stepsLeft, hcontrol]
      exact ⟨by simp, fun hwaits => hfree ⟨hcontrol, hwaits⟩⟩
  | waits hstopped hpaused => exact absurd ⟨hstopped, hpaused⟩ hfree
  | retries hfinished =>
      rw [hdone] at hfinished
      cases hfinished
  | repeats hreason =>
      have hcontrol := hrequest.resolve_right hreason
      refine ⟨?_, fun hheld => ?_⟩
      · simp only [WorkerPhase.stepsLeft, hcontrol, if_true]
        omega
      · rw [hheld.1] at hcontrol
        cases hcontrol
  | _ =>
      simp only [WorkerPhase.stepsLeft]
      exact ⟨by omega, id⟩

end OwnStep

/-! ## One worker among the threads and the operators -/

def isOwn (index : Nat) : Instant × ScanEvent → Bool
  | (_, .work other _) => other = index
  | _ => false

/-- The threads are still running, and nobody takes the request back or pauses the worker
by itself. -/
def KeepsRequest (index : Nat) : Instant × ScanEvent → Prop
  | (_, .work _ _) | (_, .raise _) | (_, .syncRoot _) => True
  | (_, .requestPause) | (_, .requestStop) => True
  | (_, .resumeActor _) | (_, .stopActor _) => True
  | (_, .pauseActor actorId) => actorId ≠ .worker (index + 1)
  | _ => False

/-- A worker that can still take the given number of steps, and does not wait. -/
def Leaving (index stepsLeft : Nat) (s : ScanSystem) : Prop :=
  ∃ job scan phase, WorkerAt s index job scan phase ∧ job.controller.collectorFinished = true ∧
    Requested s.control scan ∧ ¬ HeldAt s.control job.controller (.worker (index + 1)) phase ∧
    phase.stepsLeft s.control ≤ stepsLeft

/-- After any other request than a resume the job is to pause or stop. -/
theorem ScanEvent.reason_signal {event : ScanEvent} {f : ControlState → ControlState}
    (hevent : event.signal = some f) (hkeep : event ≠ .requestResume) (control : ControlState) :
    (f control).reason.isSome = true := by
  cases event <;> cases hevent
  · unfold ControlState.reason
    dsimp only
    split <;> rfl
  · exact absurd rfl hkeep
  · rfl

theorem HeldAt.of_control {control control' : ControlState} {c : ScanRuntimeController}
    {worker : ActorId} {phase : WorkerPhase}
    (hcontrol : control.reason.isSome = true → control'.reason.isSome = true)
    (h : HeldAt control' c worker phase) : HeldAt control c worker phase := by
  cases phase with
  | checkControl =>
      obtain ⟨hnone, hwaits⟩ := h
      refine ⟨?_, hwaits⟩
      rw [← Option.not_isSome_iff_eq_none] at hnone ⊢
      exact fun hsome => hnone (hcontrol hsome)
  | _ => exact h

theorem HeldAt.of_waits {control : ControlState} {c c' : ScanRuntimeController} {worker : ActorId}
    {phase : WorkerPhase} (hwaits : c'.Waits worker → c.Waits worker)
    (h : HeldAt control c' worker phase) : HeldAt control c worker phase := by
  cases phase with
  | checkControl => exact ⟨h.1, hwaits h.2⟩
  | waitRunnable => exact hwaits h
  | _ => exact h

theorem WorkerPhase.stepsLeft_control {control control' : ControlState} {phase : WorkerPhase}
    (hcontrol : control.reason.isSome = true → control'.reason.isSome = true) :
    phase.stepsLeft control' ≤ phase.stepsLeft control := by
  cases phase with
  | checkControl =>
      simp only [stepsLeft]
      by_cases hsome : control.reason.isSome = true
      · rw [if_pos hsome, if_pos (hcontrol hsome)]
      · rw [if_neg hsome]
        split <;> omega
  | _ => exact Nat.le_refl _

/-- Another worker does not make this one wait. -/
theorem WorkerStep.waits_other {scan : RootScan} {control : ControlState} {now : Instant}
    {worker other : ActorId} {read : ObservedBatch} {shared shared' : WorkerShared}
    {phase next : WorkerPhase}
    (hstep : WorkerStep scan control now other read shared phase next shared')
    (hne : worker ≠ other) (h : shared'.controller.Waits worker) :
    shared.controller.Waits worker := by
  cases hstep with
  | leaves => exact h.of_leftFor hne
  | waitStopped => exact ScanRuntimeController.waits_waitUntilRunnable.mp h
  | waits => exact ScanRuntimeController.waits_waitUntilRunnable.mp h
  | runs => exact ScanRuntimeController.waits_waitUntilRunnable.mp h
  | _ => exact h

theorem ScanEvent.waits_actorRequest {index : Nat} {now : Instant} {event : ScanEvent}
    {f : ScanRuntimeController → ScanRuntimeController}
    (hevent : event.actorRequest = some f) (hkeep : KeepsRequest index (now, event))
    {c : ScanRuntimeController} (h : (f c).Waits (.worker (index + 1))) :
    c.Waits (.worker (index + 1)) := by
  cases event <;> cases hevent
  · exact h.of_requestPause (Ne.symm hkeep)
  · exact h.of_requestResume
  · exact h.of_requestStop

/-- A step of the worker takes one off, and no other step adds to what is left. -/
theorem Leaving.step {index left : Nat} {s t : ScanSystem} {label : Instant × ScanEvent}
    (h : Leaving index left s) (hkeep : KeepsRequest index label)
    (hstep : s.step label = some t) :
    (isOwn index label = true → 0 < left) ∧
      Leaving index (if isOwn index label then left - 1 else left) t := by
  obtain ⟨now, event⟩ := label
  obtain ⟨job, scan, phase, hat, hdone, hrequest, hfree, hleft⟩ := h
  obtain ⟨hrunning, hcurrent, workers, hstage, hphase⟩ := hat
  cases scanStep_of_step hstep with
  | synced =>
      exact ⟨nofun, job, scan, phase, ⟨hrunning, hcurrent, workers, hstage, hphase⟩, hdone,
        hrequest, hfree, hleft⟩
  | @signalled event other f hevent hjob =>
      have hresume : event ≠ .requestResume := by
        rintro rfl
        exact hkeep
      have hown : isOwn index (now, event) = false := by
        cases event <;> first | rfl | cases hevent
      have hcontrol : s.control.reason.isSome = true → (f s.control).reason.isSome = true :=
        fun _ => ScanEvent.reason_signal hevent hresume s.control
      rw [hown]
      exact ⟨nofun, job, scan, phase, ⟨hrunning, hcurrent, workers, hstage, hphase⟩, hdone,
        hrequest.imp_left hcontrol, fun hheld => hfree (hheld.of_control hcontrol),
        (WorkerPhase.stepsLeft_control hcontrol).trans hleft⟩
  | @asked event other f hevent hjob =>
      have hown : isOwn index (now, event) = false := by
        cases event <;> first | rfl | cases hevent
      have hsame : other = job := Option.some.inj (hjob.symm.trans hrunning)
      subst hsame
      rw [hown]
      refine ⟨nofun, _, scan, phase, ⟨rfl, hcurrent, workers, hstage, hphase⟩, ?_, hrequest, ?_,
        hleft⟩
      · exact (ScanEvent.collectorFinished_actorRequest hevent _).trans hdone
      · exact fun hheld => hfree (hheld.of_waits (ScanEvent.waits_actorRequest hevent hkeep))
  | @worked other read job' scan' workers' before next shared hjob hcurrent' hstage' hbefore
      hworker =>
      have hsame : job' = job := Option.some.inj (hjob.symm.trans hrunning)
      subst hsame
      have hscan : scan' = scan := Option.some.inj (hcurrent'.symm.trans hcurrent)
      subst hscan
      have hworkers : workers' = workers := ScanStage.scanning.inj (hstage'.symm.trans hstage)
      subst hworkers
      have hdone' := hworker.collectorFinished.trans hdone
      have hrequest' := hworker.stopReason hrequest
      by_cases hindex : other = index
      · subst hindex
        have hown : isOwn other (now, .work other read) = true := decide_eq_true rfl
        have hfound : before = phase := Option.some.inj (hbefore.symm.trans hphase)
        subst hfound
        obtain ⟨hlt, hfree'⟩ := hworker.stepsLeft_lt hdone hrequest hfree
        rw [hown]
        refine ⟨fun _ => by omega, _, _, next, ⟨rfl, rfl, _, rfl, ?_⟩, hdone',
          hrequest', hfree', ?_⟩
        · rw [List.getElem?_set_self (List.getElem?_eq_some_iff.mp hphase).1]
        · show next.stepsLeft s.control ≤ left - 1
          omega
      · have hown : isOwn index (now, .work other read) = false := decide_eq_false hindex
        have hne : ActorId.worker (index + 1) ≠ .worker (other + 1) := by
          intro heq
          cases heq
          exact hindex rfl
        rw [hown]
        refine ⟨nofun, _, _, phase, ⟨rfl, rfl, _, rfl, ?_⟩, hdone', hrequest', ?_, hleft⟩
        · rw [List.getElem?_set_ne hindex]
          exact hphase
        · exact fun hheld => hfree (hheld.of_waits (hworker.waits_other hne))
  | @workerRaised other job' scan' workers' before hjob hcurrent' hstage' hbefore hlive =>
      have hsame : job' = job := Option.some.inj (hjob.symm.trans hrunning)
      subst hsame
      have hscan : scan' = scan := Option.some.inj (hcurrent'.symm.trans hcurrent)
      subst hscan
      have hworkers : workers' = workers := ScanStage.scanning.inj (hstage'.symm.trans hstage)
      subst hworkers
      by_cases hindex : other = index
      · subst hindex
        refine ⟨nofun, _, _, .raised, ⟨rfl, rfl, _, rfl, ?_⟩, hdone, hrequest, id, Nat.zero_le _⟩
        rw [List.getElem?_set_self (List.getElem?_eq_some_iff.mp hphase).1]
      · refine ⟨nofun, _, _, phase, ⟨rfl, rfl, _, rfl, ?_⟩, hdone, hrequest, hfree, hleft⟩
        rw [List.getElem?_set_ne hindex]
        exact hphase
  | _ => exact absurd hkeep id

/-! ## The end of the loop -/

/-- Where the thread of worker `index + 1` is. -/
def ScanSystem.phase? (s : ScanSystem) (index : Nat) : Option WorkerPhase :=
  s.scan?.bind fun scan =>
    match scan.stage with
    | .scanning workers => workers[index]?
    | _ => none

theorem phase?_eq_some_iff {s : ScanSystem} {index : Nat} {phase : WorkerPhase} :
    s.phase? index = some phase ↔ ∃ job scan, WorkerAt s index job scan phase := by
  constructor
  · intro hphase
    obtain ⟨scan, hscan, hfound⟩ := Option.bind_eq_some_iff.mp hphase
    obtain ⟨job, hjob, hcurrent⟩ := Option.bind_eq_some_iff.mp hscan
    split at hfound
    · next workers hstage => exact ⟨job, scan, hjob, hcurrent, workers, hstage, hfound⟩
    · cases hfound
  · rintro ⟨job, scan, hjob, hcurrent, workers, hstage, hfound⟩
    unfold ScanSystem.phase? ScanSystem.scan?
    rw [hjob, Option.bind_some, hcurrent, Option.bind_some, hstage]
    exact hfound

instance (control : ControlState) (c : ScanRuntimeController) (worker : ActorId)
    (phase : WorkerPhase) : Decidable (HeldAt control c worker phase) :=
  match phase with
  | .waitRunnable => inferInstanceAs (Decidable (c.Waits worker))
  | .checkControl => inferInstanceAs (Decidable (_ ∧ _))
  | .leave _ | .leaveStopped | .claim | .claimedNothing | .observe _ | .apply _ _ | .count _
  | .recheck | .returned | .raised => .isFalse id

/-- The job is to pause or stop, or the stop reason of the running scan lets workers end. -/
def ScanSystem.requested (s : ScanSystem) : Bool :=
  s.scan?.any fun scan => s.control.reason.isSome || scan.stopReason = some .paused

/-- The worker waits for its own resume, or is about to. -/
def ScanSystem.held (s : ScanSystem) (index : Nat) : Bool :=
  (s.phase? index).any fun phase =>
    s.job.any fun job => HeldAt s.control job.controller (.worker (index + 1)) phase

/-- The worker has left its loop. -/
def Exited (index : Nat) (s : ScanSystem) : Prop :=
  ∃ phase, s.phase? index = some phase ∧ phase.live = false

def ownSteps (index : Nat) (labels : List (Instant × ScanEvent)) : Nat :=
  labels.countP (isOwn index)

/-- The worker leaves its loop within some number of steps of its own, whatever the other
threads do meanwhile. -/
def ReachesExit (index : Nat) (s : ScanSystem) : Prop :=
  ∃ bound, ∀ labels t, Steps ScanSystem.step (fun _ label => KeepsRequest index label) s labels t →
    Exited index t ∨ ownSteps index labels < bound

theorem Leaving.run {index left : Nat} {s t : ScanSystem} {labels : List (Instant × ScanEvent)}
    (hrun : Steps ScanSystem.step (fun _ label => KeepsRequest index label) s labels t)
    (h : Leaving index left s) :
    ownSteps index labels ≤ left ∧ Leaving index (left - ownSteps index labels) t := by
  induction hrun generalizing left with
  | refl => exact ⟨Nat.zero_le _, h⟩
  | @head s next t label labels hkeep hstep _ ih =>
      obtain ⟨hown, hnext⟩ := h.step hkeep hstep
      obtain ⟨hle, hlast⟩ := ih hnext
      have hcount : ownSteps index (label :: labels) =
          ownSteps index labels + if isOwn index label then 1 else 0 := List.countP_cons
      cases hlabel : isOwn index label with
      | true =>
          rw [hlabel, if_pos rfl] at hcount hle hlast
          have hpos := hown hlabel
          rw [hcount]
          refine ⟨by omega, ?_⟩
          rwa [Nat.add_comm, ← Nat.sub_sub]
      | false =>
          rw [hlabel, if_neg Bool.false_ne_true] at hcount hle hlast
          rw [hcount]
          exact ⟨hle, hlast⟩

/-- Unless it has left, a worker has a step left. -/
theorem Leaving.exited_or_pos {index left : Nat} {s : ScanSystem} (h : Leaving index left s) :
    Exited index s ∨ 0 < left := by
  obtain ⟨job, scan, phase, hat, -, -, -, hleft⟩ := h
  by_cases hlive : phase.live = true
  · right
    refine Nat.lt_of_lt_of_le ?_ hleft
    cases phase with
    | checkControl =>
        simp only [WorkerPhase.stepsLeft]
        split <;> omega
    | returned => cases hlive
    | raised => cases hlive
    | _ => exact Nat.succ_pos _
  · exact .inl ⟨phase, phase?_eq_some_iff.mpr ⟨job, scan, hat⟩, Bool.eq_false_iff.mpr hlive⟩

/-- A step of a waiting worker leaves it waiting. -/
theorem held_step {index : Nat} {s : ScanSystem} {job : ScanJob} {scan : RootScan}
    {phase : WorkerPhase} (hat : WorkerAt s index job scan phase)
    (hheld : HeldAt s.control job.controller (.worker (index + 1)) phase) :
    ∃ label t job' scan', isOwn index label = true ∧ KeepsRequest index label ∧
      s.step label = some t ∧ WorkerAt t index job' scan' .waitRunnable ∧
      HeldAt t.control job'.controller (.worker (index + 1)) .waitRunnable := by
  obtain ⟨hjob, hcurrent, workers, hstage, hphase⟩ := hat
  have hlength := (List.getElem?_eq_some_iff.mp hphase).1
  refine ⟨(0, .work index ⟨[], 0, 0, none⟩), ?_⟩
  have hstep : ∀ shared, scan.workerStep s.control 0 (.worker (index + 1)) ⟨[], 0, 0, none⟩
        ⟨s.catalog, job.controller, scan.stopReason, scan.filesSeen⟩ phase =
          some (.waitRunnable, shared) →
      s.step (0, .work index ⟨[], 0, 0, none⟩) =
        some ({ s with catalog := shared.catalog }.updateScan
          { job with controller := shared.controller }
          { scan with
            stopReason := shared.stopReason
            filesSeen := shared.filesSeen
            stage := .scanning (workers.set index .waitRunnable) }) := by
    intro shared hworker
    simp only [ScanSystem.step, ScanSystem.withScan, ScanSystem.withJob, hjob, Option.bind_some,
      hcurrent, ScanSystem.work, hstage, hphase, Option.bind_eq_bind, hworker]
  cases phase with
  | waitRunnable =>
      have hworker : scan.workerStep s.control 0 (.worker (index + 1)) ⟨[], 0, 0, none⟩
          ⟨s.catalog, job.controller, scan.stopReason, scan.filesSeen⟩ .waitRunnable =
            some (.waitRunnable, ⟨s.catalog,
              (job.controller.waitUntilRunnable (.worker (index + 1))).2, scan.stopReason,
              scan.filesSeen⟩) := by
        simp only [RootScan.workerStep, ScanRuntimeController.waitUntilRunnable]
        rw [if_neg hheld.1, if_pos hheld.2]
      refine ⟨_, _, _, decide_eq_true rfl, trivial, hstep _ hworker, ⟨rfl, rfl, _, rfl, ?_⟩, ?_⟩
      · rw [List.getElem?_set_self hlength]
      · exact ScanRuntimeController.waits_waitUntilRunnable.mpr hheld
  | checkControl =>
      have hworker : scan.workerStep s.control 0 (.worker (index + 1)) ⟨[], 0, 0, none⟩
          ⟨s.catalog, job.controller, scan.stopReason, scan.filesSeen⟩ .checkControl =
            some (.waitRunnable, ⟨s.catalog, job.controller, scan.stopReason, scan.filesSeen⟩) := by
        simp only [RootScan.workerStep, hheld.1]
      refine ⟨_, _, _, decide_eq_true rfl, trivial, hstep _ hworker, ⟨rfl, rfl, _, rfl, ?_⟩, ?_⟩
      · rw [List.getElem?_set_self hlength]
      · exact hheld.2
  | _ => exact absurd hheld id

/-- A waiting worker takes any number of steps without getting on. -/
theorem held_run {index : Nat} {s : ScanSystem} {job : ScanJob} {scan : RootScan}
    {phase : WorkerPhase} (hat : WorkerAt s index job scan phase)
    (hheld : HeldAt s.control job.controller (.worker (index + 1)) phase) (count : Nat) :
    ∃ labels t, Steps ScanSystem.step (fun _ label => KeepsRequest index label) s labels t ∧
      ownSteps index labels = count + 1 ∧ ¬ Exited index t := by
  induction count generalizing s job scan phase with
  | zero =>
      obtain ⟨label, t, job', scan', hown, hkeep, hstep, hat', -⟩ := held_step hat hheld
      refine ⟨[label], t, .head hkeep hstep (.refl _), ?_, ?_⟩
      · simp [ownSteps, hown]
      · rintro ⟨other, hother, hlive⟩
        rw [phase?_eq_some_iff.mpr ⟨job', scan', hat'⟩] at hother
        cases hother
        cases hlive
  | succ count ih =>
      obtain ⟨label, t, job', scan', hown, hkeep, hstep, hat', hheld'⟩ := held_step hat hheld
      obtain ⟨labels, last, hrun, hcount, hexited⟩ := ih hat' hheld'
      refine ⟨label :: labels, last, .head hkeep hstep hrun, ?_, hexited⟩
      have hcons : ownSteps index (label :: labels) =
          ownSteps index labels + if isOwn index label then 1 else 0 := List.countP_cons
      rw [hcons, hown, hcount, if_pos rfl]

/-- A waiting worker never gets to its exit. -/
theorem not_reachesExit_of_heldAt {index : Nat} {s : ScanSystem} {job : ScanJob} {scan : RootScan}
    {phase : WorkerPhase} (hat : WorkerAt s index job scan phase)
    (hheld : HeldAt s.control job.controller (.worker (index + 1)) phase) :
    ¬ ReachesExit index s := by
  rintro ⟨bound, hbound⟩
  obtain ⟨labels, t, hrun, hcount, hexited⟩ := held_run hat hheld bound
  rcases hbound labels t hrun with hexit | hlt
  · exact hexited hexit
  · omega

theorem held_eq_true_iff {s : ScanSystem} {index : Nat} :
    s.held index = true ↔ ∃ job scan phase, WorkerAt s index job scan phase ∧
      HeldAt s.control job.controller (.worker (index + 1)) phase := by
  constructor
  · intro hheld
    obtain ⟨phase, hphase, hany⟩ := (Option.any_eq_true _ _).mp hheld
    obtain ⟨job, hjob, hat⟩ := (Option.any_eq_true _ _).mp hany
    obtain ⟨other, scan, hworker⟩ := phase?_eq_some_iff.mp hphase
    have hsame : other = job := Option.some.inj (hworker.running.symm.trans hjob)
    subst hsame
    exact ⟨other, scan, phase, hworker, of_decide_eq_true hat⟩
  · rintro ⟨job, scan, phase, hworker, hat⟩
    unfold ScanSystem.held
    rw [phase?_eq_some_iff.mpr ⟨job, scan, hworker⟩, hworker.running]
    exact decide_eq_true hat

/-- Once the job is to pause or stop or the file limit was reached, a worker leaves its
loop exactly when it does not wait for its own resume. -/
theorem worker_reaches_exit_iff {clock : Instant} {s : ScanSystem} {index : Nat}
    (hreach : Reachable ScanSystem.step (ScanSystem.start clock) s)
    (hworker : (s.phase? index).isSome = true) (hrequested : s.requested = true) :
    ReachesExit index s ↔ s.held index = false := by
  obtain ⟨phase, hphase⟩ := Option.isSome_iff_exists.mp hworker
  obtain ⟨job, scan, hat⟩ := phase?_eq_some_iff.mp hphase
  have hscan : s.scan? = some scan := by
    rw [ScanSystem.scan?, hat.running]
    exact hat.current
  have hrequest : Requested s.control scan := by
    unfold ScanSystem.requested at hrequested
    rw [hscan] at hrequested
    simpa [Requested] using hrequested
  constructor
  · intro hexit
    rw [← Bool.not_eq_true, held_eq_true_iff]
    rintro ⟨other, current, waiting, hat', hheld⟩
    exact not_reachesExit_of_heldAt hat' hheld hexit
  · intro hfree
    have hnot : ¬ HeldAt s.control job.controller (.worker (index + 1)) phase := by
      intro hheld
      rw [held_eq_true_iff.mpr ⟨job, scan, phase, hat, hheld⟩] at hfree
      cases hfree
    refine ⟨9, fun labels t hrun => ?_⟩
    obtain ⟨workers, hstage, -⟩ := hat.atPhase
    have hdone := collectorDone_of_reachable hreach job scan workers hat.running hat.current hstage
    have hleaving : Leaving index 9 s :=
      ⟨job, scan, phase, hat, hdone, hrequest, hnot, phase.stepsLeft_le s.control⟩
    obtain ⟨hle, hlast⟩ := hleaving.run hrun
    refine hlast.exited_or_pos.imp_right fun hpos => ?_
    omega

/-- The worker has claimed its row when the job is stopped. -/
def stoppedWhileClaiming : ScanSystem :=
  Steps.last ScanSystem.step (ScanSystem.start 0)
    (prepareOneRoot oneWorker [] ++ workTimes 0 3 ++ [(1, .requestStop)])

theorem worker_reaches_exit_once : ReachesExit 0 stoppedWhileClaiming :=
  (worker_reaches_exit_iff (Reachable.of_exec (Steps.exec_eq_last (by decide))) (by decide)
    (by decide)).mpr (by decide)

/-- The worker is paused by itself before the job is stopped. -/
def stoppedWhileHeld : ScanSystem :=
  Steps.last ScanSystem.step (ScanSystem.start 0)
    (prepareOneRoot oneWorker [.pauseActor (.worker 1)] ++ workTimes 0 2 ++ [(1, .requestStop)])

/-- It never learns of the stop, and the job never ends. -/
theorem held_worker_never_exits :
    Reachable ScanSystem.step (ScanSystem.start 0) stoppedWhileHeld ∧
      (stoppedWhileHeld.phase? 0).isSome = true ∧ stoppedWhileHeld.requested = true ∧
      ¬ ReachesExit 0 stoppedWhileHeld := by
  have hheld : stoppedWhileHeld.held 0 = true := by decide
  obtain ⟨job, scan, phase, hat, hwaits⟩ := held_eq_true_iff.mp hheld
  exact ⟨Reachable.of_exec (Steps.exec_eq_last (by decide)), by decide, by decide,
    not_reachesExit_of_heldAt hat hwaits⟩

end ImmichDoctor.Catalog
