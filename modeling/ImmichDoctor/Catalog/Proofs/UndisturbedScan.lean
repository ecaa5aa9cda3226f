import ImmichDoctor.Catalog.Observation
import ImmichDoctor.Catalog.Proofs.ScanCommit
/-!
# Runs without requests to single workers

When no request names a single worker and no worker raises, a worker finds itself
stopped only after it has stopped itself for a request to the whole job, and then a
stop reason is recorded. So all workers hand over, and a commit finds the whole
queue done.
-/

namespace ImmichDoctor.Catalog

open ImmichDoctor.Library

/-- The job, when its controller has a stopped worker, has a stop reason as well. -/
structure Unstopped (s : ScanSystem) : Prop where
  flags : ∀ job, s.job = some job → job.controller.stopped = [] ∨
    ∃ scan, job.current = some scan ∧ scan.stopReason.isSome = true
  leaving : ∀ scan workers, s.scan? = some scan → scan.stage = .scanning workers →
    WorkerPhase.leaveStopped ∈ workers → scan.stopReason.isSome = true
  completing : ∀ scan, s.scan? = some scan → scan.stage = .completing → scan.stopReason = none

/-- The event is not about a single worker. -/
def ScanEvent.isGlobal : ScanEvent → Bool
  | .pauseActor _ => false
  | .resumeActor _ => false
  | .stopActor _ => false
  | .raise _ => false
  | _ => true

/-! ## The controller -/

namespace ScanRuntimeController

variable (c : ScanRuntimeController) (actorId : ActorId)

theorem stopped_waitUntilRunnable : (c.waitUntilRunnable actorId).2.stopped = c.stopped := by
  unfold waitUntilRunnable
  split
  · rfl
  · split <;> rfl

end ScanRuntimeController

/-! ## Workers -/

/-- What a worker step does to the stop requests and the stop reason. -/
structure StopsOnlyItself (shared shared' : WorkerShared) (next : WorkerPhase) : Prop where
  reason : shared.stopReason.isSome = true → shared'.stopReason.isSome = true
  flags : shared'.controller.stopped = shared.controller.stopped ∨
    shared'.stopReason.isSome = true
  leaving : next = .leaveStopped → shared.controller.stopped ≠ []

theorem stopsOnlyItself_of_workerStep {scan : RootScan} {control : ControlState} {now : Instant}
    {worker : ActorId} {read : ObservedBatch} {shared shared' : WorkerShared}
    {phase next : WorkerPhase}
    (hleave : ∀ reason, phase = .leave reason → shared.stopReason.isSome = true)
    (hstep : WorkerStep scan control now worker read shared phase next shared') :
    StopsOnlyItself shared shared' next := by
  have hwait := ScanRuntimeController.stopped_waitUntilRunnable shared.controller worker
  cases hstep with
  | sees hcontrol => exact ⟨fun _ => rfl, Or.inr rfl, nofun⟩
  | leaves hcall => exact ⟨fun h => h, Or.inr (hleave _ rfl), nofun⟩
  | waitStopped hstopped => exact ⟨fun h => h, Or.inl hwait, fun _ => List.ne_nil_of_mem hstopped⟩
  | waits hstopped hpaused => exact ⟨fun h => h, Or.inl hwait, nofun⟩
  | runs hstopped hpaused => exact ⟨fun h => h, Or.inl hwait, nofun⟩
  | goesOn | leavesStopped | claims | claimsNothing | ends | retries | observes | applies | halts
  | repeats => exact ⟨fun h => h, Or.inl rfl, nofun⟩
  | counts =>
      refine ⟨fun h => ?_, Or.inl rfl, nofun⟩
      simp only [RootScan.counted]
      split
      · rfl
      · exact h

/-! ## The scan process -/

namespace Unstopped

variable {s t : ScanSystem} {now : Instant} {job : ScanJob} {scan : RootScan}

theorem withoutJob {catalog : CatalogState} {control : ControlState} :
    Unstopped ⟨catalog, control, none⟩ :=
  ⟨nofun, nofun, nofun⟩

theorem withScan {catalog : CatalogState} {control : ControlState}
    {controller : ScanRuntimeController} {maxFiles : Option Int} {targets : List ScanTarget}
    (hflags : controller.stopped = [] ∨ scan.stopReason.isSome = true)
    (hleaving : ∀ workers, scan.stage = .scanning workers →
      WorkerPhase.leaveStopped ∈ workers → scan.stopReason.isSome = true)
    (hcompleting : scan.stage = .completing → scan.stopReason = none) :
    Unstopped ⟨catalog, control, some ⟨controller, maxFiles, targets, some scan⟩⟩ := by
  refine ⟨?_, ?_, ?_⟩
  · intro other hother
    cases hother
    exact hflags.imp_right fun hsome => ⟨scan, rfl, hsome⟩
  · intro other workers hother
    cases hother
    exact hleaving workers
  · intro other hother
    cases hother
    exact hcompleting

theorem withoutScan {catalog : CatalogState} {control : ControlState}
    {controller : ScanRuntimeController} {maxFiles : Option Int} {targets : List ScanTarget}
    (hflags : controller.stopped = []) :
    Unstopped ⟨catalog, control, some ⟨controller, maxFiles, targets, none⟩⟩ := by
  refine ⟨?_, ?_, ?_⟩
  · intro other hother
    cases hother
    exact Or.inl hflags
  · intro other workers hother
    cases hother
  · intro other hother
    cases hother

theorem flags_scan (h : Unstopped s) (hjob : s.job = some job)
    (hcurrent : job.current = some scan) :
    job.controller.stopped = [] ∨ scan.stopReason.isSome = true := by
  refine (h.flags job hjob).imp_right ?_
  rintro ⟨other, hother, hsome⟩
  cases hcurrent.symm.trans hother
  exact hsome

/-- The worker hands over when it leaves. -/
theorem handsOver (h : Unstopped s) {label : Instant × ScanEvent}
    (hglobal : label.2.isGlobal = true) : HandsOver s label := by
  obtain ⟨now, event⟩ := label
  cases event with
  | raise index => cases hglobal
  | work index read =>
      intro scan workers hscan hstage hphase
      exact Or.inl (h.leaving scan workers hscan hstage (List.mem_of_getElem? hphase))
  | _ => trivial

theorem work (h : Unstopped s) (haccounted : Accounted s) (hjob : s.job = some job)
    (hcurrent : job.current = some scan) {workers : List WorkerPhase}
    (hstage : scan.stage = .scanning workers) {index : Nat} {read : ObservedBatch}
    {phase next : WorkerPhase} {shared : WorkerShared} (hphase : workers[index]? = some phase)
    (hworker : WorkerStep scan s.control now (.worker (index + 1)) read
      ⟨s.catalog, job.controller, scan.stopReason, scan.filesSeen⟩ phase next shared) :
    Unstopped ({ s with catalog := shared.catalog }.updateScan
      { job with controller := shared.controller }
      { scan with
        stopReason := shared.stopReason
        filesSeen := shared.filesSeen
        stage := .scanning (workers.set index next) }) := by
  have haccount := haccounted.workersAt hjob hcurrent hstage
  have hstops := stopsOnlyItself_of_workerStep (fun reason hleave =>
    haccount.leaving reason (hleave ▸ List.mem_of_getElem? hphase)) hworker
  -- a stopped worker of the controller goes with a recorded stop reason
  have hflags := h.flags_scan hjob hcurrent
  refine withScan ?_ ?_ nofun
  · rcases hstops.flags with hsame | hsome
    · exact hflags.imp (fun hnil => hsame.trans hnil) hstops.reason
    · exact Or.inr hsome
  · intro others hothers hmem
    cases hothers
    rcases List.mem_or_eq_of_mem_set hmem with hold | hnew
    · have hscan := ScanSystem.scan?_eq_some hjob hcurrent
      exact hstops.reason (h.leaving scan workers hscan hstage hold)
    · exact hstops.reason (hflags.resolve_left (hstops.leaving hnew.symm))

/-- Without a current scan no worker is stopped. -/
theorem flags_noScan (h : Unstopped s) (hjob : s.job = some job) (hcurrent : job.current = none) :
    job.controller.stopped = [] := by
  rcases h.flags job hjob with hnil | ⟨scan, hscan, -⟩
  · exact hnil
  · rw [hcurrent] at hscan
    cases hscan

theorem requests (h : Unstopped s) {control : ControlState} (hjob : s.job = some job) :
    Unstopped ⟨s.catalog, control, some job⟩ := by
  have hscan : ∀ scan, (⟨s.catalog, control, some job⟩ : ScanSystem).scan? = some scan →
      s.scan? = some scan := by
    intro scan hscan
    rw [ScanSystem.scan?, hjob]
    exact hscan
  refine ⟨?_, fun scan workers hs => h.leaving scan workers (hscan scan hs),
    fun scan hs => h.completing scan (hscan scan hs)⟩
  intro other hother
  cases hother
  exact h.flags job hjob

/-- Every step that is not about a single worker. -/
theorem step (h : Unstopped s) (haccounted : Accounted s) {label : Instant × ScanEvent}
    (hglobal : label.2.isGlobal = true) (hstep : s.step label = some t) : Unstopped t := by
  obtain ⟨now, event⟩ := label
  cases scanStep_of_step hstep with
  | synced hcall => exact ⟨h.flags, h.leaving, h.completing⟩
  | started hidle => exact withoutScan rfl
  | signalled hevent hjob => exact hjob ▸ h.requests hjob
  | asked hevent hjob =>
      cases event with
      | pauseActor actorId | resumeActor actorId | stopActor actorId => cases hglobal
      | _ => cases hevent
  | selected hjob hcurrent => exact withScan (Or.inl (h.flags_noScan hjob hcurrent)) nofun nofun
  | prepared hjob hcurrent =>
      have hflags := h.flags_scan hjob hcurrent
      refine withScan hflags (fun workers hworkers hmem => ?_) nofun
      cases hworkers
      simp at hmem
  | preparedInterrupted hjob hcurrent => exact withScan (Or.inr rfl) nofun nofun
  | worked hjob hcurrent hstage hphase hworker =>
      exact h.work haccounted hjob hcurrent hstage hphase hworker
  | workerRaised => cases hglobal
  | joinedInterrupted hjob hcurrent =>
      have hflags := h.flags_scan hjob hcurrent
      exact withScan hflags nofun nofun
  | joined hjob hcurrent hstage hlive hreason =>
      have hflags := h.flags_scan hjob hcurrent
      exact withScan hflags nofun fun _ => hreason
  | requeued hjob hcurrent =>
      have hflags := h.flags_scan hjob hcurrent
      exact withScan hflags nofun nofun
  | committed hjob hcurrent hstage =>
      have hflags := h.flags_scan hjob hcurrent
      rw [h.completing _ (ScanSystem.scan?_eq_some hjob hcurrent) hstage] at hflags
      exact withoutScan (hflags.resolve_right nofun)
  | rootFailed | interruptedStopped | interruptedPaused | ended | crashed => exact withoutJob

end Unstopped

end ImmichDoctor.Catalog
