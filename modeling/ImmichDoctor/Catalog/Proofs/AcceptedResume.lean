import ImmichDoctor.Catalog.Proofs.WorkerExit
/-!
# A resume that comes in time

The pause event of a job is polled by every thread at its own time, and a thread that saw
it leaves a stop reason behind, which a resume does not take back. A job whose pause was
resumed before any thread polled it never ends as paused.
-/

namespace ImmichDoctor.Catalog

open ImmichDoctor.Library

/-- No thread sees a request to pause the job, and the job has no file limit. -/
def SeesNoPause (s : ScanSystem) : Instant × ScanEvent → Prop
  | (_, .startJob _ _ maxFiles) => maxFiles = none
  | (_, .prepare _ seen) => seen ≠ some .paused
  | (_, .work index _) => ∀ job scan, WorkerAt s index job scan .checkControl →
      s.control.reason ≠ some .paused
  | _ => True

/-- The running scan is not about to end as paused. -/
structure NotPausing (s : ScanSystem) : Prop where
  unlimited : ∀ job, s.job = some job → job.maxFiles = none
  limit : ∀ job scan, s.job = some job → job.current = some scan → scan.maxFiles = none
  reason : ∀ job scan, s.job = some job → job.current = some scan →
    scan.stopReason ≠ some .paused
  stage : ∀ job scan, s.job = some job → job.current = some scan →
    scan.stage ≠ .interrupted .paused ∧ scan.stage ≠ .requeued .paused

namespace NotPausing

variable {s t : ScanSystem} {now : Instant} {event : ScanEvent}

theorem withoutJob {catalog : CatalogState} {control : ControlState} :
    NotPausing ⟨catalog, control, none⟩ where
  unlimited := fun _ hjob => by cases hjob
  limit := fun _ _ hjob => by cases hjob
  reason := fun _ _ hjob => by cases hjob
  stage := fun _ _ hjob => by cases hjob

theorem withoutScan {catalog : CatalogState} {control : ControlState}
    {controller : ScanRuntimeController} {targets : List ScanTarget} {maxFiles : Option Int}
    (hunlimited : maxFiles = none) :
    NotPausing ⟨catalog, control, some ⟨controller, maxFiles, targets, none⟩⟩ where
  unlimited := fun _ hjob => by cases hjob; exact hunlimited
  limit := fun _ _ hjob hcurrent => by cases hjob; cases hcurrent
  reason := fun _ _ hjob hcurrent => by cases hjob; cases hcurrent
  stage := fun _ _ hjob hcurrent => by cases hjob; cases hcurrent

theorem withScan {catalog : CatalogState} {control : ControlState}
    {controller : ScanRuntimeController} {targets : List ScanTarget} {maxFiles : Option Int}
    {scan : RootScan} (hunlimited : maxFiles = none) (hlimit : scan.maxFiles = none)
    (hreason : scan.stopReason ≠ some .paused)
    (hstage : scan.stage ≠ .interrupted .paused ∧ scan.stage ≠ .requeued .paused) :
    NotPausing ⟨catalog, control, some ⟨controller, maxFiles, targets, some scan⟩⟩ where
  unlimited := fun _ hjob => by cases hjob; exact hunlimited
  limit := fun _ _ hjob hcurrent => by cases hjob; cases hcurrent; exact hlimit
  reason := fun _ _ hjob hcurrent => by cases hjob; cases hcurrent; exact hreason
  stage := fun _ _ hjob hcurrent => by cases hjob; cases hcurrent; exact hstage

/-- What is known of the running job and its scan. -/
theorem atScan (h : NotPausing s) {job : ScanJob} {scan : RootScan} (hjob : s.job = some job)
    (hcurrent : job.current = some scan) :
    job.maxFiles = none ∧ scan.maxFiles = none ∧ scan.stopReason ≠ some .paused :=
  ⟨h.unlimited job hjob, h.limit job scan hjob hcurrent, h.reason job scan hjob hcurrent⟩

/-- A worker that sees no pause does not record one. -/
theorem stopReason_of_worker {scan : RootScan} {control : ControlState} {worker : ActorId}
    {read : ObservedBatch} {shared shared' : WorkerShared} {phase next : WorkerPhase}
    (hstep : WorkerStep scan control now worker read shared phase next shared')
    (hsees : phase = .checkControl → control.reason ≠ some .paused)
    (hlimit : scan.maxFiles = none) (hreason : shared.stopReason ≠ some .paused) :
    shared'.stopReason ≠ some .paused := by
  cases hstep with
  | sees hcontrol => exact hcontrol ▸ hsees rfl
  | counts => simpa [RootScan.counted, hlimit] using hreason
  | _ => exact hreason

theorem step (h : NotPausing s) (hok : SeesNoPause s (now, event))
    (hstep : s.step (now, event) = some t) : NotPausing t := by
  cases scanStep_of_step hstep with
  | synced => exact ⟨h.unlimited, h.limit, h.reason, h.stage⟩
  | started => exact withoutScan hok
  | signalled => exact ⟨h.unlimited, h.limit, h.reason, h.stage⟩
  | @asked _ job f hevent hjob =>
      refine ⟨?_, ?_, ?_, ?_⟩
      · intro other hother
        cases hother
        exact h.unlimited job hjob
      · intro other scan hother hcurrent
        cases hother
        exact h.limit job scan hjob hcurrent
      · intro other scan hother hcurrent
        cases hother
        exact h.reason job scan hjob hcurrent
      · intro other scan hother hcurrent
        cases hother
        exact h.stage job scan hjob hcurrent
  | selected hjob hcurrent htargets hopen hsession hroot =>
      have hunlimited := h.unlimited _ hjob
      refine withScan hunlimited hunlimited ?_ ⟨?_, ?_⟩ <;> exact nofun
  | rootFailed => exact withoutJob
  | prepared hjob hcurrent hstage hcall =>
      obtain ⟨hunlimited, hlimit, hreason⟩ := h.atScan hjob hcurrent
      exact withScan hunlimited hlimit hreason ⟨nofun, nofun⟩
  | @preparedInterrupted job scan workItems reason catalog hjob hcurrent hstage hcall =>
      obtain ⟨hunlimited, hlimit, -⟩ := h.atScan hjob hcurrent
      refine withScan hunlimited hlimit hok ⟨?_, nofun⟩
      intro hpaused
      cases hpaused
      exact hok rfl
  | @worked index read job scan workers phase next shared hjob hcurrent hstage hphase hworker =>
      obtain ⟨hunlimited, hlimit, hunpaused⟩ := h.atScan hjob hcurrent
      have hreason : shared.stopReason ≠ some .paused := by
        refine stopReason_of_worker hworker ?_ hlimit hunpaused
        rintro rfl
        exact hok job scan ⟨hjob, hcurrent, workers, hstage, hphase⟩
      exact withScan hunlimited hlimit hreason ⟨nofun, nofun⟩
  | workerRaised hjob hcurrent hstage =>
      obtain ⟨hunlimited, hlimit, hreason⟩ := h.atScan hjob hcurrent
      exact withScan hunlimited hlimit hreason ⟨nofun, nofun⟩
  | joinedInterrupted hjob hcurrent hstage hlive hjoined =>
      obtain ⟨hunlimited, hlimit, hreason⟩ := h.atScan hjob hcurrent
      refine withScan hunlimited hlimit hreason ⟨?_, nofun⟩
      intro hpaused
      cases hpaused
      exact hreason hjoined
  | joined hjob hcurrent hstage hlive hjoined =>
      obtain ⟨hunlimited, hlimit, hreason⟩ := h.atScan hjob hcurrent
      exact withScan hunlimited hlimit hreason ⟨nofun, nofun⟩
  | requeued hjob hcurrent hstage hcollecting hcall =>
      obtain ⟨hunlimited, hlimit, hreason⟩ := h.atScan hjob hcurrent
      refine withScan hunlimited hlimit hreason ⟨nofun, ?_⟩
      intro hpaused
      cases hpaused
      exact (h.stage _ _ hjob hcurrent).1 hstage
  | interruptedStopped => exact withoutJob
  | interruptedPaused => exact withoutJob
  | committed hjob hcurrent =>
      have hunlimited := h.unlimited _ hjob
      exact withoutScan hunlimited
  | ended => exact withoutJob
  | crashed => exact withoutJob

end NotPausing

/-! ## Jobs whose pause nobody sees -/

/-- The step ends the job as paused, with work of its session left. -/
def EndsPausedWithWork (s : ScanSystem) (now : Instant) : Prop :=
  ∃ scan t, s.scan? = some scan ∧ scan.stage = .requeued .paused ∧
    s.step (now, .interrupt) = some t ∧
    0 < t.catalog.db.countPendingDirectories scan.sessionId

/-- A job without a file limit, none of whose threads polls the pause event between a pause
and the resume that takes it back, never ends as paused, whatever came before the job. -/
theorem resume_honoured {now : Instant} {idle s : ScanSystem} {labels : List (Instant × ScanEvent)}
    (hidle : idle.job = none) (hrun : Steps ScanSystem.step SeesNoPause idle labels s) :
    ¬ EndsPausedWithWork s now := by
  have hstart : NotPausing idle := by
    obtain ⟨catalog, control, job⟩ := idle
    cases hidle
    exact NotPausing.withoutJob
  have hnot : NotPausing s :=
    hrun.invariant (fun _ _ _ hok hstep hs => hs.step hok hstep) hstart
  rintro ⟨scan, t, hscan, hstage, -, -⟩
  obtain ⟨job, hjob, hcurrent⟩ := Option.bind_eq_some_iff.mp hscan
  exact (hnot.stage job scan hjob hcurrent).2 hstage

/-! ## One pause, seen and not seen -/

def seesNoPause (s : ScanSystem) : Instant × ScanEvent → Bool
  | (_, .startJob _ _ maxFiles) => maxFiles = none
  | (_, .prepare _ seen) => seen ≠ some .paused
  | (_, .work index _) =>
      match s.phase? index with
      | some .checkControl => s.control.reason ≠ some .paused
      | _ => true
  | _ => true

theorem seesNoPause_of_check (s : ScanSystem) (label : Instant × ScanEvent)
    (h : seesNoPause s label = true) : SeesNoPause s label := by
  obtain ⟨now, event⟩ := label
  cases event with
  | startJob targets workers maxFiles =>
      show maxFiles = none
      exact of_decide_eq_true h
  | prepare workItems seen =>
      show seen ≠ some .paused
      exact of_decide_eq_true h
  | work index read =>
      intro job scan hat
      have hphase := phase?_eq_some_iff.mpr ⟨job, scan, hat⟩
      simp only [seesNoPause, hphase, ne_eq, decide_eq_true_eq] at h
      exact h
  | _ => trivial

/-- A job of two workers for a root with two directories. -/
def prepareTwoDirectories : List ScanEvent :=
  [.syncRoot ⟨py "uploads", py "immich_uploads_path", py "source", py "/uploads"⟩,
    .startJob [.fresh 1] twoWorkers none, .select (py "a"),
    .prepare [emptyRootItem, { emptyRootItem with relativePath := py "b" }] none]

/-- The first worker sees the pause and leaves. The resume is accepted, but the second one
leaves as well after its row, for the stop reason of the first. -/
def seenPauseRun : List (Instant × ScanEvent) :=
  let events : List ScanEvent := prepareTwoDirectories ++ [ScanEvent.requestPause] ++
    List.replicate 2 (ScanEvent.work 0 readNothing) ++ [ScanEvent.requestResume] ++
    List.replicate 7 (ScanEvent.work 1 readNothing) ++ [ScanEvent.join, .requeue]
  events.map fun event => (1, event)

/-- The job that saw the pause has ended. -/
def endedPaused : ScanSystem :=
  Steps.last ScanSystem.step (ScanSystem.start 0) (seenPauseRun ++ [(1, .interrupt)])

/-- The session is resumed by another job, whose pause is taken back before a worker polls it;
the job is stopped later. -/
def unseenPauseRun : List (Instant × ScanEvent) :=
  let events : List ScanEvent :=
    [ScanEvent.startJob [.resume (py "a")] twoWorkers none, .select (py "b"), .prepare [] none,
      .requestPause, .requestResume] ++
    List.replicate 6 (ScanEvent.work 0 readNothing) ++ [ScanEvent.requestStop] ++
    List.replicate 3 (ScanEvent.work 0 readNothing) ++
    List.replicate 2 (ScanEvent.work 1 readNothing) ++ [ScanEvent.join, .requeue]
  events.map fun event => (1, event)

theorem resume_honoured_unseen :
    ¬ EndsPausedWithWork (Steps.last (checkedStep ScanSystem.step seesNoPause) endedPaused
      unseenPauseRun) 1 :=
  resume_honoured (by decide)
    (Steps.of_checked seesNoPause_of_check (Steps.exec_eq_last (by decide)))

theorem seen_pause_outlives_resume :
    exec ScanSystem.step (ScanSystem.start 0) seenPauseRun =
        some (Steps.last ScanSystem.step (ScanSystem.start 0) seenPauseRun) ∧
      EndsPausedWithWork (Steps.last ScanSystem.step (ScanSystem.start 0) seenPauseRun) 1 := by
  have hscan : (Steps.last ScanSystem.step (ScanSystem.start 0)
      seenPauseRun).scan?.isSome = true := by
    decide
  have hend : ((Steps.last ScanSystem.step (ScanSystem.start 0) seenPauseRun).step
      (1, .interrupt)).isSome = true := by
    decide
  refine ⟨Steps.exec_eq_last (by decide), _, _, (Option.some_get hscan).symm, rfl,
    (Option.some_get hend).symm, by decide +revert⟩

end ImmichDoctor.Catalog
