import ImmichDoctor.Catalog.Proofs.WorkQueue
import ImmichDoctor.Catalog.Proofs.ScanSteps
/-!
# When a scan commits only finished work

While the worker threads run, every row that is being processed is held by the
worker it is assigned to, and as long as no stop reason is recorded some worker is
still in its loop or no row is pending. Both facts need that a worker which ends on
its own hands over: it holds no row, and somebody goes on without it.
-/

namespace ImmichDoctor.Catalog

open ImmichDoctor.Library

/-! ## What the workers account for -/

/-- Every row in processing is held by the worker it is assigned to. -/
def RowsHeld (db : CatalogDb) (sessionId : SessionId) (workers : List WorkerPhase) : Prop :=
  ∀ row ∈ db.scanDirectoryQueue.rows, row.scanSessionId = sessionId → row.status = .processing →
    ∃ index phase claimed, workers[index]? = some phase ∧ phase.claimed? = some claimed ∧
      claimed.relativePath = row.relativePath ∧
      row.workerId = some (ActorId.worker (index + 1)).text

/-- The scan goes on without the worker: it is being stopped anyway, nothing is
left to claim, or another worker is still in its loop. -/
def GoesOnWithout (db : CatalogDb) (sessionId : SessionId) (stopReason : Option StopReason)
    (workers : List WorkerPhase) (index : Nat) : Prop :=
  stopReason.isSome = true ∨ NoRow db sessionId .pending ∨
    ∃ other phase, other ≠ index ∧ workers[other]? = some phase ∧ phase.live = true

structure WorkersAccount (db : CatalogDb) (sessionId : SessionId)
    (stopReason : Option StopReason) (workers : List WorkerPhase) : Prop where
  held : RowsHeld db sessionId workers
  leaving : ∀ reason, WorkerPhase.leave reason ∈ workers → stopReason.isSome = true
  nothing : WorkerPhase.claimedNothing ∈ workers → NoRow db sessionId .pending
  goesOn : stopReason = none →
    NoRow db sessionId .pending ∨ ∃ phase ∈ workers, phase.live = true

namespace WorkersAccount

variable {db db' : CatalogDb} {sessionId : SessionId} {stopReason stopReason' : Option StopReason}
  {workers : List WorkerPhase} {index : Nat} {phase next : WorkerPhase}

theorem of_rows (hrows : db'.scanDirectoryQueue.rows = db.scanDirectoryQueue.rows)
    (h : WorkersAccount db sessionId stopReason workers) :
    WorkersAccount db' sessionId stopReason workers := by
  refine ⟨?_, h.leaving, fun hmem => (h.nothing hmem).of_rows hrows, fun hnone => ?_⟩
  · unfold RowsHeld
    rw [hrows]
    exact h.held
  · exact (h.goesOn hnone).imp_left fun hpending => hpending.of_rows hrows

theorem mem_set_self (hphase : workers[index]? = some phase) : next ∈ workers.set index next := by
  have hlt : index < workers.length := (List.getElem?_eq_some_iff.mp hphase).1
  exact List.mem_set hlt next

theorem getElem?_set_ne {other : Nat} (hother : other ≠ index) :
    (workers.set index next)[other]? = workers[other]? :=
  List.getElem?_set_ne hother.symm

/-- The rows stay held when one worker moves on with the claim it has. -/
theorem held_set (held : RowsHeld db sessionId workers) (hphase : workers[index]? = some phase)
    (hclaimed : next.claimed? = phase.claimed?) :
    RowsHeld db sessionId (workers.set index next) := by
  intro row hrow hsession hstatus
  obtain ⟨holder, held, claimed, hget, hclaim, hpath, hworker⟩ := held row hrow hsession hstatus
  by_cases hsame : holder = index
  · subst hsame
    have hheld : held = phase := Option.some.inj (hget.symm.trans hphase)
    have hlt : holder < workers.length := (List.getElem?_eq_some_iff.mp hphase).1
    refine ⟨holder, next, claimed, List.getElem?_set_self hlt, ?_, hpath, hworker⟩
    rw [hclaimed, ← hheld, hclaim]
  · exact ⟨holder, held, claimed, (getElem?_set_ne hsame).trans hget, hclaim, hpath, hworker⟩

/-- One worker moves on without a change to the queue. -/
theorem set (h : WorkersAccount db sessionId stopReason workers)
    (hphase : workers[index]? = some phase) (hclaimed : next.claimed? = phase.claimed?)
    (hstop : stopReason.isSome = true → stopReason'.isSome = true)
    (hleave : ∀ reason, next = .leave reason → stopReason'.isSome = true)
    (hnothing : next = .claimedNothing → NoRow db sessionId .pending)
    (hgoes : next.live = true ∨ GoesOnWithout db sessionId stopReason' workers index) :
    WorkersAccount db sessionId stopReason' (workers.set index next) where
  held := held_set h.held hphase hclaimed
  leaving reason hmem := by
    rcases List.mem_or_eq_of_mem_set hmem with hold | hnew
    · exact hstop (h.leaving reason hold)
    · exact hleave reason hnew.symm
  nothing hmem := by
    rcases List.mem_or_eq_of_mem_set hmem with hold | hnew
    · exact h.nothing hold
    · exact hnothing hnew.symm
  goesOn hnone := by
    rcases hgoes with hlive | hsome | hpending | ⟨other, live, hother, hget, hlive⟩
    · exact Or.inr ⟨next, mem_set_self hphase, hlive⟩
    · rw [hnone] at hsome
      cases hsome
    · exact Or.inl hpending
    · exact Or.inr ⟨live, List.mem_of_getElem? ((getElem?_set_ne hother).trans hget), hlive⟩

/-- A worker that holds no row finds none of its own to requeue. -/
theorem requeueForWorker_rows (held : RowsHeld db sessionId workers)
    (hphase : workers[index]? = some phase) (hclaimed : phase.claimed? = none) :
    (db.requeueProcessingDirectoriesForWorker sessionId
      (ActorId.worker (index + 1)).text).scanDirectoryQueue.rows = db.scanDirectoryQueue.rows := by
  refine CatalogDb.queue_requeueForWorker fun row hrow hsession hstatus hworker => ?_
  obtain ⟨holder, holding, claimed, hget, hclaim, -, hassigned⟩ := held row hrow hsession hstatus
  have hindex : index + 1 = holder + 1 :=
    ActorId.text_worker_injective (Option.some.inj (hworker.symm.trans hassigned))
  have hsame : holder = index := by omega
  subst hsame
  rw [hphase] at hget
  cases hget
  rw [hclaimed] at hclaim
  cases hclaim

/-- The worker that claims a pending row holds it. -/
theorem claim (h : WorkersAccount db sessionId stopReason workers)
    (hphase : workers[index]? = some phase) (hclaimed : phase.claimed? = none)
    {row : DirectoryQueueRow}
    (hclaim : db.claimNextDirectory sessionId (ActorId.worker (index + 1)).text =
      some (row, db')) :
    WorkersAccount db' sessionId stopReason (workers.set index (.observe row)) := by
  obtain ⟨hrow, hsession, hstatus, -, hrows⟩ := CatalogDb.queue_claimNextDirectory hclaim
  have hlt : index < workers.length := (List.getElem?_eq_some_iff.mp hphase).1
  refine ⟨?_, ?_, ?_, fun _ => Or.inr ⟨_, mem_set_self hphase, rfl⟩⟩
  · intro new hnew hnsession hnstatus
    rw [hrows, List.mem_map] at hnew
    obtain ⟨old, hold, rfl⟩ := hnew
    by_cases hkey : old.key = (sessionId, row.relativePath)
    · rw [if_pos hkey]
      exact ⟨index, .observe row, row, List.getElem?_set_self hlt, rfl,
        (Prod.mk.inj hkey).2.symm, rfl⟩
    · rw [if_neg hkey] at hnsession hnstatus ⊢
      obtain ⟨holder, held, claimed, hget, hheld, hpath, hworker⟩ :=
        h.held old hold hnsession hnstatus
      have hother : holder ≠ index := by
        rintro rfl
        rw [hphase] at hget
        cases hget
        rw [hclaimed] at hheld
        cases hheld
      exact ⟨holder, held, claimed, (getElem?_set_ne hother).trans hget, hheld, hpath, hworker⟩
  · intro reason hmem
    rcases List.mem_or_eq_of_mem_set hmem with hold | hnew
    · exact h.leaving reason hold
    · cases hnew
  · intro hmem
    rcases List.mem_or_eq_of_mem_set hmem with hold | hnew
    · -- nobody has found the queue empty while this row was pending
      exact absurd hstatus (h.nothing hold row hrow hsession)
    · cases hnew

/-- The worker that applied its row holds nothing any more, and the row is done. -/
theorem apply (h : WorkersAccount db sessionId stopReason workers)
    (hphase : workers[index]? = some phase) {row : DirectoryQueueRow}
    (hclaimed : phase.claimed? = some row) {now : Instant} {application : DirectoryApplication}
    {fileCount : Nat} (hsession : application.sessionId = sessionId)
    (hpath : application.relativePath = row.relativePath)
    (happly : db.applyDirectoryFiles now application = some db') :
    WorkersAccount db' sessionId stopReason (workers.set index (.count fileCount)) := by
  obtain ⟨hrows, -⟩ := CatalogDb.queue_applyDirectoryFiles happly
  have hpending : NoRow db sessionId .pending → NoRow db' sessionId .pending := by
    intro hnone new hnew hnsession
    rw [hrows, List.mem_map] at hnew
    obtain ⟨old, hold, rfl⟩ := hnew
    by_cases hkey : old.key = (application.sessionId, application.relativePath)
    · rw [if_pos hkey]
      intro hdone
      cases hdone
    · rw [if_neg hkey] at hnsession ⊢
      exact hnone old hold hnsession
  refine ⟨?_, ?_, ?_, fun _ => Or.inr ⟨_, mem_set_self hphase, rfl⟩⟩
  · intro new hnew hnsession hnstatus
    rw [hrows, List.mem_map] at hnew
    obtain ⟨old, hold, rfl⟩ := hnew
    by_cases hkey : old.key = (application.sessionId, application.relativePath)
    · rw [if_pos hkey] at hnstatus
      cases hnstatus
    · rw [if_neg hkey] at hnsession hnstatus ⊢
      obtain ⟨holder, held, claimed, hget, hheld, hcpath, hworker⟩ :=
        h.held old hold hnsession hnstatus
      have hother : holder ≠ index := by
        rintro rfl
        rw [hphase] at hget
        cases hget
        rw [hclaimed] at hheld
        cases hheld
        exact hkey (Prod.ext (hnsession.trans hsession.symm) (hcpath.symm.trans hpath.symm))
      exact ⟨holder, held, claimed, (getElem?_set_ne hother).trans hget, hheld, hcpath, hworker⟩
  · intro reason hmem
    rcases List.mem_or_eq_of_mem_set hmem with hold | hnew
    · exact h.leaving reason hold
    · cases hnew
  · intro hmem
    rcases List.mem_or_eq_of_mem_set hmem with hold | hnew
    · exact hpending (h.nothing hold)
    · cases hnew

/-- A step of a worker keeps the account, if it hands over when it stops on its own. -/
theorem workerStep {scan : RootScan} {control : ControlState} {now : Instant}
    {read : ObservedBatch} {shared shared' : WorkerShared}
    (h : WorkersAccount shared.catalog.db scan.sessionId shared.stopReason workers)
    (hphase : workers[index]? = some phase)
    (hover : phase = .leaveStopped →
      GoesOnWithout shared.catalog.db scan.sessionId shared.stopReason workers index)
    (hstep : WorkerStep scan control now (.worker (index + 1)) read shared phase next shared') :
    WorkersAccount shared'.catalog.db scan.sessionId shared'.stopReason
      (workers.set index next) := by
  have hmem : phase ∈ workers := List.mem_of_getElem? hphase
  cases hstep with
  | sees hcontrol => exact h.set hphase rfl (fun _ => rfl) (fun _ _ => rfl) (by simp) (Or.inl rfl)
  | goesOn hcontrol => exact h.set hphase rfl id (by simp) (by simp) (Or.inl rfl)
  | @leaves reason catalog hcall =>
      have hdb := Option.some.inj (CatalogState.step_eq_some_iff.mp hcall).2.1
      have hkept : WorkersAccount catalog.db scan.sessionId shared.stopReason workers :=
        h.of_rows (by rw [← hdb]; exact requeueForWorker_rows h.held hphase rfl)
      exact hkept.set hphase rfl id (by simp) (by simp) (Or.inr (Or.inl (h.leaving reason hmem)))
  | waitStopped hstopped => exact h.set hphase rfl id (by simp) (by simp) (Or.inl rfl)
  | waits hstopped hpaused => exact h.set hphase rfl id (by simp) (by simp) (Or.inl rfl)
  | runs hstopped hpaused => exact h.set hphase rfl id (by simp) (by simp) (Or.inl rfl)
  | @leavesStopped catalog hcall =>
      have hdb := Option.some.inj (CatalogState.step_eq_some_iff.mp hcall).2.1
      have hset : WorkersAccount shared.catalog.db scan.sessionId shared.stopReason
          (workers.set index .returned) :=
        h.set hphase rfl id (by simp) (by simp) (Or.inr (hover rfl))
      exact hset.of_rows (by rw [← hdb]; exact requeueForWorker_rows h.held hphase rfl)
  | claims hcall hclaim =>
      have hrun := (CatalogState.step_eq_some_iff.mp hcall).2.1
      simp only [StoreOp.run, hclaim] at hrun
      rw [Option.some.inj hrun] at hclaim
      exact h.claim hphase rfl hclaim
  | claimsNothing hcall hclaim =>
      have hrun := (CatalogState.step_eq_some_iff.mp hcall).2.1
      simp only [StoreOp.run, hclaim] at hrun
      have hset : WorkersAccount shared.catalog.db scan.sessionId shared.stopReason
          (workers.set index .claimedNothing) :=
        h.set hphase rfl id (by simp) (fun _ => CatalogDb.noRow_pending_of_claim_none hclaim)
          (Or.inl rfl)
      exact hset.of_rows (by rw [Option.some.inj hrun])
  | ends hfinished =>
      exact h.set hphase rfl id (by simp) (by simp) (Or.inr (Or.inr (Or.inl (h.nothing hmem))))
  | retries hfinished => exact h.set hphase rfl id (by simp) (by simp) (Or.inl rfl)
  | observes => exact h.set hphase rfl id (by simp) (by simp) (Or.inl rfl)
  | applies hcall =>
      exact h.apply hphase rfl rfl rfl (CatalogState.step_eq_some_iff.mp hcall).2.1
  | counts =>
      refine h.set hphase rfl (fun hsome => ?_) (by simp) (by simp) (Or.inl rfl)
      simp only [RootScan.counted]
      split
      · rfl
      · exact hsome
  | halts hreason =>
      exact h.set hphase rfl id (by simp) (by simp) (Or.inr (Or.inl (by rw [hreason]; rfl)))
  | repeats hreason => exact h.set hphase rfl id (by simp) (by simp) (Or.inl rfl)

end WorkersAccount

/-- A worker writes the catalog by at most one store call, and keeps the actors. -/
theorem workerStep_frame {scan : RootScan} {control : ControlState} {now : Instant}
    {worker : ActorId} {read : ObservedBatch} {shared shared' : WorkerShared}
    {phase next : WorkerPhase}
    (hstep : WorkerStep scan control now worker read shared phase next shared') :
    (shared'.catalog = shared.catalog ∨
      ∃ op, shared.catalog.step (now, op) = some shared'.catalog) ∧
      shared'.controller.actorIds = shared.controller.actorIds := by
  cases hstep with
  | sees | goesOn | ends | retries | observes | halts | repeats => exact ⟨Or.inl rfl, rfl⟩
  | waitStopped | waits | runs => exact ⟨Or.inl rfl, by simp⟩
  | leaves hcall => exact ⟨Or.inr ⟨_, hcall⟩, by simp⟩
  | leavesStopped hcall => exact ⟨Or.inr ⟨_, hcall⟩, rfl⟩
  | claims hcall => exact ⟨Or.inr ⟨_, hcall⟩, by simp⟩
  | claimsNothing hcall => exact ⟨Or.inr ⟨_, hcall⟩, by simp⟩
  | applies hcall => exact ⟨Or.inr ⟨_, hcall⟩, rfl⟩
  | counts => exact ⟨Or.inl rfl, by simp [RootScan.counted]⟩

/-! ## The scan process -/

/-- A worker that ends on its own, by an exception or by its own stop request, hands
over: it holds no row then, and the scan goes on without it. -/
def HandsOver (s : ScanSystem) : Instant × ScanEvent → Prop
  | (_, .raise index) =>
      ∀ scan workers phase, s.scan? = some scan → scan.stage = .scanning workers →
        workers[index]? = some phase → phase.claimed? = none ∧
          GoesOnWithout s.catalog.db scan.sessionId scan.stopReason workers index
  | (_, .work index _) =>
      ∀ scan workers, s.scan? = some scan → scan.stage = .scanning workers →
        workers[index]? = some .leaveStopped →
          GoesOnWithout s.catalog.db scan.sessionId scan.stopReason workers index
  | _ => True

/-- What is known of the queue at each stage of a scan. -/
def StageAccounts (db : CatalogDb) (scan : RootScan) : Prop :=
  match scan.stage with
  | .preparing => NoRow db scan.sessionId .processing
  | .scanning workers => WorkersAccount db scan.sessionId scan.stopReason workers
  | .completing => NoRow db scan.sessionId .pending ∧ NoRow db scan.sessionId .processing
  | _ => True

structure Accounted (s : ScanSystem) : Prop where
  references : QueueReferences s.catalog.db
  actors : ∀ job, s.job = some job → job.controller.actorIds ≠ []
  stage : ∀ scan, s.scan? = some scan → StageAccounts s.catalog.db scan

namespace Accounted

variable {s t : ScanSystem} {now : Instant} {job : ScanJob} {scan : RootScan}

theorem start (clock : Instant) : Accounted (ScanSystem.start clock) where
  references := fun _ hrow => by cases hrow
  actors := fun _ hjob => by cases hjob
  stage := fun _ hscan => by cases hscan

theorem references_step {catalog catalog' : CatalogState} {op : StoreOp}
    (h : QueueReferences catalog.db) (hstep : catalog.step (now, op) = some catalog') :
    QueueReferences catalog'.db :=
  queueReferences_run h (CatalogState.step_eq_some_iff.mp hstep).2.1

theorem withoutJob {catalog : CatalogState} {control : ControlState}
    (hrefs : QueueReferences catalog.db) : Accounted ⟨catalog, control, none⟩ where
  references := hrefs
  actors := fun _ hother => by cases hother
  stage := fun _ hother => by cases hother

/-- The job is at a scan. -/
theorem atScan {catalog : CatalogState} {control : ControlState}
    (hrefs : QueueReferences catalog.db) (hactors : job.controller.actorIds ≠ [])
    (hstage : StageAccounts catalog.db scan) :
    Accounted (ScanSystem.updateScan ⟨catalog, control, s.job⟩ job scan) where
  references := hrefs
  actors := fun _ hother => by
    cases hother
    exact hactors
  stage := fun _ hother => by
    cases hother
    exact hstage

/-- Nothing but the requests of the operator changes. -/
theorem requests (h : Accounted s) {control : ControlState} (hjob : s.job = some job)
    {controller : ScanRuntimeController} (hactors : controller.actorIds = job.controller.actorIds) :
    Accounted ⟨s.catalog, control, some { job with controller := controller }⟩ where
  references := h.references
  actors := fun _ hother => by
    cases hother
    exact hactors ▸ h.actors job hjob
  stage := fun scan hscan =>
    h.stage scan (by rw [ScanSystem.scan?, hjob]; exact hscan)

/-- A session that was opened has no row in processing. -/
theorem noRow_processing_of_openSession (h : QueueReferences s.catalog.db)
    {sessionId selected : SessionId} {target : ScanTarget} {catalog : CatalogState}
    (hopen : s.openSession now sessionId job target = some (catalog, selected)) :
    QueueReferences catalog.db ∧ NoRow catalog.db selected .processing := by
  cases target with
  | fresh storageRootId =>
      simp only [ScanSystem.openSession] at hopen
      split at hopen
      · cases hopen
      · obtain ⟨created, hcreated, hpair⟩ := Option.bind_eq_some_iff.mp hopen
        cases hpair
        have hrun := (CatalogState.step_eq_some_iff.mp hcreated).2.1
        refine ⟨queueReferences_run h hrun, ?_⟩
        obtain ⟨hqueue, hfresh, -⟩ := CatalogDb.queue_createScanSession hrun
        intro row hrow hsession
        rw [hqueue] at hrow
        obtain ⟨owner, howner, hid⟩ := h row hrow
        exact absurd (hid.trans hsession) (hfresh owner howner)
  | resume resumed =>
      obtain ⟨reopened, hreopened, hpair⟩ := Option.bind_eq_some_iff.mp hopen
      cases hpair
      have hrun := (CatalogState.step_eq_some_iff.mp hreopened).2.1
      refine ⟨queueReferences_run h hrun, ?_⟩
      rw [← Option.some.inj hrun]
      exact CatalogDb.noRow_processing_reopen

/-- The threads start on a queue whose rows are all pending or done. -/
theorem workersAccount_of_seed {db db' : CatalogDb} {sessionId : SessionId}
    {workItems : List QueuedWorkItem} {actorIds : List ActorId} {stopReason : Option StopReason}
    (hprocessing : NoRow db sessionId .processing) (hactors : actorIds ≠ [])
    (hrun : (StoreOp.seedDirectoryWorkQueue sessionId workItems).run now db = some db') :
    WorkersAccount db' sessionId stopReason (actorIds.map fun _ => WorkerPhase.checkControl) := by
  refine ⟨?_, fun reason hmem => ?_, fun hmem => ?_, fun _ => ?_⟩
  · -- seeding adds pending rows only, so no row is in processing yet
    intro row hrow hsession hstatus
    obtain ⟨-, ⟨-, hsame⟩ | ⟨-, hseeded⟩⟩ := CatalogDb.queue_seedDirectoryWorkQueue hrun
    · exact absurd hstatus (hprocessing row (hsame ▸ hrow) hsession)
    · rw [hseeded] at hrow
      rcases CatalogDb.mem_foldl_seedWorkItem hrow with hold | ⟨item, -, id, rfl⟩
      · exact absurd hstatus (hprocessing row hold hsession)
      · cases hstatus
  · simp at hmem
  · simp at hmem
  · obtain ⟨actorId, hactor⟩ := List.exists_mem_of_ne_nil _ hactors
    exact Or.inr ⟨.checkControl, List.mem_map.mpr ⟨actorId, hactor, rfl⟩, rfl⟩

/-- When all threads have ended and none gave a stop reason, nothing is unfinished. -/
theorem finished_of_joined {db : CatalogDb} {sessionId : SessionId} {workers : List WorkerPhase}
    (h : WorkersAccount db sessionId none workers) (hended : workers.any WorkerPhase.live = false) :
    NoRow db sessionId .pending ∧ NoRow db sessionId .processing := by
  have hdead : ∀ phase ∈ workers, phase.live = false := by
    intro phase hphase
    exact Bool.eq_false_iff.mpr (List.any_eq_false.mp hended phase hphase)
  constructor
  · rcases h.goesOn rfl with hnone | ⟨phase, hphase, hlive⟩
    · exact hnone
    · rw [hdead phase hphase] at hlive
      cases hlive
  · intro row hrow hsession hstatus
    obtain ⟨index, phase, claimed, hget, hclaimed, -⟩ := h.held row hrow hsession hstatus
    refine Bool.false_ne_true ((hdead phase (List.mem_of_getElem? hget)).symm.trans ?_)
    cases phase <;> first | rfl | cases hclaimed

theorem StageAccounts.of_rows {db db' : CatalogDb}
    (hrows : db'.scanDirectoryQueue.rows = db.scanDirectoryQueue.rows)
    (h : StageAccounts db scan) : StageAccounts db' scan := by
  unfold StageAccounts at h ⊢
  cases hstage : scan.stage with
  | preparing =>
      rw [hstage] at h
      exact NoRow.of_rows h hrows
  | scanning workers =>
      rw [hstage] at h
      exact WorkersAccount.of_rows hrows h
  | completing =>
      rw [hstage] at h
      exact ⟨NoRow.of_rows h.1 hrows, NoRow.of_rows h.2 hrows⟩
  | interrupted reason => trivial
  | requeued reason => trivial

theorem syncRoot (h : Accounted s) {root : CatalogRootSpec} {catalog : CatalogState}
    (hstep : s.catalog.step (now, .upsertStorageRoot root) = some catalog) :
    Accounted { s with catalog } := by
  obtain ⟨_, hdb⟩ := CatalogDb.of_upsertStorageRoot (CatalogState.step_eq_some_iff.mp hstep).2.1
  exact ⟨references_step h.references hstep, h.actors, fun scan hscan =>
    StageAccounts.of_rows (by rw [hdb]) (h.stage scan hscan)⟩

/-- What is known of the queue at the stage of the current scan. -/
theorem stageAt (h : Accounted s) (hjob : s.job = some job) (hcurrent : job.current = some scan) :
    StageAccounts s.catalog.db scan :=
  h.stage scan (ScanSystem.scan?_eq_some hjob hcurrent)

theorem workersAt (h : Accounted s) (hjob : s.job = some job) (hcurrent : job.current = some scan)
    {workers : List WorkerPhase} (hstage : scan.stage = .scanning workers) :
    WorkersAccount s.catalog.db scan.sessionId scan.stopReason workers := by
  have haccount := h.stageAt hjob hcurrent
  unfold StageAccounts at haccount
  rw [hstage] at haccount
  exact haccount

/-- Every step whose worker hands over keeps the account. -/
theorem step (h : Accounted s) {label : Instant × ScanEvent} (hover : HandsOver s label)
    (hstep : s.step label = some t) : Accounted t := by
  obtain ⟨now, event⟩ := label
  cases scanStep_of_step hstep with
  | synced hcall => exact h.syncRoot hcall
  | @started targets workers maxFiles hidle =>
      refine ⟨h.references, fun _ hother => ?_, fun _ hother => by cases hother⟩
      cases hother
      exact ScanRuntimeController.actorIds_create_ne_nil workers
  | signalled hevent hjob => exact ⟨h.references, h.actors, h.stage⟩
  | asked hevent hjob => exact h.requests hjob (ScanEvent.actorIds_actorRequest hevent _)
  | @selected _ selectedId job _ rest catalog session _ hjob hcurrent htargets hopen =>
      obtain ⟨hrefs, hprocessing⟩ := noRow_processing_of_openSession h.references hopen
      exact @atScan s { job with targets := rest } (.opened session selectedId job.maxFiles) catalog
        s.control hrefs (h.actors job hjob) hprocessing
  | rootFailed hjob hcurrent hstage hcall => exact withoutJob (references_step h.references hcall)
  | prepared hjob hcurrent hstage hcall =>
      have hprocessing := h.stageAt hjob hcurrent
      unfold StageAccounts at hprocessing
      rw [hstage] at hprocessing
      have hactors := h.actors _ hjob
      have hrun := (CatalogState.step_eq_some_iff.mp hcall).2.1
      exact atScan (references_step h.references hcall) (by simpa using hactors)
        (workersAccount_of_seed hprocessing hactors hrun)
  | preparedInterrupted hjob hcurrent hstage hcall =>
      exact atScan (references_step h.references hcall) (by simpa using h.actors _ hjob) trivial
  | @worked index read job scan workers phase next shared hjob hcurrent hstage hphase hworker =>
      have hscan := ScanSystem.scan?_eq_some hjob hcurrent
      obtain ⟨hcatalog, hactors⟩ := workerStep_frame hworker
      have hrefs : QueueReferences shared.catalog.db := by
        rcases hcatalog with hsame | ⟨op, hop⟩
        · exact (congrArg (fun c => QueueReferences c.db) hsame).mpr h.references
        · exact references_step h.references hop
      refine atScan hrefs (hactors ▸ h.actors job hjob) ?_
      apply WorkersAccount.workerStep (h.workersAt hjob hcurrent hstage) hphase ?_ hworker
      exact fun hleave => hover scan workers hscan hstage (hleave ▸ hphase)
  | @workerRaised index job scan workers phase hjob hcurrent hstage hphase hlive =>
      have hscan := ScanSystem.scan?_eq_some hjob hcurrent
      obtain ⟨hclaimed, hgoes⟩ := hover scan workers phase hscan hstage hphase
      have haccount := h.workersAt hjob hcurrent hstage
      exact atScan h.references (h.actors job hjob)
        (haccount.set hphase hclaimed.symm id nofun nofun (Or.inr hgoes))
  | joinedInterrupted hjob hcurrent hstage hlive hreason =>
      exact atScan h.references (h.actors _ hjob) trivial
  | joined hjob hcurrent hstage hlive hreason =>
      have haccount := h.workersAt hjob hcurrent hstage
      rw [hreason] at haccount
      exact atScan h.references (by simpa using h.actors _ hjob) (finished_of_joined haccount hlive)
  | requeued hjob hcurrent hstage hcollecting hcall =>
      have hrefs := references_step (references_step h.references hcollecting) hcall
      exact atScan hrefs (h.actors _ hjob) trivial
  | interruptedStopped hjob hcurrent hstage hcall =>
      exact withoutJob (references_step h.references hcall)
  | interruptedPaused hjob hcurrent hstage hcall =>
      exact withoutJob (references_step h.references hcall)
  | @committed job scan catalog hjob hcurrent hstage hcall =>
      refine ⟨references_step h.references hcall, fun _ hother => ?_,
        fun _ hother => by cases hother⟩
      cases hother
      exact h.actors job hjob
  | ended hjob hcurrent => exact withoutJob h.references
  | crashed => exact withoutJob h.references

end Accounted

/-! ## Commits -/

/-- In every run whose workers hand over, a session is committed only when none of
its queue rows is pending or in processing. -/
theorem commit_of_finished_work {clock now : Instant} {s t : ScanSystem} {scan : RootScan}
    {labels : List (Instant × ScanEvent)}
    (hrun : Steps ScanSystem.step HandsOver (ScanSystem.start clock) labels s)
    (hscan : s.scan? = some scan) (hcommit : s.step (now, .commit) = some t) :
    s.catalog.db.countPendingDirectories scan.sessionId = 0 := by
  have haccounted : Accounted s :=
    hrun.invariant (fun _ _ _ hok hstep hs => hs.step hok hstep) (Accounted.start clock)
  cases scanStep_of_step hcommit with
  | signalled hevent hjob => cases hevent
  | asked hevent hjob => cases hevent
  | committed hjob hcurrent hstage hcall =>
      cases hscan.symm.trans (ScanSystem.scan?_eq_some hjob hcurrent)
      have hfinished := haccounted.stage scan hscan
      unfold StageAccounts at hfinished
      rw [hstage] at hfinished
      exact CatalogDb.countPendingDirectories_eq_zero hfinished.1 hfinished.2

/-! ## A worker that is stopped by itself -/

def oneWorker : WorkerCount where
  value := 1
  one_le := by decide
  le_max := by decide

def twoWorkers : WorkerCount where
  value := 2
  one_le := by decide
  le_max := by decide

/-- The work of a root with a single empty directory. -/
def emptyRootItem : QueuedWorkItem where
  relativePath := []
  payloadJson := py "[]"
  payloadFileCount := 0
  payloadErrorCount := 0
  payloadBytesDelta := 0
  payloadLastRelativePath := none
  queuePriority := 0

def readNothing : ObservedBatch where
  files := []
  errorCount := 0
  bytesDelta := 0
  lastRelativePath := none

/-- A job for one root, with the requests that come before its workers start. -/
def prepareOneRoot (workerCount : WorkerCount) (requests : List ScanEvent) :
    List (Instant × ScanEvent) :=
  let events : List ScanEvent :=
    [ScanEvent.syncRoot ⟨py "uploads", py "immich_uploads_path", py "source", py "/uploads"⟩,
      .startJob [.fresh 1] workerCount none] ++ requests ++
    [ScanEvent.select (py "a"), .prepare [emptyRootItem] none]
  events.map fun event => (1, event)

def workTimes (index count : Nat) : List (Instant × ScanEvent) :=
  List.replicate count (1, .work index readNothing)

/-- The only worker returns on its own stop request, with the queue untouched. -/
def stoppedWorkerRun : List (Instant × ScanEvent) :=
  prepareOneRoot oneWorker [.stopActor (.worker 1)] ++ workTimes 0 3 ++ [(1, .join)]

/-- The only worker is stopped, its row stays pending, and the session is committed. -/
theorem stopped_worker_commits_pending :
    Reachable ScanSystem.step (ScanSystem.start 0)
        (Steps.last ScanSystem.step (ScanSystem.start 0) stoppedWorkerRun) ∧
      ((Steps.last ScanSystem.step (ScanSystem.start 0) stoppedWorkerRun).step
        (1, .commit)).isSome = true ∧
      (Steps.last ScanSystem.step (ScanSystem.start 0)
        stoppedWorkerRun).catalog.db.countPendingDirectories (py "a") = 1 :=
  ⟨Reachable.of_exec (Steps.exec_eq_last (by decide)), by decide, by decide⟩

/-- Whether a worker that ends on its own in the step leaves another one in its loop. -/
def endsBesideOthers (s : ScanSystem) : Instant × ScanEvent → Bool
  | (_, .raise _) => false
  | (_, .work index _) =>
      match s.scan?.map RootScan.stage with
      | some (.scanning workers) =>
          match workers[index]? with
          | some .leaveStopped => (List.range workers.length).any fun other =>
              other ≠ index && workers[other]?.any (·.live)
          | _ => true
      | _ => true
  | _ => true

theorem handsOver_of_endsBesideOthers (s : ScanSystem) (label : Instant × ScanEvent)
    (h : endsBesideOthers s label = true) : HandsOver s label := by
  obtain ⟨now, event⟩ := label
  cases event with
  | raise index => cases h
  | work index read =>
      intro scan workers hscan hstage hleave
      simp only [endsBesideOthers, hscan, Option.map_some, hstage, hleave, List.any_eq_true,
        Bool.and_eq_true, decide_eq_true_eq, Option.any_eq_true] at h
      obtain ⟨other, -, hother, phase, hphase, hlive⟩ := h
      exact Or.inr (Or.inr ⟨other, phase, hother, hphase, hlive⟩)
  | _ => trivial

/-- The second worker returns on its own stop request; the first one claims the row, applies
it, finds nothing more and returns. -/
def handedOverRun : List (Instant × ScanEvent) :=
  prepareOneRoot twoWorkers [.stopActor (.worker 2)] ++ workTimes 1 3 ++ workTimes 0 11 ++
    [(1, .join)]

theorem commit_of_finished_work_handed_over :
    (Steps.last (checkedStep ScanSystem.step endsBesideOthers) (ScanSystem.start 0)
      handedOverRun).catalog.db.countPendingDirectories (py "a") = 0 := by
  have hexec : exec (checkedStep ScanSystem.step endsBesideOthers) (ScanSystem.start 0)
      handedOverRun = some (Steps.last (checkedStep ScanSystem.step endsBesideOthers)
        (ScanSystem.start 0) handedOverRun) := Steps.exec_eq_last (by decide)
  generalize hlast : Steps.last (checkedStep ScanSystem.step endsBesideOthers)
      (ScanSystem.start 0) handedOverRun = finished at hexec ⊢
  have hrun := Steps.of_checked handsOver_of_endsBesideOthers hexec
  subst hlast
  have hcommit : ScanSystem.step (Steps.last (checkedStep ScanSystem.step endsBesideOthers)
      (ScanSystem.start 0) handedOverRun) (1, .commit) = some _ := rfl
  exact commit_of_finished_work hrun rfl hcommit

end ImmichDoctor.Catalog
