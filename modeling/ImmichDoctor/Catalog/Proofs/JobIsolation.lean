import ImmichDoctor.Catalog.Proofs.JobLedger
import ImmichDoctor.Catalog.Proofs.JobRegistry
import ImmichDoctor.Catalog.Proofs.WorkerExit
import ImmichDoctor.Catalog.ScanJob
/-!
# Scan jobs and unreadable roots

A scan job that nobody interferes with writes its roots to the registry, scans and commits
one after the other, and comes to its end. The report of an unreadable root is built without
its `run_context`, which raises out of the job, so the roots that come after it are never
scanned.
-/

namespace ImmichDoctor.Catalog

open ImmichDoctor.Library

/-- What the file system holds, by the path of a root: whether it cannot be read, and what
the walk finds below it. -/
structure ScanEnvironment where
  unreadable : PyStr → Bool
  workItems : PyStr → List QueuedWorkItem

/-- The names below the root can be bound to the columns of the queue. -/
def ScanEnvironment.storable (env : ScanEnvironment) (path : PyStr) : Bool :=
  (env.workItems path).all QueuedWorkItem.bindable

/-- A step of the job itself. The root is tried to be read where it can be, its walk fails
where a name cannot be stored, and nobody requests anything. -/
def JobStep (env : ScanEnvironment) (s : RootsJob) : Instant × RootsEvent → Prop
  | (_, .scan .failRoot) => ∀ row, s.selected = some row → env.unreadable row.absolutePath = true
  | (_, .scan (.prepare workItems seen)) => seen = none ∧ ∀ row, s.selected = some row →
      env.unreadable row.absolutePath = false ∧ workItems = env.workItems row.absolutePath
  | (_, .scan .crash) => ∃ scan row, s.scan.scan? = some scan ∧ scan.stage = .preparing ∧
      s.selected = some row ∧ env.unreadable row.absolutePath = false ∧
      env.storable row.absolutePath = false
  | (_, .scan .endJob) => s.roots = []
  | (_, .upsert) | (_, .select _) | (_, .scan (.work _ _)) | (_, .scan (.raise _))
  | (_, .scan .join) | (_, .scan .commit) => True
  | _ => False

/-- A worker that ends with an exception hands over. -/
def HandsOverIn (s : RootsJob) : Instant × RootsEvent → Prop
  | (now, .scan event) => HandsOver s.scan (now, event)
  | _ => True

/-- Every readable root has been scanned and committed, and every other recorded as failed. -/
def Isolates (env : ScanEnvironment) (base : CatalogDb) (roots : List CatalogRootSpec)
    (db : CatalogDb) : Prop :=
  ∀ root ∈ roots, ∃ id, db.Registers root id ∧
    if env.unreadable root.path then FailedSince base db id
    else ScannedSince base db id (env.workItems root.path)

/-! ## Steps of the job -/

/-- What a step of the job does. -/
inductive RootsStep (config : List CatalogRootSpec) (s : RootsJob) (now : Instant) :
    RootsEvent → RootsJob → Prop
  | upserted {job : ScanJob} {root : CatalogRootSpec} {rest : List CatalogRootSpec}
      {catalog : CatalogState} (hjob : s.scan.job = some job) (hcurrent : job.current = none)
      (hroots : s.roots ≠ []) (hunsynced : s.unsynced = root :: rest)
      (hcall : s.scan.catalog.step (now, .upsertStorageRoot root) = some catalog) :
      RootsStep config s now .upsert
        { s with scan := { s.scan with catalog }, unsynced := rest }
  | refused {job : ScanJob} {root : CatalogRootSpec} {rest : List CatalogRootSpec}
      (hjob : s.scan.job = some job) (hcurrent : job.current = none) (hroots : s.roots ≠ [])
      (hunsynced : s.unsynced = root :: rest)
      (hrun : s.scan.catalog.db.upsertStorageRoot now root = none) :
      RootsStep config s now .upsert { s with scan := { s.scan with job := none } }
  | selected {sessionId : SessionId} {job : ScanJob} {root : CatalogRootSpec}
      {rest : List CatalogRootSpec} {row : StorageRoot} {scan : ScanSystem}
      (hjob : s.scan.job = some job) (hroots : s.roots = root :: rest) (hunsynced : s.unsynced = [])
      (hrow : s.scan.catalog.db.listStorageRoots.find? (fun row => row.slug = root.slug) =
        some row)
      (hstep : ScanSystem.step
        { s.scan with job := some { job with targets := [.fresh row.id] } }
        (now, .select sessionId) = some scan) :
      RootsStep config s now (.select sessionId) ⟨scan, rest, config, some row⟩
  | scanned {event : ScanEvent} {scan : ScanSystem} (hroot : event.ofRoot = true)
      (hstep : s.scan.step (now, event) = some scan) :
      RootsStep config s now (.scan event) { s with scan }

theorem rootsStep_of_step {config : List CatalogRootSpec} {s t : RootsJob} {now : Instant}
    {event : RootsEvent} (hstep : s.step config (now, event) = some t) :
    RootsStep config s now event t := by
  cases event with
  | upsert =>
      obtain ⟨job, hjob, hnext⟩ := Option.bind_eq_some_iff.mp hstep
      split at hnext
      · next root rest roots unsynced hroots hunsynced =>
          split at hnext
          · cases hnext
          · next hready =>
              simp only [Bool.or_eq_true, decide_eq_true_eq, not_or, Bool.not_eq_true,
                Option.isSome_eq_false_iff, Option.isNone_iff_eq_none, not_lt] at hready
              have hne : s.roots ≠ [] := by
                rw [hroots]
                exact List.cons_ne_nil _ _
              split at hnext
              · next db hrun =>
                  cases hnext
                  exact .upserted hjob hready.1 hne hunsynced
                    (CatalogState.step_eq_some_iff.mpr ⟨hready.2, hrun, rfl⟩)
              · next hrun =>
                  cases hnext
                  exact .refused hjob hready.1 hne hunsynced hrun
      · cases hnext
  | select sessionId =>
      obtain ⟨job, hjob, hnext⟩ := Option.bind_eq_some_iff.mp hstep
      split at hnext
      · next root rest hroots hunsynced =>
          obtain ⟨row, hrow, hnext⟩ := Option.bind_eq_some_iff.mp hnext
          obtain ⟨scan, hscan, hnext⟩ := Option.bind_eq_some_iff.mp hnext
          cases hnext
          exact .selected hjob hroots hunsynced hrow hscan
      · cases hnext
  | scan event =>
      simp only [RootsJob.step] at hstep
      split at hstep
      · next hroot =>
          obtain ⟨scan, hscan, rfl⟩ := Option.map_eq_some_iff.mp hstep
          exact .scanned hroot hscan
      · cases hstep

/-! ## Where a job is -/

/-- The stages of an undisturbed scan. -/
def ScanStage.undisturbed : ScanStage → Bool
  | .interrupted _ => false
  | .requeued _ => false
  | _ => true

/-- The worker is about to give its row back and return. -/
def WorkerPhase.leaving : WorkerPhase → Bool
  | .leave _ | .leaveStopped => true
  | _ => false

/-- A root the job is done with; its items have been applied if every worker handed over. -/
structure IsDone (harmless : Prop) (env : ScanEnvironment) (db : CatalogDb) (entry : DoneRoot) :
    Prop where
  registered : db.Registers entry.root entry.rootId
  readable : env.unreadable entry.root.path = false
  storable : env.storable entry.root.path = true
  scanned : harmless → ∀ item ∈ env.workItems entry.root.path, AppliedIn db entry.sessionId item

/-- The root the job is at, and its row. -/
structure RootAt (harmless : Prop) (env : ScanEnvironment) (roots : List CatalogRootSpec)
    (done : List DoneRoot) (s : RootsJob) (collected : Bool) (scan : RootScan) (row : StorageRoot) :
    Prop where
  selected : s.selected = some row
  listed : row ∈ s.scan.catalog.db.storageRoot.rows
  root : scan.storageRootId = row.id
  split : roots = done.map (·.root) ++ row.spec :: s.roots
  unlimited : scan.stopReason = none ∧ scan.maxFiles = none
  stage : scan.stage.undisturbed = true
  walked : scan.stage = .preparing ∨
    env.unreadable row.absolutePath = false ∧ env.storable row.absolutePath = true
  workers : ∀ workers, scan.stage = .scanning workers →
    collected = true ∧ ∀ phase ∈ workers, phase.leaving = false
  queued : scan.stage ≠ .preparing → ∀ item ∈ env.workItems row.absolutePath,
    ∃ queued ∈ s.scan.catalog.db.scanDirectoryQueue.rows,
      queued.key = (scan.sessionId, item.relativePath)

/-- A job that nobody has interfered with, with the roots it has committed so far. -/
structure JobAt (harmless : Prop) (env : ScanEnvironment) (base : CatalogDb)
    (config roots : List CatalogRootSpec) (done : List DoneRoot) (s : RootsJob) (job : ScanJob) :
    Prop where
  running : s.scan.job = some job
  control : s.scan.control = ⟨false, false⟩
  unlimited : job.maxFiles = none
  paused : job.controller.paused = []
  stopped : job.controller.stopped = []
  registry : RegistryAt base config s.unsynced s.scan.catalog.db
  ledger : Ledger base s.scan.catalog.db done (job.current.map RootScan.keys)
  isDone : ∀ entry ∈ done, IsDone harmless env s.scan.catalog.db entry
  synced : done ≠ [] ∨ job.current ≠ none → Syncable config base
  accounted : harmless → Accounted s.scan
  between : job.current = none → roots = done.map (·.root) ++ s.roots
  current : ∀ scan, job.current = some scan →
    ∃ row, RootAt harmless env roots done s job.controller.collectorFinished scan row

/-- How a job can have ended. -/
inductive JobEnded (harmless : Prop) (env : ScanEnvironment) (base db : CatalogDb)
    (config roots : List CatalogRootSpec) (done : List DoneRoot) : Prop
  | finished (hroots : roots = done.map (·.root))
      (hdone : ∀ entry ∈ done, IsDone harmless env db entry)
      (hsynced : roots ≠ [] → Syncable config base)
      (hcommitted : ∀ entry ∈ done, CommittedSession base db entry.rootId entry.sessionId)
  | failed (rest : List CatalogRootSpec) (row : StorageRoot) (hrow : row ∈ db.storageRoot.rows)
      (hroots : roots = done.map (·.root) ++ row.spec :: rest)
      (hdone : ∀ entry ∈ done, IsDone harmless env db entry) (hsynced : Syncable config base)
      (hcommitted : ∀ entry ∈ done, CommittedSession base db entry.rootId entry.sessionId)
      (hunreadable : env.unreadable row.absolutePath = true) (hfailed : FailedSince base db row.id)
      (htouched : Touched base db (done.map (·.rootId) ++ [row.id]))
      (hids : ∀ a ∈ db.storageRoot.rows, ∀ b ∈ db.storageRoot.rows, a.id = b.id → a = b)
  | raised (rest : List CatalogRootSpec) (row : StorageRoot) (hrow : row ∈ db.storageRoot.rows)
      (hroots : roots = done.map (·.root) ++ row.spec :: rest)
      (hreadable : env.unreadable row.absolutePath = false)
      (hstorable : env.storable row.absolutePath = false)
      (hcommitted : ¬ CommittedSince base db row.id)
  | refused (hroots : roots ≠ []) (hdone : done = []) (hsync : ¬ Syncable config base)
      (htouched : Touched base db [])

/-- A job that runs or has ended. -/
def JobSoFar (harmless : Prop) (env : ScanEnvironment) (base : CatalogDb)
    (config roots : List CatalogRootSpec) (s : RootsJob) : Prop :=
  (∃ done job, JobAt harmless env base config roots done s job) ∨
    s.scan.job = none ∧ ∃ done, JobEnded harmless env base s.scan.catalog.db config roots done

/-! ## One step -/

section Step

variable {harmless : Prop} {env : ScanEnvironment} {base db db' : CatalogDb}
  {config roots : List CatalogRootSpec} {done : List DoneRoot} {s t : RootsJob} {job : ScanJob}
  {now : Instant} {scan next : RootScan} {row : StorageRoot} {entry : DoneRoot}

theorem IsDone.kept (h : IsDone harmless env db entry)
    (hregistered : db.Registers entry.root entry.rootId → db'.Registers entry.root entry.rootId)
    (hkept : QueueKept db db') : IsDone harmless env db' entry where
  registered := hregistered h.registered
  readable := h.readable
  storable := h.storable
  scanned := fun hharmless item hitem => (h.scanned hharmless item hitem).kept hkept

/-- A call that keeps the table of the roots keeps what is done. -/
theorem IsDone.same (h : IsDone harmless env db entry) (hroots : db'.storageRoot = db.storageRoot)
    (hkept : QueueKept db db') : IsDone harmless env db' entry := by
  refine h.kept ?_ hkept
  unfold CatalogDb.Registers
  rw [hroots]
  exact id

/-- What a worker of an undisturbed job leaves as it is. -/
theorem worker_undisturbed {worker : ActorId} {read : ObservedBatch}
    {shared shared' : WorkerShared} {phase next : WorkerPhase}
    (hstep : WorkerStep scan ⟨false, false⟩ now worker read shared phase next shared')
    (hphase : phase.leaving = false) (hstopped : shared.controller.stopped = [])
    (hunlimited : scan.maxFiles = none) :
    shared'.controller.paused = shared.controller.paused ∧
      shared'.controller.stopped = shared.controller.stopped ∧
      shared'.stopReason = shared.stopReason ∧ next.leaving = false := by
  have hwait : ∀ c : ScanRuntimeController, (c.waitUntilRunnable worker).2.paused = c.paused ∧
      (c.waitUntilRunnable worker).2.stopped = c.stopped := by
    intro c
    unfold ScanRuntimeController.waitUntilRunnable
    split
    · exact ⟨rfl, rfl⟩
    · split <;> exact ⟨rfl, rfl⟩
  cases hstep with
  | sees hcontrol => cases hcontrol
  | leaves => cases hphase
  | leavesStopped => cases hphase
  | waitStopped hmem =>
      rw [hstopped] at hmem
      cases hmem
  | waits => exact ⟨(hwait _).1, (hwait _).2, rfl, rfl⟩
  | runs => exact ⟨(hwait _).1, (hwait _).2, rfl, rfl⟩
  | counts =>
      refine ⟨rfl, rfl, ?_, rfl⟩
      simp [RootScan.counted, hunlimited]
  | _ => exact ⟨rfl, rfl, rfl, rfl⟩

/-- The row of the root is the one that was selected. -/
theorem RootAt.of_selected {collected : Bool} {other : StorageRoot}
    (h : RootAt harmless env roots done s collected scan row) (hother : s.selected = some other) :
    other = row :=
  Option.some.inj (hother.symm.trans h.selected)

/-- The job moves on within a root. -/
theorem JobAt.move (h : JobAt harmless env base config roots done s job) {catalog : CatalogState}
    {controller : ScanRuntimeController} (hcurrent : job.current = some scan)
    (hkeys : next.keys = scan.keys) (hsame : SameLedger s.scan.catalog.db catalog.db)
    (hkept : QueueKept s.scan.catalog.db catalog.db) (hpaused : controller.paused = [])
    (hstopped : controller.stopped = [])
    (hnext : ∀ row, RootAt harmless env roots done s job.controller.collectorFinished scan row →
      RootAt harmless env roots done
        { s with scan := { s.scan with catalog }.updateScan { job with controller } next }
        controller.collectorFinished next row)
    (haccounted : harmless →
      Accounted ({ s.scan with catalog }.updateScan { job with controller } next)) :
    JobAt harmless env base config roots done
      { s with scan := { s.scan with catalog }.updateScan { job with controller } next }
      { job with controller, current := some next } := by
  have hledger := h.ledger
  rw [hcurrent] at hledger
  refine ⟨rfl, h.control, h.unlimited, hpaused, hstopped, h.registry.same hsame.roots, ?_,
    fun entry hentry => (h.isDone entry hentry).same hsame.roots hkept, ?_, haccounted, nofun, ?_⟩
  · show Ledger base catalog.db done (some next.keys)
    rw [hkeys]
    exact hledger.same hsame.snapshots hsame.sessions
  · intro _
    exact h.synced (.inr (by simp [hcurrent]))
  · intro other hother
    cases hother
    obtain ⟨row, hrow⟩ := h.current scan hcurrent
    exact ⟨row, hnext row hrow⟩

theorem JobAt.prepare (h : JobAt harmless env base config roots done s job)
    {catalog : CatalogState} (hcurrent : job.current = some scan)
    {workItems : List QueuedWorkItem}
    (hwalk : ∀ row, s.selected = some row →
      env.unreadable row.absolutePath = false ∧ workItems = env.workItems row.absolutePath)
    (hcall : s.scan.catalog.step (now, .seedDirectoryWorkQueue scan.sessionId workItems) =
      some catalog)
    (haccounted : harmless → Accounted ({ s.scan with catalog }.updateScan
      { job with controller := job.controller.markCollectorFinished }
      { scan with
        stage := .scanning (job.controller.actorIds.map fun _ => WorkerPhase.checkControl) })) :
    JobSoFar harmless env base config roots
      { s with
        scan := { s.scan with catalog }.updateScan
          { job with controller := job.controller.markCollectorFinished }
          { scan with
            stage := .scanning
              (job.controller.actorIds.map fun _ => WorkerPhase.checkControl) } } := by
  have hrun := (CatalogState.step_eq_some_iff.mp hcall).2.1
  refine .inl ⟨done, _, h.move hcurrent rfl (sameLedger_seed hrun) (.of_step hcall) h.paused
    h.stopped (fun row hrow => ?_) haccounted⟩
  obtain ⟨hreadable, rfl⟩ := hwalk row hrow.selected
  have hseed := CatalogDb.queue_seedDirectoryWorkQueue hrun
  refine ⟨hrow.selected, ?_, hrow.root, hrow.split, hrow.unlimited, rfl,
    .inr ⟨hreadable, ?_⟩, ?_, ?_⟩
  · show row ∈ catalog.db.storageRoot.rows
    rw [(sameLedger_seed hrun).roots]
    exact hrow.listed
  · unfold ScanEnvironment.storable
    simp only [StoreOp.run, CatalogDb.seedDirectoryWorkQueue] at hrun
    split at hrun
    · next hempty => rw [List.isEmpty_iff.mp hempty, List.all_nil]
    · split at hrun
      · cases hrun
      · next hok =>
          simp only [Bool.or_eq_true, Bool.not_eq_true', not_or, Bool.not_eq_false] at hok
          exact hok.2
  · intro workers hscanning
    cases hscanning
    refine ⟨rfl, fun phase hphase => ?_⟩
    obtain ⟨-, -, rfl⟩ := List.mem_map.mp hphase
    rfl
  · intro _ item hitem
    show ∃ queued ∈ catalog.db.scanDirectoryQueue.rows, queued.key = _
    obtain ⟨-, ⟨hnone, -⟩ | ⟨-, hseeded⟩⟩ := hseed
    · rw [hnone] at hitem
      cases hitem
    · rw [hseeded]
      exact CatalogDb.exists_seeded hitem

/-- Only the threads have moved on. -/
theorem JobAt.scanning (h : JobAt harmless env base config roots done s job)
    {workers : List WorkerPhase} {catalog : CatalogState} {controller : ScanRuntimeController}
    (workers' : List WorkerPhase) (filesSeen : Nat) (hcurrent : job.current = some scan)
    (hstage : scan.stage = .scanning workers) (hsame : SameLedger s.scan.catalog.db catalog.db)
    (hkept : QueueKept s.scan.catalog.db catalog.db) (hpaused : controller.paused = [])
    (hstopped : controller.stopped = []) (hcollected : controller.collectorFinished = true)
    (hphases : ∀ phase ∈ workers', phase.leaving = false)
    (haccounted : harmless → Accounted ({ s.scan with catalog }.updateScan { job with controller }
      { scan with filesSeen, stage := .scanning workers' })) :
    JobSoFar harmless env base config roots
      { s with
        scan := { s.scan with catalog }.updateScan { job with controller }
          { scan with filesSeen, stage := .scanning workers' } } := by
  refine .inl ⟨done, _, h.move hcurrent rfl hsame hkept hpaused hstopped (fun row hrow => ?_)
    haccounted⟩
  have hpreparing : scan.stage ≠ .preparing := by
    rw [hstage]
    exact nofun
  refine ⟨hrow.selected, ?_, hrow.root, hrow.split, hrow.unlimited, rfl,
    .inr (hrow.walked.resolve_left hpreparing), ?_, fun _ item hitem => ?_⟩
  · show row ∈ catalog.db.storageRoot.rows
    rw [hsame.roots]
    exact hrow.listed
  · intro phases hscanning
    cases hscanning
    exact ⟨hcollected, hphases⟩
  · obtain ⟨queued, hqueued, hkey⟩ := hrow.queued hpreparing item hitem
    obtain ⟨new, hnew, hsameKey, -⟩ := hkept queued hqueued
    exact ⟨new, hnew, hsameKey.trans hkey⟩

theorem JobAt.complete (h : JobAt harmless env base config roots done s job)
    {workers : List WorkerPhase} (hcurrent : job.current = some scan)
    (hstage : scan.stage = .scanning workers)
    (haccounted : harmless → Accounted (s.scan.updateScan
      { job with controller := job.controller.markScanCompleted }
      { scan with stage := .completing })) :
    JobSoFar harmless env base config roots
      { s with
        scan := s.scan.updateScan { job with controller := job.controller.markScanCompleted }
          { scan with stage := .completing } } := by
  have hsame : SameLedger s.scan.catalog.db s.scan.catalog.db := .refl _
  refine .inl ⟨done, _, h.move hcurrent rfl hsame (.refl _) h.paused h.stopped
    (fun row hrow => ?_) haccounted⟩
  have hpreparing : scan.stage ≠ .preparing := by
    rw [hstage]
    exact nofun
  exact ⟨hrow.selected, hrow.listed, hrow.root, hrow.split, hrow.unlimited, rfl,
    .inr (hrow.walked.resolve_left hpreparing), nofun, fun _ => hrow.queued hpreparing⟩

/-- The targets of a job are no part of the account. -/
theorem Accounted.retarget {s : ScanSystem} (h : Accounted s) (hjob : s.job = some job)
    (targets : List ScanTarget) : Accounted { s with job := some { job with targets } } where
  references := h.references
  actors := fun other hother => by
    cases hother
    exact h.actors job hjob
  stage := fun scan hscan => h.stage scan (by rw [ScanSystem.scan?, hjob]; exact hscan)

theorem JobAt.select (h : JobAt harmless env base config roots done s job)
    (hconfig : ∀ root ∈ roots, root ∈ config) {root : CatalogRootSpec}
    {rest : List CatalogRootSpec} {sessionId : SessionId} {opened : ScanSystem}
    (hroots : s.roots = root :: rest) (hunsynced : s.unsynced = [])
    (hrow : s.scan.catalog.db.listStorageRoots.find? (fun row => row.slug = root.slug) = some row)
    (hstep : ScanSystem.step
      { s.scan with job := some { job with targets := [.fresh row.id] } }
      (now, .select sessionId) = some opened) :
    JobSoFar harmless env base config roots ⟨opened, rest, config, some row⟩ := by
  have haccounted : harmless → Accounted opened := fun hharmless =>
    ((h.accounted hharmless).retarget h.running _).step
      (show HandsOver _ (now, .select sessionId) from trivial) hstep
  cases scanStep_of_step hstep with
  | signalled hevent => cases hevent
  | asked hevent => cases hevent
  | @selected _ selectedId other target later catalog session _ hjob hcurrent htargets hopen
      hsession =>
      cases hjob
      cases htargets
      have hcurrent : job.current = none := hcurrent
      have hsplit := h.between hcurrent
      rw [hroots] at hsplit
      have hregistry := h.registry
      rw [hunsynced] at hregistry
      obtain ⟨hlisted, rfl⟩ := hregistry.registers
        (hconfig root (by rw [hsplit]; simp)) hrow
      obtain ⟨hsyncable, -, hagain⟩ := hregistry.synced
      simp only [ScanSystem.openSession, h.control, Bool.false_eq_true, if_false,
        Option.bind_eq_bind, Option.bind_eq_some_iff] at hopen
      obtain ⟨created, hcreated, hpair⟩ := hopen
      cases hpair
      have hrun := (CatalogState.step_eq_some_iff.mp hcreated).2.1
      have hroot' : catalog.db.storageRoot = s.scan.catalog.db.storageRoot :=
        storageRoot_run rfl hrun
      have hledger := h.ledger
      rw [hcurrent] at hledger
      obtain ⟨hroot, hledger⟩ := hledger.create hrun hsession
      have hid := (Table.find?_eq_some_iff.mp hsession).2
      refine .inl ⟨done, _, rfl, h.control, h.unlimited, h.paused, h.stopped, hagain.same hroot',
        ?_, fun entry hentry => (h.isDone entry hentry).same hroot' (.of_step hcreated),
        fun _ => hsyncable, haccounted, (fun hnone => by cases hnone), ?_⟩
      · rw [← hid]
        exact hledger
      · intro scan hscan
        cases hscan
        refine ⟨row, rfl, ?_, hroot, hsplit, ⟨rfl, h.unlimited⟩, rfl, .inl rfl,
          (fun workers hscanning => by cases hscanning), fun hpreparing => absurd rfl hpreparing⟩
        show row ∈ catalog.db.storageRoot.rows
        rw [hroot']
        exact hlisted

theorem JobAt.upsert (h : JobAt harmless env base config roots done s job)
    (hsorted : config.Pairwise fun a b => a.slug < b.slug)
    (hconfig : ∀ root ∈ roots, root ∈ config) {root : CatalogRootSpec}
    {rest : List CatalogRootSpec} {catalog : CatalogState} (hcurrent : job.current = none)
    (hunsynced : s.unsynced = root :: rest)
    (hcall : s.scan.catalog.step (now, .upsertStorageRoot root) = some catalog) :
    JobSoFar harmless env base config roots
      { s with scan := { s.scan with catalog }, unsynced := rest } := by
  have hrun : s.scan.catalog.db.upsertStorageRoot now root = some catalog.db :=
    (CatalogState.step_eq_some_iff.mp hcall).2.1
  have hregistry := h.registry
  rw [hunsynced] at hregistry
  have hkept : SameLedger s.scan.catalog.db { catalog.db with
      storageRoot := s.scan.catalog.db.storageRoot } := by
    obtain ⟨_, hdb⟩ := CatalogDb.of_upsertStorageRoot hrun
    rw [hdb]
    exact .refl _
  have hledger := h.ledger
  refine .inl ⟨done, job, h.running, h.control, h.unlimited, h.paused, h.stopped,
    hregistry.upsert hsorted hrun, hledger.same hkept.snapshots hkept.sessions,
    fun entry hentry => (h.isDone entry hentry).kept ?_ (.of_step hcall), h.synced,
    fun hharmless => (h.accounted hharmless).syncRoot hcall, h.between, fun scan hscan => ?_⟩
  · intro hregistered
    refine hregistered.upsert (fun hslug => ?_) hrun
    obtain ⟨written, hwritten, -⟩ := hregistry.written
    have hother : root ∈ config := by
      rw [hwritten]
      simp
    have hentry : entry.root ∈ config := by
      refine hconfig _ ?_
      rw [h.between hcurrent]
      exact List.mem_append_left _ (List.mem_map_of_mem hentry)
    exact spec_eq_of_slug_eq hsorted hother hentry hslug
  · rw [hcurrent] at hscan
    cases hscan

theorem JobAt.refused (h : JobAt harmless env base config roots done s job)
    (hsorted : config.Pairwise fun a b => a.slug < b.slug) {root : CatalogRootSpec}
    {rest : List CatalogRootSpec} (hcurrent : job.current = none) (hroots : s.roots ≠ [])
    (hunsynced : s.unsynced = root :: rest)
    (hrun : s.scan.catalog.db.upsertStorageRoot now root = none) :
    JobSoFar harmless env base config roots { s with scan := { s.scan with job := none } } := by
  have hregistry := h.registry
  rw [hunsynced] at hregistry
  have hrefused := hregistry.refused hsorted hrun
  have hdone : done = [] := by
    by_contra hdone
    exact hrefused (h.synced (.inl hdone))
  have hledger := h.ledger
  rw [hcurrent] at hledger
  subst hdone
  refine .inr ⟨rfl, [], .refused ?_ rfl hrefused hledger.touched⟩
  rw [h.between hcurrent]
  exact hroots

theorem JobAt.commit (h : JobAt harmless env base config roots done s job) {catalog : CatalogState}
    (hcurrent : job.current = some scan) (hstage : scan.stage = .completing)
    (hcall : s.scan.catalog.step (now, .commitScanSession scan.sessionId) = some catalog)
    (haccounted : harmless → Accounted
      { s.scan with catalog, job := some { job with current := none } }) :
    JobSoFar harmless env base config roots
      { s with scan := { s.scan with catalog, job := some { job with current := none } } } := by
  have hrun := (CatalogState.step_eq_some_iff.mp hcall).2.1
  obtain ⟨row, hrow⟩ := h.current scan hcurrent
  have hroots : catalog.db.storageRoot = s.scan.catalog.db.storageRoot := storageRoot_run rfl hrun
  have hpreparing : scan.stage ≠ .preparing := by
    rw [hstage]
    exact nofun
  obtain ⟨hreadable, hstorable⟩ := hrow.walked.resolve_left hpreparing
  have hledger := h.ledger
  rw [hcurrent] at hledger
  refine .inl ⟨done ++ [⟨row.spec, scan.storageRootId, scan.sessionId⟩], _, rfl, h.control,
    h.unlimited, h.paused, h.stopped, h.registry.same hroots, hledger.commit row.spec hrun, ?_,
    fun _ => h.synced (.inr (by simp [hcurrent])), haccounted, fun _ => ?_, nofun⟩
  · intro entry hentry
    rcases List.mem_append.mp hentry with hold | hlast
    · exact (h.isDone entry hold).same hroots (.of_step hcall)
    · rw [List.mem_singleton.mp hlast]
      refine ⟨⟨row, ?_, rfl, hrow.root.symm⟩, hreadable, hstorable, fun hharmless item hitem => ?_⟩
      · show row ∈ catalog.db.storageRoot.rows
        rw [hroots]
        exact hrow.listed
      · -- no row of the session is pending or in processing when it is committed
        have hfinished := (h.accounted hharmless).stageAt h.running hcurrent
        unfold StageAccounts at hfinished
        rw [hstage] at hfinished
        obtain ⟨hpending, hprocessing⟩ := hfinished
        obtain ⟨queued, hqueued, hkey⟩ := hrow.queued hpreparing item hitem
        have hsession : queued.scanSessionId = scan.sessionId := congrArg Prod.fst hkey
        have happlied : AppliedIn s.scan.catalog.db scan.sessionId item := by
          refine ⟨queued, hqueued, hkey, ?_⟩
          cases hstatus : queued.status with
          | pending => exact absurd hstatus (hpending queued hqueued hsession)
          | processing => exact absurd hstatus (hprocessing queued hqueued hsession)
          | done => rfl
        exact happlied.kept (.of_step hcall)
  · rw [hrow.split]
    simp

theorem JobAt.fail (h : JobAt harmless env base config roots done s job) {catalog : CatalogState}
    (hcurrent : job.current = some scan)
    (hunreadable : ∀ row, s.selected = some row → env.unreadable row.absolutePath = true)
    (hcall : s.scan.catalog.step (now, .markSessionFailed scan.sessionId) = some catalog) :
    JobSoFar harmless env base config roots
      { s with scan := { s.scan with catalog, job := none } } := by
  have hrun := (CatalogState.step_eq_some_iff.mp hcall).2.1
  have hdb : catalog.db = s.scan.catalog.db.markSessionFailed now scan.sessionId :=
    (Option.some.inj hrun).symm
  obtain ⟨row, hrow⟩ := h.current scan hcurrent
  have hroots : catalog.db.storageRoot = s.scan.catalog.db.storageRoot := storageRoot_run rfl hrun
  have hledger := h.ledger
  rw [hcurrent] at hledger
  obtain ⟨hfailed, hcommitted, htouched⟩ := hledger.fail now
  rw [← hdb] at hfailed hcommitted htouched
  have hid : scan.keys.2.1 = row.id := hrow.root
  rw [hid] at hfailed htouched
  refine .inr ⟨rfl, done, .failed s.roots row ?_ hrow.split
    (fun entry hentry => (h.isDone entry hentry).same hroots (.of_step hcall))
    (h.synced (.inr (by simp [hcurrent]))) hcommitted (hunreadable row hrow.selected) hfailed
    htouched ?_⟩
  · show row ∈ catalog.db.storageRoot.rows
    rw [hroots]
    exact hrow.listed
  · show ∀ a ∈ catalog.db.storageRoot.rows, _
    rw [hroots]
    exact h.registry.ids

/-- The root the job is at is none of those it is done with. -/
theorem JobAt.not_done (h : JobAt harmless env base config roots done s job)
    (hnodup : roots.Nodup) {collected : Bool}
    (hrow : RootAt harmless env roots done s collected scan row) :
    row.id ∉ done.map (·.rootId) := by
  intro hmem
  obtain ⟨entry, hentry, hid⟩ := List.mem_map.mp hmem
  have hregistered := (h.isDone entry hentry).registered
  rw [hid] at hregistered
  have hsame : entry.root = row.spec :=
    hregistered.unique h.registry.ids ⟨row, hrow.listed, rfl, rfl⟩
  rw [hrow.split] at hnodup
  exact (List.nodup_append.mp hnodup).2.2 _ (List.mem_map_of_mem hentry) _ List.mem_cons_self hsame

theorem JobAt.step (hsorted : config.Pairwise fun a b => a.slug < b.slug)
    (hconfig : ∀ root ∈ roots, root ∈ config) (hnodup : roots.Nodup)
    (h : JobAt harmless env base config roots done s job) {event : RootsEvent}
    (hok : JobStep env s (now, event)) (hover : harmless → HandsOverIn s (now, event))
    (hstep : s.step config (now, event) = some t) : JobSoFar harmless env base config roots t := by
  cases rootsStep_of_step hstep with
  | upserted hjob hcurrent hroots hunsynced hcall =>
      cases h.running.symm.trans hjob
      exact h.upsert hsorted hconfig hcurrent hunsynced hcall
  | refused hjob hcurrent hroots hunsynced hrun =>
      cases h.running.symm.trans hjob
      exact h.refused hsorted hcurrent hroots hunsynced hrun
  | selected hjob hroots hunsynced hrow hopened =>
      cases h.running.symm.trans hjob
      exact h.select hconfig hroots hunsynced hrow hopened
  | @scanned event scan hroot hscan =>
      have haccounted : harmless → Accounted scan := fun hharmless =>
        (h.accounted hharmless).step (hover hharmless) hscan
      cases scanStep_of_step hscan with
      | signalled hevent => cases event <;> first | exact hok.elim | cases hevent
      | asked hevent => cases event <;> first | exact hok.elim | cases hevent
      | rootFailed hjob hcurrent hstage hcall =>
          cases h.running.symm.trans hjob
          exact h.fail hcurrent hok hcall
      | prepared hjob hcurrent hstage hcall =>
          cases h.running.symm.trans hjob
          exact h.prepare hcurrent hok.2 hcall haccounted
      | preparedInterrupted => cases hok.1
      | @worked index read other scan workers phase next shared hjob hcurrent hstage
        hphase hworker =>
          cases h.running.symm.trans hjob
          obtain ⟨row, hrow⟩ := h.current scan hcurrent
          obtain ⟨hcollected, hphases⟩ := hrow.workers workers hstage
          obtain ⟨hreason, hlimit⟩ := hrow.unlimited
          have hframe := (workerStep_frame hworker).1
          rw [h.control] at hworker
          obtain ⟨hpaused, hstopped, hkept, hnext⟩ := worker_undisturbed hworker
            (hphases phase (List.mem_of_getElem? hphase)) h.stopped hlimit
          have hset : ∀ other ∈ workers.set index next, other.leaving = false := by
            intro other hother
            rcases List.mem_or_eq_of_mem_set hother with hold | rfl
            · exact hphases other hold
            · exact hnext
          have hqueue : QueueKept s.scan.catalog.db shared.catalog.db := by
            rcases hframe with hsame | ⟨op, hop⟩
            · rw [hsame]
              exact .refl _
            · exact .of_step hop
          have hafter := h.scanning (workers.set index next) shared.filesSeen hcurrent hstage
            hworker.sameLedger hqueue (hpaused.trans h.paused) (hstopped.trans h.stopped)
            (hworker.collectorFinished.trans hcollected) hset
          rw [hkept] at haccounted ⊢
          exact hafter haccounted
      | @workerRaised index other scan workers phase hjob hcurrent hstage hphase hlive =>
          cases h.running.symm.trans hjob
          obtain ⟨row, hrow⟩ := h.current scan hcurrent
          obtain ⟨hcollected, hphases⟩ := hrow.workers workers hstage
          refine h.scanning (workers.set index .raised) scan.filesSeen hcurrent hstage (.refl _)
            (.refl _) h.paused h.stopped hcollected (fun other hother => ?_) haccounted
          rcases List.mem_or_eq_of_mem_set hother with hold | rfl
          · exact hphases other hold
          · rfl
      | joinedInterrupted hjob hcurrent hstage hlive hreason =>
          cases h.running.symm.trans hjob
          obtain ⟨row, hrow⟩ := h.current _ hcurrent
          rw [hrow.unlimited.1] at hreason
          cases hreason
      | joined hjob hcurrent hstage hlive hreason =>
          cases h.running.symm.trans hjob
          exact h.complete hcurrent hstage haccounted
      | committed hjob hcurrent hstage hcall =>
          cases h.running.symm.trans hjob
          exact h.commit hcurrent hstage hcall haccounted
      | ended hjob hcurrent =>
          cases h.running.symm.trans hjob
          have hall := h.between hcurrent
          rw [show s.roots = [] from hok, List.append_nil] at hall
          refine .inr ⟨rfl, done, .finished hall h.isDone (fun hne => h.synced (.inl ?_))
            h.ledger.committed⟩
          rintro rfl
          exact hne hall
      | crashed =>
          obtain ⟨scan, row, hscan, hstage, hselected, hreadable, hstorable⟩ := hok
          have hcurrent : job.current = some scan := by
            rw [ScanSystem.scan?, h.running] at hscan
            exact hscan
          obtain ⟨other, hrow⟩ := h.current scan hcurrent
          cases hrow.of_selected hselected
          have hledger := h.ledger
          rw [hcurrent] at hledger
          have hid : scan.keys.2.1 = row.id := hrow.root
          have hnot := hledger.not_committed (hid ▸ h.not_done hnodup hrow)
          rw [hid] at hnot
          exact .inr ⟨rfl, done,
            .raised s.roots row hrow.listed hrow.split hreadable hstorable hnot⟩
      | _ => exact hok.elim

end Step

/-! ## How a job ends -/

/-- No step is left once the job has ended. -/
theorem no_step_of_ended {env : ScanEnvironment} {config : List CatalogRootSpec} {s t : RootsJob}
    {label : Instant × RootsEvent} (hnone : s.scan.job = none) (hok : JobStep env s label) :
    s.step config label ≠ some t := by
  obtain ⟨now, event⟩ := label
  intro hstep
  cases rootsStep_of_step hstep with
  | upserted hjob | refused hjob | selected hjob =>
      rw [hnone] at hjob
      cases hjob
  | @scanned event scan hroot hscan =>
      cases scanStep_of_step hscan with
      | signalled hevent => cases event <;> first | exact hok.elim | cases hevent
      | asked hevent => cases event <;> first | exact hok.elim | cases hevent
      | rootFailed hjob | prepared hjob | preparedInterrupted hjob | worked hjob
        | workerRaised hjob | joinedInterrupted hjob | joined hjob | committed hjob | ended hjob =>
          rw [hnone] at hjob
          cases hjob
      | crashed =>
          obtain ⟨scan, row, hscan, -⟩ := hok
          rw [ScanSystem.scan?, hnone] at hscan
          cases hscan
      | _ => exact hok.elim

theorem JobSoFar.step {harmless : Prop} {env : ScanEnvironment} {base : CatalogDb}
    {config roots : List CatalogRootSpec} {s t : RootsJob} {label : Instant × RootsEvent}
    (hsorted : config.Pairwise fun a b => a.slug < b.slug)
    (hconfig : ∀ root ∈ roots, root ∈ config) (hnodup : roots.Nodup)
    (h : JobSoFar harmless env base config roots s) (hok : JobStep env s label)
    (hover : harmless → HandsOverIn s label) (hstep : s.step config label = some t) :
    JobSoFar harmless env base config roots t := by
  rcases h with ⟨done, job, hat⟩ | ⟨hnone, -⟩
  · exact hat.step hsorted hconfig hnodup hok hover hstep
  · exact absurd hstep (no_step_of_ended hnone hok)

section Ended

variable {env : ScanEnvironment} {base db : CatalogDb} {config roots : List CatalogRootSpec}
  {done : List DoneRoot} {root : CatalogRootSpec}

/-- A root that nothing was added for is not isolated. -/
theorem not_isolates_of_untouched {ids : List Nat} (htouched : Touched base db ids)
    (hroot : root ∈ roots) (hnew : ∀ id ∈ ids, ¬ db.Registers root id) :
    ¬ Isolates env base roots db := by
  intro hall
  obtain ⟨id, hregisters, hone⟩ := hall root hroot
  obtain ⟨hcommitted, hfailed⟩ := htouched.untouched fun hmem => hnew id hmem hregisters
  split at hone
  · exact hfailed hone
  · exact hcommitted hone.committedSince

/-- A root that is done is isolated. -/
theorem IsDone.isolated {entry : DoneRoot} (h : IsDone True env db entry)
    (hcommitted : CommittedSession base db entry.rootId entry.sessionId) :
    ∃ id, db.Registers entry.root id ∧
      if env.unreadable entry.root.path then FailedSince base db id
      else ScannedSince base db id (env.workItems entry.root.path) := by
  refine ⟨entry.rootId, h.registered, ?_⟩
  rw [h.readable, if_neg Bool.false_ne_true]
  exact ⟨entry.sessionId, hcommitted, h.scanned trivial⟩

/-- The roots that a job has come to are none of those behind the one it is at. -/
theorem not_registers_of_later {row : StorageRoot} {next : CatalogRootSpec}
    {later : List CatalogRootSpec}
    (hnodup : (done.map (·.root) ++ row.spec :: next :: later).Nodup)
    (hrow : row ∈ db.storageRoot.rows) (hdone : ∀ entry ∈ done, IsDone True env db entry)
    (hids : ∀ a ∈ db.storageRoot.rows, ∀ b ∈ db.storageRoot.rows, a.id = b.id → a = b) :
    ∀ id ∈ done.map (·.rootId) ++ [row.id], ¬ db.Registers next id := by
  intro id hid hregisters
  rw [← List.singleton_append, ← List.append_assoc] at hnodup
  have hapart := (List.nodup_append.mp hnodup).2.2
  rcases List.mem_append.mp hid with hmem | hlast
  · obtain ⟨entry, hentry, rfl⟩ := List.mem_map.mp hmem
    refine hapart entry.root ?_ next List.mem_cons_self
      ((hdone entry hentry).registered.unique hids hregisters)
    exact List.mem_append_left _ (List.mem_map_of_mem hentry)
  · rw [List.mem_singleton.mp hlast] at hregisters
    have hown : db.Registers row.spec row.id := ⟨row, hrow, rfl, rfl⟩
    exact hapart row.spec (List.mem_append_right _ List.mem_cons_self) next
      List.mem_cons_self (hown.unique hids hregisters)

/-- When the workers hand over, a job isolates the roots it cannot read exactly when the
roots can be written to the registry, only the last one cannot be read, and every name it
finds below the others can be stored. -/
theorem JobEnded.isolates_iff (hnodup : roots.Nodup)
    (h : JobEnded True env base db config roots done) :
    Isolates env base roots db ↔ (roots ≠ [] → Syncable config base) ∧
      (∀ root ∈ roots.dropLast, env.unreadable root.path = false) ∧
        ∀ root ∈ roots, env.unreadable root.path = false → env.storable root.path = true := by
  cases h with
  | finished hroots hdone hsynced hcommitted =>
      subst hroots
      have hentry : ∀ root ∈ done.map (·.root), ∃ entry ∈ done, entry.root = root :=
        fun root hroot => List.mem_map.mp hroot
      refine iff_of_true (fun root hroot => ?_)
        ⟨hsynced, fun root hroot => ?_, fun root hroot _ => ?_⟩
      · obtain ⟨entry, hmem, rfl⟩ := hentry root hroot
        exact (hdone entry hmem).isolated (hcommitted entry hmem)
      · obtain ⟨entry, hmem, rfl⟩ := hentry root (List.dropLast_subset _ hroot)
        exact (hdone entry hmem).readable
      · obtain ⟨entry, hmem, rfl⟩ := hentry root hroot
        exact (hdone entry hmem).storable
  | failed rest row hrow hroots hdone hsynced hcommitted hunreadable hfailed htouched hids =>
      subst hroots
      cases rest with
      | nil =>
          refine iff_of_true (fun root hroot => ?_)
            ⟨fun _ => hsynced, fun root hroot => ?_, fun root hroot hreadable => ?_⟩
          · rcases List.mem_append.mp hroot with hmem | hlast
            · obtain ⟨entry, hentry, rfl⟩ := List.mem_map.mp hmem
              exact (hdone entry hentry).isolated (hcommitted entry hentry)
            · rw [List.mem_singleton.mp hlast]
              refine ⟨row.id, ⟨row, hrow, rfl, rfl⟩, ?_⟩
              rw [show env.unreadable row.spec.path = true from hunreadable, if_pos rfl]
              exact hfailed
          · rw [List.dropLast_concat] at hroot
            obtain ⟨entry, hentry, rfl⟩ := List.mem_map.mp hroot
            exact (hdone entry hentry).readable
          · rcases List.mem_append.mp hroot with hmem | hlast
            · obtain ⟨entry, hentry, rfl⟩ := List.mem_map.mp hmem
              exact (hdone entry hentry).storable
            · rw [List.mem_singleton.mp hlast] at hreadable
              cases hunreadable.symm.trans hreadable
      | cons next later =>
          have hnext : next ∈ done.map (·.root) ++ row.spec :: next :: later := by simp
          have hnew := not_registers_of_later hnodup hrow hdone hids
          refine iff_of_false (not_isolates_of_untouched htouched hnext hnew) ?_
          rintro ⟨-, hreadable, -⟩
          have hin : row.spec ∈ (done.map (·.root) ++ row.spec :: next :: later).dropLast := by
            rw [List.dropLast_append_of_ne_nil (List.cons_ne_nil _ _)]
            simp
          cases hunreadable.symm.trans (hreadable row.spec hin)
  | raised rest row hrow hroots hreadable hstorable hcommitted =>
      have hin : row.spec ∈ roots := by
        rw [hroots]
        simp
      refine iff_of_false (fun hall => ?_) fun hcondition => ?_
      · obtain ⟨id, ⟨other, hother, hspec, rfl⟩, hone⟩ := hall row.spec hin
        have hsame : other = row :=
          db.storageRoot.eq_of_key_eq hother hrow (congrArg CatalogRootSpec.slug hspec)
        rw [show env.unreadable row.spec.path = false from hreadable,
          if_neg Bool.false_ne_true, hsame] at hone
        exact hcommitted hone.committedSince
      · cases hstorable.symm.trans (hcondition.2.2 row.spec hin hreadable)
  | refused hroots hdone hsync htouched =>
      obtain ⟨root, hroot⟩ := List.exists_mem_of_ne_nil _ hroots
      exact iff_of_false (not_isolates_of_untouched htouched hroot nofun)
        fun hcondition => hsync (hcondition.1 hroots)

end Ended

end ImmichDoctor.Catalog
