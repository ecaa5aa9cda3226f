import ImmichDoctor.Catalog.Proofs.JobIsolation
import Mathlib.Data.Fintype.EquivFin
/-!
# Scan jobs come to an end

The worker threads of an undisturbed scan empty the work queue, and the job comes from
one root to the next, so it cannot run for ever. Until it has ended it can go on.
-/

namespace ImmichDoctor.Catalog

open ImmichDoctor.Library
open ImmichDoctor.Storage

/-! ## The work that is left -/

/-- The pending rows of a session. -/
def CatalogDb.pendingCount (db : CatalogDb) (sessionId : SessionId) : Nat :=
  db.scanDirectoryQueue.total fun row =>
    if row.scanSessionId = sessionId ∧ row.status = .pending then 1 else 0

section Pending

variable {db db' : CatalogDb} {now : Instant} {sessionId : SessionId}

theorem pendingCount_claim {workerId : PyStr} {row : DirectoryQueueRow}
    (h : db.claimNextDirectory sessionId workerId = some (row, db')) :
    db'.pendingCount sessionId + 1 = db.pendingCount sessionId := by
  obtain ⟨hmem, hsession, hstatus, -⟩ := CatalogDb.queue_claimNextDirectory h
  simp only [CatalogDb.claimNextDirectory, Option.bind_eq_bind, Option.bind_eq_some_iff,
    Option.some.injEq, Prod.mk.injEq] at h
  obtain ⟨found, -, rfl, rfl⟩ := h
  let weight (row : DirectoryQueueRow) : Nat :=
    if row.scanSessionId = sessionId ∧ row.status = .pending then 1 else 0
  have hsum : (db.scanDirectoryQueue.updateWhere (fun r => r.key = found.key)
      (DirectoryQueueRow.claimedBy workerId) (DirectoryQueueRow.key_claimedBy workerId)).total
        weight + weight found =
      db.scanDirectoryQueue.total weight + weight (found.claimedBy workerId) :=
    Table.total_updateWhere_key hmem
  simpa [weight, CatalogDb.pendingCount, DirectoryQueueRow.key, hsession, hstatus,
    DirectoryQueueRow.claimedBy] using hsum

theorem pendingCount_apply {application : DirectoryApplication}
    (h : db.applyDirectoryFiles now application = some db') :
    db'.pendingCount sessionId ≤ db.pendingCount sessionId := by
  unfold CatalogDb.applyDirectoryFiles at h
  split at h
  · cases h
    refine Table.total_updateWhere_le (DirectoryQueueRow.key_finished now) fun row _ => ?_
    rw [if_neg]
    · exact Nat.zero_le _
    · rintro ⟨-, hstatus⟩
      cases hstatus
  · cases h

end Pending

/-- How far a worker of an undisturbed scan is from the end of its round. -/
def WorkerPhase.rank : WorkerPhase → Nat
  | .observe _ => 8
  | .apply _ _ => 7
  | .count _ => 6
  | .recheck => 5
  | .checkControl => 4
  | .waitRunnable => 3
  | .claim => 2
  | .claimedNothing | .leave _ | .leaveStopped => 1
  | .returned | .raised => 0

theorem WorkerPhase.rank_pos {phase : WorkerPhase} (hlive : phase.live = true) :
    0 < phase.rank := by
  cases phase <;> first | exact Nat.succ_pos _ | cases hlive

/-- A round takes a row, whose weight is that of a whole round. -/
def roundWeight : Nat := 7

theorem worker_lowers {scan : RootScan} {now : Instant} {worker : ActorId} {read : ObservedBatch}
    {shared shared' : WorkerShared} {phase next : WorkerPhase}
    (hstep : WorkerStep scan ⟨false, false⟩ now worker read shared phase next shared')
    (hpaused : shared.controller.paused = []) (hstopped : shared.controller.stopped = [])
    (hcollected : shared.controller.collectorFinished = true)
    (hphase : phase.leaving = false) :
    next.rank + roundWeight * shared'.catalog.db.pendingCount scan.sessionId <
      phase.rank + roundWeight * shared.catalog.db.pendingCount scan.sessionId := by
  unfold roundWeight
  cases hstep with
  | sees hcontrol => cases hcontrol
  | leaves => cases hphase
  | leavesStopped => cases hphase
  | waitStopped hmem =>
      rw [hstopped] at hmem
      cases hmem
  | waits _ hmem =>
      rw [hpaused] at hmem
      cases hmem
  | claims hcall hclaim =>
      have hdb := (CatalogState.step_eq_some_iff.mp hcall).2.1
      simp only [StoreOp.run, hclaim] at hdb
      have hfewer := pendingCount_claim hclaim
      rw [Option.some.inj hdb] at hfewer
      dsimp only [WorkerPhase.rank]
      omega
  | claimsNothing hcall hclaim =>
      have hdb := (CatalogState.step_eq_some_iff.mp hcall).2.1
      simp only [StoreOp.run, hclaim] at hdb
      dsimp only [WorkerPhase.rank]
      rw [Option.some.inj hdb]
      omega
  | retries hunfinished =>
      rw [hcollected] at hunfinished
      cases hunfinished
  | applies hcall =>
      have hfewer := @pendingCount_apply _ _ _ scan.sessionId _
        (CatalogState.step_eq_some_iff.mp hcall).2.1
      dsimp only [WorkerPhase.rank]
      omega
  | goesOn | runs | ends | observes | counts | halts | repeats =>
      apply Nat.add_lt_add_right
      dsimp only [WorkerPhase.rank]
      omega

def ScanStage.rank : ScanStage → Nat
  | .preparing => 3
  | .scanning _ => 2
  | .completing => 1
  | .interrupted _ | .requeued _ => 0

/-- What the workers of the scan have to do. -/
def RootScan.work (scan : RootScan) (db : CatalogDb) : Nat :=
  match scan.stage with
  | .scanning workers =>
      (workers.map WorkerPhase.rank).sum + roundWeight * db.pendingCount scan.sessionId
  | _ => 0

/-- The stages the job has not come to, with the roots it has to write before each root it
has to scan, and one more for its end. -/
def RootsJob.stagesLeft (config : List CatalogRootSpec) (s : RootsJob) : Nat :=
  (s.scan.job.map fun job => (config.length + 4) * s.roots.length + s.unsynced.length +
    (job.current.map fun scan => scan.stage.rank).getD 0 + 1).getD 0

def RootsJob.workLeft (s : RootsJob) : Nat :=
  (s.scan.scan?.map fun scan => scan.work s.scan.catalog.db).getD 0

/-- The job has come on, or its workers have. -/
def RootsJob.Lowers (config : List CatalogRootSpec) (t s : RootsJob) : Prop :=
  Prod.Lex (· < ·) (· < ·) (t.stagesLeft config, t.workLeft) (s.stagesLeft config, s.workLeft)

section Step

variable {harmless : Prop} {env : ScanEnvironment} {base : CatalogDb}
  {config roots : List CatalogRootSpec} {done : List DoneRoot} {s t : RootsJob} {job : ScanJob}
  {now : Instant}

/-- A step of the workers keeps the stage, and they have less to do. -/
theorem lowers_of_work (catalog : CatalogState) (controller : ScanRuntimeController)
    {scan next : RootScan} {workers workers' : List WorkerPhase} (hjob : s.scan.job = some job)
    (hcurrent : job.current = some scan) (hstage : scan.stage = .scanning workers)
    (hsession : next.sessionId = scan.sessionId)
    (hless : (workers'.map WorkerPhase.rank).sum +
        roundWeight * catalog.db.pendingCount scan.sessionId <
      (workers.map WorkerPhase.rank).sum +
        roundWeight * s.scan.catalog.db.pendingCount scan.sessionId) :
    RootsJob.Lowers config
      { s with
        scan := { s.scan with catalog }.updateScan { job with controller }
          { next with stage := .scanning workers' } } s := by
  have hstages : RootsJob.stagesLeft config { s with
      scan := { s.scan with catalog }.updateScan { job with controller }
        { next with stage := .scanning workers' } } = s.stagesLeft config := by
    simp [RootsJob.stagesLeft, ScanSystem.updateScan, hjob, hcurrent, hstage, ScanStage.rank]
  unfold RootsJob.Lowers
  rw [hstages]
  refine Prod.Lex.right _ ?_
  simpa [RootsJob.workLeft, ScanSystem.updateScan, ScanSystem.scan?, RootScan.work, hjob,
    hcurrent, hstage, hsession] using hless

theorem JobAt.lowers (h : JobAt harmless env base config roots done s job) {event : RootsEvent}
    (hok : JobStep env s (now, event)) (hstep : s.step config (now, event) = some t) :
    t.Lowers config s := by
  cases rootsStep_of_step hstep with
  | upserted hjob hcurrent hroots hunsynced hcall =>
      refine Prod.Lex.left _ _ ?_
      simp only [RootsJob.stagesLeft, hjob, hunsynced, Option.map_some, Option.getD_some,
        List.length_cons]
      omega
  | refused hjob =>
      refine Prod.Lex.left _ _ ?_
      simp [RootsJob.stagesLeft, hjob]
  | @selected sessionId other root rest row scan hjob hroots hunsynced hrow hopened =>
      refine Prod.Lex.left _ _ ?_
      cases scanStep_of_step hopened with
      | signalled hevent => cases hevent
      | asked hevent => cases hevent
      | selected hother hcurrent =>
          cases hother
          simp only [RootsJob.stagesLeft, hjob, hroots, hunsynced, Option.map_some,
            Option.getD_some, List.length_cons, List.length_nil, RootScan.opened, ScanStage.rank,
            Nat.mul_succ]
          omega
  | @scanned event scan hroot hscan =>
      cases scanStep_of_step hscan with
      | signalled hevent => cases event <;> first | exact hok.elim | cases hevent
      | asked hevent => cases event <;> first | exact hok.elim | cases hevent
      | rootFailed hjob =>
          refine Prod.Lex.left _ _ ?_
          simp [RootsJob.stagesLeft, hjob]
      | prepared hjob hcurrent hstage =>
          refine Prod.Lex.left _ _ ?_
          simp [RootsJob.stagesLeft, ScanSystem.updateScan, hjob, hcurrent, hstage, ScanStage.rank]
      | preparedInterrupted => cases hok.1
      | @worked index read other scan workers phase next shared hjob hcurrent hstage
        hphase hworker =>
          cases h.running.symm.trans hjob
          obtain ⟨row, hrow⟩ := h.current scan hcurrent
          obtain ⟨hcollected, hphases⟩ := hrow.workers workers hstage
          rw [h.control] at hworker
          have hlower := worker_lowers hworker h.paused h.stopped hcollected
            (hphases phase (List.mem_of_getElem? hphase))
          refine lowers_of_work shared.catalog shared.controller hjob hcurrent hstage rfl ?_
          have hsum := sum_map_set WorkerPhase.rank hphase next
          dsimp only at hlower
          omega
      | @workerRaised index other scan workers phase hjob hcurrent hstage hphase hlive =>
          refine lowers_of_work s.scan.catalog other.controller hjob hcurrent hstage rfl ?_
          have hsum := sum_map_set WorkerPhase.rank hphase .raised
          have hpos := WorkerPhase.rank_pos hlive
          have hraised : WorkerPhase.raised.rank = 0 := rfl
          omega
      | joinedInterrupted hjob hcurrent hstage hlive hreason =>
          cases h.running.symm.trans hjob
          obtain ⟨row, hrow⟩ := h.current _ hcurrent
          rw [hrow.unlimited.1] at hreason
          cases hreason
      | joined hjob hcurrent hstage =>
          refine Prod.Lex.left _ _ ?_
          simp [RootsJob.stagesLeft, ScanSystem.updateScan, hjob, hcurrent, hstage, ScanStage.rank]
      | committed hjob hcurrent hstage =>
          refine Prod.Lex.left _ _ ?_
          simp [RootsJob.stagesLeft, hjob, hcurrent, hstage, ScanStage.rank]
      | ended hjob =>
          refine Prod.Lex.left _ _ ?_
          simp [RootsJob.stagesLeft, hjob]
      | crashed =>
          refine Prod.Lex.left _ _ ?_
          simp [RootsJob.stagesLeft, h.running]
      | _ => exact hok.elim

/-! ## The job can go on -/

/-- A new session can be opened for a root of the catalog, whatever the catalog holds. -/
theorem exists_createScanSession {db : CatalogDb} {root : Nat} (now : Instant)
    (maxFiles : Option Int) (hroot : (db.storageRootById root).isSome = true) :
    ∃ sessionId db', db.createScanSession now sessionId root maxFiles = some db' := by
  obtain ⟨row, hrow⟩ := Option.isSome_iff_exists.mp hroot
  obtain ⟨sessionId, hfresh⟩ := Infinite.exists_notMem_finset
    ((db.scanSession.rows.map ScanSession.id).toFinset ∪
      (db.scanCollectQueue.rows.map CollectQueueRow.scanSessionId).toFinset)
  rw [Finset.mem_union, List.mem_toFinset, List.mem_toFinset, not_or] at hfresh
  have hsnapshot : ∀ old ∈ db.scanSnapshot.rows,
      old.id ≠ maxColumn ScanSnapshot.id db.scanSnapshot.rows + 1 := by
    intro old hold
    have hle := @le_maxColumn _ ScanSnapshot.id _ _ hold
    omega
  have hsession : ∀ old ∈ db.scanSession.rows, old.id ≠ sessionId := by
    intro old hold heq
    exact hfresh.1 (heq ▸ List.mem_map_of_mem hold)
  have hqueue : ∀ old ∈ db.scanCollectQueue.rows, old.key ≠ (sessionId, []) := by
    intro old hold heq
    have hid : old.scanSessionId = sessionId := congrArg Prod.fst heq
    exact hfresh.2 (hid ▸ List.mem_map_of_mem hold)
  exact ⟨sessionId, _, Option.bind_eq_some_iff.mpr ⟨row, hrow,
    Option.bind_eq_some_iff.mpr ⟨_, Table.insert?_eq_push hsnapshot,
      Option.bind_eq_some_iff.mpr ⟨_, Table.insert?_eq_push hsession,
        Option.bind_eq_some_iff.mpr ⟨_, Table.insert?_eq_push hqueue, rfl⟩⟩⟩⟩⟩

/-- A call that the store accepts can be made now. -/
theorem step_of_run {catalog : CatalogState} {op : StoreOp} {db : CatalogDb}
    (hrun : op.run catalog.clock catalog.db = some db) :
    catalog.step (catalog.clock, op) = some ⟨db, catalog.clock⟩ :=
  CatalogState.step_eq_some_iff.mpr ⟨le_refl catalog.clock, hrun, rfl⟩

/-- An action of a scan is one of the job. -/
theorem isSome_step_scan {event : ScanEvent} (hroot : event.ofRoot = true)
    (hstep : (s.scan.step (now, event)).isSome = true) :
    (s.step config (now, .scan event)).isSome = true := by
  simp only [RootsJob.step, if_pos hroot, Option.isSome_map]
  exact hstep

theorem JobAt.can_upsert (h : JobAt harmless env base config roots done s job)
    {root : CatalogRootSpec} {rest : List CatalogRootSpec} (hcurrent : job.current = none)
    (hroots : s.roots ≠ []) (hunsynced : s.unsynced = root :: rest) :
    (s.step config (s.scan.catalog.clock, .upsert)).isSome = true := by
  obtain ⟨first, later, hleft⟩ := List.exists_cons_of_ne_nil hroots
  simp only [RootsJob.step, RootsJob.upsert, h.running, Option.bind_eq_bind, Option.bind_some,
    hleft, hunsynced, hcurrent, Option.isSome_none, lt_self_iff_false, decide_false, Bool.or_self,
    Bool.false_eq_true, if_false]
  split <;> rfl

theorem JobAt.can_select (h : JobAt harmless env base config roots done s job)
    (hconfig : ∀ root ∈ roots, root ∈ config) {root : CatalogRootSpec}
    {rest : List CatalogRootSpec} (hcurrent : job.current = none) (hroots : s.roots = root :: rest)
    (hunsynced : s.unsynced = []) :
    ∃ sessionId, (s.step config (s.scan.catalog.clock, .select sessionId)).isSome = true := by
  have hregistry := h.registry
  rw [hunsynced] at hregistry
  have hroot : root ∈ config := by
    refine hconfig root ?_
    rw [h.between hcurrent, hroots]
    simp
  obtain ⟨row, hrow⟩ := hregistry.exists_listed hroot
  obtain ⟨hlisted, -⟩ := hregistry.registers hroot hrow
  have hledger := h.ledger
  rw [hcurrent] at hledger
  have hfound : ∀ db : CatalogDb, db.storageRoot = s.scan.catalog.db.storageRoot →
      db.storageRootById row.id = some row := by
    intro db hsame
    refine storageRootById_of_mem ?_ ?_
    · rw [hsame]
      exact hregistry.ids
    · rw [hsame]
      exact hlisted
  obtain ⟨sessionId, db', hrun⟩ := exists_createScanSession s.scan.catalog.clock job.maxFiles
    (Option.isSome_iff_exists.mpr ⟨row, hfound _ rfl⟩)
  obtain ⟨hroot', snapshot, -, -, -, -, hkeys, -⟩ := rows_createScanSession hrun
  have hin : (sessionId, row.id, snapshot.id) ∈ db'.sessionKeys := by
    rw [hkeys]
    exact List.mem_append_right _ List.mem_cons_self
  obtain ⟨session, hsession, hsame⟩ := List.mem_map.mp hin
  have hfind : db'.getScanSession sessionId = some session :=
    Table.find?_eq_some_iff.mpr ⟨hsession, congrArg Prod.fst hsame⟩
  have hopened : db'.storageRootById session.storageRootId = some row := by
    rw [(hledger.create hrun hfind).1]
    exact hfound db' hroot'
  refine ⟨sessionId, ?_⟩
  simp only [RootsJob.step, RootsJob.select, h.running, hroots, hunsynced, Option.bind_eq_bind,
    Option.bind_some, hrow, ScanSystem.step, ScanSystem.withJob, hcurrent, ScanSystem.select,
    ScanSystem.openSession, h.control, Bool.false_eq_true, if_false,
    @step_of_run _ (.createScanSession sessionId row.id job.maxFiles) _ hrun, hfind, hopened,
    Option.isSome_some]

theorem JobAt.can_prepare (h : JobAt harmless env base config roots done s job) {scan : RootScan}
    (hcurrent : job.current = some scan) (hstage : scan.stage = .preparing)
    {workItems : List QueuedWorkItem} (hstorable : workItems.all QueuedWorkItem.bindable = true) :
    (s.step config (s.scan.catalog.clock, .scan (.prepare workItems none))).isSome = true := by
  have hledger := h.ledger
  rw [hcurrent] at hledger
  obtain ⟨session, hsession, -⟩ := hledger.exists_session
  obtain ⟨db', hrun⟩ : ∃ db', s.scan.catalog.db.seedDirectoryWorkQueue s.scan.catalog.clock
      scan.sessionId workItems = some db' := by
    unfold CatalogDb.seedDirectoryWorkQueue
    split
    · exact ⟨_, rfl⟩
    · rw [hsession, hstorable]
      exact ⟨_, rfl⟩
  have hcall := @step_of_run _ (.seedDirectoryWorkQueue scan.sessionId workItems) _ hrun
  refine isSome_step_scan rfl ?_
  simp only [ScanSystem.step, ScanSystem.withScan, ScanSystem.withJob, h.running,
    Option.bind_some, hcurrent, hstage, ScanSystem.prepare, hcall, Option.bind_eq_bind,
    Option.isSome_some]

theorem JobAt.can_commit (h : JobAt harmless env base config roots done s job) {scan : RootScan}
    (hcurrent : job.current = some scan) (hstage : scan.stage = .completing) :
    (s.step config (s.scan.catalog.clock, .scan .commit)).isSome = true := by
  have hledger := h.ledger
  rw [hcurrent] at hledger
  obtain ⟨session, hsession, -⟩ := hledger.exists_session
  obtain ⟨db', hrun⟩ : ∃ db', s.scan.catalog.db.commitScanSession s.scan.catalog.clock
      scan.sessionId = some db' := by
    unfold CatalogDb.commitScanSession
    rw [hsession]
    exact ⟨_, rfl⟩
  have hcall := @step_of_run _ (.commitScanSession scan.sessionId) _ hrun
  refine isSome_step_scan rfl ?_
  simp only [ScanSystem.step, ScanSystem.withScan, ScanSystem.withJob, h.running,
    Option.bind_some, hcurrent, ScanSystem.commit, hstage, hcall, Option.bind_eq_bind,
    Option.isSome_some]

theorem JobAt.can_fail (h : JobAt harmless env base config roots done s job) {scan : RootScan}
    (hcurrent : job.current = some scan) (hstage : scan.stage = .preparing) :
    (s.step config (s.scan.catalog.clock, .scan .failRoot)).isSome = true := by
  have hcall := @step_of_run s.scan.catalog (.markSessionFailed scan.sessionId) _ rfl
  refine isSome_step_scan rfl ?_
  simp only [ScanSystem.step, ScanSystem.withScan, ScanSystem.withJob, h.running,
    Option.bind_some, hcurrent, ScanSystem.failRoot, hstage, hcall, Option.bind_eq_bind,
    Option.isSome_some]

/-- A worker that is in its loop may raise; when none is, the threads are joined. -/
theorem JobAt.can_go_on (h : JobAt harmless env base config roots done s job) {scan : RootScan}
    {workers : List WorkerPhase} (hcurrent : job.current = some scan)
    (hstage : scan.stage = .scanning workers) :
    ∃ event, JobStep env s (s.scan.catalog.clock, event) ∧
      (s.step config (s.scan.catalog.clock, event)).isSome = true := by
  by_cases hlive : workers.any WorkerPhase.live = true
  · obtain ⟨phase, hmem, hphase⟩ := List.any_eq_true.mp hlive
    obtain ⟨index, hindex⟩ := List.mem_iff_getElem?.mp hmem
    refine ⟨.scan (.raise index), trivial, isSome_step_scan rfl ?_⟩
    simp only [ScanSystem.step, ScanSystem.withScan, ScanSystem.withJob, h.running,
      Option.bind_some, hcurrent, ScanSystem.raise, hstage, hindex, Option.bind_eq_bind, hphase,
      if_true, Option.isSome_some]
  · obtain ⟨row, hrow⟩ := h.current scan hcurrent
    refine ⟨.scan .join, trivial, isSome_step_scan rfl ?_⟩
    simp only [ScanSystem.step, ScanSystem.withScan, ScanSystem.withJob, h.running,
      Option.bind_some, hcurrent, ScanSystem.join, hstage, if_neg hlive, hrow.unlimited.1,
      Option.isSome_some]

/-- A job that has not ended can go on: with what it has to write or with its next root, with
what becomes of the root it is at, or with its workers. -/
theorem JobAt.can_step (h : JobAt harmless env base config roots done s job)
    (hconfig : ∀ root ∈ roots, root ∈ config) :
    ∃ event, JobStep env s (s.scan.catalog.clock, event) ∧
      (s.step config (s.scan.catalog.clock, event)).isSome = true := by
  cases hcurrent : job.current with
  | none =>
      cases hroots : s.roots with
      | nil =>
          refine ⟨.scan .endJob, hroots, isSome_step_scan rfl ?_⟩
          simp only [ScanSystem.step, ScanSystem.withJob, h.running, Option.bind_some, hcurrent,
            Option.isNone_none, if_true, Option.isSome_some]
      | cons root rest =>
          cases hunsynced : s.unsynced with
          | nil =>
              obtain ⟨sessionId, hstep⟩ := h.can_select hconfig hcurrent hroots hunsynced
              exact ⟨.select sessionId, trivial, hstep⟩
          | cons first later =>
              have hne : s.roots ≠ [] := by
                rw [hroots]
                exact List.cons_ne_nil _ _
              exact ⟨.upsert, trivial, h.can_upsert hcurrent hne hunsynced⟩
  | some scan =>
      obtain ⟨row, hrow⟩ := h.current scan hcurrent
      have hscan : s.scan.scan? = some scan := by
        rw [ScanSystem.scan?, h.running]
        exact hcurrent
      cases hstage : scan.stage with
      | preparing =>
          cases hreadable : env.unreadable row.absolutePath with
          | true =>
              refine ⟨.scan .failRoot, fun other hother => ?_, h.can_fail hcurrent hstage⟩
              rw [hrow.of_selected hother]
              exact hreadable
          | false =>
              cases hstorable : env.storable row.absolutePath with
              | true =>
                  refine ⟨.scan (.prepare (env.workItems row.absolutePath) none),
                    ⟨rfl, fun other hother => ?_⟩, h.can_prepare hcurrent hstage hstorable⟩
                  rw [hrow.of_selected hother]
                  exact ⟨hreadable, rfl⟩
              | false =>
                  exact ⟨.scan .crash,
                    ⟨scan, row, hscan, hstage, hrow.selected, hreadable, hstorable⟩, rfl⟩
      | scanning workers => exact h.can_go_on hcurrent hstage
      | completing => exact ⟨.scan .commit, trivial, h.can_commit hcurrent hstage⟩
      | interrupted reason | requeued reason =>
          have hundisturbed := hrow.stage
          rw [hstage] at hundisturbed
          cases hundisturbed

end Step

/-! ## The job as a whole -/

/-- The roots that are scanned are configured, and each of them is scanned once. -/
theorem mem_of_scanRoots {resolvePath : PurePath → PurePath} {settings : StorageSettings} :
    (∀ root ∈ CatalogRootRegistry.scanRoots resolvePath settings,
      root ∈ CatalogRootRegistry.configuredRoots settings) ∧
    (CatalogRootRegistry.scanRoots resolvePath settings).Nodup := by
  unfold CatalogRootRegistry.scanRoots
  constructor
  · intro root hroot
    rw [List.mem_insertionSort] at hroot
    exact List.mem_of_mem_filter hroot
  · rw [(List.perm_insertionSort _ _).nodup_iff]
    have hnodup : (CatalogRootRegistry.configuredRoots settings).Nodup :=
      (pairwise_configuredRoots settings).imp fun hlt heq => hlt.ne (congrArg _ heq)
    exact hnodup.filter _

theorem JobAt.begin {clock : Instant} {base : CatalogState}
    (hreach : Reachable CatalogState.step (CatalogState.start clock) base) (harmless : Prop)
    (env : ScanEnvironment) (config roots : List CatalogRootSpec) (workers : WorkerCount) :
    ∃ job, JobAt harmless env base.db config roots []
      (RootsJob.begin config roots workers base) job := by
  have hvalid := rootsValid_of_reachable hreach
  refine ⟨_, rfl, rfl, rfl, rfl, rfl, .start hvalid.ids hvalid.enabled, .start base.db, nofun, ?_,
    fun _ => ⟨queueReferences_of_reachable hreach, fun other hother => ?_, nofun⟩, fun _ => rfl,
    nofun⟩
  · rintro (hnone | hnone)
    · exact absurd rfl hnone
    · exact absurd rfl hnone
  · cases hother
    exact ScanRuntimeController.actorIds_create_ne_nil workers

/-- What a job without requests does to the effective roots of any settings: it cannot run for
ever, it can go on until it has ended, and if a worker only ends with an exception where it
hands over, it has scanned and committed every readable root and recorded the others as failed
exactly when the configured roots can be written to the registry, none but the last root is
unreadable, and every name the walk finds below a readable root can be stored. -/
theorem job_isolates_iff (resolvePath : PurePath → PurePath) (settings : StorageSettings)
    (workers : WorkerCount) (env : ScanEnvironment) {clock : Instant} {base : CatalogState}
    (hreach : Reachable CatalogState.step (CatalogState.start clock) base) :
    ¬ InfiniteRun (RootsJob.step (CatalogRootRegistry.configuredRoots settings)) (JobStep env)
        (RootsJob.start resolvePath settings workers base) ∧
      (∀ labels t, Steps (RootsJob.step (CatalogRootRegistry.configuredRoots settings))
          (JobStep env) (RootsJob.start resolvePath settings workers base) labels t →
        t.scan.job.isSome = true → ∃ label, JobStep env t label ∧
          (t.step (CatalogRootRegistry.configuredRoots settings) label).isSome = true) ∧
      ∀ labels t, Steps (RootsJob.step (CatalogRootRegistry.configuredRoots settings))
          (fun s label => JobStep env s label ∧ HandsOverIn s label)
          (RootsJob.start resolvePath settings workers base) labels t →
        t.scan.job = none →
          (Isolates env base.db (CatalogRootRegistry.scanRoots resolvePath settings)
              t.scan.catalog.db ↔
            (CatalogRootRegistry.scanRoots resolvePath settings ≠ [] →
              Syncable (CatalogRootRegistry.configuredRoots settings) base.db) ∧
            (∀ root ∈ (CatalogRootRegistry.scanRoots resolvePath settings).dropLast,
              env.unreadable root.path = false) ∧
            ∀ root ∈ CatalogRootRegistry.scanRoots resolvePath settings,
              env.unreadable root.path = false → env.storable root.path = true) := by
  have hsorted := pairwise_configuredRoots settings
  obtain ⟨hconfig, hnodup⟩ := @mem_of_scanRoots resolvePath settings
  unfold RootsJob.start
  generalize CatalogRootRegistry.configuredRoots settings = config at hsorted hconfig ⊢
  generalize CatalogRootRegistry.scanRoots resolvePath settings = roots at hconfig hnodup ⊢
  have hbegin : ∀ harmless : Prop, JobSoFar harmless env base.db config roots
      (RootsJob.begin config roots workers base) := by
    intro harmless
    obtain ⟨job, hat⟩ := JobAt.begin hreach harmless env config roots workers
    exact .inl ⟨[], job, hat⟩
  have hpres : ∀ s label t, JobStep env s label → s.step config label = some t →
      JobSoFar False env base.db config roots s → JobSoFar False env base.db config roots t :=
    fun s label t hok hstep h => h.step hsorted hconfig hnodup hok False.elim hstep
  refine ⟨?_, fun labels t hrun hsome => ?_, fun labels t hrun hnone => ?_⟩
  · refine not_infiniteRun (WellFounded.prod_lex Nat.lt_wfRel.wf Nat.lt_wfRel.wf)
      (fun s => (s.stagesLeft config, s.workLeft)) hpres (fun s label t hok hstep hsofar => ?_)
      (hbegin False)
    rcases hsofar with ⟨done, job, hat⟩ | ⟨hnone, -⟩
    · exact hat.lowers hok hstep
    · exact absurd hstep (no_step_of_ended hnone hok)
  · rcases hrun.invariant hpres (hbegin False) with ⟨done, job, hat⟩ | ⟨hnone, -⟩
    · obtain ⟨event, hok, hstep⟩ := hat.can_step hconfig
      exact ⟨_, hok, hstep⟩
    · rw [hnone] at hsome
      cases hsome
  · have hafter : JobSoFar True env base.db config roots t :=
      hrun.invariant (fun s label t hok hstep h =>
        h.step hsorted hconfig hnodup hok.1 (fun _ => hok.2) hstep) (hbegin True)
    rcases hafter with ⟨done, job, hat⟩ | ⟨-, done, hended⟩
    · cases hat.running.symm.trans hnone
    · exact hended.isolates_iff hnodup

/-! ## Two roots, one of which cannot be read -/

section TwoRoots

def twoRootSettings : StorageSettings where
  immichLibraryRoot := none
  immichUploadsPath := some (.parse (py "/uploads"))
  immichThumbsPath := some (.parse (py "/thumbs"))
  immichProfilePath := none
  immichVideoPath := none

/-- The uploads are an empty directory and come first, before the thumbs. -/
def unreadableAt (path : PyStr) : ScanEnvironment where
  unreadable := fun other => other = path
  workItems := fun _ => [emptyRootItem]

abbrev twoRootStep : RootsJob → Instant × RootsEvent → Option RootsJob :=
  RootsJob.step (CatalogRootRegistry.configuredRoots twoRootSettings)

def twoRootJob : RootsJob :=
  .start id twoRootSettings oneWorker (.start 0)

/-- Steps that meet the conditions on a step of the job. -/
def stepsAlong (env : ScanEnvironment) (s : RootsJob) : Instant × RootsEvent → Bool
  | (_, .upsert) | (_, .select _) | (_, .scan .join) | (_, .scan .commit) => true
  | (_, .scan .failRoot) => s.selected.all fun row => env.unreadable row.absolutePath
  | (_, .scan (.prepare workItems seen)) => seen.isNone && s.selected.all fun row =>
      !env.unreadable row.absolutePath && workItems = env.workItems row.absolutePath
  | (now, .scan (.work index read)) => endsBesideOthers s.scan (now, .work index read)
  | _ => false

theorem jobStep_of_stepsAlong {env : ScanEnvironment} (s : RootsJob)
    (label : Instant × RootsEvent) (h : stepsAlong env s label = true) :
    JobStep env s label ∧ HandsOverIn s label := by
  obtain ⟨now, event⟩ := label
  cases event with
  | upsert | select => exact ⟨trivial, trivial⟩
  | scan event =>
      cases event with
      | failRoot => exact ⟨fun row hrow => (Option.all_eq_true _ _).mp h row hrow, trivial⟩
      | prepare workItems seen =>
          simp only [stepsAlong, Bool.and_eq_true, Option.isNone_iff_eq_none] at h
          refine ⟨⟨h.1, fun row hrow => ?_⟩, trivial⟩
          simpa using (Option.all_eq_true _ _).mp h.2 row hrow
      | work index read =>
          exact ⟨trivial, handsOver_of_endsBesideOthers s.scan (now, .work index read) h⟩
      | join | commit => exact ⟨trivial, trivial⟩
      | _ => cases h

/-- The uploads are scanned and committed, and the thumbs cannot be read. -/
def lastRootFails : List (Instant × RootsEvent) :=
  let scans : List ScanEvent :=
    [ScanEvent.prepare [emptyRootItem] none] ++
      List.replicate 11 (ScanEvent.work 0 readNothing) ++ [ScanEvent.join, .commit]
  let events : List RootsEvent :=
    [RootsEvent.upsert, .upsert, .select (py "a")] ++ scans.map RootsEvent.scan ++
      [RootsEvent.upsert, .upsert, .select (py "b"), .scan .failRoot]
  events.map fun event => (1, event)

def afterLastRoot : RootsJob :=
  Steps.last (checkedStep twoRootStep (stepsAlong (unreadableAt (py "/thumbs")))) twoRootJob
    lastRootFails

theorem job_isolates_iff_last_root :
    Isolates (unreadableAt (py "/thumbs")) (CatalogState.start 0).db
      (CatalogRootRegistry.scanRoots id twoRootSettings) afterLastRoot.scan.catalog.db := by
  have hexec : (exec (checkedStep twoRootStep (stepsAlong (unreadableAt (py "/thumbs"))))
      twoRootJob lastRootFails).isSome = true := by
    decide
  have hrun := Steps.of_checked jobStep_of_stepsAlong (Steps.exec_eq_last hexec)
  refine ((job_isolates_iff id twoRootSettings oneWorker (unreadableAt (py "/thumbs"))
    (Reachable.self (CatalogState.start 0))).2.2 lastRootFails afterLastRoot hrun
      (by decide)).mpr ?_
  exact ⟨fun _ => ⟨by decide, by decide, nofun⟩, by decide, by decide⟩

/-- The first root is recorded as failed and the job ends, without a look at the second. -/
def firstRootFails : List (Instant × RootsEvent) :=
  [(1, .upsert), (1, .upsert), (1, .select (py "a")), (1, .scan .failRoot)]

def afterFirstRoot : RootsJob :=
  Steps.last (checkedStep twoRootStep (stepsAlong (unreadableAt (py "/uploads")))) twoRootJob
    firstRootFails

theorem unreadable_root_ends_job :
    Steps twoRootStep
        (fun s label => JobStep (unreadableAt (py "/uploads")) s label ∧ HandsOverIn s label)
        twoRootJob firstRootFails afterFirstRoot ∧
      afterFirstRoot.scan.job = none ∧
      ¬ Isolates (unreadableAt (py "/uploads")) (CatalogState.start 0).db
        (CatalogRootRegistry.scanRoots id twoRootSettings) afterFirstRoot.scan.catalog.db := by
  refine ⟨Steps.of_checked jobStep_of_stepsAlong (Steps.exec_eq_last (by decide)), by decide,
    fun hall => ?_⟩
  have hthumbs : ∃ root ∈ CatalogRootRegistry.scanRoots id twoRootSettings,
      (unreadableAt (py "/uploads")).unreadable root.path = false := by decide
  obtain ⟨root, hroot, hreadable⟩ := hthumbs
  obtain ⟨id, -, hscanned⟩ := hall root hroot
  rw [hreadable, if_neg Bool.false_ne_true] at hscanned
  obtain ⟨snapshot, hsnapshot, -, -, hstatus⟩ := hscanned.committedSince
  have hfailed : ∀ snapshot ∈ afterFirstRoot.scan.catalog.db.scanSnapshot.rows,
      snapshot.status ≠ .committed := by decide
  exact hfailed snapshot hsnapshot hstatus

end TwoRoots

end ImmichDoctor.Catalog
