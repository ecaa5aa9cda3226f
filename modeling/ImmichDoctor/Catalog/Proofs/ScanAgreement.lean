import ImmichDoctor.Catalog.Proofs.ScanCalls
import ImmichDoctor.Catalog.Proofs.StaticScan
import ImmichDoctor.Catalog.Proofs.WorkPlan
import Mathlib.Data.Multiset.Basic
/-!
# Interrupted and uninterrupted scans agree

A session may be paused, stopped, left behind by a crash and resumed at any step, with
any number of workers each time. As long as the tree stands still and no other session
writes to the root, its commit finds every work item of the tree applied once: the
counters and the file records are those of a scan without interruptions.
-/

namespace ImmichDoctor.Catalog

open ImmichDoctor.Library

/-! ## Undisturbed runs -/

/-- What the scan reads in a step, it reads from the tree. -/
def ReadsTree (lower : PyStr → PyStr) (tree : DirectoryTree) (scan : RootScan) : ScanEvent → Prop
  | .failRoot => False
  | .prepare workItems seen => ∃ control, discover tree control = some (workItems, seen)
  | .work index read => ∀ workers row payload, scan.stage = .scanning workers →
      workers[index]? = some (.observe row) → row.payloadJson = some payload →
      read = observeFileBatch lower tree (filePathsFromPayload payload)
  | _ => True

/-- The step is not about a single worker, and it belongs to the session and reads the
tree, or it belongs to another session and another root. -/
def Undisturbed (lower : PyStr → PyStr) (tree : DirectoryTree) (sessionId : SessionId)
    (storageRootId : Nat) (s : ScanSystem) (label : Instant × ScanEvent) : Prop :=
  label.2.isGlobal = true ∧ ∀ scan, s.scan? = some scan →
    (scan.sessionId = sessionId ∧ ReadsTree lower tree scan label.2) ∨
    (scan.sessionId ≠ sessionId ∧ scan.storageRootId ≠ storageRootId)

/-! ## The sessions of scans -/

/-- The session row of the scan has its root and its snapshot. -/
def Owned (db : CatalogDb) (scan : RootScan) : Prop :=
  ∃ totals, HasTotals ⟨scan.sessionId, scan.storageRootId, scan.snapshotId⟩ totals db.scanSession

section Sessions

variable {id : WritingSession} {totals : ScanTotals} {db db' : CatalogDb} {scan : RootScan}
  {now : Instant} {op : StoreOp}

theorem HasTotals.of_getScanSession {session : ScanSession}
    (h : HasTotals id totals db.scanSession)
    (hsession : db.getScanSession id.sessionId = some session) :
    session.storageRootId = id.storageRootId ∧ session.snapshotId = id.snapshotId := by
  obtain ⟨row, hrow, hid, hroot, hsnapshot, -⟩ := h
  obtain ⟨hmem, hsessionId⟩ := Table.find?_eq_some_iff.mp hsession
  have hsame : session = row := db.scanSession.eq_of_key_eq hmem hrow (hsessionId.trans hid.symm)
  subst hsame
  exact ⟨hroot, hsnapshot⟩

theorem Owned.of_getScanSession {session : ScanSession}
    (hsession : db.getScanSession scan.sessionId = some session)
    (hroot : scan.storageRootId = session.storageRootId)
    (hsnapshot : scan.snapshotId = session.snapshotId) : Owned db scan := by
  obtain ⟨hmem, hid⟩ := Table.find?_eq_some_iff.mp hsession
  exact ⟨session.totals, session, hmem, hid, hroot.symm, hsnapshot.symm, rfl⟩

theorem Owned.isOf (h : Owned db scan) (hid : HasTotals id totals db.scanSession)
    (hsession : scan.sessionId = id.sessionId) : scan.IsOf id := by
  obtain ⟨totals', row, hrow, hrowId, hroot, hsnapshot, -⟩ := h
  have hfind : db.getScanSession id.sessionId = some row :=
    Table.find?_eq_some_iff.mpr ⟨hrow, hrowId.trans hsession⟩
  obtain ⟨hroot', hsnapshot'⟩ := hid.of_getScanSession hfind
  exact ⟨hsession, hroot.symm.trans hroot', hsnapshot.symm.trans hsnapshot'⟩

/-- Every call keeps the session row of a scan. -/
theorem Owned.run (h : Owned db scan) (hrun : op.run now db = some db') : Owned db' scan := by
  obtain ⟨totals, htotals⟩ := h
  by_cases happly : ∃ application, op = .applyDirectoryFiles application ∧
      application.sessionId = scan.sessionId
  · obtain ⟨application, rfl, hsession⟩ := happly
    obtain ⟨row, hrow, hid, hroot, hsnapshot, -⟩ := htotals
    have hmem := Table.mem_updateWhere_of_mem (fun session => session.id = application.sessionId)
      (CatalogDb.addProgress now application) (CatalogDb.id_addProgress now application) hrow
    rw [← (CatalogDb.queue_applyDirectoryFiles hrun).2] at hmem
    refine ⟨_, _, hmem, ?_, ?_, ?_, rfl⟩
    · split <;> exact hid
    · split <;> exact hroot
    · split <;> exact hsnapshot
  · exact ⟨totals, htotals.run (fun application hop hsession =>
      happly ⟨application, hop, hsession⟩) hrun⟩

end Sessions

/-! ## The scan process -/

def StageScans (id : WritingSession) (base : Table FileRecord FileRecord.key)
    (items : List WorkItem) (observed : WorkItem → ObservedBatch) (db : CatalogDb) :
    ScanStage → Prop
  | .scanning workers => Working id base items observed db workers
  | .completing => AllQueued id.sessionId items db.scanDirectoryQueue
  | _ => True

/-- What is known in an undisturbed run of the session. -/
structure Scanning (lower : PyStr → PyStr) (tree : DirectoryTree) (id : WritingSession)
    (base : Table FileRecord FileRecord.key) (s : ScanSystem) : Prop where
  accounted : Accounted s
  unstopped : Unstopped s
  owned : ∀ scan, s.scan? = some scan → Owned s.catalog.db scan
  progress : ∃ applied,
    Progress id base tree.workItems (observedItem lower tree) applied s.catalog.db
  stage : ∀ scan, s.scan? = some scan → scan.sessionId = id.sessionId →
    StageScans id base tree.workItems (observedItem lower tree) s.catalog.db scan.stage

/-- The event neither seeds nor applies. -/
def ScanEvent.isQuiet : ScanEvent → Bool
  | .prepare _ _ => false
  | .work _ _ => false
  | _ => true

namespace Scanning

variable {lower : PyStr → PyStr} {tree : DirectoryTree} {id : WritingSession}
  {base : Table FileRecord FileRecord.key} {s t : ScanSystem} {now : Instant} {event : ScanEvent}
  {job : ScanJob} {scan : RootScan} {catalog : CatalogState}

/-- The step is quiet, or it belongs to another session and another root. -/
def LeavesSession (id : WritingSession) (s : ScanSystem) (event : ScanEvent) : Prop :=
  ∀ scan, s.scan? = some scan → (scan.sessionId = id.sessionId ∧ event.isQuiet = true) ∨
    (scan.sessionId ≠ id.sessionId ∧ scan.storageRootId ≠ id.storageRootId)

theorem leavesProgress_of_mayCall {op : StoreOp} {db : CatalogDb}
    (howned : ∀ scan, s.scan? = some scan → Owned db scan) {totals : ScanTotals}
    (hsession : HasTotals id totals db.scanSession) (hleaves : LeavesSession id s event)
    (hmay : MayCall s event op) : LeavesProgress id db op := by
  cases op with
  | seedDirectoryWorkQueue sessionId workItems =>
      obtain ⟨scan, seen, hscan, rfl, rfl⟩ := hmay
      rcases hleaves scan hscan with ⟨-, hquiet⟩ | ⟨hother, -⟩
      · cases hquiet
      · exact hother
  | applyDirectoryFiles application =>
      obtain ⟨scan, row, observed, index, read, hscan, rfl, rfl⟩ := hmay
      rcases hleaves scan hscan with ⟨-, hquiet⟩ | hother
      · cases hquiet
      · exact hother
  | commitScanSession sessionId =>
      obtain ⟨scan, hscan, rfl⟩ := hmay
      intro session hget
      obtain ⟨_, hscanTotals⟩ := howned scan hscan
      rcases hleaves scan hscan with ⟨hsame, -⟩ | ⟨-, hother⟩
      · exact Or.inr (hsession.of_getScanSession (hsame ▸ hget)).2
      · obtain ⟨hroot, -⟩ := hscanTotals.of_getScanSession hget
        exact Or.inl (hroot ▸ hother)
  | _ => trivial

/-- The catalog has the sessions of the scans, and the progress of a session that is left. -/
structure Carries (lower : PyStr → PyStr) (tree : DirectoryTree) (id : WritingSession)
    (base : Table FileRecord FileRecord.key) (s : ScanSystem) (event : ScanEvent)
    (catalog : CatalogState) : Prop where
  owned : ∀ scan, s.scan? = some scan → Owned catalog.db scan
  progress : LeavesSession id s event → ∃ applied,
    Progress id base tree.workItems (observedItem lower tree) applied catalog.db

/-- The calls of a step keep the sessions of the scans and the progress it leaves. -/
theorem carries (h : Scanning lower tree id base s) (hcalls : Calls s event catalog) :
    Carries lower tree id base s event catalog := by
  obtain ⟨calls, hrun⟩ := hcalls
  have hstart : Carries lower tree id base s event s.catalog := ⟨h.owned, fun _ => h.progress⟩
  refine Steps.invariant ?_ hrun hstart
  rintro catalog ⟨now, op⟩ next hmay hstep ⟨howned, hprogress⟩
  obtain ⟨-, hop, -⟩ := CatalogState.step_eq_some_iff.mp hstep
  refine ⟨fun scan hscan => (howned scan hscan).run hop, fun hleaves => ?_⟩
  obtain ⟨applied, happlied⟩ := hprogress hleaves
  have hcall := leavesProgress_of_mayCall howned happlied.session hleaves hmay
  exact ⟨applied, happlied.run hcall hop⟩

/-! ### The stage of the scan -/

theorem separate (hkeys : (tree.workItems.map WorkItem.relativePath).Nodup) :
    Separate tree.workItems (observedItem lower tree) where
  keys := fun a ha b hb hpath => List.inj_on_of_nodup_map hkeys ha hb hpath
  paths := by
    intro a ha b hb hpath
    obtain ⟨item, -, hobserved⟩ := List.mem_flatMap.mp ha
    obtain ⟨other, -, hother⟩ := List.mem_flatMap.mp hb
    exact observation_eq_of_path_eq hobserved hother hpath

/-- Preparing the session's scan seeds work items of the tree, and all of them if the walk
saw no request. -/
theorem prepare (h : Scanning lower tree id base s)
    (hsession : scan.sessionId = id.sessionId) {workItems : List QueuedWorkItem}
    {seen : Option StopReason} {control : Nat → ControlState}
    (hdiscover : discover tree control = some (workItems, seen))
    (hcall : s.catalog.step (now, .seedDirectoryWorkQueue scan.sessionId workItems) =
      some catalog) :
    (∃ applied,
        Progress id base tree.workItems (observedItem lower tree) applied catalog.db) ∧
      (seen = none → ∀ actorIds : List ActorId, Working id base tree.workItems
        (observedItem lower tree) catalog.db (actorIds.map fun _ => WorkerPhase.checkControl)) := by
  obtain ⟨-, hrun, -⟩ := CatalogState.step_eq_some_iff.mp hcall
  obtain ⟨applied, hprogress⟩ := h.progress
  obtain ⟨visited, rest, seen', hfound, hperm, hrest, -⟩ := discover_spec tree control
  cases hdiscover.symm.trans hfound
  have hitems : ∀ queued ∈ balancedDirectoryWorkItems (visited.flatMap Directory.workItems),
      ∃ item ∈ tree.workItems, ∃ priority, queued = item.queued priority := by
    intro queued hqueued
    obtain ⟨item, hitem, hof⟩ := mem_balancedDirectoryWorkItems hqueued
    obtain ⟨directory, hdirectory, hin⟩ := List.mem_flatMap.mp hitem
    refine ⟨item, List.mem_flatMap.mpr ⟨directory, ?_, hin⟩, hof⟩
    exact hperm.mem_iff.mp (List.mem_append_left _ hdirectory)
  rw [hsession] at hrun
  obtain ⟨hseeded, hqueued⟩ := hprogress.seed hitems hrun
  refine ⟨⟨applied, hseeded⟩, ?_⟩
  rintro rfl actorIds
  refine ⟨⟨applied, hseeded⟩, ?_, ?_⟩
  · intro item hitem
    obtain ⟨directory, hdirectory, hin⟩ := List.mem_flatMap.mp hitem
    have hvisited : directory ∈ visited := by
      rw [← hperm.mem_iff, hrest rfl, List.append_nil] at hdirectory
      exact hdirectory
    obtain ⟨priority, hmem⟩ :=
      exists_queued_of_mem (List.mem_flatMap.mpr ⟨directory, hvisited, hin⟩)
    exact hqueued _ hmem
  · intro index phase hphase
    have hmem := List.mem_of_getElem? hphase
    obtain ⟨actorId, -, rfl⟩ := List.mem_map.mp hmem
    trivial

/-- A step of a worker of the session's scan. -/
theorem work (h : Scanning lower tree id base s)
    (hkeys : (tree.workItems.map WorkItem.relativePath).Nodup) (hscan : s.scan? = some scan)
    (hsession : scan.sessionId = id.sessionId) {workers : List WorkerPhase}
    (hstage : scan.stage = .scanning workers) {index : Nat} {read : ObservedBatch}
    (hreads : ReadsTree lower tree scan (.work index read)) {phase next : WorkerPhase}
    {shared : WorkerShared} (hphase : workers[index]? = some phase)
    (hworker : WorkerStep scan s.control now (.worker (index + 1)) read
      ⟨s.catalog, job.controller, scan.stopReason, scan.filesSeen⟩ phase next shared) :
    Working id base tree.workItems (observedItem lower tree) shared.catalog.db
      (workers.set index next) := by
  obtain ⟨_, hprogress⟩ := h.progress
  have hworking : Working id base tree.workItems (observedItem lower tree) s.catalog.db
      workers := by
    have hscans := h.stage scan hscan hsession
    rwa [hstage] at hscans
  have hof := (h.owned scan hscan).isOf hprogress.session hsession
  exact Working.workerStep hworking (separate hkeys) hof hphase
    (fun row payload hobserve => hreads workers row payload hstage (hobserve ▸ hphase)) hworker

/-- The stage is kept when the queue is. -/
theorem stage_of_queue {db db' : CatalogDb} {stage : ScanStage}
    {items : List WorkItem} {observed : WorkItem → ObservedBatch}
    (h : StageScans id base items observed db stage)
    (hprogress : ∃ applied, Progress id base items observed applied db')
    (hqueue : db'.scanDirectoryQueue = db.scanDirectoryQueue) :
    StageScans id base items observed db' stage := by
  cases stage with
  | scanning workers =>
      refine ⟨hprogress, hqueue ▸ h.queued, fun index phase hphase => ?_⟩
      exact (h.holds index phase hphase).of_rows fun current hcurrent _ _ _ => hqueue ▸ hcurrent
  | completing =>
      unfold StageScans at h ⊢
      rw [hqueue]
      exact h
  | _ => trivial

/-! ### A step of the scan process -/

/-- The next state, when its scan is the one there was, up to its stage. -/
theorem of_sameScan (haccounted : Accounted t) (hunstopped : Unstopped t)
    (hcarries : Carries lower tree id base s event t.catalog)
    (hprogress : ∃ applied,
      Progress id base tree.workItems (observedItem lower tree) applied t.catalog.db)
    (hscan : ∀ next, t.scan? = some next → ∃ scan, s.scan? = some scan ∧
      next.sessionId = scan.sessionId ∧ next.storageRootId = scan.storageRootId ∧
      next.snapshotId = scan.snapshotId ∧ (scan.sessionId = id.sessionId →
        StageScans id base tree.workItems (observedItem lower tree) t.catalog.db next.stage)) :
    Scanning lower tree id base t := by
  refine ⟨haccounted, hunstopped, ?_, hprogress, ?_⟩
  · intro next hnext
    obtain ⟨scan, hs, hsession, hroot, hsnapshot, -⟩ := hscan next hnext
    unfold Owned
    rw [hsession, hroot, hsnapshot]
    exact hcarries.owned scan hs
  · intro next hnext hown
    obtain ⟨scan, hs, hsession, -, -, hstage⟩ := hscan next hnext
    exact hstage (hsession.symm.trans hown)

/-- The next state of a step that seeds or applies, for this session or for another one. -/
theorem of_moved (haccounted : Accounted t) (hunstopped : Unstopped t)
    (hcarries : Carries lower tree id base s event t.catalog) (hscan : s.scan? = some scan)
    (hreads : (scan.sessionId = id.sessionId ∧ ReadsTree lower tree scan event) ∨
      (scan.sessionId ≠ id.sessionId ∧ scan.storageRootId ≠ id.storageRootId))
    (hnext : ∀ next, t.scan? = some next → next.sessionId = scan.sessionId ∧
      next.storageRootId = scan.storageRootId ∧ next.snapshotId = scan.snapshotId)
    (hmoves : scan.sessionId = id.sessionId → ReadsTree lower tree scan event →
      (∃ applied, Progress id base tree.workItems (observedItem lower tree) applied t.catalog.db) ∧
      ∀ next, t.scan? = some next →
        StageScans id base tree.workItems (observedItem lower tree) t.catalog.db next.stage) :
    Scanning lower tree id base t := by
  rcases hreads with ⟨hown, hreads⟩ | hother
  · obtain ⟨hprogress, hstage⟩ := hmoves hown hreads
    refine of_sameScan haccounted hunstopped hcarries hprogress fun next hn => ?_
    obtain ⟨hsession, hroot, hsnapshot⟩ := hnext next hn
    exact ⟨scan, hscan, hsession, hroot, hsnapshot, fun _ => hstage next hn⟩
  · have hleaves : LeavesSession id s event := by
      intro other hs
      cases hscan.symm.trans hs
      exact Or.inr hother
    refine of_sameScan haccounted hunstopped hcarries (hcarries.progress hleaves) fun next hn => ?_
    obtain ⟨hsession, hroot, hsnapshot⟩ := hnext next hn
    exact ⟨scan, hscan, hsession, hroot, hsnapshot, fun hown => absurd hown hother.1⟩

/-- An undisturbed step. -/
theorem step (h : Scanning lower tree id base s)
    (hkeys : (tree.workItems.map WorkItem.relativePath).Nodup)
    (hok : Undisturbed lower tree id.sessionId id.storageRootId s (now, event))
    (hstep : s.step (now, event) = some t) : Scanning lower tree id base t := by
  obtain ⟨hglobal, hreads⟩ := hok
  have haccounted := h.accounted.step (h.unstopped.handsOver hglobal) hstep
  have hunstopped := h.unstopped.step h.accounted hglobal hstep
  have hcarries := h.carries (calls_of_step hstep)
  -- all steps but those of a worker and of the preparation leave the session
  have hquiet : event.isQuiet = true → LeavesSession id s event := fun hevent scan hscan =>
    (hreads scan hscan).imp_left fun hown => ⟨hown.1, hevent⟩
  cases scanStep_of_step hstep with
  | signalled hevent hjob => exact ⟨haccounted, hunstopped, h.owned, h.progress, h.stage⟩
  | asked hevent hjob =>
      cases event with
      | pauseActor actorId | resumeActor actorId | stopActor actorId => cases hglobal
      | _ => cases hevent
  | workerRaised => cases hglobal
  | synced hcall =>
      have hprogress := hcarries.progress (hquiet rfl)
      obtain ⟨_, hdb⟩ :=
        CatalogDb.of_upsertStorageRoot (CatalogState.step_eq_some_iff.mp hcall).2.1
      refine of_sameScan haccounted hunstopped hcarries hprogress fun next hnext => ?_
      exact ⟨next, hnext, rfl, rfl, rfl, fun hown =>
        stage_of_queue (h.stage next hnext hown) hprogress (by rw [hdb])⟩
  | selected hjob hcurrent htargets hopen hget =>
      refine ⟨haccounted, hunstopped, ?_, hcarries.progress (hquiet rfl), ?_⟩
      · intro next hnext
        cases hnext
        exact Owned.of_getScanSession hget rfl rfl
      · intro next hnext _
        cases hnext
        trivial
  | prepared hjob hcurrent hstage hcall =>
      have hscan := ScanSystem.scan?_eq_some hjob hcurrent
      refine of_moved haccounted hunstopped hcarries hscan (hreads _ hscan) ?_ ?_
      · intro next hnext
        cases hnext
        exact ⟨rfl, rfl, rfl⟩
      · rintro hown ⟨control, hdiscover⟩
        obtain ⟨hprogress, hworking⟩ := h.prepare hown hdiscover hcall
        refine ⟨hprogress, fun next hnext => ?_⟩
        cases hnext
        exact hworking rfl _
  | preparedInterrupted hjob hcurrent hstage hcall =>
      have hscan := ScanSystem.scan?_eq_some hjob hcurrent
      refine of_moved haccounted hunstopped hcarries hscan (hreads _ hscan) ?_ ?_
      · intro next hnext
        cases hnext
        exact ⟨rfl, rfl, rfl⟩
      · rintro hown ⟨control, hdiscover⟩
        refine ⟨(h.prepare hown hdiscover hcall).1, fun next hnext => ?_⟩
        cases hnext
        trivial
  | worked hjob hcurrent hstage hphase hworker =>
      have hscan := ScanSystem.scan?_eq_some hjob hcurrent
      refine of_moved haccounted hunstopped hcarries hscan (hreads _ hscan) ?_ ?_
      · intro next hnext
        cases hnext
        exact ⟨rfl, rfl, rfl⟩
      · intro hown hread
        have hnext := h.work hkeys hscan hown hstage hread hphase hworker
        refine ⟨hnext.progress, fun other hother => ?_⟩
        cases hother
        exact hnext
  | joinedInterrupted hjob hcurrent =>
      have hscan := ScanSystem.scan?_eq_some hjob hcurrent
      have hprogress := hcarries.progress (hquiet rfl)
      refine of_sameScan haccounted hunstopped hcarries hprogress fun next hnext => ?_
      cases hnext
      exact ⟨_, hscan, rfl, rfl, rfl, fun _ => trivial⟩
  | joined hjob hcurrent hstage =>
      have hscan := ScanSystem.scan?_eq_some hjob hcurrent
      have hprogress := hcarries.progress (hquiet rfl)
      refine of_sameScan haccounted hunstopped hcarries hprogress fun next hnext => ?_
      cases hnext
      refine ⟨_, hscan, rfl, rfl, rfl, fun hown => ?_⟩
      have hworking := h.stage _ hscan hown
      rw [hstage] at hworking
      exact hworking.queued
  | requeued hjob hcurrent =>
      have hscan := ScanSystem.scan?_eq_some hjob hcurrent
      have hprogress := hcarries.progress (hquiet rfl)
      refine of_sameScan haccounted hunstopped hcarries hprogress fun next hnext => ?_
      cases hnext
      exact ⟨_, hscan, rfl, rfl, rfl, fun _ => trivial⟩
  | started | rootFailed | interruptedStopped | interruptedPaused | committed | ended | crashed =>
      exact of_sameScan haccounted hunstopped hcarries (hcarries.progress (hquiet rfl)) nofun

/-! ### The start and the commit of a session -/

/-- A new session is in an undisturbed run, with no item applied. -/
theorem start {clock : Instant} {sessionId : SessionId} {storageRootId : Nat}
    {rest : List ScanTarget}
    (hreach : Reachable ScanSystem.step (ScanSystem.start clock) s) (hjob : s.job = some job)
    (hstopped : job.controller.stopped = []) (htargets : job.targets = .fresh storageRootId :: rest)
    (hselect : s.step (now, .select sessionId) = some t) :
    ∃ id : WritingSession, id.sessionId = sessionId ∧ id.storageRootId = storageRootId ∧
      Scanning lower tree id t.catalog.db.fileRecord t := by
  have hone : Steps ScanSystem.step (fun _ _ => True) s [(now, .select sessionId)] t :=
    .head trivial hselect (.refl t)
  have hreachT := hreach.trans hone
  have hactors := hasActors_of_reachable hreachT
  have hreferences := queueReferences_of_reachable (reachable_catalog hreachT)
  cases scanStep_of_step hselect with
  | signalled hevent => cases hevent
  | asked hevent => cases hevent
  | @selected _ _ job' _ _ _ session _ hjob' hcurrent htargets' hopen hget =>
      cases hjob.symm.trans hjob'
      cases htargets.symm.trans htargets'
      simp only [ScanSystem.openSession] at hopen
      split at hopen
      · cases hopen
      obtain ⟨created, hcreated, hpair⟩ := Option.bind_eq_some_iff.mp hopen
      cases hpair
      obtain ⟨-, hrun, -⟩ := CatalogState.step_eq_some_iff.mp hcreated
      obtain ⟨-, hempty⟩ := queue_empty_of_created (reachable_catalog hreach) hcreated
      obtain ⟨row, hrow, hroot, hfiles, hbytes, hdirectories, herrors, hfresh⟩ :=
        notSeen_of_created (recordReferences_of_reachable (reachable_catalog hreach)) hrun
      cases hget.symm.trans hrow
      refine ⟨⟨sessionId, storageRootId, session.snapshotId⟩, rfl, rfl, ?_⟩
      refine ⟨⟨hreferences, hactors, ?_⟩, ?_, ?_, ⟨[], ?_⟩, ?_⟩
      · intro scan hscan
        cases hscan
        exact fun queueRow hqueueRow hsession => absurd hsession (hempty queueRow hqueueRow)
      · exact Unstopped.withScan (Or.inl hstopped) (fun _ hstage => by cases hstage)
          fun hstage => by cases hstage
      · intro scan hscan
        cases hscan
        exact Owned.of_getScanSession hget rfl rfl
      · obtain ⟨hmem, hid⟩ := Table.find?_eq_some_iff.mp hget
        refine ⟨List.nodup_nil, ⟨?_, by simp⟩, ⟨session, hmem, hid, hroot, rfl, ?_⟩, ?_⟩
        · exact fun queueRow hqueueRow hsession => absurd hsession (hempty queueRow hqueueRow)
        · rw [ScanSession.totals, hfiles, hbytes, hdirectories, herrors]
          rfl
        · exact Recorded.refl hfresh
      · intro scan hscan _
        cases hscan
        trivial

theorem run (h : Scanning lower tree id base s)
    (hkeys : (tree.workItems.map WorkItem.relativePath).Nodup)
    {labels : List (Instant × ScanEvent)}
    (hrun : Steps ScanSystem.step
      (Undisturbed lower tree id.sessionId id.storageRootId) s labels t) :
    Scanning lower tree id base t :=
  hrun.invariant (fun _ _ _ hok hstep hs => hs.step hkeys hok hstep) h

/-- A commit of the session finds every item of the tree applied. -/
theorem commit (h : Scanning lower tree id base s)
    (hkeys : (tree.workItems.map WorkItem.relativePath).Nodup) (hscan : s.scan? = some scan)
    (hsession : scan.sessionId = id.sessionId) (hstep : s.step (now, .commit) = some t) :
    ∃ applied, applied.Perm tree.workItems ∧
      Progress id base tree.workItems (observedItem lower tree) applied t.catalog.db := by
  have hok : Undisturbed lower tree id.sessionId id.storageRootId s (now, .commit) := by
    refine ⟨rfl, fun other hother => Or.inl ?_⟩
    cases hscan.symm.trans hother
    exact ⟨hsession, trivial⟩
  obtain ⟨applied, hprogress⟩ := (h.step hkeys hok hstep).progress
  cases scanStep_of_step hstep with
  | signalled hevent => cases hevent
  | asked hevent => cases hevent
  | @committed job other catalog hjob hcurrent hstage hcall =>
      cases hscan.symm.trans (ScanSystem.scan?_eq_some hjob hcurrent)
      obtain ⟨-, hrun, -⟩ := CatalogState.step_eq_some_iff.mp hcall
      obtain ⟨session, -, hdb⟩ := Option.bind_eq_some_iff.mp hrun
      have hqueue : catalog.db.scanDirectoryQueue = s.catalog.db.scanDirectoryQueue := by
        rw [← Option.some.inj hdb]
        rfl
      have hfinished := h.accounted.stage scan hscan
      unfold StageAccounts at hfinished
      rw [hstage, hsession] at hfinished
      have hqueued := h.stage scan hscan hsession
      rw [hstage] at hqueued
      have hseparate : Separate tree.workItems (observedItem lower tree) := separate hkeys
      have hnodup : tree.workItems.Nodup := List.Nodup.of_map _ hkeys
      refine ⟨applied, hprogress.applied_perm hseparate.keys hnodup (hqueue ▸ hqueued) ?_ ?_,
        hprogress⟩
      · exact hfinished.1.of_rows (by rw [hqueue])
      · exact hfinished.2.of_rows (by rw [hqueue])

end Scanning

/-! ## The result of a scan -/

/-- What a committed session leaves: its root and snapshot, its counters, and the contents
of the file records of its snapshot. -/
structure ScanResult where
  storageRootId : Nat
  snapshotId : Nat
  totals : ScanTotals
  files : Multiset FileContents
  deriving DecidableEq

/-- The contents of the file records of a snapshot. -/
def CatalogDb.snapshotContents (db : CatalogDb) (storageRootId snapshotId : Nat) :
    List FileContents :=
  (db.fileRecord.rows.filter fun file =>
    file.storageRootId = storageRootId && file.lastSeenSnapshotId = snapshotId).map
      FileRecord.contents

def CatalogDb.scanResult (db : CatalogDb) (sessionId : SessionId) : Option ScanResult :=
  (db.getScanSession sessionId).map fun session =>
    { storageRootId := session.storageRootId
      snapshotId := session.snapshotId
      totals := session.totals
      files := db.snapshotContents session.storageRootId session.snapshotId }

section Result

variable {id : WritingSession} {base : Table FileRecord FileRecord.key}
  {items applied : List WorkItem}
  {observed : WorkItem → ObservedBatch} {db : CatalogDb}

theorem nodup_snapshotContents (storageRootId snapshotId : Nat) :
    (db.snapshotContents storageRootId snapshotId).Nodup := by
  have hkeys : ((db.fileRecord.rows.filter fun file =>
      file.storageRootId = storageRootId && file.lastSeenSnapshotId = snapshotId).map
        FileRecord.key).Nodup :=
    db.fileRecord.unique.sublist (List.filter_sublist.map _)
  refine List.Nodup.of_map
    (fun contents : FileContents => (contents.storageRootId, contents.relativePath)) ?_
  rw [CatalogDb.snapshotContents, List.map_map]
  exact hkeys

/-- The records of the snapshot are those of the observations. -/
theorem Recorded.mem_snapshotContents {seen : List CatalogFileObservation}
    (h : Recorded id base db.fileRecord seen)
    (hpaths : ∀ a ∈ seen, ∀ b ∈ seen, a.relativePath = b.relativePath → a = b)
    {contents : FileContents} :
    contents ∈ db.snapshotContents id.storageRootId id.snapshotId ↔
      ∃ observation ∈ seen, contents = recordedContents id base observation := by
  unfold CatalogDb.snapshotContents
  simp only [List.mem_map, List.mem_filter, Bool.and_eq_true, decide_eq_true_eq]
  constructor
  · rintro ⟨file, ⟨hfile, hroot, hsnapshot⟩, rfl⟩
    exact h.current file hfile hroot hsnapshot
  · rintro ⟨observation, hseen, rfl⟩
    obtain ⟨file, hfile, hkey, hsnapshot⟩ := h.covered observation hseen
    have hroot : file.storageRootId = id.storageRootId := congrArg Prod.fst hkey
    obtain ⟨other, hother, hcontents⟩ := h.current file hfile hroot hsnapshot
    have hpath : other.relativePath = observation.relativePath :=
      (congrArg FileContents.relativePath hcontents).symm.trans (congrArg Prod.snd hkey)
    rw [hpaths other hother observation hseen hpath] at hcontents
    exact ⟨file, ⟨hfile, hroot, hsnapshot⟩, hcontents⟩

/-- Two catalogs in which the session has applied all items have the same result. -/
theorem scanResult_eq {db' : CatalogDb} {applied' : List WorkItem}
    (hseparate : Separate items observed) (hperm : applied.Perm items)
    (hperm' : applied'.Perm items) (h : Progress id base items observed applied db)
    (h' : Progress id base items observed applied' db') :
    ∃ result, db.scanResult id.sessionId = some result ∧
      db'.scanResult id.sessionId = some result := by
  have hresult : ∀ {db : CatalogDb} {applied : List WorkItem}, applied.Perm items →
      Progress id base items observed applied db → db.scanResult id.sessionId = some
        ⟨id.storageRootId, id.snapshotId, totalsOf observed items,
          db.snapshotContents id.storageRootId id.snapshotId⟩ := by
    intro db applied hperm h
    obtain ⟨session, hmem, hid, hroot, hsnapshot, htotals⟩ := h.session
    have hget : db.getScanSession id.sessionId = some session :=
      Table.find?_eq_some_iff.mpr ⟨hmem, hid⟩
    rw [CatalogDb.scanResult, hget, Option.map_some, hroot, hsnapshot, htotals, totalsOf_perm hperm]
  have hmem : ∀ {db : CatalogDb} {applied : List WorkItem}, applied.Perm items →
      Progress id base items observed applied db → ∀ contents,
        contents ∈ db.snapshotContents id.storageRootId id.snapshotId ↔
          ∃ observation ∈ items.flatMap fun item => (observed item).files,
            contents = recordedContents id base observation := by
    intro db applied hperm h contents
    have hseen := hperm.flatMap_right fun item => (observed item).files
    rw [h.recorded.mem_snapshotContents fun a ha b hb =>
      hseparate.paths a (hseen.mem_iff.mp ha) b (hseen.mem_iff.mp hb)]
    simp only [hseen.mem_iff]
  have hsame : (db.snapshotContents id.storageRootId id.snapshotId).Perm
      (db'.snapshotContents id.storageRootId id.snapshotId) := by
    refine (List.perm_ext_iff_of_nodup (nodup_snapshotContents _ _)
      (nodup_snapshotContents _ _)).mpr fun contents => ?_
    rw [hmem hperm h, hmem hperm' h']
  refine ⟨_, hresult hperm h, ?_⟩
  rw [hresult hperm' h', Multiset.coe_eq_coe.mpr hsame]

end Result

/-- Two undisturbed runs of a new session on the same tree that commit it, interrupted or
not, commit the same counters and the same file records. -/
theorem interrupted_scans_agree {lower : PyStr → PyStr} {tree : DirectoryTree}
    {clock selected committed committed' : Instant} {s begun t t' u u' : ScanSystem}
    {job : ScanJob} {sessionId : SessionId} {storageRootId : Nat} {rest : List ScanTarget}
    {scan scan' : RootScan} {labels labels' : List (Instant × ScanEvent)}
    (hreach : Reachable ScanSystem.step (ScanSystem.start clock) s) (hjob : s.job = some job)
    (hstopped : job.controller.stopped = []) (htargets : job.targets = .fresh storageRootId :: rest)
    (hselect : s.step (selected, .select sessionId) = some begun)
    (hkeys : (tree.workItems.map WorkItem.relativePath).Nodup)
    (hrun : Steps ScanSystem.step (Undisturbed lower tree sessionId storageRootId) begun labels t)
    (hscan : t.scan? = some scan) (hsession : scan.sessionId = sessionId)
    (hcommit : t.step (committed, .commit) = some u)
    (hrun' : Steps ScanSystem.step
      (Undisturbed lower tree sessionId storageRootId) begun labels' t')
    (hscan' : t'.scan? = some scan') (hsession' : scan'.sessionId = sessionId)
    (hcommit' : t'.step (committed', .commit) = some u') :
    ∃ result, u.catalog.db.scanResult sessionId = some result ∧
      u'.catalog.db.scanResult sessionId = some result := by
  have hstarted : ∃ id : WritingSession, id.sessionId = sessionId ∧
      id.storageRootId = storageRootId ∧
      Scanning lower tree id begun.catalog.db.fileRecord begun :=
    Scanning.start hreach hjob hstopped htargets hselect
  obtain ⟨id, rfl, rfl, hstart⟩ := hstarted
  obtain ⟨applied, hperm, hprogress⟩ := (hstart.run hkeys hrun).commit hkeys hscan hsession hcommit
  obtain ⟨applied', hperm', hprogress'⟩ :=
    (hstart.run hkeys hrun').commit hkeys hscan' hsession' hcommit'
  exact scanResult_eq (Scanning.separate hkeys) hperm hperm' hprogress hprogress'

/-! ## An interrupted scan -/

/-- Whether the step reads the tree and belongs to the session. -/
def readsTree (lower : PyStr → PyStr) (tree : DirectoryTree) (scan : RootScan) : ScanEvent → Bool
  | .failRoot => false
  | .prepare workItems seen => discover tree (fun _ => ⟨false, false⟩) = some (workItems, seen)
  | .work index read =>
      match scan.stage with
      | .scanning workers =>
          match workers[index]? with
          | some (.observe row) => row.payloadJson.all fun payload =>
              read = observeFileBatch lower tree (filePathsFromPayload payload)
          | _ => true
      | _ => true
  | _ => true

def undisturbed (lower : PyStr → PyStr) (tree : DirectoryTree) (sessionId : SessionId)
    (s : ScanSystem) (label : Instant × ScanEvent) : Bool :=
  label.2.isGlobal && s.scan?.all fun scan =>
    scan.sessionId = sessionId && readsTree lower tree scan label.2

theorem undisturbed_sound {lower : PyStr → PyStr} {tree : DirectoryTree} {sessionId : SessionId}
    {storageRootId : Nat} (s : ScanSystem) (label : Instant × ScanEvent)
    (h : undisturbed lower tree sessionId s label = true) :
    Undisturbed lower tree sessionId storageRootId s label := by
  simp only [undisturbed, Bool.and_eq_true, Option.all_eq_true, decide_eq_true_eq] at h
  refine ⟨h.1, fun scan hscan => Or.inl ⟨(h.2 scan hscan).1, ?_⟩⟩
  have hreads := (h.2 scan hscan).2
  cases hevent : label.2 with
  | failRoot =>
      rw [hevent] at hreads
      cases hreads
  | prepare workItems seen =>
      rw [hevent] at hreads
      exact ⟨_, by simpa [readsTree] using hreads⟩
  | work index read =>
      rw [hevent] at hreads
      intro workers row payload hstage hphase hpayload
      simpa [readsTree, hstage, hphase, hpayload] using hreads
  | _ => trivial

/-- A root with a file and a directory with another file. -/
def twoFiles : DirectoryTree where
  root := some (.leaf (py "a") (.file (some ⟨3, 5, 4, 1, 7⟩))
    (.directory (py "d") (.leaf (py "b") (.file (some ⟨0, 6, 6, 1, 8⟩)) .nil) .nil))
  wellFormed := by decide

def readOf (path : PyStr) : ObservedBatch :=
  observeFileBatch (fun text => text) twoFiles [path]

def prepareTwoFiles : ScanEvent :=
  .prepare (balancedDirectoryWorkItems twoFiles.workItems) none

/-- A round of the only worker, from the check of the job control to the next one. -/
def applyRound (path : PyStr) : List ScanEvent :=
  List.replicate 7 (.work 0 (readOf path))

/-- The worker finds no row and returns. -/
def lastRound : List ScanEvent :=
  List.replicate 4 (.work 0 readNothing) ++ [.join]

def uninterruptedRun : List (Instant × ScanEvent) :=
  ([prepareTwoFiles] ++ applyRound (py "a") ++ applyRound (py "d/b") ++ lastRound).map
    fun event => (1, event)

def resumeJob : List ScanEvent :=
  [.startJob [.resume (py "a")] oneWorker none, .select (py "b"), prepareTwoFiles]

/-- The process dies while the first row is held, and the next job is paused after it. -/
def interruptedRun : List (Instant × ScanEvent) :=
  let held : List ScanEvent :=
    [prepareTwoFiles] ++ List.replicate 4 (ScanEvent.work 0 (readOf (py "a"))) ++ [ScanEvent.crash]
  let paused : List ScanEvent :=
    resumeJob ++ applyRound (py "a") ++ [ScanEvent.requestPause] ++
      List.replicate 2 (ScanEvent.work 0 readNothing) ++ [ScanEvent.join, .requeue, .interrupt]
  (held ++ paused ++ resumeJob ++ applyRound (py "d/b") ++ lastRound).map fun event => (2, event)

def beforeScan : ScanSystem :=
  Steps.last ScanSystem.step (ScanSystem.start 0)
    [(0, .syncRoot ⟨py "uploads", py "immich_uploads_path", py "source", py "/uploads"⟩),
      (0, .startJob [.fresh 1] oneWorker none)]

def scanBegun : ScanSystem :=
  Steps.last ScanSystem.step beforeScan [(0, .select (py "a"))]

/-- The state after an undisturbed run of the session on the two files. -/
def scannedTwoFiles (labels : List (Instant × ScanEvent)) : ScanSystem :=
  Steps.last (checkedStep ScanSystem.step (undisturbed (fun text => text) twoFiles (py "a")))
    scanBegun labels

def committedTwoFiles (labels : List (Instant × ScanEvent)) : ScanSystem :=
  Steps.last ScanSystem.step (scannedTwoFiles labels) [(3, .commit)]

theorem interrupted_scans_agree_two_files :
    ∃ result, (committedTwoFiles uninterruptedRun).catalog.db.scanResult (py "a") = some result ∧
      (committedTwoFiles interruptedRun).catalog.db.scanResult (py "a") = some result := by
  have hreach : Reachable ScanSystem.step (ScanSystem.start 0) beforeScan :=
    Reachable.of_exec (Steps.exec_eq_last (by decide))
  have hselect : beforeScan.step (0, .select (py "a")) = some scanBegun := rfl
  have hsteps : ∀ labels, (exec (checkedStep ScanSystem.step
        (undisturbed (fun text => text) twoFiles (py "a"))) scanBegun labels).isSome = true →
      Steps ScanSystem.step (Undisturbed (fun text => text) twoFiles (py "a") 1) scanBegun labels
        (scannedTwoFiles labels) :=
    fun labels hexec => Steps.of_checked undisturbed_sound (Steps.exec_eq_last hexec)
  have hrun := hsteps uninterruptedRun (by decide)
  have hrun' := hsteps interruptedRun (by decide)
  have hcommit : (scannedTwoFiles uninterruptedRun).step (3, .commit) = some
      (committedTwoFiles uninterruptedRun) := rfl
  have hcommit' : (scannedTwoFiles interruptedRun).step (3, .commit) = some
      (committedTwoFiles interruptedRun) := rfl
  exact interrupted_scans_agree hreach rfl rfl rfl hselect (by decide) hrun rfl rfl hcommit hrun'
    rfl rfl hcommit'

end ImmichDoctor.Catalog
