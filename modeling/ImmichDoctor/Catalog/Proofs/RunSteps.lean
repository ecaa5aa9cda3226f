import ImmichDoctor.Catalog.Proofs.SessionSnapshots
import ImmichDoctor.Catalog.ScanRuns
/-!
# Steps of scan runs

A step is at most one store call, so the catalog of several processes is a reachable one,
and every run stands for a session of it.
-/

namespace ImmichDoctor.Catalog

open ImmichDoctor.Library

/-- The events that are one store call and nothing else. -/
inductive RunCall (s : ScanRuns) : RunEvent → StoreOp → Prop
  | upsertStorageRoot {root : CatalogRootSpec} :
      RunCall s (.upsertStorageRoot root) (.upsertStorageRoot root)
  | reopen {listing : Nat} {sessionId : SessionId} :
      RunCall s (.resume listing sessionId) (.reopenScanSession sessionId)
  | seed {run : Nat} {scan : ScanRun} {workItems : List QueuedWorkItem}
      (hrun : s.runs[run]? = some scan) :
      RunCall s (.seed run workItems) (.seedDirectoryWorkQueue scan.sessionId workItems)
  | claim {run : Nat} {scan : ScanRun} {workerId : PyStr} (hrun : s.runs[run]? = some scan)
      (hnone : s.catalog.db.claimNextDirectory scan.sessionId workerId = none) :
      RunCall s (.claim run workerId) (.claimNextDirectory scan.sessionId workerId)
  | requeueForWorker {run : Nat} {scan : ScanRun} {workerId : PyStr}
      (hrun : s.runs[run]? = some scan) :
      RunCall s (.requeueForWorker run workerId)
        (.requeueProcessingDirectoriesForWorker scan.sessionId workerId)
  | requeueCollecting {run : Nat} {scan : ScanRun} (hrun : s.runs[run]? = some scan) :
      RunCall s (.requeueCollecting run) (.requeueCollectingDirectories scan.sessionId)
  | requeue {run : Nat} {scan : ScanRun} (hrun : s.runs[run]? = some scan) :
      RunCall s (.requeue run) (.requeueProcessingDirectories scan.sessionId)
  | pause {run : Nat} {scan : ScanRun} (hrun : s.runs[run]? = some scan) :
      RunCall s (.pause run) (.markSessionPaused scan.sessionId)
  | stop {run : Nat} {scan : ScanRun} (hrun : s.runs[run]? = some scan) :
      RunCall s (.stop run) (.markSessionStopped scan.sessionId)
  | fail {run : Nat} {scan : ScanRun} (hrun : s.runs[run]? = some scan) :
      RunCall s (.fail run) (.markSessionFailed scan.sessionId)
  | commit {run : Nat} {scan : ScanRun} (hrun : s.runs[run]? = some scan) :
      RunCall s (.commit run) (.commitScanSession scan.sessionId)

/-- The store calls that open a session of this id. -/
inductive OpensSession (s : ScanRuns) (sessionId : SessionId) : RunEvent → StoreOp → Prop
  | create {listing storageRootId : Nat} {slug : PyStr} {maxFiles : Option Int} :
      OpensSession s sessionId (.create listing slug sessionId maxFiles)
        (.createScanSession sessionId storageRootId maxFiles)
  | resume {listing : Nat} :
      OpensSession s sessionId (.resume listing sessionId) (.reopenScanSession sessionId)

/-- What a step does. -/
inductive RunStep (s : ScanRuns) (now : Instant) : RunEvent → ScanRuns → Prop
  | listed : RunStep s now .listStorageRoots
      { s with listings := s.listings ++ [s.catalog.db.listStorageRoots] }
  | called {event : RunEvent} {op : StoreOp} {catalog : CatalogState} (hop : RunCall s event op)
      (hcall : s.catalog.step (now, op) = some catalog) : RunStep s now event { s with catalog }
  | opened {event : RunEvent} {op : StoreOp} {catalog : CatalogState} {sessionId : SessionId}
      {root : StorageRoot} {session : ScanSession} (hop : OpensSession s sessionId event op)
      (hcall : s.catalog.step (now, op) = some catalog)
      (hsession : catalog.db.getScanSession sessionId = some session)
      (hroot : root.id = session.storageRootId) :
      RunStep s now event ({ s with catalog }.openRun root session)
  | claimed {run : Nat} {workerId : PyStr} {scan : ScanRun} {row : DirectoryQueueRow}
      {catalog : CatalogState} (hrun : s.runs[run]? = some scan)
      (hcall : s.catalog.step (now, .claimNextDirectory scan.sessionId workerId) = some catalog)
      (hclaim : s.catalog.db.claimNextDirectory scan.sessionId workerId = some (row, catalog.db)) :
      RunStep s now (.claim run workerId)
        ({ s with catalog }.updateRun run { scan with claimed := scan.claimed ++ [row] })
  | applied {run index : Nat} {read : ReadBatch} {scan : ScanRun} {row : DirectoryQueueRow}
      {catalog : CatalogState} (hrun : s.runs[run]? = some scan)
      (hrow : scan.claimed[index]? = some row)
      (hcall : s.catalog.step (now, .applyDirectoryFiles
        (scan.application row (RootScan.observedOf row read.batch))) = some catalog) :
      RunStep s now (.apply run index read)
        { ({ s with catalog }.updateRun run { scan with claimed := scan.claimed.eraseIdx index })
          with
          observedUnder := ScanRuns.noteObserved scan.rootPath
            (scan.application row (RootScan.observedOf row read.batch)) s.observedUnder }

section Inversion

variable {s t : ScanRuns} {now : Instant} {event : RunEvent}

theorem call_eq_some {op : StoreOp} (h : s.call now op = some t) :
    ∃ catalog, s.catalog.step (now, op) = some catalog ∧ t = { s with catalog } := by
  obtain ⟨catalog, hcall, heq⟩ := Option.map_eq_some_iff.mp h
  exact ⟨catalog, hcall, heq.symm⟩

theorem runStep_of_callOf {run : Nat} {op : SessionId → StoreOp}
    (h : s.callOf now run op = some t)
    (hop : ∀ scan, s.runs[run]? = some scan → RunCall s event (op scan.sessionId)) :
    RunStep s now event t := by
  obtain ⟨scan, hrun, hcalled⟩ := Option.bind_eq_some_iff.mp h
  obtain ⟨catalog, hcall, rfl⟩ := call_eq_some hcalled
  exact .called (hop scan hrun) hcall

/-- A new session is of the root it is created for. -/
theorem getScanSession_createScanSession {db db' : CatalogDb} {sessionId : SessionId}
    {storageRootId : Nat} {maxFiles : Option Int} {session : ScanSession}
    (h : db.createScanSession now sessionId storageRootId maxFiles = some db')
    (hsession : db'.getScanSession sessionId = some session) :
    session.storageRootId = storageRootId := by
  obtain ⟨-, hfresh, created, hrows, hid, hroot⟩ := CatalogDb.queue_createScanSession h
  obtain ⟨hmem, hsid⟩ := Table.find?_eq_some_iff.mp hsession
  have hcreated : created ∈ db'.scanSession.rows := by
    rw [hrows]
    exact List.mem_append_right _ (List.mem_singleton.mpr rfl)
  rw [db'.scanSession.eq_of_key_eq hmem hcreated (hsid.trans hid.symm)]
  exact hroot

theorem runStep_of_step (h : s.step (now, event) = some t) : RunStep s now event t := by
  cases event with
  | upsertStorageRoot root =>
      obtain ⟨catalog, hcall, rfl⟩ := call_eq_some h
      exact .called .upsertStorageRoot hcall
  | listStorageRoots =>
      cases h
      exact .listed
  | create listing slug sessionId maxFiles =>
      simp only [ScanRuns.step, ScanRuns.create, Option.bind_eq_bind,
        Option.bind_eq_some_iff] at h
      obtain ⟨roots, -, root, -, created, hcreated, session, hsession, ht⟩ := h
      cases ht
      obtain ⟨catalog, hcall, rfl⟩ := call_eq_some hcreated
      have hrun := (CatalogState.step_eq_some_iff.mp hcall).2.1
      exact .opened .create hcall hsession (getScanSession_createScanSession hrun hsession).symm
  | resume listing sessionId =>
      simp only [ScanRuns.step, ScanRuns.resume, Option.bind_eq_bind,
        Option.bind_eq_some_iff] at h
      obtain ⟨roots, -, reopened, hreopened, session, hsession, ht⟩ := h
      obtain ⟨catalog, hcall, rfl⟩ := call_eq_some hreopened
      split at ht
      · cases ht
        exact .called .reopen hcall
      · next root hfound =>
          cases ht
          exact .opened .resume hcall hsession (by simpa using List.find?_some hfound)
  | claim run workerId =>
      simp only [ScanRuns.step, ScanRuns.claim, Option.bind_eq_bind,
        Option.bind_eq_some_iff] at h
      obtain ⟨scan, hrun, called, hcalled, ht⟩ := h
      obtain ⟨catalog, hcall, rfl⟩ := call_eq_some hcalled
      split at ht
      · next hnone =>
          cases ht
          exact .called (.claim hrun hnone) hcall
      · next row db hclaim =>
          cases ht
          have hdb : catalog.db = db := by
            have hran := (CatalogState.step_eq_some_iff.mp hcall).2.1
            simp only [StoreOp.run, hclaim, Option.some.injEq] at hran
            exact hran.symm
          exact .claimed hrun hcall (hdb ▸ hclaim)
  | apply run index read =>
      simp only [ScanRuns.step, ScanRuns.apply, Option.bind_eq_bind,
        Option.bind_eq_some_iff] at h
      obtain ⟨scan, hrun, row, hrow, applied, happlied, ht⟩ := h
      cases ht
      obtain ⟨catalog, hcall, rfl⟩ := call_eq_some happlied
      exact .applied hrun hrow hcall
  | seed run workItems =>
      simp only [ScanRuns.step] at h
      exact runStep_of_callOf h fun _ hrun => .seed hrun
  | requeueForWorker run workerId =>
      simp only [ScanRuns.step] at h
      exact runStep_of_callOf h fun _ hrun => .requeueForWorker hrun
  | requeueCollecting run =>
      simp only [ScanRuns.step] at h
      exact runStep_of_callOf h fun _ hrun => .requeueCollecting hrun
  | requeue run =>
      simp only [ScanRuns.step] at h
      exact runStep_of_callOf h fun _ hrun => .requeue hrun
  | pause run =>
      simp only [ScanRuns.step] at h
      exact runStep_of_callOf h fun _ hrun => .pause hrun
  | stop run =>
      simp only [ScanRuns.step] at h
      exact runStep_of_callOf h fun _ hrun => .stop hrun
  | fail run =>
      simp only [ScanRuns.step] at h
      exact runStep_of_callOf h fun _ hrun => .fail hrun
  | commit run =>
      simp only [ScanRuns.step] at h
      exact runStep_of_callOf h fun _ hrun => .commit hrun

/-- A step leaves the catalog as it is or makes one store call. -/
theorem RunStep.catalog (h : RunStep s now event t) :
    t.catalog = s.catalog ∨ ∃ op, s.catalog.step (now, op) = some t.catalog := by
  cases h with
  | listed => exact Or.inl rfl
  | called _ hcall => exact Or.inr ⟨_, hcall⟩
  | opened _ hcall _ _ => exact Or.inr ⟨_, hcall⟩
  | claimed _ hcall _ => exact Or.inr ⟨_, hcall⟩
  | applied _ _ hcall => exact Or.inr ⟨_, hcall⟩

/-- Several processes lead the catalog to reachable states only. -/
theorem catalog_reachable_step {clock : Instant}
    (hreach : Reachable CatalogState.step (CatalogState.start clock) s.catalog)
    (hstep : s.step (now, event) = some t) :
    Reachable CatalogState.step (CatalogState.start clock) t.catalog := by
  rcases (runStep_of_step hstep).catalog with hsame | ⟨op, hcall⟩
  · rw [hsame]
    exact hreach
  · have hone : Steps CatalogState.step (fun _ _ => True) s.catalog [(now, op)] t.catalog :=
      .head trivial hcall (.refl _)
    obtain ⟨labels, hlabels⟩ := hreach
    exact ⟨labels ++ [(now, op)], hlabels.append hone⟩

end Inversion

/-! ## Runs and their sessions -/

/-- The run is one of a session of the catalog. -/
def ScanRun.OfSession (db : CatalogDb) (scan : ScanRun) : Prop :=
  ∃ session ∈ db.scanSession.rows,
    session.origin = ⟨scan.sessionId, scan.storageRootId, scan.snapshotId⟩

/-- The rows a run has claimed are rows of its session's queue. -/
def ScanRun.HoldsRows (db : CatalogDb) (scan : ScanRun) : Prop :=
  ∀ row ∈ scan.claimed, ∃ queued ∈ db.scanDirectoryQueue.rows,
    queued.key = (scan.sessionId, row.relativePath)

structure RunsValid (clock : Instant) (s : ScanRuns) : Prop where
  reachable : Reachable CatalogState.step (CatalogState.start clock) s.catalog
  sessions : ∀ scan ∈ s.runs, scan.OfSession s.catalog.db
  rows : ∀ scan ∈ s.runs, scan.HoldsRows s.catalog.db

section Valid

variable {db db' : CatalogDb} {now : Instant} {op : StoreOp} {scan : ScanRun} {clock : Instant}
  {s t : ScanRuns} {event : RunEvent}

theorem ScanRun.OfSession.run (h : scan.OfSession db) (hrun : op.run now db = some db') :
    scan.OfSession db' := by
  obtain ⟨session, hmem, horigin⟩ := h
  obtain ⟨kept, hkept, hsame⟩ := session_kept hrun hmem
  exact ⟨kept, hkept, hsame.trans horigin⟩

theorem ScanRun.HoldsRows.run (h : scan.HoldsRows db) (hrun : op.run now db = some db') :
    scan.HoldsRows db' := by
  intro row hrow
  obtain ⟨queued, hmem, hkey⟩ := h row hrow
  obtain ⟨new, hnew, hsame, -⟩ := exists_queueRow_run hrun hmem
  exact ⟨new, hnew, hsame.trans hkey⟩

theorem RunsValid.step (h : RunsValid clock s) (hstep : s.step (now, event) = some t) :
    RunsValid clock t := by
  have hreach := catalog_reachable_step h.reachable hstep
  cases runStep_of_step hstep with
  | listed => exact ⟨hreach, h.sessions, h.rows⟩
  | called _ hcall =>
      have hrun := (CatalogState.step_eq_some_iff.mp hcall).2.1
      exact ⟨hreach, fun scan hscan => (h.sessions scan hscan).run hrun,
        fun scan hscan => (h.rows scan hscan).run hrun⟩
  | opened _ hcall hsession hroot =>
      have hrun := (CatalogState.step_eq_some_iff.mp hcall).2.1
      have hmem := (Table.find?_eq_some_iff.mp hsession).1
      refine ⟨hreach, fun scan hscan => ?_, fun scan hscan => ?_⟩
      · rcases List.mem_append.mp hscan with hold | hnew
        · exact (h.sessions scan hold).run hrun
        · rw [List.mem_singleton.mp hnew]
          exact ⟨_, hmem, by rw [hroot]; rfl⟩
      · rcases List.mem_append.mp hscan with hold | hnew
        · exact (h.rows scan hold).run hrun
        · rw [List.mem_singleton.mp hnew]
          exact nofun
  | claimed hfound hcall hclaim =>
      have hrun := (CatalogState.step_eq_some_iff.mp hcall).2.1
      have hmem := List.mem_of_getElem? hfound
      refine ⟨hreach, fun scan hscan => ?_, fun scan hscan => ?_⟩
      · rcases List.mem_or_eq_of_mem_set hscan with hold | rfl
        · exact (h.sessions scan hold).run hrun
        · exact (h.sessions _ hmem).run hrun
      · rcases List.mem_or_eq_of_mem_set hscan with hold | rfl
        · exact (h.rows scan hold).run hrun
        · intro row hrow
          rcases List.mem_append.mp hrow with hheld | hnew
          · exact (h.rows _ hmem).run hrun row hheld
          · obtain ⟨hqueued, hsession, -⟩ := CatalogDb.queue_claimNextDirectory hclaim
            obtain ⟨new, hnewMem, hkey, -⟩ := exists_queueRow_run hrun hqueued
            rw [List.mem_singleton.mp hnew]
            exact ⟨new, hnewMem, hkey.trans (Prod.ext hsession rfl)⟩
  | applied hfound _ hcall =>
      have hrun := (CatalogState.step_eq_some_iff.mp hcall).2.1
      have hmem := List.mem_of_getElem? hfound
      refine ⟨hreach, fun scan hscan => ?_, fun scan hscan => ?_⟩
      · rcases List.mem_or_eq_of_mem_set hscan with hold | rfl
        · exact (h.sessions scan hold).run hrun
        · exact (h.sessions _ hmem).run hrun
      · rcases List.mem_or_eq_of_mem_set hscan with hold | rfl
        · exact (h.rows scan hold).run hrun
        · exact fun row hrow => (h.rows _ hmem).run hrun row (List.mem_of_mem_eraseIdx hrow)

theorem runsValid_start : RunsValid clock (ScanRuns.start clock) where
  reachable := Reachable.self _
  sessions := nofun
  rows := nofun

end Valid

end ImmichDoctor.Catalog
