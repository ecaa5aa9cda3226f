import ImmichDoctor.Catalog.Proofs.StoreInvariant
/-!
# What the store methods do to the work queue

One lemma for each method that writes `scan_directory_queue`, as the rows of the
table afterwards, and the frame for the others.
-/

namespace ImmichDoctor.Catalog

open ImmichDoctor.Library

/-- No row of the session has the status. -/
def NoRow (db : CatalogDb) (sessionId : SessionId) (status : QueueStatus) : Prop :=
  ∀ row ∈ db.scanDirectoryQueue.rows, row.scanSessionId = sessionId → row.status ≠ status

/-- Every queue row belongs to a session of the catalog. -/
def QueueReferences (db : CatalogDb) : Prop :=
  ∀ row ∈ db.scanDirectoryQueue.rows, ∃ session ∈ db.scanSession.rows,
    session.id = row.scanSessionId

variable {db db' : CatalogDb} {now : Instant} {sessionId : SessionId}

theorem NoRow.of_rows {status : QueueStatus} (h : NoRow db sessionId status)
    (hrows : db'.scanDirectoryQueue.rows = db.scanDirectoryQueue.rows) :
    NoRow db' sessionId status := by
  unfold NoRow
  rw [hrows]
  exact h

namespace CatalogDb

theorem countPendingDirectories_eq_zero (hpending : NoRow db sessionId .pending)
    (hprocessing : NoRow db sessionId .processing) : db.countPendingDirectories sessionId = 0 := by
  rw [countPendingDirectories, List.countP_eq_zero]
  intro row hrow hcount
  simp only [Bool.and_eq_true, Bool.or_eq_true, decide_eq_true_eq] at hcount
  rcases hcount.2 with h | h
  · exact hpending row hrow hcount.1 h
  · exact hprocessing row hrow hcount.1 h

theorem queue_createScanSession {storageRootId : Nat} {maxFiles : Option Int}
    (h : db.createScanSession now sessionId storageRootId maxFiles = some db') :
    db'.scanDirectoryQueue = db.scanDirectoryQueue ∧
      (∀ session ∈ db.scanSession.rows, session.id ≠ sessionId) ∧
      ∃ session : ScanSession, db'.scanSession.rows = db.scanSession.rows ++ [session] ∧
        session.id = sessionId ∧ session.storageRootId = storageRootId := by
  simp only [createScanSession, Option.bind_eq_bind, Option.bind_eq_some_iff] at h
  obtain ⟨_, _, snapshots, _, sessions, hsessions, queue, _, hdb⟩ := h
  cases hdb
  obtain ⟨hrows, hfresh⟩ := Table.rows_of_insert? hsessions
  exact ⟨rfl, hfresh, _, hrows, rfl, rfl⟩

theorem queue_claimNextDirectory {workerId : PyStr} {row : DirectoryQueueRow}
    (h : db.claimNextDirectory sessionId workerId = some (row, db')) :
    row ∈ db.scanDirectoryQueue.rows ∧ row.scanSessionId = sessionId ∧ row.status = .pending ∧
      db'.scanSession = db.scanSession ∧
      db'.scanDirectoryQueue.rows = db.scanDirectoryQueue.rows.map fun other =>
        if other.key = (sessionId, row.relativePath) then other.claimedBy workerId
        else other := by
  simp only [claimNextDirectory, Option.bind_eq_bind, Option.bind_eq_some_iff,
    Option.some.injEq, Prod.mk.injEq] at h
  obtain ⟨found, hfirst, rfl, rfl⟩ := h
  have hmem := firstBy_mem hfirst
  simp only [pendingDirectories, List.mem_filter, Bool.and_eq_true, decide_eq_true_eq] at hmem
  refine ⟨hmem.1, hmem.2.1, hmem.2.2, rfl, ?_⟩
  simp [Table.rows_updateWhere]

theorem noRow_pending_of_claim_none {workerId : PyStr}
    (h : db.claimNextDirectory sessionId workerId = none) : NoRow db sessionId .pending := by
  have hnone : firstBy DirectoryQueueRow.before (db.pendingDirectories sessionId) = none := by
    cases hfirst : firstBy DirectoryQueueRow.before (db.pendingDirectories sessionId) with
    | none => rfl
    | some row =>
        simp [claimNextDirectory, hfirst] at h
  rw [firstBy_eq_none_iff] at hnone
  intro row hrow hsession hstatus
  have hin : row ∈ db.pendingDirectories sessionId := by
    simp [pendingDirectories, List.mem_filter, hrow, hsession, hstatus]
  rw [hnone] at hin
  cases hin

theorem queue_applyDirectoryFiles {application : DirectoryApplication}
    (h : db.applyDirectoryFiles now application = some db') :
    db'.scanDirectoryQueue.rows = db.scanDirectoryQueue.rows.map (fun row =>
        if row.key = (application.sessionId, application.relativePath) then row.finished now
        else row) ∧
      db'.scanSession = db.scanSession.updateWhere
        (fun session => session.id = application.sessionId) (addProgress now application)
        (id_addProgress now application) := by
  unfold applyDirectoryFiles at h
  split at h
  · cases h
    exact ⟨by simp [updateSession, Table.rows_updateWhere], rfl⟩
  · cases h

theorem queue_requeueForWorker {workerId : PyStr}
    (hnone : ∀ row ∈ db.scanDirectoryQueue.rows, row.scanSessionId = sessionId →
      row.status = .processing → row.workerId ≠ some workerId) :
    (db.requeueProcessingDirectoriesForWorker sessionId workerId).scanDirectoryQueue.rows =
      db.scanDirectoryQueue.rows := by
  rw [requeueProcessingDirectoriesForWorker, Table.rows_updateWhere]
  have hid : ∀ row ∈ db.scanDirectoryQueue.rows,
      (if (row.scanSessionId = sessionId && row.status = .processing &&
          row.workerId = some workerId : Bool) = true then row.requeued else row) = row := by
    intro row hrow
    rw [if_neg]
    intro hwhere
    simp only [Bool.and_eq_true, decide_eq_true_eq] at hwhere
    exact hnone row hrow hwhere.1.1 hwhere.1.2 hwhere.2
  rw [List.map_congr_left hid, List.map_id']

theorem rows_requeueProcessingDirectories :
    (db.requeueProcessingDirectories sessionId).scanDirectoryQueue.rows =
      db.scanDirectoryQueue.rows.map fun row =>
        if row.scanSessionId = sessionId ∧ row.status = .processing then row.requeued else row := by
  simp [requeueProcessingDirectories, Table.rows_updateWhere]

theorem queue_reopenScanSession :
    (db.reopenScanSession now sessionId).scanDirectoryQueue =
      (db.requeueProcessingDirectories sessionId).scanDirectoryQueue := rfl

theorem noRow_processing_reopen :
    NoRow (db.reopenScanSession now sessionId) sessionId .processing := by
  intro row hrow
  rw [queue_reopenScanSession, rows_requeueProcessingDirectories, List.mem_map] at hrow
  obtain ⟨old, -, rfl⟩ := hrow
  by_cases hwhere : old.scanSessionId = sessionId ∧ old.status = .processing
  · rw [if_pos hwhere]
    intro _ hstatus
    cases hstatus
  · rw [if_neg hwhere]
    exact fun hsession hstatus => hwhere ⟨hsession, hstatus⟩

/-- Seeding adds pending rows of the session and keeps the rows there are. -/
theorem queue_seedDirectoryWorkQueue {workItems : List QueuedWorkItem}
    (h : db.seedDirectoryWorkQueue now sessionId workItems = some db') :
    db'.scanSession = db.scanSession ∧
      ((workItems = [] ∧ db'.scanDirectoryQueue = db.scanDirectoryQueue) ∨
        ((∃ session ∈ db.scanSession.rows, session.id = sessionId) ∧
          db'.scanDirectoryQueue =
            workItems.foldl (seedWorkItem now sessionId) db.scanDirectoryQueue)) := by
  unfold seedDirectoryWorkQueue at h
  split at h
  · next hempty =>
      cases h
      exact ⟨rfl, Or.inl ⟨List.isEmpty_iff.mp hempty, rfl⟩⟩
  · split at h
    · cases h
    · next hok =>
        cases h
        simp only [Bool.or_eq_true, not_or, Bool.not_eq_true] at hok
        obtain ⟨session, hsession⟩ :=
          Option.isSome_iff_exists.mp (Option.isNone_eq_false_iff.mp hok.1)
        exact ⟨rfl, Or.inr ⟨⟨session, Table.find?_eq_some_iff.mp hsession⟩, rfl⟩⟩

theorem mem_foldl_seedWorkItem {workItems : List QueuedWorkItem}
    {queue : Table DirectoryQueueRow DirectoryQueueRow.key} {row : DirectoryQueueRow}
    (h : row ∈ (workItems.foldl (seedWorkItem now sessionId) queue).rows) :
    row ∈ queue.rows ∨ ∃ item ∈ workItems, ∃ id, row = queueRowOf now sessionId id item := by
  induction workItems generalizing queue with
  | nil => exact Or.inl h
  | cons item rest ih =>
      rw [List.foldl_cons] at h
      rcases ih h with hseeded | ⟨other, hother, id, rfl⟩
      · rcases Table.mem_insertOrIgnore.mp hseeded with hold | ⟨-, rfl⟩
        · exact Or.inl hold
        · exact Or.inr ⟨item, List.mem_cons_self, _, rfl⟩
      · exact Or.inr ⟨other, List.mem_cons_of_mem _ hother, id, rfl⟩

theorem mem_foldl_seedWorkItem_of_mem {workItems : List QueuedWorkItem}
    {queue : Table DirectoryQueueRow DirectoryQueueRow.key} {row : DirectoryQueueRow}
    (h : row ∈ queue.rows) : row ∈ (workItems.foldl (seedWorkItem now sessionId) queue).rows := by
  induction workItems generalizing queue with
  | nil => exact h
  | cons item rest ih => exact ih (Table.mem_insertOrIgnore.mpr (Or.inl h))

theorem exists_seedWorkItem (queue : Table DirectoryQueueRow DirectoryQueueRow.key)
    (item : QueuedWorkItem) :
    ∃ row ∈ (seedWorkItem now sessionId queue item).rows,
      row.key = (sessionId, item.relativePath) := by
  by_cases hfresh : ∀ old ∈ queue.rows, old.key ≠ (sessionId, item.relativePath)
  · exact ⟨_, Table.mem_insertOrIgnore.mpr (Or.inr ⟨hfresh, rfl⟩), rfl⟩
  · simp only [not_forall, not_not] at hfresh
    obtain ⟨old, hold, hkey⟩ := hfresh
    exact ⟨old, Table.mem_insertOrIgnore.mpr (Or.inl hold), hkey⟩

/-- After seeding every item has a row with its key. -/
theorem exists_seeded {workItems : List QueuedWorkItem}
    {queue : Table DirectoryQueueRow DirectoryQueueRow.key} {item : QueuedWorkItem}
    (h : item ∈ workItems) :
    ∃ row ∈ (workItems.foldl (seedWorkItem now sessionId) queue).rows,
      row.key = (sessionId, item.relativePath) := by
  induction workItems generalizing queue with
  | nil => cases h
  | cons first rest ih =>
      rw [List.foldl_cons]
      rcases List.mem_cons.mp h with rfl | hrest
      · obtain ⟨row, hrow, hkey⟩ := exists_seedWorkItem queue item
        exact ⟨row, mem_foldl_seedWorkItem_of_mem hrow, hkey⟩
      · exact ih hrest

/-- A seeded row is that of the first item with its key. -/
theorem first_of_seeded {workItems : List QueuedWorkItem}
    {R : QueuedWorkItem → QueuedWorkItem → Prop}
    {queue : Table DirectoryQueueRow DirectoryQueueRow.key} {row : DirectoryQueueRow}
    (hsorted : workItems.Pairwise R)
    (h : row ∈ (workItems.foldl (seedWorkItem now sessionId) queue).rows) :
    row ∈ queue.rows ∨ ∃ item ∈ workItems, ∃ id, row = queueRowOf now sessionId id item ∧
      (∀ old ∈ queue.rows, old.key ≠ (sessionId, item.relativePath)) ∧
      ∀ other ∈ workItems, other.relativePath = item.relativePath →
        other = item ∨ R item other := by
  induction workItems generalizing queue with
  | nil => exact Or.inl h
  | cons first rest ih =>
      obtain ⟨hfirst, hrest⟩ := List.pairwise_cons.mp hsorted
      rcases ih hrest h with hseeded | ⟨item, hitem, id, rfl, hfresh, hbefore⟩
      · rcases Table.mem_insertOrIgnore.mp hseeded with hold | ⟨hfresh, rfl⟩
        · exact Or.inl hold
        · refine Or.inr ⟨first, List.mem_cons_self, _, rfl, hfresh, fun other hother _ => ?_⟩
          rcases List.mem_cons.mp hother with rfl | hother
          · exact Or.inl rfl
          · exact Or.inr (hfirst other hother)
      · refine Or.inr
          ⟨item, List.mem_cons_of_mem _ hitem, id, rfl, ?_, fun other hother hsame => ?_⟩
        · exact fun old hold => hfresh old (Table.mem_insertOrIgnore.mpr (Or.inl hold))
        · rcases List.mem_cons.mp hother with rfl | hother
          · -- the row of the first item is already there
            obtain ⟨seeded, hseeded, hkey⟩ := exists_seedWorkItem queue other
            exact absurd (hkey.trans (by rw [hsame])) (hfresh seeded hseeded)
          · exact hbefore other hother hsame

end CatalogDb

/-! ## References of the queue -/

/-- References survive when sessions stay and the rows keep their session or are
added for a session there is. -/
theorem QueueReferences.of_rows (h : QueueReferences db)
    (hsessions : ∀ session ∈ db.scanSession.rows,
      ∃ new ∈ db'.scanSession.rows, new.id = session.id)
    (hqueue : ∀ row ∈ db'.scanDirectoryQueue.rows,
      (∃ old ∈ db.scanDirectoryQueue.rows, old.scanSessionId = row.scanSessionId) ∨
        ∃ session ∈ db'.scanSession.rows, session.id = row.scanSessionId) :
    QueueReferences db' := by
  intro row hrow
  rcases hqueue row hrow with ⟨old, hold, hsame⟩ | hadded
  · obtain ⟨session, hsession, hid⟩ := h old hold
    obtain ⟨new, hnew, hnid⟩ := hsessions session hsession
    exact ⟨new, hnew, hnid.trans (hid.trans hsame)⟩
  · exact hadded

theorem QueueReferences.updateSession (h : QueueReferences db)
    {f : ScanSession → ScanSession} (hkey : ∀ session, (f session).id = session.id) :
    QueueReferences (db.updateSession sessionId f hkey) :=
  h.of_rows (fun _ hsession => Table.exists_mem_updateWhere hkey hsession)
    fun row hrow => Or.inl ⟨row, hrow, rfl⟩

theorem QueueReferences.updateQueue (h : QueueReferences db) {p : DirectoryQueueRow → Bool}
    {f : DirectoryQueueRow → DirectoryQueueRow} (hkey : ∀ row, (f row).key = row.key) :
    QueueReferences
      { db with scanDirectoryQueue := db.scanDirectoryQueue.updateWhere p f hkey } :=
  h.of_rows (fun session hsession => ⟨session, hsession, rfl⟩) fun _ hrow => by
    obtain ⟨old, hold, hsame⟩ := Table.exists_of_mem_updateWhere hkey hrow
    exact Or.inl ⟨old, hold, congrArg Prod.fst hsame⟩

theorem queueReferences_run {op : StoreOp} (h : QueueReferences db)
    (hrun : op.run now db = some db') : QueueReferences db' := by
  cases op with
  | upsertStorageRoot root =>
      obtain ⟨_, rfl⟩ := CatalogDb.of_upsertStorageRoot hrun
      exact h
  | createScanSession sessionId storageRootId maxFiles =>
      obtain ⟨hqueue, -, session, hrows, -, -⟩ := CatalogDb.queue_createScanSession hrun
      refine h.of_rows (fun old hold => ⟨old, hrows ▸ List.mem_append_left _ hold, rfl⟩) ?_
      rw [hqueue]
      exact fun row hrow => Or.inl ⟨row, hrow, rfl⟩
  | reopenScanSession sessionId =>
      cases hrun
      exact (h.updateQueue DirectoryQueueRow.key_requeued).updateSession
        (ScanSession.id_reopened now)
  | seedDirectoryWorkQueue sessionId workItems =>
      obtain ⟨hsessions, ⟨-, hsame⟩ | ⟨hsession, hseeded⟩⟩ :=
        CatalogDb.queue_seedDirectoryWorkQueue hrun
      · refine h.of_rows (fun old hold => ⟨old, hsessions ▸ hold, rfl⟩) ?_
        rw [hsame]
        exact fun row hrow => Or.inl ⟨row, hrow, rfl⟩
      · refine h.of_rows (fun old hold => ⟨old, hsessions ▸ hold, rfl⟩) ?_
        intro row hrow
        rw [hseeded] at hrow
        rcases CatalogDb.mem_foldl_seedWorkItem hrow with hold | ⟨item, -, id, rfl⟩
        · exact Or.inl ⟨row, hold, rfl⟩
        · exact Or.inr (hsessions ▸ hsession)
  | claimNextDirectory sessionId workerId =>
      simp only [StoreOp.run, CatalogDb.claimNextDirectory, Option.bind_eq_bind] at hrun
      cases hfirst : firstBy DirectoryQueueRow.before (db.pendingDirectories sessionId) with
      | none =>
          rw [hfirst] at hrun
          cases hrun
          exact h
      | some row =>
          rw [hfirst] at hrun
          cases hrun
          exact h.updateQueue (DirectoryQueueRow.key_claimedBy workerId)
  | applyDirectoryFiles application =>
      simp only [StoreOp.run, CatalogDb.applyDirectoryFiles] at hrun
      split at hrun
      · cases hrun
        exact QueueReferences.updateSession
          (h.updateQueue (DirectoryQueueRow.key_finished now))
          (CatalogDb.id_addProgress now application)
      · cases hrun
  | requeueProcessingDirectories sessionId =>
      cases hrun
      exact h.updateQueue DirectoryQueueRow.key_requeued
  | requeueProcessingDirectoriesForWorker sessionId workerId =>
      cases hrun
      exact h.updateQueue DirectoryQueueRow.key_requeued
  | requeueCollectingDirectories sessionId =>
      cases hrun
      exact h
  | markSessionPaused sessionId =>
      cases hrun
      exact h.updateSession (ScanSession.id_halted now)
  | markSessionStopped sessionId =>
      cases hrun
      exact h.updateSession (ScanSession.id_ended .stopped now)
  | markSessionFailed sessionId =>
      cases hrun
      simp only [CatalogDb.markSessionFailed]
      split
      · exact h.updateSession (ScanSession.id_ended .failed now)
      · exact QueueReferences.updateSession h (ScanSession.id_ended .failed now)
  | commitScanSession sessionId =>
      simp only [StoreOp.run, CatalogDb.commitScanSession, Option.bind_eq_bind,
        Option.bind_eq_some_iff] at hrun
      obtain ⟨session, -, hdb⟩ := hrun
      cases hdb
      exact QueueReferences.updateSession h (ScanSession.id_ended .completed now)

theorem queueReferences_of_reachable {clock : Instant} {s : CatalogState}
    (hreach : Reachable CatalogState.step (CatalogState.start clock) s) :
    QueueReferences s.db := by
  have hstep : ∀ (s : CatalogState) (label : Instant × StoreOp) (t : CatalogState),
      s.step label = some t → QueueReferences s.db → QueueReferences t.db :=
    fun s label t hstep hs => queueReferences_run hs (CatalogState.step_eq_some_iff.mp hstep).2.1
  refine Reachable.invariant hstep hreach ?_
  intro row hrow
  cases hrow

/-! ## The keys of the queue -/

/-- The queue stays, is updated in place with the done rows left done, or is seeded. -/
theorem scanDirectoryQueue_run {op : StoreOp} (hrun : op.run now db = some db') :
    db'.scanDirectoryQueue = db.scanDirectoryQueue ∨
      (∃ p f hkey, db'.scanDirectoryQueue = db.scanDirectoryQueue.updateWhere p f hkey ∧
        ∀ row ∈ db.scanDirectoryQueue.rows, p row = true → row.status = .done →
          (f row).status = .done) ∨
      ∃ (seeded : SessionId) (workItems : List QueuedWorkItem), db'.scanDirectoryQueue =
        workItems.foldl (CatalogDb.seedWorkItem now seeded) db.scanDirectoryQueue := by
  cases op with
  | upsertStorageRoot root =>
      obtain ⟨_, rfl⟩ := CatalogDb.of_upsertStorageRoot hrun
      exact Or.inl rfl
  | createScanSession sessionId storageRootId maxFiles =>
      exact Or.inl (CatalogDb.queue_createScanSession hrun).1
  | seedDirectoryWorkQueue sessionId workItems =>
      obtain ⟨-, ⟨-, hsame⟩ | ⟨-, hseeded⟩⟩ := CatalogDb.queue_seedDirectoryWorkQueue hrun
      · exact Or.inl hsame
      · exact Or.inr (Or.inr ⟨sessionId, workItems, hseeded⟩)
  | claimNextDirectory sessionId workerId =>
      simp only [StoreOp.run] at hrun
      split at hrun
      · cases hrun
        exact Or.inl rfl
      · next row claimed hclaim =>
          obtain ⟨hrow, hsession, hstatus, -, -⟩ := CatalogDb.queue_claimNextDirectory hclaim
          simp only [CatalogDb.claimNextDirectory, Option.bind_eq_bind, Option.bind_eq_some_iff,
            Option.some.injEq, Prod.mk.injEq] at hclaim
          obtain ⟨found, -, hfound, rfl⟩ := hclaim
          cases hrun
          refine Or.inr (Or.inl ⟨_, _, DirectoryQueueRow.key_claimedBy workerId, rfl, ?_⟩)
          -- the row that is claimed is pending
          intro other hother hkey hdone
          have hwhere := of_decide_eq_true hkey
          have hother' : other.key = (sessionId, found.relativePath) :=
            Prod.ext hwhere.1 hwhere.2
          have hsame : other = row := db.scanDirectoryQueue.eq_of_key_eq hother hrow
            (hother'.trans (by rw [DirectoryQueueRow.key, hsession, hfound]))
          rw [hsame, hstatus] at hdone
          cases hdone
  | applyDirectoryFiles application =>
      simp only [StoreOp.run, CatalogDb.applyDirectoryFiles] at hrun
      split at hrun <;> cases hrun
      exact Or.inr (Or.inl ⟨_, _, DirectoryQueueRow.key_finished now, rfl, fun _ _ _ _ => rfl⟩)
  | markSessionFailed sessionId =>
      cases hrun
      simp only [CatalogDb.markSessionFailed]
      split <;> exact Or.inl rfl
  | commitScanSession sessionId =>
      obtain ⟨session, -, hdb⟩ := Option.bind_eq_some_iff.mp hrun
      cases hdb
      exact Or.inl rfl
  | reopenScanSession sessionId =>
      cases hrun
      refine Or.inr (Or.inl ⟨_, _, DirectoryQueueRow.key_requeued, rfl, ?_⟩)
      exact fun row _ hwhere hdone => by simp [hdone] at hwhere
  | requeueProcessingDirectories sessionId =>
      cases hrun
      refine Or.inr (Or.inl ⟨_, _, DirectoryQueueRow.key_requeued, rfl, ?_⟩)
      exact fun row _ hwhere hdone => by simp [hdone] at hwhere
  | requeueProcessingDirectoriesForWorker sessionId workerId =>
      cases hrun
      refine Or.inr (Or.inl ⟨_, _, DirectoryQueueRow.key_requeued, rfl, ?_⟩)
      exact fun row _ hwhere hdone => by simp [hdone] at hwhere
  | _ => cases hrun; exact Or.inl rfl

/-- No call removes a row, and a row that is done stays so. -/
theorem exists_queueRow_run {op : StoreOp} (hrun : op.run now db = some db')
    {row : DirectoryQueueRow} (hrow : row ∈ db.scanDirectoryQueue.rows) :
    ∃ new ∈ db'.scanDirectoryQueue.rows, new.key = row.key ∧
      (row.status = .done → new.status = .done) := by
  rcases scanDirectoryQueue_run hrun with hsame | ⟨p, f, hkey, hupdated, hdone⟩ |
    ⟨seeded, workItems, hseeded⟩
  · exact ⟨row, hsame ▸ hrow, rfl, id⟩
  · rw [hupdated]
    refine ⟨_, Table.mem_updateWhere_of_mem p f hkey hrow, ?_⟩
    split
    · next hwhere => exact ⟨hkey row, hdone row hrow hwhere⟩
    · exact ⟨rfl, id⟩
  · exact ⟨row, by rw [hseeded]; exact CatalogDb.mem_foldl_seedWorkItem_of_mem hrow, rfl, id⟩

end ImmichDoctor.Catalog
