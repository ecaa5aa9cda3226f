import ImmichDoctor.Catalog.Observation
import ImmichDoctor.Catalog.Proofs.RecordedFiles
import ImmichDoctor.Catalog.Proofs.WorkQueue
/-!
# The progress of a session

A session has applied some of the work items of its tree. Its queue rows stand for
work items, the done ones for the applied ones; its counters are sums over the
applied items, and its file records are the observations of these. Every store
method keeps that: one that seeds the session's queue or applies one of its rows
moves the progress on, and all others leave it as it is.
-/

namespace ImmichDoctor.Catalog

open ImmichDoctor.Library

/-! ## Progress -/

/-- The row stands for the item; a row that is not done still has the payload. -/
structure QueuedFor (item : WorkItem) (row : DirectoryQueueRow) : Prop where
  relativePath : row.relativePath = item.relativePath
  errorCount : row.payloadErrorCount = item.payloadErrorCount
  lastRelativePath : row.payloadLastRelativePath = item.fileRelativePaths.getLast?
  payload : row.status ≠ .done → row.payloadJson = some (Json.dumps item.fileRelativePaths)

structure QueueProgress (sessionId : SessionId) (items applied : List WorkItem)
    (queue : Table DirectoryQueueRow DirectoryQueueRow.key) : Prop where
  rows : ∀ row ∈ queue.rows, row.scanSessionId = sessionId →
    ∃ item ∈ items, QueuedFor item row ∧ (row.status = .done ↔ item ∈ applied)
  applied : ∀ item ∈ applied, item ∈ items ∧
    ∃ row ∈ queue.rows, row.key = (sessionId, item.relativePath)

/-- The counters of a session. -/
structure ScanTotals where
  filesSeen : Nat
  bytesSeen : Nat
  directoriesCompleted : Nat
  errorCount : Nat
  deriving DecidableEq

def ScanSession.totals (session : ScanSession) : ScanTotals where
  filesSeen := session.filesSeen
  bytesSeen := session.bytesSeen
  directoriesCompleted := session.directoriesCompleted
  errorCount := session.errorCount

/-- The counters after the batches of the items have been applied. -/
def totalsOf (observed : WorkItem → ObservedBatch) (applied : List WorkItem) : ScanTotals where
  filesSeen := (applied.map fun item => (observed item).files.length).sum
  bytesSeen := (applied.map fun item => (observed item).bytesDelta).sum
  directoriesCompleted := applied.length
  errorCount := (applied.map fun item => (observed item).errorCount).sum

/-- The session with its root, its snapshot and its counters. -/
def HasTotals (id : WritingSession) (totals : ScanTotals)
    (sessions : Table ScanSession ScanSession.id) :
    Prop :=
  ∃ session ∈ sessions.rows, session.id = id.sessionId ∧
    session.storageRootId = id.storageRootId ∧ session.snapshotId = id.snapshotId ∧
    session.totals = totals

structure Progress (id : WritingSession) (base : Table FileRecord FileRecord.key)
    (items : List WorkItem) (observed : WorkItem → ObservedBatch) (applied : List WorkItem)
    (db : CatalogDb) : Prop where
  nodup : applied.Nodup
  queue : QueueProgress id.sessionId items applied db.scanDirectoryQueue
  session : HasTotals id (totalsOf observed applied) db.scanSession
  recorded : Recorded id base db.fileRecord (applied.flatMap fun item => (observed item).files)

/-! ## Calls that leave the progress -/

/-- The call neither seeds the queue of the session nor applies one of its rows, and
no other session writes to its root. -/
def LeavesProgress (id : WritingSession) (db : CatalogDb) : StoreOp → Prop
  | .seedDirectoryWorkQueue sessionId _ => sessionId ≠ id.sessionId
  | .applyDirectoryFiles application =>
      application.sessionId ≠ id.sessionId ∧ application.storageRootId ≠ id.storageRootId
  | .commitScanSession sessionId => ∀ session, db.getScanSession sessionId = some session →
      session.storageRootId ≠ id.storageRootId ∨ session.snapshotId = id.snapshotId
  | _ => True

/-- The rows stand for the same work. -/
structure SameWork (row row' : DirectoryQueueRow) : Prop where
  key : row'.key = row.key
  errorCount : row'.payloadErrorCount = row.payloadErrorCount
  lastRelativePath : row'.payloadLastRelativePath = row.payloadLastRelativePath
  done : row'.status = .done ↔ row.status = .done
  payload : row'.status ≠ .done → row'.payloadJson = row.payloadJson

theorem SameWork.refl (row : DirectoryQueueRow) : SameWork row row :=
  ⟨rfl, rfl, rfl, Iff.rfl, fun _ => rfl⟩

theorem SameWork.requeued {row : DirectoryQueueRow} (h : row.status = .processing) :
    SameWork row row.requeued :=
  ⟨rfl, rfl, rfl, by simp [DirectoryQueueRow.requeued, h], fun _ => rfl⟩

theorem SameWork.claimedBy {row : DirectoryQueueRow} (workerId : PyStr)
    (h : row.status = .pending) : SameWork row (row.claimedBy workerId) :=
  ⟨rfl, rfl, rfl, by simp [DirectoryQueueRow.claimedBy, h], fun _ => rfl⟩

namespace QueueProgress

variable {sessionId : SessionId} {items applied : List WorkItem}
  {queue queue' : Table DirectoryQueueRow DirectoryQueueRow.key}

theorem of_rows (h : QueueProgress sessionId items applied queue)
    (hnew : ∀ row' ∈ queue'.rows, row'.scanSessionId = sessionId →
      ∃ row ∈ queue.rows, SameWork row row')
    (hold : ∀ row ∈ queue.rows, row.scanSessionId = sessionId →
      ∃ row' ∈ queue'.rows, row'.key = row.key) :
    QueueProgress sessionId items applied queue' := by
  refine ⟨?_, ?_⟩
  · intro row' hrow' hsession
    obtain ⟨row, hrow, hsame⟩ := hnew row' hrow' hsession
    obtain ⟨hkeySession, hkeyPath⟩ := Prod.mk.inj hsame.key
    obtain ⟨item, hitem, hqueued, hdone⟩ := h.rows row hrow (hkeySession.symm.trans hsession)
    refine ⟨item, hitem, ⟨?_, ?_, ?_, ?_⟩, hsame.done.trans hdone⟩
    · exact hkeyPath.trans hqueued.relativePath
    · exact hsame.errorCount.trans hqueued.errorCount
    · exact hsame.lastRelativePath.trans hqueued.lastRelativePath
    · intro hnot
      exact (hsame.payload hnot).trans (hqueued.payload fun hd => hnot (hsame.done.mpr hd))
  · intro item hitem
    obtain ⟨hin, row, hrow, hkey⟩ := h.applied item hitem
    obtain ⟨row', hrow', hkey'⟩ := hold row hrow (congrArg Prod.fst hkey)
    exact ⟨hin, row', hrow', hkey'.trans hkey⟩

/-- An update that keeps the work of the session's rows. -/
theorem map (h : QueueProgress sessionId items applied queue)
    {g : DirectoryQueueRow → DirectoryQueueRow} (hrows : queue'.rows = queue.rows.map g)
    (hkey : ∀ row, (g row).key = row.key)
    (hsame : ∀ row ∈ queue.rows, row.scanSessionId = sessionId → SameWork row (g row)) :
    QueueProgress sessionId items applied queue' := by
  refine h.of_rows ?_ ?_
  · intro row' hrow' hsession
    rw [hrows] at hrow'
    obtain ⟨row, hrow, rfl⟩ := List.mem_map.mp hrow'
    exact ⟨row, hrow, hsame row hrow ((congrArg Prod.fst (hkey row)).symm.trans hsession)⟩
  · intro row hrow _
    exact ⟨g row, by rw [hrows]; exact List.mem_map_of_mem hrow, hkey row⟩

/-- Requeueing rows in processing keeps the work. -/
theorem requeue (h : QueueProgress sessionId items applied queue) {p : DirectoryQueueRow → Bool}
    (hp : ∀ row, p row = true → row.status = .processing) :
    QueueProgress sessionId items applied
      (queue.updateWhere p DirectoryQueueRow.requeued DirectoryQueueRow.key_requeued) := by
  refine h.map (Table.rows_updateWhere ..) ?_ ?_
  · intro row
    split <;> rfl
  · intro row _ _
    split
    · next hrow => exact SameWork.requeued (hp row hrow)
    · exact SameWork.refl row

end QueueProgress

section Leaves

variable {id : WritingSession} {base : Table FileRecord FileRecord.key}
  {items applied : List WorkItem} {totals : ScanTotals} {seen : List CatalogFileObservation}
  {db db' : CatalogDb} {now : Instant} {op : StoreOp}

theorem QueueProgress.run (h : QueueProgress id.sessionId items applied db.scanDirectoryQueue)
    (hleaves : LeavesProgress id db op) (hrun : op.run now db = some db') :
    QueueProgress id.sessionId items applied db'.scanDirectoryQueue := by
  cases op with
  | upsertStorageRoot root =>
      obtain ⟨_, rfl⟩ := CatalogDb.of_upsertStorageRoot hrun
      exact h
  | createScanSession sessionId storageRootId maxFiles =>
      rw [(CatalogDb.queue_createScanSession hrun).1]
      exact h
  | reopenScanSession sessionId =>
      cases hrun
      exact h.requeue fun row hp => by simp_all
  | seedDirectoryWorkQueue sessionId workItems =>
      obtain ⟨-, ⟨-, hsame⟩ | ⟨-, hseeded⟩⟩ := CatalogDb.queue_seedDirectoryWorkQueue hrun
      · rw [hsame]
        exact h
      · rw [hseeded]
        refine h.of_rows ?_ fun row hrow _ =>
          ⟨row, CatalogDb.mem_foldl_seedWorkItem_of_mem hrow, rfl⟩
        intro row' hrow' hsession
        rcases CatalogDb.mem_foldl_seedWorkItem hrow' with hold | ⟨item, -, n, rfl⟩
        · exact ⟨row', hold, SameWork.refl row'⟩
        · exact absurd hsession hleaves
  | claimNextDirectory sessionId workerId =>
      simp only [StoreOp.run] at hrun
      split at hrun
      · cases hrun
        exact h
      · next row claimed hclaim =>
          cases hrun
          obtain ⟨hrow, hrowSession, hstatus, -, hrows⟩ := CatalogDb.queue_claimNextDirectory hclaim
          refine h.map hrows ?_ ?_
          · intro other
            split <;> rfl
          · intro other hother hsession
            split
            · next hkey =>
                have hsame : other = row := db.scanDirectoryQueue.eq_of_key_eq hother hrow
                  (hkey.trans (by rw [DirectoryQueueRow.key, hrowSession]))
                exact SameWork.claimedBy workerId (hsame ▸ hstatus)
            · exact SameWork.refl other
  | applyDirectoryFiles application =>
      obtain ⟨hrows, -⟩ := CatalogDb.queue_applyDirectoryFiles hrun
      refine h.map hrows ?_ ?_
      · intro row
        split <;> rfl
      · intro row hrow hsession
        rw [if_neg]
        · exact SameWork.refl row
        · intro hkey
          exact hleaves.1 ((congrArg Prod.fst hkey).symm.trans hsession)
  | requeueProcessingDirectories sessionId =>
      cases hrun
      exact h.requeue fun row hp => by simp_all
  | requeueProcessingDirectoriesForWorker sessionId workerId =>
      cases hrun
      exact h.requeue fun row hp => by simp_all
  | requeueCollectingDirectories sessionId =>
      cases hrun
      exact h
  | markSessionPaused sessionId =>
      cases hrun
      exact h
  | markSessionStopped sessionId =>
      cases hrun
      exact h
  | markSessionFailed sessionId =>
      cases hrun
      simp only [CatalogDb.markSessionFailed]
      split <;> exact h
  | commitScanSession sessionId =>
      simp only [StoreOp.run, CatalogDb.commitScanSession, Option.bind_eq_bind,
        Option.bind_eq_some_iff] at hrun
      obtain ⟨session, -, hdb⟩ := hrun
      cases hdb
      exact h

/-- A session update that keeps root, snapshot and counters of the session. -/
theorem HasTotals.updateSession {sessionId : SessionId} {f : ScanSession → ScanSession}
    (h : HasTotals id totals db.scanSession) (hkey : ∀ session, (f session).id = session.id)
    (hsame : ∀ session, session.id = sessionId → session.id = id.sessionId →
      (f session).storageRootId = session.storageRootId ∧
      (f session).snapshotId = session.snapshotId ∧ (f session).totals = session.totals) :
    HasTotals id totals (db.updateSession sessionId f hkey).scanSession := by
  obtain ⟨session, hmem, hid, hroot, hsnapshot, htotals⟩ := h
  refine ⟨_, Table.mem_updateWhere_of_mem _ f hkey hmem, ?_⟩
  split
  · next hwhere =>
      obtain ⟨hroot', hsnapshot', htotals'⟩ := hsame session (by simpa using hwhere) hid
      exact ⟨(hkey session).trans hid, hroot'.trans hroot, hsnapshot'.trans hsnapshot,
        htotals'.trans htotals⟩
  · exact ⟨hid, hroot, hsnapshot, htotals⟩

theorem HasTotals.run (h : HasTotals id totals db.scanSession)
    (hother : ∀ application, op = .applyDirectoryFiles application →
      application.sessionId ≠ id.sessionId)
    (hrun : op.run now db = some db') : HasTotals id totals db'.scanSession := by
  cases op with
  | upsertStorageRoot root =>
      obtain ⟨_, rfl⟩ := CatalogDb.of_upsertStorageRoot hrun
      exact h
  | createScanSession sessionId storageRootId maxFiles =>
      obtain ⟨-, -, created, hrows, -⟩ := CatalogDb.queue_createScanSession hrun
      obtain ⟨session, hmem, hsession⟩ := h
      exact ⟨session, by rw [hrows]; exact List.mem_append_left _ hmem, hsession⟩
  | reopenScanSession sessionId =>
      cases hrun
      refine HasTotals.updateSession h (ScanSession.id_reopened now) fun session _ _ => ?_
      unfold ScanSession.reopened
      split <;> exact ⟨rfl, rfl, rfl⟩
  | seedDirectoryWorkQueue sessionId workItems =>
      rw [(CatalogDb.queue_seedDirectoryWorkQueue hrun).1]
      exact h
  | claimNextDirectory sessionId workerId =>
      simp only [StoreOp.run] at hrun
      split at hrun
      · cases hrun
        exact h
      · next hclaim =>
          cases hrun
          obtain ⟨-, -, -, hsessions, -⟩ := CatalogDb.queue_claimNextDirectory hclaim
          rw [hsessions]
          exact h
  | applyDirectoryFiles application =>
      rw [(CatalogDb.queue_applyDirectoryFiles hrun).2]
      refine HasTotals.updateSession h (CatalogDb.id_addProgress now application) ?_
      intro session hwhere hid
      exact absurd (hwhere.symm.trans hid) (hother application rfl)
  | requeueProcessingDirectories sessionId =>
      cases hrun
      exact h
  | requeueProcessingDirectoriesForWorker sessionId workerId =>
      cases hrun
      exact h
  | requeueCollectingDirectories sessionId =>
      cases hrun
      exact h
  | markSessionPaused sessionId =>
      cases hrun
      exact h.updateSession (ScanSession.id_halted now) fun _ _ _ => ⟨rfl, rfl, rfl⟩
  | markSessionStopped sessionId =>
      cases hrun
      exact h.updateSession (ScanSession.id_ended .stopped now) fun _ _ _ => ⟨rfl, rfl, rfl⟩
  | markSessionFailed sessionId =>
      cases hrun
      have hended : HasTotals id totals (db.updateSession sessionId (ScanSession.ended .failed now)
          (ScanSession.id_ended .failed now)).scanSession :=
        h.updateSession (ScanSession.id_ended .failed now) fun _ _ _ => ⟨rfl, rfl, rfl⟩
      simp only [CatalogDb.markSessionFailed]
      split <;> exact hended
  | commitScanSession sessionId =>
      simp only [StoreOp.run, CatalogDb.commitScanSession, Option.bind_eq_bind,
        Option.bind_eq_some_iff] at hrun
      obtain ⟨session, -, hdb⟩ := hrun
      cases hdb
      exact HasTotals.updateSession h (ScanSession.id_ended .completed now)
        fun _ _ _ => ⟨rfl, rfl, rfl⟩

/-- Setting the presence of a root's records keeps what a session has recorded, when the
root is another one or the snapshot is that of the session. -/
theorem Recorded.markPresence (h : Recorded id base db.fileRecord seen)
    {storageRootId snapshotId : Nat}
    (hother : storageRootId ≠ id.storageRootId ∨ snapshotId = id.snapshotId) :
    Recorded id base (db.markPresence storageRootId snapshotId).fileRecord seen := by
  refine h.of_records ?_ ?_
  · intro file hfile hroot
    obtain ⟨old, hold, rfl⟩ := List.mem_map.mp hfile
    refine ⟨old, hold, ?_⟩
    split
    · next hwhere =>
        refine ⟨⟨rfl, rfl, rfl⟩, rfl, fun hlast => ?_⟩
        rw [if_pos hwhere] at hroot
        simp only [Bool.and_eq_true, decide_eq_true_eq] at hwhere
        have hsnapshot : snapshotId = id.snapshotId :=
          hother.resolve_left fun hne => hne (hwhere.1.symm.trans hroot)
        have hlastOld : old.lastSeenSnapshotId = id.snapshotId := hlast
        -- the records of the session's snapshot are present already
        obtain ⟨observation, -, hcontents⟩ := h.current old hold hroot hlastOld
        have hpresent : old.presenceStatus = .present :=
          congrArg FileContents.presenceStatus hcontents
        have hsame : CatalogDb.presenceOf snapshotId old = old := by
          rw [CatalogDb.presenceOf, if_pos (hlastOld.trans hsnapshot.symm), ← hpresent]
        rw [hsame]
    · exact ⟨⟨rfl, rfl, rfl⟩, rfl, fun _ => rfl⟩
  · intro old hold _
    refine ⟨_, Table.mem_updateWhere_of_mem _ _ (CatalogDb.key_presenceOf snapshotId) hold, ?_⟩
    split <;> exact ⟨rfl, rfl⟩

/-- Recording files of another root. -/
theorem Recorded.foreign (h : Recorded id base db.fileRecord seen)
    {application : DirectoryApplication} (hroot : application.storageRootId ≠ id.storageRootId)
    (observations : List CatalogFileObservation) :
    Recorded id base
      (observations.foldl (CatalogDb.recordObservation now application) db.fileRecord) seen := by
  generalize db.fileRecord = records at h
  induction observations generalizing records with
  | nil => exact h
  | cons observation rest ih =>
      refine ih _ (h.of_records ?_ ?_)
      · intro file hfile hfileRoot
        rcases Table.mem_upsert.mp hfile with ⟨hold, -⟩ | ⟨old, hold, holdKey, rfl⟩ | ⟨-, rfl⟩
        · exact ⟨file, hold, ⟨rfl, rfl, rfl⟩, rfl, fun _ => rfl⟩
        · exact absurd ((congrArg Prod.fst holdKey).symm.trans hfileRoot) hroot
        · exact absurd hfileRoot hroot
      · intro old hold holdRoot
        refine ⟨old, Table.mem_upsert.mpr (Or.inl ⟨hold, fun hkey => ?_⟩), rfl, rfl⟩
        exact hroot ((congrArg Prod.fst hkey).symm.trans holdRoot)

theorem Recorded.run (h : Recorded id base db.fileRecord seen) (hleaves : LeavesProgress id db op)
    (hrun : op.run now db = some db') : Recorded id base db'.fileRecord seen := by
  rcases fileRecord_run hrun with hsame | ⟨application, rfl, hrecords⟩ |
    ⟨sessionId, session, rfl, hsession, hrecords⟩
  · rw [hsame]
    exact h
  · rw [hrecords]
    exact h.foreign hleaves.2 _
  · rw [hrecords]
    exact h.markPresence (hleaves session hsession)

/-- A call that leaves the progress. -/
theorem Progress.run {observed : WorkItem → ObservedBatch}
    (h : Progress id base items observed applied db) (hleaves : LeavesProgress id db op)
    (hrun : op.run now db = some db') : Progress id base items observed applied db' where
  nodup := h.nodup
  queue := h.queue.run hleaves hrun
  session := h.session.run (fun _ hop => by subst hop; exact hleaves.1) hrun
  recorded := h.recorded.run hleaves hrun

end Leaves

/-! ## Calls that move the progress on -/

section Moves

variable {id : WritingSession} {base : Table FileRecord FileRecord.key}
  {items applied : List WorkItem} {observed : WorkItem → ObservedBatch} {db db' : CatalogDb}
  {now : Instant}

/-- Every work item has a row in the queue of the session. -/
def AllQueued (sessionId : SessionId) (items : List WorkItem)
    (queue : Table DirectoryQueueRow DirectoryQueueRow.key) : Prop :=
  ∀ item ∈ items, ∃ row ∈ queue.rows, row.key = (sessionId, item.relativePath)

/-- Seeding adds rows for items without one, and the others keep theirs. -/
theorem Progress.seed (h : Progress id base items observed applied db)
    {workItems : List QueuedWorkItem}
    (hitems : ∀ queued ∈ workItems, ∃ item ∈ items, ∃ priority, queued = item.queued priority)
    (hrun : db.seedDirectoryWorkQueue now id.sessionId workItems = some db') :
    Progress id base items observed applied db' ∧
      ∀ queued ∈ workItems, ∃ row ∈ db'.scanDirectoryQueue.rows,
        row.key = (id.sessionId, queued.relativePath) := by
  obtain ⟨-, -, hrecords⟩ := CatalogDb.of_seedDirectoryWorkQueue hrun
  obtain ⟨hsessions, ⟨rfl, hsame⟩ | ⟨-, hseeded⟩⟩ := CatalogDb.queue_seedDirectoryWorkQueue hrun
  · refine ⟨⟨h.nodup, hsame ▸ h.queue, hsessions ▸ h.session, hrecords ▸ h.recorded⟩, ?_⟩
    intro queued hqueued
    cases hqueued
  · refine ⟨⟨h.nodup, ?_, hsessions ▸ h.session, hrecords ▸ h.recorded⟩, ?_⟩
    · rw [hseeded]
      refine ⟨?_, ?_⟩
      · intro row hrow hsession
        have hany : workItems.Pairwise fun _ _ => True := List.pairwise_of_forall fun _ _ => trivial
        rcases CatalogDb.first_of_seeded hany hrow with hold | ⟨queued, hqueued, n, rfl, hfresh, -⟩
        · exact h.queue.rows row hold hsession
        · obtain ⟨item, hitem, priority, rfl⟩ := hitems queued hqueued
          refine ⟨item, hitem, ⟨rfl, rfl, rfl, fun _ => rfl⟩, ?_⟩
          -- an applied item has a row, so its key was not free
          refine ⟨fun hdone => (by cases hdone), fun happlied => ?_⟩
          obtain ⟨-, old, hold, hkey⟩ := h.queue.applied item happlied
          exact absurd hkey (hfresh old hold)
      · intro item happlied
        obtain ⟨hitem, row, hrow, hkey⟩ := h.queue.applied item happlied
        exact ⟨hitem, row, CatalogDb.mem_foldl_seedWorkItem_of_mem hrow, hkey⟩
    · intro queued hqueued
      rw [hseeded]
      exact CatalogDb.exists_seeded hqueued

/-- The batch of an item, as it is applied. -/
structure Applies (id : WritingSession) (observed : WorkItem → ObservedBatch) (item : WorkItem)
    (application : DirectoryApplication) : Prop where
  sessionId : application.sessionId = id.sessionId
  storageRootId : application.storageRootId = id.storageRootId
  snapshotId : application.snapshotId = id.snapshotId
  relativePath : application.relativePath = item.relativePath
  files : application.fileObservations = (observed item).files
  bytesDelta : application.bytesDelta = (observed item).bytesDelta
  errorCount : application.errorCount = (observed item).errorCount

theorem totalsOf_append (applied : List WorkItem) (item : WorkItem) :
    totalsOf observed (applied ++ [item]) =
      { filesSeen := (totalsOf observed applied).filesSeen + (observed item).files.length
        bytesSeen := (totalsOf observed applied).bytesSeen + (observed item).bytesDelta
        directoriesCompleted := (totalsOf observed applied).directoriesCompleted + 1
        errorCount := (totalsOf observed applied).errorCount + (observed item).errorCount } := by
  simp [totalsOf]

/-- Applying the row of an item that is not done yet. -/
theorem Progress.apply (h : Progress id base items observed applied db)
    (hkeys : ∀ a ∈ items, ∀ b ∈ items, a.relativePath = b.relativePath → a = b)
    (hpaths : ∀ a ∈ items.flatMap fun item => (observed item).files,
      ∀ b ∈ items.flatMap fun item => (observed item).files,
        a.relativePath = b.relativePath → a = b)
    {item : WorkItem} (hitem : item ∈ items) {row : DirectoryQueueRow}
    (hrow : row ∈ db.scanDirectoryQueue.rows) (hkey : row.key = (id.sessionId, item.relativePath))
    (hnot : row.status ≠ .done) {application : DirectoryApplication}
    (hof : Applies id observed item application)
    (hrun : db.applyDirectoryFiles now application = some db') :
    Progress id base items observed (applied ++ [item]) db' := by
  obtain ⟨hrows, hsessions⟩ := CatalogDb.queue_applyDirectoryFiles hrun
  obtain ⟨-, -, hrecords⟩ := CatalogDb.of_applyDirectoryFiles hrun
  have hnotApplied : item ∉ applied := by
    obtain ⟨owner, howner, hqueued, hdone⟩ := h.queue.rows row hrow (congrArg Prod.fst hkey)
    have hsame : owner = item := hkeys owner howner item hitem
      (hqueued.relativePath.symm.trans (congrArg Prod.snd hkey))
    rw [← hsame, ← hdone]
    exact hnot
  have hwhere : ∀ other : DirectoryQueueRow,
      other.key = (application.sessionId, application.relativePath) ↔
        other.key = (id.sessionId, item.relativePath) := by
    intro other
    rw [hof.sessionId, hof.relativePath]
  refine ⟨?_, ⟨?_, ?_⟩, ?_, ?_⟩
  · rw [List.nodup_append]
    refine ⟨h.nodup, List.nodup_singleton _, ?_⟩
    rintro a ha b hb rfl
    exact hnotApplied (List.mem_singleton.mp hb ▸ ha)
  · intro new hnew hsession
    rw [hrows] at hnew
    obtain ⟨old, hold, rfl⟩ := List.mem_map.mp hnew
    by_cases hold' : old.key = (application.sessionId, application.relativePath)
    · rw [if_pos hold']
      obtain ⟨owner, howner, hqueued, -⟩ := h.queue.rows old hold
        (congrArg Prod.fst ((hwhere old).mp hold'))
      have hsame : owner = item := hkeys owner howner item hitem
        (hqueued.relativePath.symm.trans (congrArg Prod.snd ((hwhere old).mp hold')))
      subst hsame
      refine ⟨owner, hitem, ⟨hqueued.relativePath, hqueued.errorCount, hqueued.lastRelativePath,
        fun hdone => absurd rfl hdone⟩, ?_⟩
      exact ⟨fun _ => List.mem_append_right _ List.mem_cons_self, fun _ => rfl⟩
    · rw [if_neg hold'] at hsession ⊢
      obtain ⟨owner, howner, hqueued, hdone⟩ := h.queue.rows old hold hsession
      refine ⟨owner, howner, hqueued, hdone.trans ?_⟩
      rw [List.mem_append, List.mem_singleton]
      have hne : owner ≠ item := by
        rintro rfl
        refine hold' ((hwhere old).mpr ?_)
        rw [DirectoryQueueRow.key, hsession, hqueued.relativePath]
      exact ⟨Or.inl, fun hor => hor.resolve_right hne⟩
  · intro other hother
    have hin : ∃ old ∈ db.scanDirectoryQueue.rows, old.key =
        (id.sessionId, other.relativePath) := by
      rcases List.mem_append.mp hother with hold | hnew
      · exact (h.queue.applied other hold).2
      · rw [List.mem_singleton.mp hnew]
        exact ⟨row, hrow, hkey⟩
    refine ⟨?_, ?_⟩
    · rcases List.mem_append.mp hother with hold | hnew
      · exact (h.queue.applied other hold).1
      · rw [List.mem_singleton.mp hnew]
        exact hitem
    · obtain ⟨old, hold, holdKey⟩ := hin
      refine ⟨_, by rw [hrows]; exact List.mem_map_of_mem hold, ?_⟩
      split
      · exact holdKey
      · exact holdKey
  · obtain ⟨session, hmem, hid, hroot, hsnapshot, htotals⟩ := h.session
    have hwhereSession : session.id = application.sessionId := hid.trans hof.sessionId.symm
    refine ⟨CatalogDb.addProgress now application session, ?_, hid, hroot, hsnapshot, ?_⟩
    · rw [hsessions]
      have hin := Table.mem_updateWhere_of_mem (fun session => session.id = application.sessionId)
        (CatalogDb.addProgress now application) (CatalogDb.id_addProgress now application) hmem
      rwa [if_pos (by simpa using hwhereSession)] at hin
    · rw [totalsOf_append, ← htotals, ← hof.files, ← hof.bytesDelta, ← hof.errorCount]
      rfl
  · rw [hrecords, hof.files]
    have hflat : ((applied ++ [item]).flatMap fun item => (observed item).files) =
        (applied.flatMap fun item => (observed item).files) ++ (observed item).files := by
      rw [List.flatMap_append, List.flatMap_singleton]
    rw [hflat]
    refine h.recorded.record_all hof.sessionId hof.storageRootId hof.snapshotId ?_
    have hsub : ∀ a ∈ (applied.flatMap fun item => (observed item).files) ++ (observed item).files,
        a ∈ items.flatMap fun item => (observed item).files := by
      intro a ha
      rcases List.mem_append.mp ha with hold | hnew
      · obtain ⟨owner, howner, hin⟩ := List.mem_flatMap.mp hold
        exact List.mem_flatMap.mpr ⟨owner, (h.queue.applied owner howner).1, hin⟩
      · exact List.mem_flatMap.mpr ⟨item, hitem, hnew⟩
    exact fun a ha b hb => hpaths a (hsub a ha) b (hsub b hb)

/-! ## Finished sessions -/

/-- When every item has a row and no row is left, all items have been applied. -/
theorem Progress.applied_perm (h : Progress id base items observed applied db)
    (hkeys : ∀ a ∈ items, ∀ b ∈ items, a.relativePath = b.relativePath → a = b)
    (hnodup : items.Nodup) (hqueued : AllQueued id.sessionId items db.scanDirectoryQueue)
    (hpending : NoRow db id.sessionId .pending) (hprocessing : NoRow db id.sessionId .processing) :
    applied.Perm items := by
  refine (List.perm_ext_iff_of_nodup h.nodup hnodup).mpr fun item => ⟨?_, ?_⟩
  · exact fun happlied => (h.queue.applied item happlied).1
  · intro hitem
    obtain ⟨row, hrow, hkey⟩ := hqueued item hitem
    have hsession : row.scanSessionId = id.sessionId := congrArg Prod.fst hkey
    obtain ⟨owner, howner, hof, hdone⟩ := h.queue.rows row hrow hsession
    have hsame : owner = item := hkeys owner howner item hitem
      (hof.relativePath.symm.trans (congrArg Prod.snd hkey))
    rw [← hsame, ← hdone]
    cases hstatus : row.status with
    | pending => exact absurd hstatus (hpending row hrow hsession)
    | processing => exact absurd hstatus (hprocessing row hrow hsession)
    | done => rfl

theorem totalsOf_perm {items' : List WorkItem} (hperm : items.Perm items') :
    totalsOf observed items = totalsOf observed items' := by
  simp only [totalsOf, (hperm.map _).sum_nat, hperm.length_eq]

end Moves

end ImmichDoctor.Catalog
