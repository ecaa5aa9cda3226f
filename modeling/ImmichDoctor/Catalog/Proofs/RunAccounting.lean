import ImmichDoctor.Catalog.Proofs.RecordedFiles
import ImmichDoctor.Catalog.Proofs.RootPaths
/-!
# The counters of a session

An apply adds the files of its row to the counters of the session, whether or not they were
counted before. The counters are right as long as every apply is of a row that is not done
and of files the session's snapshot does not have yet.
-/

namespace ImmichDoctor.Catalog

open ImmichDoctor.Library

/-- The counters of the session are what the records and the queue hold. -/
def Accounts (db : CatalogDb) (sessionId : SessionId) : Prop :=
  ∀ session ∈ db.scanSession.rows, session.id = sessionId →
    session.filesSeen =
      db.fileRecord.rows.countP (fun file => file.lastSeenSnapshotId = session.snapshotId) ∧
    session.bytesSeen = ((db.fileRecord.rows.filter fun file =>
      file.lastSeenSnapshotId = session.snapshotId).map (·.sizeBytes)).sum ∧
    session.directoriesCompleted =
      db.scanDirectoryQueue.rows.countP fun row =>
        row.scanSessionId = sessionId && row.status = .done

/-- No run of another session writes files of the session's root. -/
def OthersElsewhere (sessionId : SessionId) (s : ScanRuns) : Instant × RunEvent → Prop
  | (_, .apply run _ _) =>
      ∀ scan, s.runs[run]? = some scan → scan.sessionId ≠ sessionId →
        ∀ session ∈ s.catalog.db.scanSession.rows, session.id = sessionId →
          scan.storageRootId ≠ session.storageRootId
  | _ => True

/-- An apply of the session is of a row that is not done, and of files that the session's
snapshot does not have yet, each of them once. -/
def AppliesOnce (sessionId : SessionId) (s : ScanRuns) : Instant × RunEvent → Prop
  | (_, .apply run index read) =>
      ∀ scan, s.runs[run]? = some scan → scan.sessionId = sessionId →
        ∀ row, scan.claimed[index]? = some row →
          (∀ queued ∈ s.catalog.db.scanDirectoryQueue.rows,
            queued.key = (sessionId, row.relativePath) → queued.status ≠ .done) ∧
          (read.batch.files.map (·.relativePath)).Nodup ∧
          ∀ observation ∈ read.batch.files, ∀ file ∈ s.catalog.db.fileRecord.rows,
            file.key = (scan.storageRootId, observation.relativePath) →
            file.lastSeenSnapshotId ≠ scan.snapshotId
  | _ => True

/-! ## Weights of the rows -/

/-- A file of the snapshot counts once. -/
def fileWeight (snapshotId : Nat) (file : FileRecord) : Nat :=
  if file.lastSeenSnapshotId = snapshotId then 1 else 0

/-- A file of the snapshot counts its size. -/
def byteWeight (snapshotId : Nat) (file : FileRecord) : Nat :=
  if file.lastSeenSnapshotId = snapshotId then file.sizeBytes else 0

/-- A done row of the session counts once. -/
def doneWeight (sessionId : SessionId) (row : DirectoryQueueRow) : Nat :=
  if row.scanSessionId = sessionId ∧ row.status = .done then 1 else 0

/-- What the counters of the session should be. -/
def countersOf (db : CatalogDb) (sessionId : SessionId) (snapshotId : Nat) : Nat × Nat × Nat :=
  (db.fileRecord.total (fileWeight snapshotId), db.fileRecord.total (byteWeight snapshotId),
    db.scanDirectoryQueue.total (doneWeight sessionId))

section Weights

variable {db db' : CatalogDb} {sessionId : SessionId} {now : Instant} {op : StoreOp}
  {application : DirectoryApplication} {snapshotId : Nat}

/-- The accounts in terms of the weights. -/
theorem accounts_iff : Accounts db sessionId ↔
    ∀ session ∈ db.scanSession.rows, session.id = sessionId →
      session.counters = countersOf db sessionId session.snapshotId := by
  have hfiles : ∀ snapshotId, db.fileRecord.total (fileWeight snapshotId) =
      db.fileRecord.rows.countP (fun file => file.lastSeenSnapshotId = snapshotId) := by
    intro snapshotId
    rw [← Table.total_eq_countP]
    simp only [decide_eq_true_eq]
    rfl
  have hbytes : ∀ snapshotId, db.fileRecord.total (byteWeight snapshotId) =
      ((db.fileRecord.rows.filter fun file =>
        file.lastSeenSnapshotId = snapshotId).map (·.sizeBytes)).sum := by
    intro snapshotId
    rw [← Table.total_eq_sum_filter]
    simp only [decide_eq_true_eq]
    rfl
  have hdone : db.scanDirectoryQueue.total (doneWeight sessionId) =
      db.scanDirectoryQueue.rows.countP fun row =>
        row.scanSessionId = sessionId && row.status = .done := by
    rw [← Table.total_eq_countP]
    simp only [Bool.and_eq_true, decide_eq_true_eq]
    rfl
  simp only [Accounts, ScanSession.counters, countersOf, Prod.mk.injEq, hfiles, hbytes, hdone]

/-- What a batch adds to the weight of the records, when its files had none before. -/
theorem total_recordObservations {weight : FileRecord → Nat}
    {value : CatalogFileObservation → Nat}
    (hrecord : ∀ id observation,
      weight (CatalogDb.recordOf now application id observation) = value observation)
    (hmerge : ∀ observation old,
      weight (CatalogDb.mergeObservation now application observation old) = value observation)
    {observations : List CatalogFileObservation}
    (honce : observations.Pairwise fun a b => a.relativePath = b.relativePath → value a = 0) :
    ∀ {records : Table FileRecord FileRecord.key},
      (∀ observation ∈ observations, ∀ file ∈ records.rows,
        file.key = (application.storageRootId, observation.relativePath) → weight file = 0) →
      (observations.foldl (CatalogDb.recordObservation now application) records).total weight =
        records.total weight + (observations.map value).sum := by
  induction observations with
  | nil => exact fun _ => rfl
  | cons observation rest ih =>
      intro records hfresh
      obtain ⟨hhere, hrest⟩ := List.pairwise_cons.mp honce
      have hone : (CatalogDb.recordObservation now application records observation).total weight =
          records.total weight + value observation := by
        unfold CatalogDb.recordObservation
        rw [Table.total_upsert, hrecord]
        · intro old
          rw [hmerge, hrecord]
        · exact fun old hold hkey => hfresh observation List.mem_cons_self old hold hkey
      have hlater : ∀ other ∈ rest,
          ∀ file ∈ (CatalogDb.recordObservation now application records observation).rows,
          file.key = (application.storageRootId, other.relativePath) → weight file = 0 := by
        intro other hother file hfile hkey
        rcases Table.mem_upsert.mp hfile with ⟨hold, -⟩ | ⟨old, -, hsame, rfl⟩ | ⟨-, rfl⟩
        · exact hfresh other (List.mem_cons_of_mem _ hother) file hold hkey
        · rw [hmerge]
          exact hhere other hother (congrArg Prod.snd (hsame.symm.trans hkey))
        · rw [hrecord]
          exact hhere other hother (congrArg Prod.snd hkey)
      rw [List.foldl_cons, ih hrest hlater, hone, List.map_cons, List.sum_cons, Nat.add_assoc]

/-- A row that is neither done before nor after an update counts nothing. -/
theorem doneWeight_eq_of_not_done {row row' : DirectoryQueueRow} (h : row.status ≠ .done)
    (h' : row'.status ≠ .done) : doneWeight sessionId row' = doneWeight sessionId row := by
  rw [doneWeight, doneWeight, if_neg fun hdone => h' hdone.2, if_neg fun hdone => h hdone.2]

theorem total_done_seeded {seeded : SessionId} {workItems : List QueuedWorkItem} :
    ∀ {queue : Table DirectoryQueueRow DirectoryQueueRow.key},
      (workItems.foldl (CatalogDb.seedWorkItem now seeded) queue).total (doneWeight sessionId) =
        queue.total (doneWeight sessionId) := by
  induction workItems with
  | nil => exact rfl
  | cons item rest ih =>
      intro queue
      rw [List.foldl_cons, ih, CatalogDb.seedWorkItem, Table.total_insertOrIgnore]
      exact if_neg fun hdone => nomatch hdone.2

/-- Only an apply makes rows done. -/
theorem total_done_run (hop : ∀ application, op ≠ .applyDirectoryFiles application)
    (h : op.run now db = some db') :
    db'.scanDirectoryQueue.total (doneWeight sessionId) =
      db.scanDirectoryQueue.total (doneWeight sessionId) := by
  have hrequeued : ∀ {p : DirectoryQueueRow → Bool},
      (∀ row ∈ db.scanDirectoryQueue.rows, p row = true → row.status = .processing) →
      (db.scanDirectoryQueue.updateWhere p DirectoryQueueRow.requeued
        DirectoryQueueRow.key_requeued).total (doneWeight sessionId) =
        db.scanDirectoryQueue.total (doneWeight sessionId) := by
    intro p hp
    refine Table.total_updateWhere fun row hrow hwhere => ?_
    have hstatus := hp row hrow hwhere
    exact doneWeight_eq_of_not_done (by rw [hstatus]; simp) fun hdone => by cases hdone
  cases op with
  | upsertStorageRoot root =>
      obtain ⟨_, rfl⟩ := CatalogDb.of_upsertStorageRoot h
      rfl
  | createScanSession sessionId storageRootId maxFiles =>
      rw [(CatalogDb.queue_createScanSession h).1]
  | seedDirectoryWorkQueue seeded workItems =>
      obtain ⟨-, ⟨-, hsame⟩ | ⟨-, hseeded⟩⟩ := CatalogDb.queue_seedDirectoryWorkQueue h
      · rw [hsame]
      · rw [hseeded, total_done_seeded]
  | claimNextDirectory claimedId workerId =>
      simp only [StoreOp.run] at h
      split at h
      · cases h
        rfl
      · next row db' hclaim =>
          cases h
          obtain ⟨hrow, hsession, hpending, -, hrows⟩ := CatalogDb.queue_claimNextDirectory hclaim
          rw [Table.total, Table.total, hrows, List.map_map]
          refine congrArg List.sum (List.map_congr_left fun other hother => ?_)
          by_cases hkey : other.key = (claimedId, row.relativePath)
          · have hsame : other = row :=
              db.scanDirectoryQueue.eq_of_key_eq hother hrow
                (hkey.trans (Prod.ext hsession.symm rfl))
            simp only [Function.comp_apply, if_pos hkey]
            exact doneWeight_eq_of_not_done (by rw [hsame, hpending]; simp)
              fun hdone => by cases hdone
          · simp only [Function.comp_apply, if_neg hkey]
  | applyDirectoryFiles application => exact absurd rfl (hop application)
  | markSessionFailed failed =>
      cases h
      simp only [CatalogDb.markSessionFailed]
      split <;> rfl
  | commitScanSession committed =>
      obtain ⟨session, -, hdb⟩ := Option.bind_eq_some_iff.mp h
      cases hdb
      rfl
  | reopenScanSession reopened =>
      cases h
      refine hrequeued fun row _ hwhere => ?_
      simp only [Bool.and_eq_true, decide_eq_true_eq] at hwhere
      exact hwhere.2
  | requeueProcessingDirectories requeued =>
      cases h
      refine hrequeued fun row _ hwhere => ?_
      simp only [Bool.and_eq_true, decide_eq_true_eq] at hwhere
      exact hwhere.2
  | requeueProcessingDirectoriesForWorker requeued workerId =>
      cases h
      refine hrequeued fun row _ hwhere => ?_
      simp only [Bool.and_eq_true, decide_eq_true_eq] at hwhere
      exact hwhere.1.2
  | _ => cases h; rfl

/-- No call but an apply changes the key of a file or the snapshot it was last seen in. -/
theorem files_run (hop : ∀ application, op ≠ .applyDirectoryFiles application)
    (h : op.run now db = some db') :
    db'.fileRecord.rows = db.fileRecord.rows ∨ ∃ (p : FileRecord → Bool) (snapshotId : Nat),
      db'.fileRecord.rows =
        db.fileRecord.rows.map fun file =>
          if p file then CatalogDb.presenceOf snapshotId file else file := by
  rcases fileRecord_run h with hsame | ⟨application, rfl, -⟩ | ⟨_, session, -, -, hfiles⟩
  · exact Or.inl (congrArg Table.rows hsame)
  · exact absurd rfl (hop application)
  · exact Or.inr ⟨_, session.snapshotId, congrArg Table.rows hfiles⟩

/-- Only an apply changes what the files of a snapshot add up to. -/
theorem total_files_run {weight : FileRecord → Nat}
    (hpresence : ∀ snapshotId file, weight (CatalogDb.presenceOf snapshotId file) = weight file)
    (hop : ∀ application, op ≠ .applyDirectoryFiles application) (h : op.run now db = some db') :
    db'.fileRecord.total weight = db.fileRecord.total weight := by
  rcases files_run hop h with hsame | ⟨p, snapshotId, hfiles⟩
  · rw [Table.total, Table.total, hsame]
  · rw [Table.total, Table.total, hfiles, List.map_map]
    refine congrArg List.sum (List.map_congr_left fun file _ => ?_)
    by_cases hp : p file = true
    · simp only [Function.comp_apply, if_pos hp, hpresence]
    · simp only [Function.comp_apply, if_neg hp]

theorem countersOf_run (hop : ∀ application, op ≠ .applyDirectoryFiles application)
    (h : op.run now db = some db') :
    countersOf db' sessionId snapshotId = countersOf db sessionId snapshotId := by
  have hfile : db'.fileRecord.total (fileWeight snapshotId) =
      db.fileRecord.total (fileWeight snapshotId) := total_files_run (fun _ _ => rfl) hop h
  have hbyte : db'.fileRecord.total (byteWeight snapshotId) =
      db.fileRecord.total (byteWeight snapshotId) := total_files_run (fun _ _ => rfl) hop h
  rw [countersOf, countersOf, hfile, hbyte, total_done_run hop h]

/-- An apply adds its files to the snapshot it writes and to no other. -/
theorem countersOf_apply (h : db.applyDirectoryFiles now application = some db')
    (hbytes : application.bytesDelta = (application.fileObservations.map (·.sizeBytes)).sum)
    (honce : snapshotId = application.snapshotId →
      (application.fileObservations.map (·.relativePath)).Nodup)
    (hfresh : ∀ observation ∈ application.fileObservations, ∀ file ∈ db.fileRecord.rows,
      file.key = (application.storageRootId, observation.relativePath) →
      file.lastSeenSnapshotId ≠ snapshotId) :
    countersOf db' sessionId snapshotId =
      if snapshotId = application.snapshotId then
        ((countersOf db sessionId snapshotId).1 + application.fileObservations.length,
          (countersOf db sessionId snapshotId).2.1 + application.bytesDelta,
          db'.scanDirectoryQueue.total (doneWeight sessionId))
      else
        ((countersOf db sessionId snapshotId).1, (countersOf db sessionId snapshotId).2.1,
          db'.scanDirectoryQueue.total (doneWeight sessionId)) := by
  have hfiles := (CatalogDb.of_applyDirectoryFiles h).2.2
  -- a file of the batch weighs its value when the batch is of the snapshot, else nothing
  have htotal : ∀ (weight : FileRecord → Nat) (value : CatalogFileObservation → Nat),
      (∀ id observation, weight (CatalogDb.recordOf now application id observation) =
        if application.snapshotId = snapshotId then value observation else 0) →
      (∀ observation old, weight (CatalogDb.mergeObservation now application observation old) =
        if application.snapshotId = snapshotId then value observation else 0) →
      (∀ file : FileRecord, file.lastSeenSnapshotId ≠ snapshotId → weight file = 0) →
      db'.fileRecord.total weight = db.fileRecord.total weight +
        if snapshotId = application.snapshotId then (application.fileObservations.map value).sum
        else 0 := by
    intro weight value hrecord hmerge hother
    have hpairwise : application.fileObservations.Pairwise fun a b =>
        a.relativePath = b.relativePath →
          (if application.snapshotId = snapshotId then value a else 0) = 0 := by
      by_cases hsnapshot : application.snapshotId = snapshotId
      · refine (List.pairwise_map.mp (honce hsnapshot.symm)).imp fun hne heq => absurd heq hne
      · simp only [if_neg hsnapshot, implies_true, List.pairwise_of_forall]
    rw [hfiles, total_recordObservations hrecord hmerge hpairwise
      fun observation hobservation file hfile hkey =>
        hother file (hfresh observation hobservation file hfile hkey)]
    by_cases hsnapshot : snapshotId = application.snapshotId
    · simp only [hsnapshot, if_true]
    · simp only [if_neg hsnapshot, if_neg (Ne.symm hsnapshot), List.map_const',
        List.sum_replicate_nat, Nat.mul_zero]
  have hfile := htotal (fileWeight snapshotId) (fun _ => 1) (fun _ _ => rfl) (fun _ _ => rfl)
    fun file hne => if_neg hne
  have hbyte := htotal (byteWeight snapshotId) (·.sizeBytes) (fun _ _ => rfl) (fun _ _ => rfl)
    fun file hne => if_neg hne
  rw [countersOf, countersOf, hfile, hbyte]
  by_cases hsnapshot : snapshotId = application.snapshotId
  · rw [if_pos hsnapshot, if_pos hsnapshot, if_pos hsnapshot, hbytes, List.map_const',
      List.sum_replicate_nat, Nat.mul_one]
  · rw [if_neg hsnapshot, if_neg hsnapshot, if_neg hsnapshot, Nat.add_zero, Nat.add_zero]

/-- The row of an apply becomes done. -/
theorem total_done_apply {row : DirectoryQueueRow}
    (h : db.applyDirectoryFiles now application = some db')
    (hrow : row ∈ db.scanDirectoryQueue.rows)
    (hkey : row.key = (application.sessionId, application.relativePath)) :
    db'.scanDirectoryQueue.total (doneWeight sessionId) + doneWeight sessionId row =
      db.scanDirectoryQueue.total (doneWeight sessionId) +
        if application.sessionId = sessionId then 1 else 0 := by
  have hqueue := (CatalogDb.queue_applyDirectoryFiles h).1
  have hupdated : (db.scanDirectoryQueue.updateWhere (fun other => other.key = row.key)
      (DirectoryQueueRow.finished now) (DirectoryQueueRow.key_finished now)).total
        (doneWeight sessionId) + doneWeight sessionId row =
      db.scanDirectoryQueue.total (doneWeight sessionId) +
        doneWeight sessionId (row.finished now) := Table.total_updateWhere_key hrow
  have hfinished : doneWeight sessionId (row.finished now) =
      if application.sessionId = sessionId then 1 else 0 := by
    have hsession : row.scanSessionId = application.sessionId := congrArg Prod.fst hkey
    unfold doneWeight
    simp only [DirectoryQueueRow.finished, hsession, and_true]
  have hsame : db'.scanDirectoryQueue.total (doneWeight sessionId) =
      (db.scanDirectoryQueue.updateWhere (fun other => other.key = row.key)
        (DirectoryQueueRow.finished now) (DirectoryQueueRow.key_finished now)).total
          (doneWeight sessionId) := by
    rw [Table.total, hqueue, Table.total, Table.rows_updateWhere, hkey]
    simp only [decide_eq_true_eq]
  rw [hsame, hupdated, hfinished]

end Weights

/-! ## Steps -/

/-- The files of a session's snapshot are files of the session's root. -/
def FilesOwned (db : CatalogDb) : Prop :=
  ∀ file ∈ db.fileRecord.rows, ∀ session ∈ db.scanSession.rows,
    file.lastSeenSnapshotId = session.snapshotId → file.storageRootId = session.storageRootId

section Steps

variable {db db' : CatalogDb} {sessionId : SessionId} {now : Instant} {op : StoreOp}
  {clock : Instant} {catalog catalog' : CatalogState} {scan : ScanRun} {s t : ScanRuns}

/-- A session that has just been added has no files and no rows yet. -/
theorem SessionAdded.countersOf_eq (hreach : Reachable CatalogState.step (.start clock) catalog)
    {session : ScanSession} (h : SessionAdded catalog.db db' session) :
    countersOf catalog.db session.id session.snapshotId = (0, 0, 0) := by
  obtain ⟨hrows, -, snapshot, hown, hfresh⟩ := h
  have hnofile : ∀ file ∈ catalog.db.fileRecord.rows,
      file.lastSeenSnapshotId ≠ session.snapshotId := by
    intro file hfile hseen
    obtain ⟨old, hold, hid⟩ := recordReferences_of_reachable hreach file hfile
    have hlt : old.id < snapshot.id := hfresh old hold
    rw [hid, hseen, hown.2.1] at hlt
    exact Nat.lt_irrefl _ hlt
  have hnorow : ∀ row ∈ catalog.db.scanDirectoryQueue.rows, row.scanSessionId ≠ session.id := by
    intro row hrow hof
    obtain ⟨old, hold, hid⟩ := queueReferences_of_reachable hreach row hrow
    have hunique := db'.scanSession.unique
    rw [hrows, List.map_append, List.nodup_append] at hunique
    exact hunique.2.2 old.id (List.mem_map_of_mem hold) session.id
      (List.mem_map_of_mem List.mem_cons_self) (hid.trans hof)
  have hfile : catalog.db.fileRecord.total (fileWeight session.snapshotId) = 0 :=
    Table.total_eq_zero fun file hfile => if_neg (hnofile file hfile)
  have hbyte : catalog.db.fileRecord.total (byteWeight session.snapshotId) = 0 :=
    Table.total_eq_zero fun file hfile => if_neg (hnofile file hfile)
  have hdone : catalog.db.scanDirectoryQueue.total (doneWeight session.id) = 0 :=
    Table.total_eq_zero fun row hrow => if_neg fun hdone => hnorow row hrow hdone.1
  rw [countersOf, hfile, hbyte, hdone]

/-- A session of the catalog after a call that is no apply was there, or counts nothing. -/
theorem Accounts.run (hreach : Reachable CatalogState.step (.start clock) catalog)
    (h : Accounts catalog.db sessionId)
    (hop : ∀ application, op ≠ .applyDirectoryFiles application)
    (hrun : op.run now catalog.db = some db') : Accounts db' sessionId := by
  rw [accounts_iff] at h ⊢
  intro session hsession hid
  rw [countersOf_run hop hrun]
  rcases scanSession_run hrun with
    ⟨f, hf, hrows⟩ | ⟨application, rfl, -⟩ | ⟨added, _, _, -, hadded⟩
  · rw [hrows] at hsession
    obtain ⟨old, hold, rfl⟩ := List.mem_map.mp hsession
    obtain ⟨horigin, hcounters⟩ := hf old
    have hsnapshot : (f old).snapshotId = old.snapshotId :=
      congrArg SessionOrigin.snapshotId horigin
    have holdId : old.id = sessionId := (congrArg SessionOrigin.id horigin).symm.trans hid
    rw [hcounters, hsnapshot]
    exact h old hold holdId
  · exact absurd rfl (hop application)
  · rw [hadded.1, List.mem_append, List.mem_singleton] at hsession
    rcases hsession with hold | rfl
    · exact h session hold hid
    · rw [← hid, hadded.countersOf_eq hreach]
      exact hadded.2.1

theorem FilesOwned.run (hreach : Reachable CatalogState.step (.start clock) catalog)
    (h : FilesOwned catalog.db) (hop : ∀ application, op ≠ .applyDirectoryFiles application)
    (hrun : op.run now catalog.db = some db') : FilesOwned db' := by
  have hbefore : ∀ file ∈ db'.fileRecord.rows, ∃ old ∈ catalog.db.fileRecord.rows,
      old.storageRootId = file.storageRootId ∧
        old.lastSeenSnapshotId = file.lastSeenSnapshotId := by
    intro file hfile
    rcases files_run hop hrun with hsame | ⟨p, snapshotId, hfiles⟩
    · exact ⟨file, hsame ▸ hfile, rfl, rfl⟩
    · rw [hfiles] at hfile
      obtain ⟨old, hold, rfl⟩ := List.mem_map.mp hfile
      refine ⟨old, hold, ?_⟩
      split <;> exact ⟨rfl, rfl⟩
  intro file hfile session hsession hseen
  obtain ⟨old, hold, hroot, hlast⟩ := hbefore file hfile
  rw [← hroot]
  rw [← hlast] at hseen
  rcases session_of_run hrun hsession
    with ⟨before, hmem, horigin⟩ | ⟨-, -, -, snapshot, hown, hfresh⟩
  · have hsnapshot : before.snapshotId = session.snapshotId :=
      congrArg SessionOrigin.snapshotId horigin
    have hrootId : before.storageRootId = session.storageRootId :=
      congrArg SessionOrigin.storageRootId horigin
    exact (h old hold before hmem (hseen.trans hsnapshot.symm)).trans hrootId
  · obtain ⟨referenced, hmem, hid⟩ := recordReferences_of_reachable hreach old hold
    have hlt : referenced.id < snapshot.id := hfresh referenced hmem
    rw [hid, hseen, hown.2.1] at hlt
    exact absurd hlt (Nat.lt_irrefl _)

/-- The session of a run is the only one that writes its snapshot. -/
theorem ScanRun.OfSession.eq_of_snapshotId (hlinked : SessionsLinked db) (h : scan.OfSession db)
    {session : ScanSession} (hsession : session ∈ db.scanSession.rows)
    (hsnapshot : session.snapshotId = scan.snapshotId) :
    session.origin = ⟨scan.sessionId, scan.storageRootId, scan.snapshotId⟩ := by
  obtain ⟨own, hown, horigin⟩ := h
  have hsame : session = own := hlinked.alone session hsession own hown
    (hsnapshot.trans (congrArg SessionOrigin.snapshotId horigin).symm)
  rw [hsame]
  exact horigin

theorem FilesOwned.apply {row : DirectoryQueueRow} {observed : ObservedBatch}
    (hlinked : SessionsLinked db) (hscan : scan.OfSession db) (h : FilesOwned db)
    (hrun : db.applyDirectoryFiles now (scan.application row observed) = some db') :
    FilesOwned db' := by
  have hfiles := (CatalogDb.of_applyDirectoryFiles hrun).2.2
  have hstore : (StoreOp.applyDirectoryFiles (scan.application row observed)).run now db =
    some db' := hrun
  intro file hfile session hsession hseen
  rcases session_of_run hstore hsession with ⟨before, hmem, horigin⟩ | ⟨⟨_, _, hop⟩, -⟩
  · have hsnapshot : before.snapshotId = session.snapshotId :=
      congrArg SessionOrigin.snapshotId horigin
    have hrootId : before.storageRootId = session.storageRootId :=
      congrArg SessionOrigin.storageRootId horigin
    rw [hfiles] at hfile
    rw [← hrootId]
    rw [← hsnapshot] at hseen
    rcases record_after hfile with ⟨hold, -⟩ | ⟨observation, -, hlast, hkey⟩
    · exact h file hold before hmem hseen
    · have howned := hscan.eq_of_snapshotId hlinked hmem (hseen.symm.trans hlast)
      calc file.storageRootId = scan.storageRootId := (congrArg Prod.fst hkey).symm
        _ = before.storageRootId := (congrArg SessionOrigin.storageRootId howned).symm
  · cases hop

/-- An apply that counts nothing twice keeps the accounts of its session. -/
theorem Accounts.apply {row : DirectoryQueueRow} {read : ReadBatch} (hscan : scan.OfSession db)
    (hrows : scan.HoldsRows db) (hrow : row ∈ scan.claimed) (h : Accounts db scan.sessionId)
    (hnot : ∀ queued ∈ db.scanDirectoryQueue.rows,
      queued.key = (scan.sessionId, row.relativePath) → queued.status ≠ .done)
    (honce : (read.batch.files.map (·.relativePath)).Nodup)
    (hfresh : ∀ observation ∈ read.batch.files, ∀ file ∈ db.fileRecord.rows,
      file.key = (scan.storageRootId, observation.relativePath) →
      file.lastSeenSnapshotId ≠ scan.snapshotId)
    (hrun : db.applyDirectoryFiles now
      (scan.application row (RootScan.observedOf row read.batch)) = some db') :
    Accounts db' scan.sessionId := by
  rw [accounts_iff] at h ⊢
  obtain ⟨queued, hqueued, hkey⟩ := hrows row hrow
  have hdone : db'.scanDirectoryQueue.total (doneWeight scan.sessionId) =
      db.scanDirectoryQueue.total (doneWeight scan.sessionId) + 1 := by
    have hzero : doneWeight scan.sessionId queued = 0 :=
      if_neg fun hdone => hnot queued hqueued hkey hdone.2
    calc db'.scanDirectoryQueue.total (doneWeight scan.sessionId)
        = db'.scanDirectoryQueue.total (doneWeight scan.sessionId)
            + doneWeight scan.sessionId queued := by rw [hzero, Nat.add_zero]
      _ = db.scanDirectoryQueue.total (doneWeight scan.sessionId) + _ :=
          total_done_apply hrun hqueued hkey
      _ = db.scanDirectoryQueue.total (doneWeight scan.sessionId) + 1 :=
          congrArg _ (if_pos rfl)
  rw [← files_observedOf row read.batch] at honce hfresh
  intro session hsession hid
  rw [(CatalogDb.queue_applyDirectoryFiles hrun).2, Table.rows_updateWhere] at hsession
  obtain ⟨old, hold, rfl⟩ := List.mem_map.mp hsession
  simp only [decide_eq_true_eq] at hid ⊢
  have holdId : old.id = scan.sessionId := by
    split at hid <;> exact hid
  have hsnapshot : old.snapshotId = scan.snapshotId :=
    (hscan.session_eq (Table.find?_eq_some_iff.mpr ⟨hold, holdId⟩)).2
  have hadded : countersOf db' scan.sessionId scan.snapshotId = _ :=
    countersOf_apply hrun (bytes_observedOf row read) (fun _ => honce) hfresh
  have hcounted := h old hold holdId
  rw [hsnapshot] at hcounted
  have hcompleted : db.scanDirectoryQueue.total (doneWeight scan.sessionId) =
      old.directoriesCompleted := (congrArg (·.2.2) hcounted).symm
  rw [if_pos (show old.id = (scan.application row _).sessionId from holdId)]
  show (CatalogDb.addProgress now _ old).counters = countersOf db' scan.sessionId old.snapshotId
  rw [hsnapshot, hadded, hdone, ← hcounted, hcompleted,
    if_pos (show scan.snapshotId = (scan.application row _).snapshotId from rfl)]
  rfl

/-- An apply of a session leaves the accounts of the sessions of other roots. -/
theorem Accounts.apply_elsewhere {row : DirectoryQueueRow} {observed : ObservedBatch}
    (hlinked : SessionsLinked db) (howned : FilesOwned db) (hscan : scan.OfSession db)
    (hrows : scan.HoldsRows db) (hrow : row ∈ scan.claimed) (h : Accounts db sessionId)
    (hother : scan.sessionId ≠ sessionId)
    (helsewhere : ∀ session ∈ db.scanSession.rows, session.id = sessionId →
      scan.storageRootId ≠ session.storageRootId)
    (hrun : db.applyDirectoryFiles now (scan.application row observed) = some db')
    (hbytes : observed.bytesDelta = (observed.files.map (·.sizeBytes)).sum) :
    Accounts db' sessionId := by
  rw [accounts_iff] at h ⊢
  obtain ⟨queued, hqueued, hkey⟩ := hrows row hrow
  have hdone : db'.scanDirectoryQueue.total (doneWeight sessionId) =
      db.scanDirectoryQueue.total (doneWeight sessionId) := by
    have hzero : doneWeight sessionId queued = 0 :=
      if_neg fun hdone => hother ((congrArg Prod.fst hkey).symm.trans hdone.1)
    calc db'.scanDirectoryQueue.total (doneWeight sessionId)
        = db'.scanDirectoryQueue.total (doneWeight sessionId) + doneWeight sessionId queued := by
          rw [hzero, Nat.add_zero]
      _ = db.scanDirectoryQueue.total (doneWeight sessionId) + _ :=
          total_done_apply hrun hqueued hkey
      _ = db.scanDirectoryQueue.total (doneWeight sessionId) := congrArg _ (if_neg hother)
  intro session hsession hid
  rw [(CatalogDb.queue_applyDirectoryFiles hrun).2, Table.rows_updateWhere] at hsession
  obtain ⟨old, hold, rfl⟩ := List.mem_map.mp hsession
  simp only [decide_eq_true_eq] at hid ⊢
  have holdId : old.id = sessionId := by
    split at hid <;> exact hid
  have hne : old.snapshotId ≠ scan.snapshotId := by
    intro hsame
    have horigin := hscan.eq_of_snapshotId hlinked hold hsame
    exact hother ((congrArg SessionOrigin.id horigin).symm.trans holdId)
  have hfresh : ∀ observation ∈ observed.files, ∀ file ∈ db.fileRecord.rows,
      file.key = (scan.storageRootId, observation.relativePath) →
      file.lastSeenSnapshotId ≠ old.snapshotId := by
    intro observation _ file hfile hkey hseen
    have hroot : file.storageRootId = old.storageRootId := howned file hfile old hold hseen
    exact helsewhere old hold holdId ((congrArg Prod.fst hkey).symm.trans hroot)
  have hkept : countersOf db' sessionId old.snapshotId = _ :=
    countersOf_apply hrun hbytes (fun hsame => absurd hsame hne) hfresh
  rw [if_neg (show old.id ≠ (scan.application row observed).sessionId from
    fun hsame => hother (hsame.symm.trans holdId)), h old hold holdId, hkept, hdone]
  exact (if_neg hne).symm

/-- The invariant of a run: the accounts, and what an apply needs to know. -/
structure RunAccounts (clock : Instant) (sessionId : SessionId) (s : ScanRuns) : Prop where
  valid : RunsValid clock s
  owned : FilesOwned s.catalog.db
  accounts : Accounts s.catalog.db sessionId

theorem RunAccounts.step {label : Instant × RunEvent} (h : RunAccounts clock sessionId s)
    (helsewhere : OthersElsewhere sessionId s label) (honce : AppliesOnce sessionId s label)
    (hstep : s.step label = some t) : RunAccounts clock sessionId t := by
  obtain ⟨now, event⟩ := label
  have hreach := h.valid.reachable
  have hother : ∀ {op : StoreOp} {catalog : CatalogState},
      s.catalog.step (now, op) = some catalog →
      (∀ application, op ≠ .applyDirectoryFiles application) →
      FilesOwned catalog.db ∧ Accounts catalog.db sessionId := by
    intro op catalog hcall hop
    have hrun := (CatalogState.step_eq_some_iff.mp hcall).2.1
    exact ⟨h.owned.run hreach hop hrun, h.accounts.run hreach hop hrun⟩
  have hafter : FilesOwned t.catalog.db ∧ Accounts t.catalog.db sessionId := by
    cases runStep_of_step hstep with
    | listed => exact ⟨h.owned, h.accounts⟩
    | called hop hcall => cases hop <;> exact hother hcall nofun
    | opened hop hcall _ _ => cases hop <;> exact hother hcall nofun
    | claimed _ hcall _ => exact hother hcall nofun
    | @applied run index read scan row catalog hfound hrow hcall =>
        have hrun := (CatalogState.step_eq_some_iff.mp hcall).2.1
        have hlinked := sessionsLinked_of_reachable hreach
        have hscan := h.valid.sessions scan (List.mem_of_getElem? hfound)
        have hheld := h.valid.rows scan (List.mem_of_getElem? hfound)
        have hmem : row ∈ scan.claimed := List.mem_of_getElem? hrow
        refine ⟨h.owned.apply hlinked hscan hrun, ?_⟩
        by_cases hsid : scan.sessionId = sessionId
        · obtain ⟨hnot, hnodup, hfresh⟩ := honce scan hfound hsid row hrow
          subst hsid
          exact h.accounts.apply hscan hheld hmem hnot hnodup hfresh hrun
        · exact h.accounts.apply_elsewhere hlinked h.owned hscan hheld hmem hsid
            (helsewhere scan hfound hsid) hrun (bytes_observedOf row read)
  exact ⟨h.valid.step hstep, hafter.1, hafter.2⟩

/-- Along a run whose applies count nothing twice, while no other session writes files of the
root, the counters of the session are what the catalog holds. -/
theorem counters_account_for_rows {labels : List (Instant × RunEvent)}
    (hrun : Library.Steps ScanRuns.step
      (fun s label => OthersElsewhere sessionId s label ∧ AppliesOnce sessionId s label)
      (ScanRuns.start clock) labels s) :
    Accounts s.catalog.db sessionId := by
  have hstart : RunAccounts clock sessionId (ScanRuns.start clock) :=
    ⟨runsValid_start, List.forall_mem_nil _, List.forall_mem_nil _⟩
  have hpres : ∀ (s : ScanRuns) (label : Instant × RunEvent) (t : ScanRuns),
      OthersElsewhere sessionId s label ∧ AppliesOnce sessionId s label →
      s.step label = some t → RunAccounts clock sessionId s → RunAccounts clock sessionId t :=
    fun s label t hok hstep hs => hs.step hok.1 hok.2 hstep
  exact (hrun.invariant hpres hstart).accounts

end Steps

/-! ## A second process that resumes a session that still runs -/

/-- All runs are of one session. -/
def oneSession (s : ScanRuns) (_ : Instant × RunEvent) : Bool :=
  s.runs.all (·.sessionId = py "a")

theorem othersElsewhere_of_oneSession (s : ScanRuns) (label : Instant × RunEvent)
    (hone : oneSession s label = true) : OthersElsewhere (py "a") s label := by
  have hsession : ∀ scan ∈ s.runs, scan.sessionId = py "a" := by
    simpa only [oneSession, List.all_eq_true, decide_eq_true_eq] using hone
  obtain ⟨now, event⟩ := label
  cases event with
  | apply run index read =>
      exact fun scan hscan hne => absurd (hsession scan (List.mem_of_getElem? hscan)) hne
  | _ => trivial

/-- Whether an apply is of a row that is not done and of files of no snapshot yet. -/
def countsOnce (s : ScanRuns) : Instant × RunEvent → Bool
  | (_, .apply run index read) => s.runs[run]?.all fun scan => scan.claimed[index]?.all fun row =>
      (s.catalog.db.scanDirectoryQueue.rows.all fun queued =>
        queued.key = (py "a", row.relativePath) → queued.status ≠ .done) &&
      decide (read.batch.files.map (·.relativePath)).Nodup &&
      read.batch.files.all fun observation => s.catalog.db.fileRecord.rows.all fun file =>
        file.relativePath ≠ observation.relativePath
  | _ => true

theorem appliesOnce_of_countsOnce (s : ScanRuns) (label : Instant × RunEvent)
    (h : countsOnce s label = true) : AppliesOnce (py "a") s label := by
  obtain ⟨now, event⟩ := label
  cases event with
  | apply run index read =>
      intro scan hscan _ row hrow
      have happly := (Option.all_eq_true _ _).mp ((Option.all_eq_true _ _).mp h scan hscan) row hrow
      simp only [Bool.and_eq_true, List.all_eq_true, decide_eq_true_eq] at happly
      obtain ⟨⟨hnot, hnodup⟩, hfresh⟩ := happly
      refine ⟨hnot, hnodup, fun observation hobservation file hfile hkey => ?_⟩
      exact absurd (congrArg Prod.snd hkey) (hfresh observation hobservation file hfile)
  | _ => trivial

/-- The first process has applied one directory and claimed the next; a second process resumes
the session, which takes the row back, and finishes it. -/
def takenOverRun : List (Instant × RunEvent) :=
  firstApplyRun [topItem, nestedItem] ++
    [(6, RunEvent.claim 0 (py "worker-1")), (7, .resume 0 (py "a")), (8, .claim 1 (py "worker-1")),
      (9, .apply 1 0 ⟨⟨[{ uploadedFile with relativePath := py "b/c.jpg" }], 0, 7,
        some (py "b/c.jpg")⟩, rfl⟩), (10, .commit 1)]

def countedOnce : ScanRuns :=
  Steps.last (checkedStep ScanRuns.step fun s label => oneSession s label && countsOnce s label)
    (.start 0) takenOverRun

/-- The session has seen the two files of the two processes. -/
theorem counters_account_for_rows_taken_over :
    countedOnce.catalog.db.scanSession.rows.map (fun session => (session.id, session.filesSeen)) =
        [(py "a", 2)] ∧
      Accounts countedOnce.catalog.db (py "a") := by
  have hcheck : ∀ (s : ScanRuns) (label : Instant × RunEvent),
      (oneSession s label && countsOnce s label) = true →
      OthersElsewhere (py "a") s label ∧ AppliesOnce (py "a") s label := by
    intro s label h
    rw [Bool.and_eq_true] at h
    exact ⟨othersElsewhere_of_oneSession s label h.1, appliesOnce_of_countsOnce s label h.2⟩
  exact ⟨by decide, counters_account_for_rows
    (Steps.of_checked hcheck (Steps.exec_eq_last (by decide)))⟩

/-- The row of the first run is claimed and applied by the second run, then the first run
applies what it has read. -/
def secondProcessRun : List (Instant × RunEvent) :=
  (firstApplyRun [topItem]).take 5 ++
    [(5, RunEvent.resume 0 (py "a")), (6, .claim 1 (py "worker-1")), (7, .apply 1 0 readUploaded),
      (8, .apply 0 0 readUploaded)]

def countedTwice : ScanRuns :=
  Steps.last (checkedStep ScanRuns.step oneSession) (.start 0) secondProcessRun

/-- The session has seen two files and completed two directories; the catalog has one. -/
theorem counters_count_twice :
    Steps ScanRuns.step (OthersElsewhere (py "a")) (ScanRuns.start 0) secondProcessRun
        countedTwice ∧
      ¬ Accounts countedTwice.catalog.db (py "a") := by
  have hcounted : countedTwice.catalog.db.scanSession.rows.map
      (fun session => (session.id, session.snapshotId, session.filesSeen)) =
        [(py "a", 1, 2)] := by decide
  have hrecords : countedTwice.catalog.db.fileRecord.rows.countP
      (fun file => file.lastSeenSnapshotId = 1) = 1 := by decide
  refine ⟨Steps.of_checked othersElsewhere_of_oneSession (Steps.exec_eq_last (by decide)),
    fun haccounts => ?_⟩
  obtain ⟨session, hsession, hcolumns⟩ := List.mem_map.mp (hcounted ▸ List.mem_singleton.mpr rfl)
  simp only [Prod.mk.injEq] at hcolumns
  obtain ⟨hid, hsnapshot, hseen⟩ := hcolumns
  have hfiles := (haccounts session hsession hid).1
  rw [hsnapshot, hrecords, hseen] at hfiles
  exact absurd hfiles (by decide)

end ImmichDoctor.Catalog
