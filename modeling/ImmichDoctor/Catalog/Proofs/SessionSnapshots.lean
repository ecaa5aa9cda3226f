import ImmichDoctor.Catalog.Proofs.StoreInvariant
import ImmichDoctor.Catalog.Proofs.WorkQueue
/-!
# Sessions and their snapshots

A session is created together with a snapshot of the same root, keeps pointing at it, and
no other session points at it.
-/

namespace ImmichDoctor.Catalog

open ImmichDoctor.Library

variable {db db' : CatalogDb} {now : Instant} {op : StoreOp} {sessionId : SessionId}

/-- The columns of a session that no statement updates. -/
structure SessionOrigin where
  id : SessionId
  storageRootId : Nat
  snapshotId : Nat

def ScanSession.origin (session : ScanSession) : SessionOrigin :=
  ⟨session.id, session.storageRootId, session.snapshotId⟩

/-- The counters of the files, the bytes and the directories. -/
def ScanSession.counters (session : ScanSession) : Nat × Nat × Nat :=
  (session.filesSeen, session.bytesSeen, session.directoriesCompleted)

/-- The session's own snapshot. -/
def OwnSnapshot (db : CatalogDb) (session : ScanSession) (snapshot : ScanSnapshot) : Prop :=
  snapshot ∈ db.scanSnapshot.rows ∧ snapshot.id = session.snapshotId ∧
    snapshot.storageRootId = session.storageRootId

/-- The sessions are what they were, up to their status and times. -/
def SessionsKept (db db' : CatalogDb) : Prop :=
  ∃ f : ScanSession → ScanSession,
    (∀ session, (f session).origin = session.origin ∧ (f session).counters = session.counters) ∧
      db'.scanSession.rows = db.scanSession.rows.map f

/-- A session has been added, with a new snapshot of its root. -/
def SessionAdded (db db' : CatalogDb) (session : ScanSession) : Prop :=
  db'.scanSession.rows = db.scanSession.rows ++ [session] ∧ session.counters = (0, 0, 0) ∧
    ∃ snapshot, OwnSnapshot db' session snapshot ∧
      ∀ old ∈ db.scanSnapshot.rows, old.id < snapshot.id

theorem SessionsKept.of_eq (h : db'.scanSession = db.scanSession) : SessionsKept db db' :=
  ⟨fun session => session, fun _ => ⟨rfl, rfl⟩, by rw [h, List.map_id']⟩

theorem SessionsKept.updateSession {f : ScanSession → ScanSession}
    (hkey : ∀ session, (f session).id = session.id)
    (hf : ∀ session, (f session).origin = session.origin ∧
      (f session).counters = session.counters) :
    SessionsKept db (db.updateSession sessionId f hkey) := by
  refine ⟨fun session => if session.id = sessionId then f session else session,
    fun session => ?_, ?_⟩
  · beta_reduce
    split
    · exact hf session
    · exact ⟨rfl, rfl⟩
  · rw [CatalogDb.updateSession, Table.rows_updateWhere]
    simp only [decide_eq_true_eq]

theorem ScanSession.reopened_kept (session : ScanSession) :
    (session.reopened now).origin = session.origin ∧
      (session.reopened now).counters = session.counters := by
  unfold reopened
  split <;> exact ⟨rfl, rfl⟩

/-- Sessions are kept, make progress by an apply, or get a new one. -/
theorem scanSession_run (h : op.run now db = some db') :
    SessionsKept db db' ∨
    (∃ application, op = .applyDirectoryFiles application ∧
      db'.scanSession.rows = db.scanSession.rows.map fun session =>
        if session.id = application.sessionId then CatalogDb.addProgress now application session
        else session) ∨
    (∃ session storageRootId maxFiles, op = .createScanSession session.id storageRootId maxFiles ∧
      SessionAdded db db' session) := by
  cases op with
  | upsertStorageRoot root =>
      obtain ⟨_, rfl⟩ := CatalogDb.of_upsertStorageRoot h
      exact Or.inl (.of_eq rfl)
  | createScanSession sessionId storageRootId maxFiles =>
      simp only [StoreOp.run, CatalogDb.createScanSession, Option.bind_eq_bind,
        Option.bind_eq_some_iff] at h
      obtain ⟨_, _, snapshots, hsnapshots, sessions, hsessions, queue, _, hdb⟩ := h
      cases hdb
      exact Or.inr (Or.inr ⟨_, storageRootId, maxFiles, rfl, (Table.rows_of_insert? hsessions).1,
        rfl, _, ⟨Table.mem_of_insert? hsnapshots, rfl, rfl⟩,
        fun old hold => Nat.lt_succ_of_le (le_maxColumn hold)⟩)
  | seedDirectoryWorkQueue sessionId workItems =>
      exact Or.inl (.of_eq (CatalogDb.queue_seedDirectoryWorkQueue h).1)
  | claimNextDirectory sessionId workerId =>
      simp only [StoreOp.run] at h
      split at h
      · cases h
        exact Or.inl (.of_eq rfl)
      · next hclaim =>
          cases h
          exact Or.inl (.of_eq (CatalogDb.queue_claimNextDirectory hclaim).2.2.2.1)
  | applyDirectoryFiles application =>
      refine Or.inr (Or.inl ⟨application, rfl, ?_⟩)
      rw [(CatalogDb.queue_applyDirectoryFiles h).2, Table.rows_updateWhere]
      simp only [decide_eq_true_eq]
  | markSessionFailed sessionId =>
      cases h
      have hended : (db.markSessionFailed now sessionId).scanSession
          = (db.updateSession sessionId (ScanSession.ended .failed now)
            (ScanSession.id_ended .failed now)).scanSession := by
        simp only [CatalogDb.markSessionFailed]
        split <;> rfl
      have hkept : SessionsKept db (db.updateSession sessionId (ScanSession.ended .failed now)
          (ScanSession.id_ended .failed now)) := .updateSession _ fun _ => ⟨rfl, rfl⟩
      obtain ⟨f, hf, hrows⟩ := hkept
      exact Or.inl ⟨f, hf, (congrArg Table.rows hended).trans hrows⟩
  | commitScanSession sessionId =>
      simp only [StoreOp.run, CatalogDb.commitScanSession, Option.bind_eq_bind,
        Option.bind_eq_some_iff] at h
      obtain ⟨committed, _, hdb⟩ := h
      cases hdb
      exact Or.inl (SessionsKept.updateSession (ScanSession.id_ended .completed now)
        fun _ => ⟨rfl, rfl⟩)
  | reopenScanSession sessionId =>
      cases h
      exact Or.inl (SessionsKept.updateSession (ScanSession.id_reopened now)
        fun _ => ScanSession.reopened_kept _)
  | markSessionPaused sessionId =>
      cases h
      exact Or.inl (SessionsKept.updateSession (ScanSession.id_halted now) fun _ => ⟨rfl, rfl⟩)
  | markSessionStopped sessionId =>
      cases h
      exact Or.inl (SessionsKept.updateSession (ScanSession.id_ended .stopped now)
        fun _ => ⟨rfl, rfl⟩)
  | _ => cases h; exact Or.inl (.of_eq rfl)

theorem origin_addProgress {application : DirectoryApplication} (session : ScanSession) :
    (if session.id = application.sessionId then CatalogDb.addProgress now application session
      else session).origin = session.origin := by
  split <;> rfl

/-- A session stays in the table with its id, its root and its snapshot. -/
theorem session_kept (h : op.run now db = some db') {session : ScanSession}
    (hmem : session ∈ db.scanSession.rows) :
    ∃ kept ∈ db'.scanSession.rows, kept.origin = session.origin := by
  rcases scanSession_run h with ⟨f, hf, hrows⟩ | ⟨application, -, hrows⟩ | ⟨_, _, _, -, hrows, -⟩
  · exact ⟨f session, hrows ▸ List.mem_map_of_mem hmem, (hf session).1⟩
  · exact ⟨_, hrows ▸ List.mem_map_of_mem hmem, origin_addProgress session⟩
  · exact ⟨session, hrows ▸ List.mem_append_left _ hmem, rfl⟩

/-- A session was there, or it has just been added. -/
theorem session_of_run (h : op.run now db = some db') {session : ScanSession}
    (hmem : session ∈ db'.scanSession.rows) :
    (∃ old ∈ db.scanSession.rows, old.origin = session.origin) ∨
      ((∃ storageRootId maxFiles, op = .createScanSession session.id storageRootId maxFiles) ∧
        SessionAdded db db' session) := by
  rcases scanSession_run h
    with ⟨f, hf, hrows⟩ | ⟨application, -, hrows⟩ | ⟨added, _, _, hop, hadded⟩
  · rw [hrows] at hmem
    obtain ⟨old, hold, rfl⟩ := List.mem_map.mp hmem
    exact Or.inl ⟨old, hold, (hf old).1.symm⟩
  · rw [hrows] at hmem
    obtain ⟨old, hold, rfl⟩ := List.mem_map.mp hmem
    exact Or.inl ⟨old, hold, (origin_addProgress old).symm⟩
  · rw [hadded.1, List.mem_append, List.mem_singleton] at hmem
    rcases hmem with hold | rfl
    · exact Or.inl ⟨session, hold, rfl⟩
    · exact Or.inr ⟨⟨_, _, hop⟩, hadded⟩

/-- A snapshot stays in the table under its id, its root and its generation. -/
theorem snapshot_kept (h : op.run now db = some db') {snapshot : ScanSnapshot}
    (hmem : snapshot ∈ db.scanSnapshot.rows) :
    ∃ kept ∈ db'.scanSnapshot.rows, kept.id = snapshot.id ∧
      kept.storageRootId = snapshot.storageRootId ∧ kept.generation = snapshot.generation := by
  rcases scanSnapshot_run h with hsame | ⟨fresh, hrows, -, -⟩ | ⟨f, hf, hrows⟩
  · exact ⟨snapshot, hsame ▸ hmem, rfl, rfl, rfl⟩
  · exact ⟨snapshot, hrows ▸ List.mem_append_left _ hmem, rfl, rfl, rfl⟩
  · exact ⟨f snapshot, hrows ▸ List.mem_map_of_mem hmem, hf.columns snapshot⟩

/-- Every session keeps its snapshot, and a new one is given its own. -/
theorem ownSnapshot_run
    (hs : ∀ session ∈ db.scanSession.rows, ∃ snapshot, OwnSnapshot db session snapshot)
    (h : op.run now db = some db') :
    ∀ session ∈ db'.scanSession.rows, ∃ snapshot, OwnSnapshot db' session snapshot := by
  intro session hsession
  rcases session_of_run h hsession with ⟨old, hold, horigin⟩ | ⟨-, -, -, snapshot, hown, -⟩
  · obtain ⟨snapshot, hmem, hid, hroot⟩ := hs old hold
    obtain ⟨kept, hkept, hkid, hkroot, -⟩ := snapshot_kept h hmem
    have hsnapshotId : old.snapshotId = session.snapshotId :=
      congrArg SessionOrigin.snapshotId horigin
    have hrootId : old.storageRootId = session.storageRootId :=
      congrArg SessionOrigin.storageRootId horigin
    exact ⟨kept, hkept, hkid.trans (hid.trans hsnapshotId), hkroot.trans (hroot.trans hrootId)⟩
  · exact ⟨snapshot, hown⟩

/-- Every session has its snapshot, and shares it with no other. -/
structure SessionsLinked (db : CatalogDb) : Prop where
  snapshot : ∀ session ∈ db.scanSession.rows, ∃ snapshot, OwnSnapshot db session snapshot
  alone : ∀ a ∈ db.scanSession.rows, ∀ b ∈ db.scanSession.rows,
    a.snapshotId = b.snapshotId → a = b

namespace SessionsLinked

theorem run (hs : SessionsLinked db) (h : op.run now db = some db') : SessionsLinked db' where
  snapshot := ownSnapshot_run hs.snapshot h
  alone := by
    -- a session from before has a snapshot from before, so its id is below that of a new one
    have hbelow : ∀ old ∈ db.scanSession.rows, ∀ other snapshot : _,
        OwnSnapshot db' other snapshot → (∀ row ∈ db.scanSnapshot.rows, row.id < snapshot.id) →
        old.snapshotId < other.snapshotId := by
      intro old hold other snapshot hown hfresh
      obtain ⟨owned, hmem, hid, -⟩ := hs.snapshot old hold
      rw [← hid, ← hown.2.1]
      exact hfresh owned hmem
    intro a ha b hb hab
    rcases session_of_run h ha with
      ⟨olda, holda, horigina⟩ | ⟨⟨_, _, hopa⟩, -, -, snapa, howna, hfresha⟩
    · rcases session_of_run h hb with
        ⟨oldb, holdb, horiginb⟩ | ⟨⟨_, _, hopb⟩, -, -, snapb, hownb, hfreshb⟩
      · have hsnap : olda.snapshotId = oldb.snapshotId :=
          (congrArg SessionOrigin.snapshotId horigina).trans
            (hab.trans (congrArg SessionOrigin.snapshotId horiginb).symm)
        have hsame := hs.alone olda holda oldb holdb hsnap
        have hid : a.id = b.id := by
          have hida : olda.id = a.id := congrArg SessionOrigin.id horigina
          have hidb : oldb.id = b.id := congrArg SessionOrigin.id horiginb
          rw [← hida, ← hidb, hsame]
        exact db'.scanSession.eq_of_key_eq ha hb hid
      · have hlt := hbelow olda holda b snapb hownb hfreshb
        have heq : olda.snapshotId = a.snapshotId := congrArg SessionOrigin.snapshotId horigina
        omega
    · rcases session_of_run h hb with
        ⟨oldb, holdb, horiginb⟩ | ⟨⟨_, _, hopb⟩, -, -, snapb, hownb, hfreshb⟩
      · have hlt := hbelow oldb holdb a snapa howna hfresha
        have heq : oldb.snapshotId = b.snapshotId := congrArg SessionOrigin.snapshotId horiginb
        omega
      · rw [hopa] at hopb
        have hid : a.id = b.id := by
          injection hopb
        exact db'.scanSession.eq_of_key_eq ha hb hid

end SessionsLinked

theorem sessionsLinked_of_reachable {clock : Instant} {s : CatalogState}
    (hreach : Reachable CatalogState.step (CatalogState.start clock) s) : SessionsLinked s.db := by
  refine Reachable.invariant (P := fun s => SessionsLinked s.db) ?_ hreach
    ⟨List.forall_mem_nil _, List.forall_mem_nil _⟩
  intro s label t hstep hs
  exact hs.run (CatalogState.step_eq_some_iff.mp hstep).2.1

end ImmichDoctor.Catalog
