import ImmichDoctor.Catalog.StoreOps
/-!
# What every reachable catalog satisfies

Root ids are unique, the snapshots of one root have different generations, and no
root was configured in the future. The frame lemmas say which methods write the
root table and the snapshot table, and how.
-/

namespace ImmichDoctor.Catalog

open ImmichDoctor.Library

variable {db db' : CatalogDb} {now : Instant} {op : StoreOp}

/-! ## What the methods write -/

namespace CatalogDb

theorem of_createScanSession {sessionId : SessionId} {storageRootId : Nat}
    {maxFiles : Option Int}
    (h : db.createScanSession now sessionId storageRootId maxFiles = some db') :
    db'.storageRoot = db.storageRoot ∧ db'.fileRecord = db.fileRecord ∧
      ∃ snapshot : ScanSnapshot,
        db'.scanSnapshot.rows = db.scanSnapshot.rows ++ [snapshot] ∧
        snapshot.generation = db.nextGeneration snapshot.storageRootId ∧
        snapshot.status = .running ∧
        ∃ root, db.storageRootById snapshot.storageRootId = some root := by
  simp only [createScanSession, Option.bind_eq_bind, Option.bind_eq_some_iff] at h
  obtain ⟨root, hroot, snapshots, hsnapshots, sessions, _, queue, _, hdb⟩ := h
  cases hdb
  exact ⟨rfl, rfl, _, (Table.rows_of_insert? hsnapshots).1, rfl, rfl, root, hroot⟩

theorem of_seedDirectoryWorkQueue {sessionId : SessionId} {workItems : List QueuedWorkItem}
    (h : db.seedDirectoryWorkQueue now sessionId workItems = some db') :
    db'.storageRoot = db.storageRoot ∧ db'.scanSnapshot = db.scanSnapshot ∧
      db'.fileRecord = db.fileRecord := by
  unfold seedDirectoryWorkQueue at h
  split at h
  · cases h
    exact ⟨rfl, rfl, rfl⟩
  · split at h
    · cases h
    · cases h
      exact ⟨rfl, rfl, rfl⟩

theorem of_claimNextDirectory {sessionId : SessionId} {workerId : PyStr}
    {row : DirectoryQueueRow} (h : db.claimNextDirectory sessionId workerId = some (row, db')) :
    db'.storageRoot = db.storageRoot ∧ db'.scanSnapshot = db.scanSnapshot ∧
      db'.fileRecord = db.fileRecord := by
  simp only [claimNextDirectory, Option.bind_eq_bind, Option.bind_eq_some_iff,
    Option.some.injEq, Prod.mk.injEq] at h
  obtain ⟨_, _, _, rfl⟩ := h
  exact ⟨rfl, rfl, rfl⟩

theorem of_applyDirectoryFiles {application : DirectoryApplication}
    (h : db.applyDirectoryFiles now application = some db') :
    db'.storageRoot = db.storageRoot ∧ db'.scanSnapshot = db.scanSnapshot ∧
      db'.fileRecord =
        application.fileObservations.foldl (recordObservation now application) db.fileRecord := by
  unfold applyDirectoryFiles at h
  split at h
  · cases h
    exact ⟨rfl, rfl, rfl⟩
  · cases h

theorem of_markSessionFailed (sessionId : SessionId) :
    (db.markSessionFailed now sessionId).storageRoot = db.storageRoot ∧
      (db.markSessionFailed now sessionId).fileRecord = db.fileRecord ∧
      (db.markSessionFailed now sessionId).scanSnapshot.rows =
        match db.getScanSession sessionId with
        | none => db.scanSnapshot.rows
        | some session => db.scanSnapshot.rows.map fun snapshot =>
            if snapshot.id = session.snapshotId then failSnapshot snapshot else snapshot := by
  unfold markSessionFailed
  cases db.getScanSession sessionId with
  | none => exact ⟨rfl, rfl, rfl⟩
  | some session => exact ⟨rfl, rfl, by simp [updateSnapshot, updateSession, Table.updateWhere]⟩

theorem of_commitScanSession {sessionId : SessionId}
    (h : db.commitScanSession now sessionId = some db') :
    ∃ session, db.getScanSession sessionId = some session ∧
      db'.storageRoot = db.storageRoot ∧
      db'.fileRecord =
        (db.markPresence session.storageRootId session.snapshotId).fileRecord ∧
      db'.scanSnapshot.rows = db.scanSnapshot.rows.map fun snapshot =>
        if snapshot.id = session.snapshotId then
          commitSnapshot now session.filesSeen
            (db.zeroByteCount session.storageRootId session.snapshotId) snapshot
        else snapshot := by
  simp only [commitScanSession, Option.bind_eq_bind, Option.bind_eq_some_iff] at h
  obtain ⟨session, hsession, hdb⟩ := h
  cases hdb
  exact ⟨session, hsession, rfl, rfl, by simp [updateSnapshot, updateSession, markPresence,
    Table.updateWhere]⟩

theorem storageRootById_some {id : Nat} {root : StorageRoot}
    (h : db.storageRootById id = some root) : root ∈ db.storageRoot.rows ∧ root.id = id :=
  ⟨List.mem_of_find?_eq_some h, by simpa using List.find?_some h⟩

end CatalogDb

/-- Only configuring a root writes the root table. -/
theorem storageRoot_run (hscan : op.isScan = true) (h : op.run now db = some db') :
    db'.storageRoot = db.storageRoot := by
  cases op with
  | upsertStorageRoot root => cases hscan
  | createScanSession sessionId storageRootId maxFiles =>
      exact (CatalogDb.of_createScanSession h).1
  | seedDirectoryWorkQueue sessionId workItems =>
      exact (CatalogDb.of_seedDirectoryWorkQueue h).1
  | claimNextDirectory sessionId workerId =>
      simp only [StoreOp.run] at h
      split at h
      · cases h; rfl
      · next hclaim => cases h; exact (CatalogDb.of_claimNextDirectory hclaim).1
  | applyDirectoryFiles application => exact (CatalogDb.of_applyDirectoryFiles h).1
  | markSessionFailed sessionId =>
      cases h
      exact (CatalogDb.of_markSessionFailed sessionId).1
  | commitScanSession sessionId =>
      obtain ⟨_, _, hroot, _⟩ := CatalogDb.of_commitScanSession h
      exact hroot
  | _ => cases h; rfl

/-- The snapshot a session of `db` writes, as its failure or its commit leaves it. -/
inductive SnapshotUpdate (now : Instant) (db : CatalogDb) :
    StoreOp → (ScanSnapshot → ScanSnapshot) → Prop
  | failed {sessionId : SessionId} {session : ScanSession}
      (hsession : db.getScanSession sessionId = some session) :
      SnapshotUpdate now db (.markSessionFailed sessionId) fun snapshot =>
        if snapshot.id = session.snapshotId then CatalogDb.failSnapshot snapshot else snapshot
  | committed {sessionId : SessionId} {session : ScanSession}
      (hsession : db.getScanSession sessionId = some session) :
      SnapshotUpdate now db (.commitScanSession sessionId) fun snapshot =>
        if snapshot.id = session.snapshotId then
          CatalogDb.commitSnapshot now session.filesSeen
            (db.zeroByteCount session.storageRootId session.snapshotId) snapshot
        else snapshot

/-- Whether the method inserts a snapshot. -/
def StoreOp.isCreate : StoreOp → Bool
  | .createScanSession _ _ _ => true
  | _ => false

/-- The snapshot table stays, grows by a running snapshot of a known root, or is updated in
place. -/
theorem scanSnapshot_run (h : op.run now db = some db') :
    db'.scanSnapshot = db.scanSnapshot ∨
      (∃ snapshot : ScanSnapshot,
        db'.scanSnapshot.rows = db.scanSnapshot.rows ++ [snapshot] ∧
        snapshot.generation = db.nextGeneration snapshot.storageRootId ∧
        snapshot.status = .running ∧
        ∃ root, db.storageRootById snapshot.storageRootId = some root ∧ op.isCreate = true) ∨
      (∃ f, SnapshotUpdate now db op f ∧
        db'.scanSnapshot.rows = db.scanSnapshot.rows.map f) := by
  cases op with
  | upsertStorageRoot root =>
      obtain ⟨_, rfl⟩ := CatalogDb.of_upsertStorageRoot h
      exact Or.inl rfl
  | createScanSession sessionId storageRootId maxFiles =>
      obtain ⟨-, -, snapshot, hrows, hgeneration, hrunning, root, hroot⟩ :=
        CatalogDb.of_createScanSession h
      exact Or.inr (Or.inl ⟨snapshot, hrows, hgeneration, hrunning, root, hroot, rfl⟩)
  | seedDirectoryWorkQueue sessionId workItems =>
      exact Or.inl (CatalogDb.of_seedDirectoryWorkQueue h).2.1
  | claimNextDirectory sessionId workerId =>
      simp only [StoreOp.run] at h
      split at h
      · cases h; exact Or.inl rfl
      · next hclaim => cases h; exact Or.inl (CatalogDb.of_claimNextDirectory hclaim).2.1
  | applyDirectoryFiles application =>
      exact Or.inl (CatalogDb.of_applyDirectoryFiles h).2.1
  | markSessionFailed sessionId =>
      cases h
      cases hsession : db.getScanSession sessionId with
      | none =>
          exact Or.inl (by simp [CatalogDb.markSessionFailed, hsession, CatalogDb.updateSession])
      | some session =>
          refine Or.inr (Or.inr ⟨_, .failed hsession, ?_⟩)
          rw [(CatalogDb.of_markSessionFailed sessionId).2.2, hsession]
  | commitScanSession sessionId =>
      obtain ⟨session, hsession, _, _, hrows⟩ := CatalogDb.of_commitScanSession h
      exact Or.inr (Or.inr ⟨_, .committed hsession, hrows⟩)
  | _ => cases h; exact Or.inl rfl

/-- An update of a snapshot assigns neither its id nor its root nor its generation. -/
theorem SnapshotUpdate.columns {f : ScanSnapshot → ScanSnapshot}
    (h : SnapshotUpdate now db op f) (snapshot : ScanSnapshot) :
    (f snapshot).id = snapshot.id ∧ (f snapshot).storageRootId = snapshot.storageRootId ∧
      (f snapshot).generation = snapshot.generation := by
  cases h with
  | failed _ =>
      beta_reduce
      split <;> exact ⟨rfl, rfl, rfl⟩
  | committed _ =>
      beta_reduce
      split <;> exact ⟨rfl, rfl, rfl⟩

/-- The file records stay, are overwritten by an apply, or get their presence by a commit. -/
theorem fileRecord_run (h : op.run now db = some db') :
    db'.fileRecord = db.fileRecord ∨
      (∃ application, op = .applyDirectoryFiles application ∧ db'.fileRecord =
        application.fileObservations.foldl (CatalogDb.recordObservation now application)
          db.fileRecord) ∨
      (∃ sessionId session, op = .commitScanSession sessionId ∧
        db.getScanSession sessionId = some session ∧ db'.fileRecord =
          (db.markPresence session.storageRootId session.snapshotId).fileRecord) := by
  cases op with
  | upsertStorageRoot root =>
      obtain ⟨_, rfl⟩ := CatalogDb.of_upsertStorageRoot h
      exact Or.inl rfl
  | createScanSession sessionId storageRootId maxFiles =>
      exact Or.inl (CatalogDb.of_createScanSession h).2.1
  | seedDirectoryWorkQueue sessionId workItems =>
      exact Or.inl (CatalogDb.of_seedDirectoryWorkQueue h).2.2
  | claimNextDirectory sessionId workerId =>
      simp only [StoreOp.run] at h
      split at h
      · cases h; exact Or.inl rfl
      · next hclaim => cases h; exact Or.inl (CatalogDb.of_claimNextDirectory hclaim).2.2
  | applyDirectoryFiles application =>
      exact Or.inr (Or.inl ⟨application, rfl, (CatalogDb.of_applyDirectoryFiles h).2.2⟩)
  | markSessionFailed sessionId =>
      cases h
      exact Or.inl (CatalogDb.of_markSessionFailed sessionId).2.1
  | commitScanSession sessionId =>
      obtain ⟨session, hsession, -, hrecords, -⟩ := CatalogDb.of_commitScanSession h
      exact Or.inr (Or.inr ⟨sessionId, session, rfl, hsession, hrecords⟩)
  | _ => cases h; exact Or.inl rfl

/-! ## The invariant -/

namespace CatalogState

structure Valid (s : CatalogState) : Prop where
  root_ids : ∀ a ∈ s.db.storageRoot.rows, ∀ b ∈ s.db.storageRoot.rows, a.id = b.id → a = b
  generations : ∀ a ∈ s.db.scanSnapshot.rows, ∀ b ∈ s.db.scanSnapshot.rows,
    a.storageRootId = b.storageRootId → a.generation = b.generation → a = b
  configured : ∀ root ∈ s.db.storageRoot.rows, root.updatedAt ≤ s.clock

theorem valid_start (clock : Instant) : (start clock).Valid where
  root_ids := by simp [start, CatalogDb.empty]
  generations := by simp [start, CatalogDb.empty]
  configured := by simp [start, CatalogDb.empty]

theorem nextGeneration_fresh {storageRootId : Nat} {snapshot : ScanSnapshot}
    (hmem : snapshot ∈ db.scanSnapshot.rows) (hroot : snapshot.storageRootId = storageRootId) :
    snapshot.generation < db.nextGeneration storageRootId := by
  have hfilter : snapshot ∈ db.scanSnapshot.rows.filter
      fun snapshot => snapshot.storageRootId = storageRootId := by
    simpa [List.mem_filter] using ⟨hmem, hroot⟩
  exact Nat.lt_succ_of_le (le_maxColumn hfilter)

theorem root_ids_upsertStorageRoot {root : CatalogRootSpec}
    (hids : ∀ a ∈ db.storageRoot.rows, ∀ b ∈ db.storageRoot.rows, a.id = b.id → a = b)
    (h : db.upsertStorageRoot now root = some db') :
    ∀ a ∈ db'.storageRoot.rows, ∀ b ∈ db'.storageRoot.rows, a.id = b.id → a = b := by
  unfold CatalogDb.upsertStorageRoot at h
  split at h
  · cases h
  cases h
  intro a ha b hb hid
  rcases Table.mem_upsert.mp ha with ⟨ha, haslug⟩ | ⟨olda, holda, haslug, rfl⟩ | ⟨hanew, rfl⟩
  · rcases Table.mem_upsert.mp hb with ⟨hb, -⟩ | ⟨oldb, holdb, hbslug, rfl⟩ | ⟨-, rfl⟩
    · exact hids a ha b hb hid
    · have hold : a = oldb := hids a ha oldb holdb hid
      exact absurd (hold ▸ hbslug) haslug
    · exact absurd hid (Nat.ne_of_lt (Nat.lt_succ_of_le (le_maxColumn ha)))
  · rcases Table.mem_upsert.mp hb with ⟨hb, hbslug⟩ | ⟨oldb, holdb, hbslug, rfl⟩ | ⟨hbnew, -⟩
    · have hold : olda = b := hids olda holda b hb hid
      exact absurd (hold ▸ haslug) hbslug
    · rw [db.storageRoot.eq_of_key_eq holda holdb (haslug.trans hbslug.symm)]
    · exact absurd haslug (hbnew olda holda)
  · rcases Table.mem_upsert.mp hb with ⟨hb, -⟩ | ⟨oldb, holdb, hbslug, -⟩ | ⟨-, rfl⟩
    · exact absurd hid.symm (Nat.ne_of_lt (Nat.lt_succ_of_le (le_maxColumn hb)))
    · exact absurd hbslug (hanew oldb holdb)
    · rfl

theorem configured_upsertStorageRoot {root : CatalogRootSpec} {clock : Instant}
    (hclock : clock ≤ now) (hold : ∀ row ∈ db.storageRoot.rows, row.updatedAt ≤ clock)
    (h : db.upsertStorageRoot now root = some db') :
    ∀ row ∈ db'.storageRoot.rows, row.updatedAt ≤ now := by
  unfold CatalogDb.upsertStorageRoot at h
  split at h
  · cases h
  cases h
  intro row hrow
  rcases Table.mem_upsert.mp hrow with ⟨hrow, -⟩ | ⟨old, hmem, -, rfl⟩ | ⟨-, rfl⟩
  · exact (hold row hrow).trans hclock
  · simp only [CatalogDb.mergeStorageRoot]
    split
    · exact le_refl now
    · exact (hold old hmem).trans hclock
  · exact le_refl now

theorem generations_run
    (hgen : ∀ a ∈ db.scanSnapshot.rows, ∀ b ∈ db.scanSnapshot.rows,
      a.storageRootId = b.storageRootId → a.generation = b.generation → a = b)
    (h : op.run now db = some db') :
    ∀ a ∈ db'.scanSnapshot.rows, ∀ b ∈ db'.scanSnapshot.rows,
      a.storageRootId = b.storageRootId → a.generation = b.generation → a = b := by
  rcases scanSnapshot_run h with hsame | ⟨fresh, hrows, hfresh, -⟩ | ⟨f, hf, hrows⟩
  · rwa [hsame]
  · intro a ha b hb hroot hab
    rw [hrows, List.mem_append, List.mem_singleton] at ha hb
    rcases ha with ha | rfl
    · rcases hb with hb | rfl
      · exact hgen a ha b hb hroot hab
      · exact absurd (hab.trans hfresh) (Nat.ne_of_lt (nextGeneration_fresh ha hroot))
    · rcases hb with hb | rfl
      · exact absurd (hab.symm.trans hfresh)
          (Nat.ne_of_lt (nextGeneration_fresh hb hroot.symm))
      · rfl
  · intro a ha b hb hroot hab
    rw [hrows, List.mem_map] at ha hb
    obtain ⟨olda, holda, rfl⟩ := ha
    obtain ⟨oldb, holdb, rfl⟩ := hb
    obtain ⟨-, hroota, hgena⟩ := hf.columns olda
    obtain ⟨-, hrootb, hgenb⟩ := hf.columns oldb
    rw [hroota, hrootb] at hroot
    rw [hgena, hgenb] at hab
    rw [hgen olda holda oldb holdb hroot hab]

/-- The ids of the roots stay different, and no root is configured in the future. -/
theorem roots_step {s t : CatalogState} {label : Instant × StoreOp}
    (hids : ∀ a ∈ s.db.storageRoot.rows, ∀ b ∈ s.db.storageRoot.rows, a.id = b.id → a = b)
    (hconfigured : ∀ root ∈ s.db.storageRoot.rows, root.updatedAt ≤ s.clock)
    (hstep : s.step label = some t) :
    (∀ a ∈ t.db.storageRoot.rows, ∀ b ∈ t.db.storageRoot.rows, a.id = b.id → a = b) ∧
      ∀ root ∈ t.db.storageRoot.rows, root.updatedAt ≤ t.clock := by
  obtain ⟨hclock, hrun, hnow⟩ := step_eq_some_iff.mp hstep
  rw [hnow]
  by_cases hscan : label.2.isScan = true
  · rw [storageRoot_run hscan hrun]
    exact ⟨hids, fun root hroot => (hconfigured root hroot).trans hclock⟩
  · obtain ⟨now, op⟩ := label
    cases op with
    | upsertStorageRoot root =>
        exact ⟨root_ids_upsertStorageRoot hids hrun,
          configured_upsertStorageRoot hclock hconfigured hrun⟩
    | _ => exact absurd rfl hscan

theorem valid_step {s t : CatalogState} {label : Instant × StoreOp} (hs : s.Valid)
    (hstep : s.step label = some t) : t.Valid := by
  obtain ⟨hids, hconfigured⟩ := roots_step hs.root_ids hs.configured hstep
  exact ⟨hids, generations_run hs.generations (step_eq_some_iff.mp hstep).2.1, hconfigured⟩

/-- The invariant holds of every reachable catalog. -/
theorem valid_of_reachable {clock : Instant} {s : CatalogState}
    (hreach : Reachable step (start clock) s) : s.Valid :=
  hreach.invariant (fun _ _ _ hstep hs => valid_step hs hstep) (valid_start clock)

end CatalogState

end ImmichDoctor.Catalog
