import ImmichDoctor.Catalog.Proofs.ScanSteps
import ImmichDoctor.Catalog.Proofs.StoreInvariant
import ImmichDoctor.Catalog.Proofs.WorkQueue
/-!
# What a job has written to the catalog

The sessions and snapshots a job has added to a catalog belong to the roots it is done
with, each of which has a committed snapshot, and to the root it is at, whose snapshot
is still running. Worker threads change neither, nor does the synchronisation of the roots.
-/

namespace ImmichDoctor.Catalog

open ImmichDoctor.Library

/-- The columns of a session no update assigns. -/
def ScanSession.keys (session : ScanSession) : SessionId × Nat × Nat :=
  (session.id, session.storageRootId, session.snapshotId)

def CatalogDb.sessionKeys (db : CatalogDb) : List (SessionId × Nat × Nat) :=
  db.scanSession.rows.map ScanSession.keys

/-- The snapshot was added after the catalog was as in `base`. -/
def NewSnapshot (base : CatalogDb) (id : Nat) : Prop :=
  ∀ old ∈ base.scanSnapshot.rows, old.id ≠ id

def NewSession (base : CatalogDb) (id : SessionId) : Prop :=
  ∀ old ∈ base.scanSession.rows, old.id ≠ id

/-- A session of the root has been added, and its snapshot committed. -/
def CommittedSession (base db : CatalogDb) (root : Nat) (sessionId : SessionId) : Prop :=
  NewSession base sessionId ∧ ∃ snapshotId, (sessionId, root, snapshotId) ∈ db.sessionKeys ∧
    ∃ snapshot ∈ db.scanSnapshot.rows, NewSnapshot base snapshot.id ∧ snapshot.id = snapshotId ∧
      snapshot.storageRootId = root ∧ snapshot.status = .committed

/-- A snapshot of the root has been added and committed. -/
def CommittedSince (base db : CatalogDb) (root : Nat) : Prop :=
  ∃ snapshot ∈ db.scanSnapshot.rows, NewSnapshot base snapshot.id ∧
    snapshot.storageRootId = root ∧ snapshot.status = .committed

/-- The row the item is queued as in the session has been applied. -/
def AppliedIn (db : CatalogDb) (sessionId : SessionId) (item : QueuedWorkItem) : Prop :=
  ∃ row ∈ db.scanDirectoryQueue.rows, row.key = (sessionId, item.relativePath) ∧
    row.status = .done

/-- A session of the root has been added in which every item was applied, and its snapshot
committed. -/
def ScannedSince (base db : CatalogDb) (root : Nat) (workItems : List QueuedWorkItem) : Prop :=
  ∃ sessionId, CommittedSession base db root sessionId ∧
    ∀ item ∈ workItems, AppliedIn db sessionId item

theorem ScannedSince.committedSince {base db : CatalogDb} {root : Nat}
    {workItems : List QueuedWorkItem} (h : ScannedSince base db root workItems) :
    CommittedSince base db root := by
  obtain ⟨-, ⟨-, -, -, snapshot, hsnapshot, hnew, -, hroot, hstatus⟩, -⟩ := h
  exact ⟨snapshot, hsnapshot, hnew, hroot, hstatus⟩

/-- A session of the root has been added and recorded as failed. -/
def FailedSince (base db : CatalogDb) (root : Nat) : Prop :=
  ∃ session ∈ db.scanSession.rows, NewSession base session.id ∧
    session.storageRootId = root ∧ session.status = .failed

/-! ## Calls that leave the ledger as it is -/

structure SameLedger (db db' : CatalogDb) : Prop where
  roots : db'.storageRoot = db.storageRoot
  snapshots : db'.scanSnapshot = db.scanSnapshot
  sessions : db'.sessionKeys = db.sessionKeys

theorem SameLedger.refl (db : CatalogDb) : SameLedger db db :=
  ⟨rfl, rfl, rfl⟩

section Calls

variable {db db' : CatalogDb} {now : Instant} {sessionId : SessionId}

theorem sessionKeys_updateWhere {sessions : Table ScanSession ScanSession.id}
    {p : ScanSession → Bool} {f : ScanSession → ScanSession}
    (hkey : ∀ session, (f session).id = session.id)
    (hkeys : ∀ session, (f session).keys = session.keys) :
    (sessions.updateWhere p f hkey).rows.map ScanSession.keys =
      sessions.rows.map ScanSession.keys := by
  rw [Table.rows_updateWhere, List.map_map]
  refine List.map_congr_left fun session _ => ?_
  rw [Function.comp_apply]
  split
  · exact hkeys session
  · rfl

theorem sameLedger_seed {workItems : List QueuedWorkItem}
    (h : db.seedDirectoryWorkQueue now sessionId workItems = some db') : SameLedger db db' := by
  obtain ⟨hroots, hsnapshots, -⟩ := CatalogDb.of_seedDirectoryWorkQueue h
  have hsessions := (CatalogDb.queue_seedDirectoryWorkQueue h).1
  exact ⟨hroots, hsnapshots, by rw [CatalogDb.sessionKeys, hsessions, CatalogDb.sessionKeys]⟩

theorem sameLedger_claim {workerId : PyStr} {s t : CatalogState}
    (h : s.step (now, .claimNextDirectory sessionId workerId) = some t) :
    SameLedger s.db t.db := by
  obtain ⟨-, hrun, -⟩ := CatalogState.step_eq_some_iff.mp h
  simp only [StoreOp.run] at hrun
  split at hrun
  · rw [← Option.some.inj hrun]
    exact .refl s.db
  · next row claimed hclaim =>
      rw [← Option.some.inj hrun]
      obtain ⟨hroots, hsnapshots, -⟩ := CatalogDb.of_claimNextDirectory hclaim
      have hsessions := (CatalogDb.queue_claimNextDirectory hclaim).2.2.2.1
      exact ⟨hroots, hsnapshots, by rw [CatalogDb.sessionKeys, hsessions, CatalogDb.sessionKeys]⟩

theorem sameLedger_apply {application : DirectoryApplication}
    (h : db.applyDirectoryFiles now application = some db') : SameLedger db db' := by
  obtain ⟨hroots, hsnapshots, -⟩ := CatalogDb.of_applyDirectoryFiles h
  have hsessions := (CatalogDb.queue_applyDirectoryFiles h).2
  refine ⟨hroots, hsnapshots, ?_⟩
  rw [CatalogDb.sessionKeys, hsessions]
  exact sessionKeys_updateWhere (CatalogDb.id_addProgress now application) fun _ => rfl

/-- A new session comes with a new snapshot of its root. -/
theorem rows_createScanSession {root : Nat} {maxFiles : Option Int}
    (h : db.createScanSession now sessionId root maxFiles = some db') :
    db'.storageRoot = db.storageRoot ∧
      ∃ snapshot : ScanSnapshot, db'.scanSnapshot.rows = db.scanSnapshot.rows ++ [snapshot] ∧
        (∀ old ∈ db.scanSnapshot.rows, old.id ≠ snapshot.id) ∧
        snapshot.storageRootId = root ∧ snapshot.status = .running ∧
        db'.sessionKeys = db.sessionKeys ++ [(sessionId, root, snapshot.id)] ∧
        ∀ old ∈ db.scanSession.rows, old.id ≠ sessionId := by
  simp only [CatalogDb.createScanSession, Option.bind_eq_bind, Option.bind_eq_some_iff] at h
  obtain ⟨_, _, snapshots, hsnapshots, sessions, hsessions, queue, _, hdb⟩ := h
  cases hdb
  obtain ⟨hsnapshotRows, hsnapshotFresh⟩ := Table.rows_of_insert? hsnapshots
  obtain ⟨hsessionRows, hsessionFresh⟩ := Table.rows_of_insert? hsessions
  refine ⟨rfl, _, hsnapshotRows, hsnapshotFresh, rfl, rfl, ?_, hsessionFresh⟩
  unfold CatalogDb.sessionKeys
  rw [hsessionRows, List.map_append]
  rfl

/-- No step of a worker changes the ledger. -/
theorem WorkerStep.sameLedger {scan : RootScan} {control : ControlState} {worker : ActorId}
    {read : ObservedBatch} {shared shared' : WorkerShared} {phase next : WorkerPhase}
    (hstep : WorkerStep scan control now worker read shared phase next shared') :
    SameLedger shared.catalog.db shared'.catalog.db := by
  cases hstep with
  | leaves hcall =>
      have hrun := (CatalogState.step_eq_some_iff.mp hcall).2.1
      rw [← Option.some.inj hrun]
      exact ⟨rfl, rfl, rfl⟩
  | leavesStopped hcall =>
      have hrun := (CatalogState.step_eq_some_iff.mp hcall).2.1
      rw [← Option.some.inj hrun]
      exact ⟨rfl, rfl, rfl⟩
  | claims hcall => exact sameLedger_claim hcall
  | claimsNothing hcall => exact sameLedger_claim hcall
  | applies hcall => exact sameLedger_apply (CatalogState.step_eq_some_iff.mp hcall).2.1
  | _ => exact .refl _

end Calls

/-! ## Calls that keep the queue -/

/-- No row is lost, and those that are done stay so. -/
def QueueKept (db db' : CatalogDb) : Prop :=
  ∀ row ∈ db.scanDirectoryQueue.rows, ∃ new ∈ db'.scanDirectoryQueue.rows, new.key = row.key ∧
    (row.status = .done → new.status = .done)

theorem QueueKept.refl (db : CatalogDb) : QueueKept db db :=
  fun row hrow => ⟨row, hrow, rfl, id⟩

theorem QueueKept.of_step {s t : CatalogState} {label : Instant × StoreOp}
    (h : s.step label = some t) : QueueKept s.db t.db :=
  fun _ hrow => exists_queueRow_run (CatalogState.step_eq_some_iff.mp h).2.1 hrow

theorem AppliedIn.kept {db db' : CatalogDb} {sessionId : SessionId} {item : QueuedWorkItem}
    (h : AppliedIn db sessionId item) (hkept : QueueKept db db') :
    AppliedIn db' sessionId item := by
  obtain ⟨row, hrow, hkey, hdone⟩ := h
  obtain ⟨new, hnew, hsame, hstays⟩ := hkept row hrow
  exact ⟨new, hnew, hsame.trans hkey, hstays hdone⟩

/-! ## The ledger -/

/-- A root that a job is done with, its id and the session it was scanned in. -/
structure DoneRoot where
  root : CatalogRootSpec
  rootId : Nat
  sessionId : SessionId

/-- The scan is of the session with these columns. -/
abbrev RootScan.keys (scan : RootScan) : SessionId × Nat × Nat :=
  (scan.sessionId, scan.storageRootId, scan.snapshotId)

structure Ledger (base db : CatalogDb) (done : List DoneRoot)
    (current : Option (SessionId × Nat × Nat)) : Prop where
  snapshotIds : ∀ old ∈ base.scanSnapshot.rows, ∃ row ∈ db.scanSnapshot.rows, row.id = old.id
  sessionIds : ∀ old ∈ base.scanSession.rows, ∃ keys ∈ db.sessionKeys, keys.1 = old.id
  committed : ∀ entry ∈ done, CommittedSession base db entry.rootId entry.sessionId
  /-- What was added is of a root that is done, or of the current session. -/
  snapshots : ∀ snapshot ∈ db.scanSnapshot.rows, NewSnapshot base snapshot.id →
    snapshot.storageRootId ∈ done.map (·.rootId) ∨ ∃ keys, current = some keys ∧
      snapshot.id = keys.2.2 ∧ snapshot.storageRootId = keys.2.1 ∧ snapshot.status = .running
  sessions : ∀ keys ∈ db.sessionKeys, NewSession base keys.1 →
    keys.2.1 ∈ done.map (·.rootId) ∨ current = some keys
  openSession : ∀ keys, current = some keys → keys ∈ db.sessionKeys ∧ NewSession base keys.1
  openSnapshot : ∀ keys, current = some keys → ∃ snapshot ∈ db.scanSnapshot.rows,
    snapshot.id = keys.2.2 ∧ NewSnapshot base snapshot.id ∧ snapshot.storageRootId = keys.2.1 ∧
      snapshot.status = .running

namespace Ledger

variable {base db db' : CatalogDb} {done : List DoneRoot} {keys : SessionId × Nat × Nat}
  {current : Option (SessionId × Nat × Nat)} {now : Instant}

theorem start (base : CatalogDb) : Ledger base base [] none where
  snapshotIds := fun old hold => ⟨old, hold, rfl⟩
  sessionIds := fun old hold => ⟨old.keys, List.mem_map_of_mem hold, rfl⟩
  committed := nofun
  snapshots := fun snapshot hsnapshot hnew => absurd rfl (hnew snapshot hsnapshot)
  sessions := fun keys hkeys hnew => by
    obtain ⟨session, hsession, rfl⟩ := List.mem_map.mp hkeys
    exact absurd rfl (hnew session hsession)
  openSession := nofun
  openSnapshot := nofun

theorem same (h : Ledger base db done current) (hsnapshots : db'.scanSnapshot = db.scanSnapshot)
    (hsessions : db'.sessionKeys = db.sessionKeys) : Ledger base db' done current where
  snapshotIds := by rw [hsnapshots]; exact h.snapshotIds
  sessionIds := by rw [hsessions]; exact h.sessionIds
  committed := by
    unfold CommittedSession
    rw [hsnapshots, hsessions]
    exact h.committed
  snapshots := by rw [hsnapshots]; exact h.snapshots
  sessions := by rw [hsessions]; exact h.sessions
  openSession := by rw [hsessions]; exact h.openSession
  openSnapshot := by rw [hsnapshots]; exact h.openSnapshot

/-- A session is opened for the next root. -/
theorem create (h : Ledger base db done none) {sessionId : SessionId} {root : Nat}
    {maxFiles : Option Int} {session : ScanSession}
    (hrun : db.createScanSession now sessionId root maxFiles = some db')
    (hsession : db'.getScanSession sessionId = some session) :
    session.storageRootId = root ∧ Ledger base db' done (some session.keys) := by
  obtain ⟨-, snapshot, hrows, hfresh, hroot, hstatus, hkeys, hid⟩ := rows_createScanSession hrun
  obtain ⟨hmem, hsid⟩ := Table.find?_eq_some_iff.mp hsession
  have hnewSnapshot : NewSnapshot base snapshot.id := by
    intro old hold heq
    obtain ⟨row, hrow, hrowId⟩ := h.snapshotIds old hold
    exact hfresh row hrow (hrowId.trans heq)
  have hnewSession : NewSession base sessionId := by
    intro old hold heq
    obtain ⟨other, hother, hotherId⟩ := h.sessionIds old hold
    obtain ⟨row, hrow, rfl⟩ := List.mem_map.mp hother
    exact hid row hrow (hotherId.trans heq)
  -- the session read back is the one that was added
  have hopened : session.keys = (sessionId, root, snapshot.id) := by
    have hin : session.keys ∈ db'.sessionKeys := List.mem_map_of_mem hmem
    rw [hkeys, List.mem_append, List.mem_singleton] at hin
    rcases hin with hold | hnew
    · obtain ⟨row, hrow, hrowKeys⟩ := List.mem_map.mp hold
      exact absurd ((congrArg Prod.fst hrowKeys).trans hsid) (hid row hrow)
    · exact hnew
  refine ⟨congrArg (fun keys => keys.2.1) hopened, ?_⟩
  rw [hopened]
  refine ⟨?_, ?_, ?_, ?_, ?_, ?_, ?_⟩
  · intro old hold
    obtain ⟨row, hrow, hrowId⟩ := h.snapshotIds old hold
    exact ⟨row, hrows ▸ List.mem_append_left _ hrow, hrowId⟩
  · intro old hold
    obtain ⟨other, hother, hotherId⟩ := h.sessionIds old hold
    exact ⟨other, hkeys ▸ List.mem_append_left _ hother, hotherId⟩
  · intro entry hentry
    obtain ⟨hnew, snapshotId, hsessionKeys, row, hrow, hfacts⟩ := h.committed entry hentry
    exact ⟨hnew, snapshotId, hkeys ▸ List.mem_append_left _ hsessionKeys, row,
      hrows ▸ List.mem_append_left _ hrow, hfacts⟩
  · intro row hrow hnew
    rw [hrows, List.mem_append, List.mem_singleton] at hrow
    rcases hrow with hold | rfl
    · rcases h.snapshots row hold hnew with hdone | ⟨keys, hkeys, -⟩
      · exact .inl hdone
      · cases hkeys
    · exact .inr ⟨_, rfl, rfl, hroot, hstatus⟩
  · intro other hother hnew
    rw [hkeys, List.mem_append, List.mem_singleton] at hother
    rcases hother with hold | rfl
    · exact .inl ((h.sessions other hold hnew).resolve_right nofun)
    · exact .inr rfl
  · intro keys hcurrent
    cases hcurrent
    exact ⟨hkeys ▸ List.mem_append_right _ List.mem_cons_self, hnewSession⟩
  · intro keys hcurrent
    cases hcurrent
    exact ⟨snapshot, hrows ▸ List.mem_append_right _ List.mem_cons_self, rfl, hnewSnapshot, hroot,
      hstatus⟩

/-- The open session, as it is read back. -/
theorem exists_session (h : Ledger base db done (some keys)) :
    ∃ session, db.getScanSession keys.1 = some session ∧ session.keys = keys := by
  obtain ⟨hmem, -⟩ := h.openSession keys rfl
  obtain ⟨session, hsession, rfl⟩ := List.mem_map.mp hmem
  exact ⟨session, Table.find?_eq_some_iff.mpr ⟨hsession, rfl⟩, rfl⟩

/-- The session of the current root is committed. -/
theorem commit (h : Ledger base db done (some keys)) (root : CatalogRootSpec)
    (hrun : db.commitScanSession now keys.1 = some db') :
    Ledger base db' (done ++ [⟨root, keys.2.1, keys.1⟩]) none := by
  obtain ⟨session, hsession, hkeys⟩ := h.exists_session
  obtain ⟨other, hother, -, -, hrows⟩ := CatalogDb.of_commitScanSession hrun
  have hsame : other = session := Option.some.inj (hother.symm.trans hsession)
  subst hsame
  have hsnapshotId : other.snapshotId = keys.2.2 := congrArg (fun keys => keys.2.2) hkeys
  have hsessions : db'.sessionKeys = db.sessionKeys := by
    simp only [CatalogDb.commitScanSession, Option.bind_eq_bind, Option.bind_eq_some_iff] at hrun
    obtain ⟨_, _, hdb⟩ := hrun
    cases hdb
    exact sessionKeys_updateWhere (ScanSession.id_ended .completed now) fun _ => rfl
  have hids : ∀ row ∈ db.scanSnapshot.rows, ∃ row' ∈ db'.scanSnapshot.rows, row'.id = row.id ∧
      row'.storageRootId = row.storageRootId ∧
      (row.id = keys.2.2 ∨ row.status = .committed → row'.status = .committed) := by
    intro row hrow
    rw [hrows, hsnapshotId]
    refine ⟨_, List.mem_map_of_mem hrow, ?_⟩
    split
    · exact ⟨rfl, rfl, fun _ => rfl⟩
    · next hne => exact ⟨rfl, rfl, fun hcase => hcase.resolve_left hne⟩
  refine ⟨?_, ?_, ?_, ?_, ?_, by simp, by simp⟩
  · intro old hold
    obtain ⟨row, hrow, hrowId⟩ := h.snapshotIds old hold
    obtain ⟨row', hrow', hid, -⟩ := hids row hrow
    exact ⟨row', hrow', hid.trans hrowId⟩
  · rw [hsessions]
    exact h.sessionIds
  · intro entry hentry
    unfold CommittedSession
    rw [hsessions]
    rcases List.mem_append.mp hentry with hdone | hlast
    · obtain ⟨hnewSession, snapshotId, hsessionKeys, row, hrow, hnew, hrowId, hrowRoot, hstatus⟩ :=
        h.committed entry hdone
      obtain ⟨row', hrow', hid, hroot', hcommitted⟩ := hids row hrow
      exact ⟨hnewSession, snapshotId, hsessionKeys, row', hrow', hid ▸ hnew, hid.trans hrowId,
        hroot'.trans hrowRoot, hcommitted (.inr hstatus)⟩
    · rw [List.mem_singleton.mp hlast]
      obtain ⟨hopen, hnewSession⟩ := h.openSession keys rfl
      obtain ⟨row, hrow, hrowId, hnew, hrowRoot, -⟩ := h.openSnapshot keys rfl
      obtain ⟨row', hrow', hid, hroot', hcommitted⟩ := hids row hrow
      exact ⟨hnewSession, keys.2.2, hopen, row', hrow', hid ▸ hnew, hid.trans hrowId,
        hroot'.trans hrowRoot, hcommitted (.inl hrowId)⟩
  · intro row hrow hnew
    left
    rw [hrows] at hrow
    obtain ⟨old, hold, rfl⟩ := List.mem_map.mp hrow
    have hkept : ∀ committed : ScanSnapshot, committed.id = old.id →
        committed.storageRootId = old.storageRootId → NewSnapshot base committed.id →
        committed.storageRootId ∈
          (done ++ [(⟨root, keys.2.1, keys.1⟩ : DoneRoot)]).map (·.rootId) := by
      intro committed hid hroot hnew
      rw [hroot, List.map_append, List.mem_append, List.map_singleton, List.mem_singleton]
      rcases h.snapshots old hold (hid ▸ hnew) with hdone | ⟨current, hcurrent, -, hcurrentRoot, -⟩
      · exact .inl hdone
      · cases hcurrent
        exact .inr hcurrentRoot
    by_cases hid : old.id = other.snapshotId
    · rw [if_pos hid] at hnew ⊢
      exact hkept _ rfl rfl hnew
    · rw [if_neg hid] at hnew ⊢
      exact hkept _ rfl rfl hnew
  · intro other hother hnew
    rw [hsessions] at hother
    left
    rw [List.map_append, List.mem_append, List.map_singleton, List.mem_singleton]
    refine (h.sessions other hother hnew).imp_right fun hcurrent => ?_
    cases hcurrent
    rfl

end Ledger

/-- Only these roots have something added. -/
structure Touched (base db : CatalogDb) (roots : List Nat) : Prop where
  snapshots : ∀ snapshot ∈ db.scanSnapshot.rows, NewSnapshot base snapshot.id →
    snapshot.storageRootId ∈ roots
  sessions : ∀ session ∈ db.scanSession.rows, NewSession base session.id →
    session.storageRootId ∈ roots

theorem Touched.untouched {base db : CatalogDb} {roots : List Nat} (h : Touched base db roots)
    {root : Nat} (hroot : root ∉ roots) :
    ¬ CommittedSince base db root ∧ ¬ FailedSince base db root := by
  constructor
  · rintro ⟨snapshot, hsnapshot, hnew, rfl, -⟩
    exact hroot (h.snapshots snapshot hsnapshot hnew)
  · rintro ⟨session, hsession, hnew, rfl, -⟩
    exact hroot (h.sessions session hsession hnew)

namespace Ledger

variable {base db : CatalogDb} {done : List DoneRoot} {keys : SessionId × Nat × Nat}

/-- Between two roots only those that are done have something added. -/
theorem touched (h : Ledger base db done none) : Touched base db (done.map (·.rootId)) where
  snapshots := fun snapshot hsnapshot hnew => (h.snapshots snapshot hsnapshot hnew).resolve_right
    fun hopen => by
      obtain ⟨keys, hkeys, -⟩ := hopen
      cases hkeys
  sessions := fun session hsession hnew =>
    (h.sessions session.keys (List.mem_map_of_mem hsession) hnew).resolve_right nofun

theorem touched_open (h : Ledger base db done (some keys)) :
    Touched base db (done.map (·.rootId) ++ [keys.2.1]) where
  snapshots := by
    intro snapshot hsnapshot hnew
    rw [List.mem_append, List.mem_singleton]
    refine (h.snapshots snapshot hsnapshot hnew).imp_right ?_
    rintro ⟨current, hcurrent, -, hroot, -⟩
    cases hcurrent
    exact hroot
  sessions := by
    intro session hsession hnew
    rw [List.mem_append, List.mem_singleton]
    refine (h.sessions session.keys (List.mem_map_of_mem hsession) hnew).imp_right
      fun hcurrent => ?_
    cases hcurrent
    rfl

/-- The root a session is open for has no committed snapshot yet. -/
theorem not_committed (h : Ledger base db done (some keys))
    (hroot : keys.2.1 ∉ done.map (·.rootId)) :
    ¬ CommittedSince base db keys.2.1 := by
  rintro ⟨snapshot, hsnapshot, hnew, hsame, hstatus⟩
  rcases h.snapshots snapshot hsnapshot hnew with hdone | ⟨current, hcurrent, -, -, hrunning⟩
  · exact hroot (hsame ▸ hdone)
  · rw [hrunning] at hstatus
    cases hstatus

/-- The session of the current root is recorded as failed. -/
theorem fail (h : Ledger base db done (some keys)) (now : Instant) :
    FailedSince base (db.markSessionFailed now keys.1) keys.2.1 ∧
      (∀ entry ∈ done,
        CommittedSession base (db.markSessionFailed now keys.1) entry.rootId entry.sessionId) ∧
      Touched base (db.markSessionFailed now keys.1) (done.map (·.rootId) ++ [keys.2.1]) := by
  obtain ⟨session, hsession, hkeys⟩ := h.exists_session
  have hsnapshotId : session.snapshotId = keys.2.2 := congrArg (fun keys => keys.2.2) hkeys
  have hrootId : session.storageRootId = keys.2.1 := congrArg (fun keys => keys.2.1) hkeys
  have hrows : (db.markSessionFailed now keys.1).scanSnapshot.rows =
      db.scanSnapshot.rows.map fun snapshot =>
        if snapshot.id = keys.2.2 then CatalogDb.failSnapshot snapshot else snapshot := by
    rw [(CatalogDb.of_markSessionFailed keys.1).2.2, hsession, ← hsnapshotId]
  have hsessions : (db.markSessionFailed now keys.1).scanSession.rows =
      db.scanSession.rows.map fun session =>
        if session.id = keys.1 then session.ended .failed now else session := by
    unfold CatalogDb.markSessionFailed
    rw [hsession]
    simp [CatalogDb.updateSnapshot, CatalogDb.updateSession, Table.rows_updateWhere]
  have hkeysSame : (db.markSessionFailed now keys.1).sessionKeys = db.sessionKeys := by
    unfold CatalogDb.sessionKeys
    rw [hsessions, List.map_map]
    refine List.map_congr_left fun session _ => ?_
    rw [Function.comp_apply]
    split <;> rfl
  have htouched := h.touched_open
  obtain ⟨hmem, hid⟩ := Table.find?_eq_some_iff.mp hsession
  refine ⟨?_, ?_, ?_, ?_⟩
  · refine ⟨session.ended .failed now, ?_, ?_, hrootId, rfl⟩
    · rw [hsessions]
      exact List.mem_map.mpr ⟨session, hmem, if_pos hid⟩
    · show NewSession base session.id
      exact hid ▸ (h.openSession keys rfl).2
  · -- the snapshot of a root that is done is committed, and that of the current root is not
    intro entry hentry
    obtain ⟨hnewSession, snapshotId, hsessionKeys, snapshot, hsnapshot, hnew, hsnapshotIs,
      hsnapshotRoot, hstatus⟩ := h.committed entry hentry
    have hne : snapshot.id ≠ keys.2.2 := by
      intro heq
      obtain ⟨running, hrunning, hrunningId, -, -, hrunningStatus⟩ := h.openSnapshot keys rfl
      have hsame : snapshot = running :=
        db.scanSnapshot.eq_of_key_eq hsnapshot hrunning (heq.trans hrunningId.symm)
      rw [hsame, hrunningStatus] at hstatus
      cases hstatus
    refine ⟨hnewSession, snapshotId, hkeysSame ▸ hsessionKeys, snapshot, ?_, hnew, hsnapshotIs,
      hsnapshotRoot, hstatus⟩
    rw [hrows]
    exact List.mem_map.mpr ⟨snapshot, hsnapshot, if_neg hne⟩
  · intro snapshot hsnapshot hnew
    rw [hrows] at hsnapshot
    obtain ⟨old, hold, rfl⟩ := List.mem_map.mp hsnapshot
    by_cases heq : old.id = keys.2.2
    · rw [if_pos heq] at hnew ⊢
      exact htouched.snapshots old hold hnew
    · rw [if_neg heq] at hnew ⊢
      exact htouched.snapshots old hold hnew
  · intro other hother hnew
    rw [hsessions] at hother
    obtain ⟨old, hold, rfl⟩ := List.mem_map.mp hother
    by_cases heq : old.id = keys.1
    · rw [if_pos heq] at hnew ⊢
      exact htouched.sessions old hold hnew
    · rw [if_neg heq] at hnew ⊢
      exact htouched.sessions old hold hnew

end Ledger

end ImmichDoctor.Catalog
