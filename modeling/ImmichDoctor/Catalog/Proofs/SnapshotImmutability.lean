import ImmichDoctor.Catalog.Proofs.CommittedListing
/-!
# Immutability of a committed snapshot

Once a snapshot is committed, the rows recorded for it are what downstream readers
get for its root. A run keeps them when each of its steps leaves the snapshot
alone; a plain rescan of the root does not, because recording a file for the
running snapshot takes the row away from the committed one.
-/

namespace ImmichDoctor.Catalog

open ImmichDoctor.Library CatalogDb

/-! ## Runs that leave the snapshot alone -/

variable {storageRootId snapshotId : Nat}

/-- A scan call that leaves the snapshot of the root alone. -/
def ScansBeside (storageRootId snapshotId : Nat) (s : CatalogState) (label : Instant × StoreOp) :
    Prop :=
  label.2.isScan = true ∧ LeavesSnapshot storageRootId snapshotId s label

/-- The same, before a newer snapshot of the root is committed. -/
def ScansBesideLatest (storageRootId snapshotId : Nat) (s : CatalogState)
    (label : Instant × StoreOp) : Prop :=
  ScansBeside storageRootId snapshotId s label ∧ NoNewerCommit storageRootId snapshotId s label

/-- Right after its commit a snapshot is kept, with the rows recorded for it. -/
theorem kept_of_commit {before s : CatalogState} {now : Instant} {sessionId : SessionId}
    {session : ScanSession} {snapshot : ScanSnapshot} {root : StorageRoot}
    (hvalid : before.Valid) (hsession : before.db.getScanSession sessionId = some session)
    (hsnapshot : before.db.getSnapshot session.snapshotId = some snapshot)
    (hroot : before.db.storageRootById snapshot.storageRootId = some root)
    (hcommit : before.step (now, .commitScanSession sessionId) = some s) :
    SnapshotKept root snapshot.id
      (recordedEntries root.id snapshot.id s.db.fileRecord) s := by
  obtain ⟨hclock, hrun, -⟩ := CatalogState.step_eq_some_iff.mp hcommit
  obtain ⟨committed, hcommitted, hroots, -, hrows⟩ := of_commitScanSession hrun
  have hsame : committed = session := Option.some.inj (hcommitted.symm.trans hsession)
  subst hsame
  obtain ⟨hmem, hid⟩ := Table.find?_eq_some_iff.mp hsnapshot
  obtain ⟨hrmem, hrid⟩ := storageRootById_some hroot
  refine ⟨CatalogState.valid_step hvalid hcommit, hroots ▸ hrmem, ?_, rfl⟩
  have hin : commitSnapshot now committed.filesSeen
      (before.db.zeroByteCount committed.storageRootId committed.snapshotId) snapshot ∈
      s.db.scanSnapshot.rows := by
    rw [hrows, List.mem_map]
    exact ⟨snapshot, hmem, if_pos hid⟩
  refine ⟨_, hin, rfl, hrid.symm, rfl, ?_⟩
  exact decide_eq_true ((hvalid.configured root hrmem).trans hclock)

theorem kept_of_steps {root : StorageRoot} {entries : Finset FileEntry} {s t : CatalogState}
    {labels : List (Instant × StoreOp)} (hkept : SnapshotKept root snapshotId entries s)
    (hrun : Steps CatalogState.step (ScansBeside root.id snapshotId) s labels t) :
    SnapshotKept root snapshotId entries t :=
  hrun.invariant (fun _ _ _ hok hstep hs => hs.step hok.1 hok.2 hstep) hkept

theorem latest_of_steps {s t : CatalogState} {labels : List (Instant × StoreOp)}
    (hlatest : s.db.IsLatestCommitted storageRootId snapshotId)
    (hrun : Steps CatalogState.step (ScansBesideLatest storageRootId snapshotId) s labels t) :
    t.db.IsLatestCommitted storageRootId snapshotId :=
  hrun.invariant (fun _ _ _ hok hstep hs =>
    isLatestCommitted_step hok.1.2 hok.2 hstep hs) hlatest

/-- From the commit of a snapshot on, whenever it is the latest of its root, the
listing of the root is what the snapshot recorded at its commit, in every run whose
steps leave the snapshot alone and until a newer snapshot is committed. -/
theorem listing_of_committed_snapshot {clock now : Instant} {before s u t : CatalogState}
    {sessionId : SessionId} {session : ScanSession} {snapshot : ScanSnapshot}
    {root : StorageRoot} {first rest : List (Instant × StoreOp)}
    (hreach : Reachable CatalogState.step (CatalogState.start clock) before)
    (hsession : before.db.getScanSession sessionId = some session)
    (hsnapshot : before.db.getSnapshot session.snapshotId = some snapshot)
    (hroot : before.db.storageRootById snapshot.storageRootId = some root)
    (hcommit : before.step (now, .commitScanSession sessionId) = some s)
    (hfirst : Steps CatalogState.step (ScansBeside root.id snapshot.id) s first u)
    (hlatest : u.db.IsLatestCommitted root.id snapshot.id)
    (hrest : Steps CatalogState.step (ScansBesideLatest root.id snapshot.id) u rest t) :
    t.db.listedEntries root.slug = recordedEntries root.id snapshot.id s.db.fileRecord := by
  have hvalid := CatalogState.valid_of_reachable hreach
  have hkept := kept_of_commit hvalid hsession hsnapshot hroot hcommit
  have hkeptU := kept_of_steps hkept hfirst
  have hkeptT := kept_of_steps hkeptU (hrest.mono fun _ _ hok => hok.1)
  exact hkeptT.listedEntries_eq (latest_of_steps hlatest hrest)

/-! ## A rescan of the same root -/

def uploadsSpec : CatalogRootSpec where
  slug := py "uploads"
  settingName := py "immich_uploads_path"
  rootType := py "source"
  path := py "/uploads"

/-- A file at the top of the root. -/
def uploadedFile : CatalogFileObservation where
  relativePath := py "a.jpg"
  parentRelativePath := []
  fileName := py "a.jpg"
  extension := some (py ".jpg")
  sizeBytes := 7
  createdAtFs := some 1
  modifiedAtFs := some 1
  fileTypeGuess := py "image"
  mediaClassGuess := py "image"
  zeroByteFlag := false
  statDevice := none
  statInode := none

/-- A session is created, gets its one unit of work, claims it and applies it. -/
def scanOneDirectory (now : Instant) (sessionId : SessionId) (snapshotId : Nat) :
    List (Instant × StoreOp) :=
  [(now, .createScanSession sessionId 1 none),
    (now, .seedDirectoryWorkQueue sessionId
      [⟨[], py "[\"a.jpg\"]", 1, 0, 0, some (py "a.jpg"), 0⟩]),
    (now, .claimNextDirectory sessionId (py "worker-1")),
    (now, .applyDirectoryFiles
      ⟨sessionId, 1, snapshotId, [], [uploadedFile], 0, 7, some (py "a.jpg")⟩)]

def firstScan : List (Instant × StoreOp) :=
  (2, .upsertStorageRoot uploadsSpec) :: scanOneDirectory 3 (py "a") 1

def committedOnce : CatalogState :=
  Steps.last CatalogState.step (CatalogState.start 0)
    (firstScan ++ [(4, .commitScanSession (py "a"))])

/-- A rescan that commits nothing empties the listing of the committed snapshot. -/
theorem rescan_empties_committed_listing :
    Reachable CatalogState.step (CatalogState.start 0) committedOnce ∧
      committedOnce.db.IsLatestCommitted 1 1 ∧
      Steps CatalogState.step (fun s label => label.2.isScan = true ∧ NoNewerCommit 1 1 s label)
        committedOnce (scanOneDirectory 5 (py "b") 2)
        (Steps.last CatalogState.step committedOnce (scanOneDirectory 5 (py "b") 2)) ∧
      committedOnce.db.listedEntries (py "uploads") = {uploadedFile.entry} ∧
      (Steps.last CatalogState.step committedOnce
        (scanOneDirectory 5 (py "b") 2)).db.listedEntries (py "uploads") = ∅ := by
  refine ⟨Reachable.of_exec (Steps.exec_eq_last (by decide)), ?_, ?_, by decide, by decide⟩
  · unfold IsLatestCommitted
    decide
  · refine Steps.of_exec ?_ (Steps.exec_eq_last (by decide))
    simp [scanOneDirectory, StoreOp.isScan, NoNewerCommit]

/-- A file that the committed snapshot does not have. -/
def newFile : CatalogFileObservation :=
  { uploadedFile with relativePath := py "b.jpg", fileName := py "b.jpg" }

/-- A second session claims its work. -/
def claimRescan : List (Instant × StoreOp) :=
  [(5, .createScanSession (py "b") 1 none),
    (5, .seedDirectoryWorkQueue (py "b") [⟨[], py "[\"b.jpg\"]", 1, 0, 0, some (py "b.jpg"), 0⟩]),
    (5, .claimNextDirectory (py "b") (py "worker-1"))]

def claimedSecond : CatalogState :=
  Steps.last CatalogState.step committedOnce claimRescan

/-- It records the new file, and is paused. -/
def recordNewFile : List (Instant × StoreOp) :=
  [(5, .applyDirectoryFiles ⟨py "b", 1, 2, [], [newFile], 0, 7, some (py "b.jpg")⟩),
    (6, .markSessionPaused (py "b"))]

def recordedSecond : CatalogState :=
  Steps.last CatalogState.step claimedSecond recordNewFile

theorem listing_of_committed_snapshot_new_file :
    recordedSecond.db.listedEntries (py "uploads") =
      recordedEntries 1 1 committedOnce.db.fileRecord := by
  have hreach : Reachable CatalogState.step (CatalogState.start 0)
      (Steps.last CatalogState.step (CatalogState.start 0) firstScan) :=
    Reachable.of_exec (Steps.exec_eq_last (by decide))
  have hcommit : (Steps.last CatalogState.step (CatalogState.start 0) firstScan).step
      (4, .commitScanSession (py "a")) = some committedOnce := rfl
  have hclaimed : Steps CatalogState.step (ScansBesideLatest 1 1) committedOnce claimRescan
      claimedSecond := by
    refine Steps.of_exec ?_ (Steps.exec_eq_last (by decide))
    simp [claimRescan, ScansBesideLatest, ScansBeside, StoreOp.isScan, LeavesSnapshot,
      NoNewerCommit]
  have hnew : ∀ e ∈ recordedEntries 1 1 claimedSecond.db.fileRecord,
      e.relativePath ≠ newFile.relativePath := by
    decide
  have hrecorded : Steps CatalogState.step (ScansBesideLatest 1 1) claimedSecond recordNewFile
      recordedSecond := by
    refine .head ⟨⟨rfl, fun _ observation hobservation => ?_⟩, trivial⟩ rfl
      (.head ⟨⟨rfl, trivial⟩, trivial⟩ rfl (.refl _))
    cases List.mem_singleton.mp hobservation
    exact hnew
  refine listing_of_committed_snapshot hreach rfl rfl rfl hcommit (.refl _) ?_
    (hclaimed.append hrecorded)
  unfold IsLatestCommitted
  decide

end ImmichDoctor.Catalog
