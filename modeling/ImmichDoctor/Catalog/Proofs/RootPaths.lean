import ImmichDoctor.Catalog.Proofs.CurrentSnapshots
import ImmichDoctor.Catalog.Proofs.RunSteps
import ImmichDoctor.Catalog.Proofs.SnapshotImmutability
/-!
# Snapshots and the path of their root

A snapshot is current when it was committed since its root was configured; nothing ties it
to the path its files were observed under. It shows files of the root's path alone when
this is so at each commit and stays so until the root gets another path.
-/

namespace ImmichDoctor.Catalog

open ImmichDoctor.Library

/-- Every file listed for a root whose latest snapshot is reported as current was observed
under the path the root has. -/
def CurrentPathOnly (s : ScanRuns) : Prop :=
  ∀ row ∈ s.catalog.db.listLatestSnapshots none, row.snapshotCurrent = true →
    ∀ listed ∈ s.catalog.db.listLatestSnapshotFiles none none, listed.rootSlug = row.root.slug →
      s.observedUnder (row.root.id, listed.relativePath) = row.root.absolutePath

/-- The step commits only files of the root's path, adds only such files to a snapshot that is
current, and gives no new path to a root in the very instant of a commit. -/
def KeepsPath (s : ScanRuns) : Instant × RunEvent → Prop
  | (now, .upsertStorageRoot spec) =>
      ∀ root ∈ s.catalog.db.storageRoot.rows, root.slug = spec.slug →
        root.absolutePath ≠ spec.path → ∀ snapshot ∈ s.catalog.db.scanSnapshot.rows,
          snapshot.storageRootId = root.id → snapshot.status = .committed →
          CatalogDb.committedSince snapshot now = false
  | (_, .apply run _ read) =>
      ∀ scan, s.runs[run]? = some scan → read.batch.files ≠ [] →
        ∀ root ∈ s.catalog.db.storageRoot.rows, root.id = scan.storageRootId →
          ∀ snapshot, s.catalog.db.CommittedFor root snapshot → snapshot.id = scan.snapshotId →
            scan.rootPath = root.absolutePath
  | (_, .commit run) =>
      ∀ scan, s.runs[run]? = some scan →
        ∀ root ∈ s.catalog.db.storageRoot.rows, root.id = scan.storageRootId →
          ∀ file ∈ s.catalog.db.fileRecord.rows, file.storageRootId = root.id →
            file.lastSeenSnapshotId = scan.snapshotId →
            s.observedUnder file.key = root.absolutePath
  | _ => True

/-- The files of every snapshot that is current were observed under its root's path. -/
def PathsKept (db : CatalogDb) (observedUnder : Nat × PyStr → PyStr) : Prop :=
  ∀ root ∈ db.storageRoot.rows, ∀ snapshot, db.CommittedFor root snapshot →
    ∀ file ∈ db.fileRecord.rows, file.storageRootId = root.id →
      file.lastSeenSnapshotId = snapshot.id → observedUnder file.key = root.absolutePath

/-! ## What the store calls do -/

section Store

variable {db db' : CatalogDb} {now : Instant} {op : StoreOp} {root : StorageRoot}
  {snapshot : ScanSnapshot} {application : DirectoryApplication} {file : FileRecord}

/-- Every snapshot is of a root of the catalog. -/
def SnapshotRoots (db : CatalogDb) : Prop :=
  ∀ snapshot ∈ db.scanSnapshot.rows, ∃ root ∈ db.storageRoot.rows,
    root.id = snapshot.storageRootId

/-- No root loses its id. -/
theorem storageRoot_kept (h : op.run now db = some db') (hmem : root ∈ db.storageRoot.rows) :
    ∃ kept ∈ db'.storageRoot.rows, kept.id = root.id := by
  by_cases hscan : op.isScan = true
  · exact ⟨root, storageRoot_run hscan h ▸ hmem, rfl⟩
  · cases op with
    | upsertStorageRoot spec =>
        simp only [StoreOp.run, CatalogDb.upsertStorageRoot] at h
        split at h
        · cases h
        · cases h
          by_cases hslug : root.slug = spec.slug
          · exact ⟨_, Table.mem_upsert.mpr (Or.inr (Or.inl ⟨root, hmem, hslug, rfl⟩)), rfl⟩
          · exact ⟨root, Table.mem_upsert.mpr (Or.inl ⟨hmem, hslug⟩), rfl⟩
    | _ => exact absurd rfl hscan

theorem SnapshotRoots.run (hs : SnapshotRoots db) (h : op.run now db = some db') :
    SnapshotRoots db' := by
  have hkept : ∀ old ∈ db.scanSnapshot.rows, ∀ new : ScanSnapshot,
      new.storageRootId = old.storageRootId →
      ∃ root ∈ db'.storageRoot.rows, root.id = new.storageRootId := by
    intro old hold new hsame
    obtain ⟨root, hroot, hid⟩ := hs old hold
    obtain ⟨kept, hkept, hkid⟩ := storageRoot_kept h hroot
    exact ⟨kept, hkept, hkid.trans (hid.trans hsame.symm)⟩
  intro snapshot hsnapshot
  rcases scanSnapshot_run h with hsame | ⟨fresh, hrows, -, -, root, hroot, -⟩ | ⟨f, hf, hrows⟩
  · exact hkept snapshot (hsame ▸ hsnapshot) snapshot rfl
  · rw [hrows, List.mem_append, List.mem_singleton] at hsnapshot
    rcases hsnapshot with hold | rfl
    · exact hkept snapshot hold snapshot rfl
    · obtain ⟨hmem, hid⟩ := CatalogDb.storageRootById_some hroot
      obtain ⟨kept, hkeptMem, hkid⟩ := storageRoot_kept h hmem
      exact ⟨kept, hkeptMem, hkid.trans hid⟩
  · rw [hrows] at hsnapshot
    obtain ⟨old, hold, rfl⟩ := List.mem_map.mp hsnapshot
    exact hkept old hold _ (hf.columns old).2.1

theorem snapshotRoots_of_reachable {clock : Instant} {s : CatalogState}
    (hreach : Reachable CatalogState.step (CatalogState.start clock) s) : SnapshotRoots s.db := by
  have hpres : ∀ (s : CatalogState) (label : Instant × StoreOp) (t : CatalogState),
      s.step label = some t → SnapshotRoots s.db → SnapshotRoots t.db :=
    fun s label t hstep hs => hs.run (CatalogState.step_eq_some_iff.mp hstep).2.1
  exact Reachable.invariant hpres hreach (List.forall_mem_nil _)

/-- The call configures no root, records no file and commits nothing. -/
def StoreOp.leavesListing : StoreOp → Bool
  | .upsertStorageRoot _ => false
  | .applyDirectoryFiles _ => false
  | .commitScanSession _ => false
  | _ => true

/-- Only a commit makes a snapshot a committed one. -/
theorem committedFor_run (hop : op.leavesListing = true) (h : op.run now db = some db')
    (hafter : db'.CommittedFor root snapshot) : db.CommittedFor root snapshot := by
  obtain ⟨hmem, hof, hstatus, hsince⟩ := hafter
  rcases scanSnapshot_run h with hsame | ⟨fresh, hrows, -, hrunning, -⟩ | ⟨f, hf, hrows⟩
  · exact ⟨hsame ▸ hmem, hof, hstatus, hsince⟩
  · rw [hrows, List.mem_append, List.mem_singleton] at hmem
    rcases hmem with hold | rfl
    · exact ⟨hold, hof, hstatus, hsince⟩
    · rw [hrunning] at hstatus
      cases hstatus
  · rw [hrows] at hmem
    obtain ⟨old, hold, rfl⟩ := List.mem_map.mp hmem
    cases hf with
    | @failed sessionId session hsession =>
        beta_reduce at hof hstatus hsince ⊢
        by_cases hid : old.id = session.snapshotId
        · rw [if_pos hid] at hstatus
          cases hstatus
        · rw [if_neg hid] at hof hstatus hsince ⊢
          exact ⟨hold, hof, hstatus, hsince⟩
    | committed _ => cases hop

/-- A record after an apply is an earlier one or one of the observed files. -/
theorem record_after {observations : List CatalogFileObservation}
    {records : Table FileRecord FileRecord.key}
    (h : file ∈ (observations.foldl (CatalogDb.recordObservation now application) records).rows) :
    (file ∈ records.rows ∧ ∀ observation ∈ observations,
      (application.storageRootId, observation.relativePath) ≠ file.key) ∨
    ∃ observation ∈ observations, file.lastSeenSnapshotId = application.snapshotId ∧
      (application.storageRootId, observation.relativePath) = file.key := by
  induction observations generalizing records with
  | nil => exact Or.inl ⟨h, nofun⟩
  | cons observation rest ih =>
      rcases ih h with ⟨hmem, hnone⟩ | ⟨other, hother, hlast, hkey⟩
      · rcases Table.mem_upsert.mp hmem with ⟨hold, hne⟩ | ⟨old, -, hkey, rfl⟩ | ⟨-, rfl⟩
        · exact Or.inl ⟨hold, List.forall_mem_cons.mpr ⟨Ne.symm hne, hnone⟩⟩
        · exact Or.inr ⟨observation, List.mem_cons_self, rfl, hkey.symm⟩
        · exact Or.inr ⟨observation, List.mem_cons_self, rfl, rfl⟩
      · exact Or.inr ⟨other, List.mem_cons_of_mem _ hother, hlast, hkey⟩

/-- What is noted of the observed files, and of the others. -/
theorem noteObserved_eq {rootPath : PyStr} {noted : Nat × PyStr → PyStr} {key : Nat × PyStr} :
    ScanRuns.noteObserved rootPath application noted key =
      if ∃ observation ∈ application.fileObservations,
        (application.storageRootId, observation.relativePath) = key then rootPath
      else noted key := by
  have hfold : ∀ (observations : List CatalogFileObservation) (noted : Nat × PyStr → PyStr),
      observations.foldl (fun noted observation => Function.update noted
        (application.storageRootId, observation.relativePath) rootPath) noted key =
      if ∃ observation ∈ observations,
        (application.storageRootId, observation.relativePath) = key then rootPath
      else noted key := by
    intro observations
    induction observations with
    | nil => exact fun _ => (if_neg nofun).symm
    | cons observation rest ih =>
        intro noted
        rw [List.foldl_cons, ih]
        by_cases hrest : ∃ other ∈ rest, (application.storageRootId, other.relativePath) = key
        · rw [if_pos hrest, if_pos (hrest.imp fun _ h => ⟨List.mem_cons_of_mem _ h.1, h.2⟩)]
        · rw [if_neg hrest]
          by_cases hhere : (application.storageRootId, observation.relativePath) = key
          · rw [if_pos ⟨observation, List.mem_cons_self, hhere⟩, hhere, Function.update_self]
          · rw [Function.update_of_ne (Ne.symm hhere), if_neg]
            simp only [List.exists_mem_cons_iff, not_or]
            exact ⟨hhere, hrest⟩
  exact hfold application.fileObservations noted

end Store

/-! ## Steps -/

section Steps

variable {s t : ScanRuns} {now : Instant} {event : RunEvent} {op : StoreOp}
  {catalog : CatalogState} {clock : Instant}

/-- Configuring a root with the same path leaves its current snapshots current or not. -/
theorem PathsKept.upsertStorageRoot {db db' : CatalogDb} {noted : Nat × PyStr → PyStr}
    {spec : CatalogRootSpec} (h : PathsKept db noted) (hroots : SnapshotRoots db)
    (hclock : ∀ root ∈ db.storageRoot.rows, root.updatedAt ≤ now)
    (hkeeps : ∀ root ∈ db.storageRoot.rows, root.slug = spec.slug →
      root.absolutePath ≠ spec.path → ∀ snapshot ∈ db.scanSnapshot.rows,
        snapshot.storageRootId = root.id → snapshot.status = .committed →
        CatalogDb.committedSince snapshot now = false)
    (hrun : db.upsertStorageRoot now spec = some db') : PathsKept db' noted := by
  obtain ⟨hsnapshots, hfiles⟩ := scanSnapshot_upsertStorageRoot hrun
  intro root hroot snapshot hcommitted file hfile hof hseen
  obtain ⟨hmem, hsof, hstatus, hsince⟩ := hcommitted
  rw [hsnapshots] at hmem
  rw [hfiles] at hfile
  unfold CatalogDb.upsertStorageRoot at hrun
  split at hrun
  · cases hrun
  cases hrun
  rcases Table.mem_upsert.mp hroot with ⟨hold, -⟩ | ⟨old, hold, hslug, rfl⟩ | ⟨-, rfl⟩
  · exact h root hold snapshot ⟨hmem, hsof, hstatus, hsince⟩ file hfile hof hseen
  · by_cases hpath : old.absolutePath = spec.path
    · -- the configuration is at most newer, so the snapshot was current before
      have hbefore : CatalogDb.committedSince snapshot old.updatedAt = true := by
        have hnewer : old.updatedAt ≤ (CatalogDb.mergeStorageRoot now spec old).updatedAt := by
          simp only [CatalogDb.mergeStorageRoot]
          split
          · exact hclock old hold
          · exact le_refl _
        unfold CatalogDb.committedSince at hsince ⊢
        cases hat : snapshot.committedAt with
        | none =>
            rw [hat] at hsince
            cases hsince
        | some committedAt =>
            rw [hat] at hsince
            exact decide_eq_true (hnewer.trans (of_decide_eq_true hsince))
      have hnoted := h old hold snapshot ⟨hmem, hsof, hstatus, hbefore⟩ file hfile hof hseen
      exact hnoted.trans hpath
    · -- the configuration is as new as this instant, and no commit is
      have hnow : (CatalogDb.mergeStorageRoot now spec old).updatedAt = now :=
        if_pos (Or.inr (Or.inr (Or.inl hpath)))
      rw [hnow, hkeeps old hold hslug hpath snapshot hmem hsof hstatus] at hsince
      cases hsince
  · -- a new root has no snapshots yet
    obtain ⟨owner, howner, hid⟩ := hroots snapshot hmem
    have hle : owner.id ≤ maxColumn StorageRoot.id db.storageRoot.rows := le_maxColumn howner
    rw [hid, hsof] at hle
    exact absurd hle (Nat.not_succ_le_self _)

/-- A store call that neither configures, commits nor applies keeps what is noted. -/
theorem PathsKept.run {db db' : CatalogDb} {noted : Nat × PyStr → PyStr} (h : PathsKept db noted)
    (hop : op.leavesListing = true) (hrun : op.run now db = some db') : PathsKept db' noted := by
  intro root hroot snapshot hcommitted file hfile hof hseen
  have hscan : op.isScan = true := by
    cases op with
    | upsertStorageRoot _ => cases hop
    | _ => rfl
  have hfiles : db'.fileRecord = db.fileRecord := by
    rcases fileRecord_run hrun with hsame | ⟨application, rfl, -⟩ | ⟨sessionId, _, rfl, -⟩
    · exact hsame
    · cases hop
    · cases hop
  rw [storageRoot_run hscan hrun] at hroot
  rw [hfiles] at hfile
  exact h root hroot snapshot (committedFor_run hop hrun hcommitted) file hfile hof hseen

/-- A commit keeps what is noted when it is so of the files it commits. -/
theorem PathsKept.commit {db db' : CatalogDb} {noted : Nat × PyStr → PyStr} {sessionId : SessionId}
    {session : ScanSession} (h : PathsKept db noted)
    (hsession : db.getScanSession sessionId = some session)
    (hown : ∀ own ∈ db.scanSnapshot.rows, own.id = session.snapshotId →
      own.storageRootId = session.storageRootId)
    (hkeeps : ∀ root ∈ db.storageRoot.rows, root.id = session.storageRootId →
      ∀ file ∈ db.fileRecord.rows, file.storageRootId = root.id →
        file.lastSeenSnapshotId = session.snapshotId → noted file.key = root.absolutePath)
    (hrun : db.commitScanSession now sessionId = some db') : PathsKept db' noted := by
  obtain ⟨committed, hcommitted, hroots, hfiles, hrows⟩ := CatalogDb.of_commitScanSession hrun
  rw [hsession] at hcommitted
  cases hcommitted
  intro root hroot snapshot hcommittedFor file hfile hof hseen
  rw [hroots] at hroot
  rw [hfiles] at hfile
  obtain ⟨old, hold, hsame⟩ : ∃ old ∈ db.fileRecord.rows, old.key = file.key ∧
      old.lastSeenSnapshotId = file.lastSeenSnapshotId := by
    simp only [CatalogDb.markPresence] at hfile
    obtain ⟨old, hold, rfl⟩ := Table.mem_updateWhere.mp hfile
    refine ⟨old, hold, ?_⟩
    split <;> exact ⟨rfl, rfl⟩
  have holdOf : old.storageRootId = root.id := (congrArg Prod.fst hsame.1).trans hof
  have holdSeen : old.lastSeenSnapshotId = snapshot.id := hsame.2.trans hseen
  rw [← hsame.1]
  obtain ⟨hmem, hsof, hstatus, hsince⟩ := hcommittedFor
  rw [hrows] at hmem
  obtain ⟨before, hbefore, rfl⟩ := List.mem_map.mp hmem
  by_cases hid : before.id = session.snapshotId
  · rw [if_pos hid] at hsof holdSeen
    have hroot' : root.id = session.storageRootId := hsof.symm.trans (hown before hbefore hid)
    exact hkeeps root hroot hroot' old hold holdOf (holdSeen.trans hid)
  · rw [if_neg hid] at hsof hstatus hsince holdSeen
    exact h root hroot before ⟨hbefore, hsof, hstatus, hsince⟩ old hold holdOf holdSeen

/-- An apply keeps what is noted when a current snapshot gets files of its root's path only. -/
theorem PathsKept.apply {db db' : CatalogDb} {noted : Nat × PyStr → PyStr} {rootPath : PyStr}
    {application : DirectoryApplication} (h : PathsKept db noted)
    (hkeeps : application.fileObservations ≠ [] → ∀ root ∈ db.storageRoot.rows,
      root.id = application.storageRootId → ∀ snapshot, db.CommittedFor root snapshot →
        snapshot.id = application.snapshotId → rootPath = root.absolutePath)
    (hrun : db.applyDirectoryFiles now application = some db') :
    PathsKept db' (ScanRuns.noteObserved rootPath application noted) := by
  obtain ⟨hroots, hsnapshots, hfiles⟩ := CatalogDb.of_applyDirectoryFiles hrun
  intro root hroot snapshot hcommitted file hfile hof hseen
  have hbefore : db.CommittedFor root snapshot := by
    obtain ⟨hmem, hrest⟩ := hcommitted
    exact ⟨hsnapshots ▸ hmem, hrest⟩
  rw [hroots] at hroot
  rw [hfiles] at hfile
  rw [noteObserved_eq]
  rcases record_after hfile with ⟨hold, hnone⟩ | ⟨observation, hobservation, hlast, hkey⟩
  · rw [if_neg fun hsome => hsome.elim fun other hother => hnone other hother.1 hother.2]
    exact h root hroot snapshot hbefore file hold hof hseen
  · rw [if_pos ⟨observation, hobservation, hkey⟩]
    have hrootId : root.id = application.storageRootId :=
      hof.symm.trans (congrArg Prod.fst hkey).symm
    exact hkeeps (List.ne_nil_of_mem hobservation) root hroot hrootId snapshot hbefore
      (hseen.symm.trans hlast)

theorem files_observedOf (row : DirectoryQueueRow) (observed : ObservedBatch) :
    (RootScan.observedOf row observed).files = observed.files := by
  unfold RootScan.observedOf
  split <;> rfl

/-- The bytes of an apply are those of its files. -/
theorem bytes_observedOf (row : DirectoryQueueRow) (read : ReadBatch) :
    (RootScan.observedOf row read.batch).bytesDelta =
      ((RootScan.observedOf row read.batch).files.map (·.sizeBytes)).sum := by
  rw [files_observedOf, ← read.bytes]
  unfold RootScan.observedOf
  split <;> rfl

/-- The session a run commits is the one it stands for. -/
theorem ScanRun.OfSession.session_eq {db : CatalogDb} {scan : ScanRun} {session : ScanSession}
    (h : scan.OfSession db) (hsession : db.getScanSession scan.sessionId = some session) :
    session.storageRootId = scan.storageRootId ∧ session.snapshotId = scan.snapshotId := by
  obtain ⟨own, hown, horigin⟩ := h
  obtain ⟨hmem, hid⟩ := Table.find?_eq_some_iff.mp hsession
  have hownId : own.id = scan.sessionId := congrArg SessionOrigin.id horigin
  have hsame : session = own := db.scanSession.eq_of_key_eq hmem hown (hid.trans hownId.symm)
  rw [hsame]
  exact ⟨congrArg SessionOrigin.storageRootId horigin, congrArg SessionOrigin.snapshotId horigin⟩

theorem pathsKept_step (hvalid : RunsValid clock s)
    (h : PathsKept s.catalog.db s.observedUnder) (hkeeps : KeepsPath s (now, event))
    (hstep : s.step (now, event) = some t) : PathsKept t.catalog.db t.observedUnder := by
  cases runStep_of_step hstep with
  | listed => exact h
  | called hop hcall =>
      obtain ⟨hclock, hrun, -⟩ := CatalogState.step_eq_some_iff.mp hcall
      cases hop with
      | upsertStorageRoot =>
          have hconfigured := (CatalogState.valid_of_reachable hvalid.reachable).configured
          exact h.upsertStorageRoot (snapshotRoots_of_reachable hvalid.reachable)
            (fun root hroot => (hconfigured root hroot).trans hclock) hkeeps hrun
      | commit hfound =>
          obtain ⟨session, hsession, -⟩ := CatalogDb.of_commitScanSession hrun
          obtain ⟨hroot, hsnapshot⟩ :=
            (hvalid.sessions _ (List.mem_of_getElem? hfound)).session_eq hsession
          refine h.commit hsession ?_ ?_ hrun
          · intro own hown hid
            obtain ⟨linked, hlinked, hlid, hlroot⟩ :=
              (sessionsLinked_of_reachable hvalid.reachable).snapshot session
                (Table.find?_eq_some_iff.mp hsession).1
            rw [s.catalog.db.scanSnapshot.eq_of_key_eq hown hlinked (hid.trans hlid.symm)]
            exact hlroot
          · rw [hroot, hsnapshot]
            exact hkeeps _ hfound
      | _ => exact h.run rfl hrun
  | opened hop hcall _ _ =>
      have hrun := (CatalogState.step_eq_some_iff.mp hcall).2.1
      cases hop <;> exact h.run rfl hrun
  | claimed _ hcall _ =>
      exact h.run rfl (CatalogState.step_eq_some_iff.mp hcall).2.1
  | @applied run index read scan row catalog hfound hrow hcall =>
      refine h.apply (fun hobserved => ?_) (CatalogState.step_eq_some_iff.mp hcall).2.1
      have hread : read.batch.files ≠ [] := by
        rwa [← files_observedOf row read.batch]
      exact hkeeps scan hfound hread

/-- The listing of a root is of a current snapshot. -/
theorem PathsKept.currentPathOnly (hvalid : RunsValid clock s)
    (h : PathsKept s.catalog.db s.observedUnder) : CurrentPathOnly s := by
  intro row hrow _ listed hlisted hslug
  have hroots := rootsValid_of_reachable hvalid.reachable
  have hroot := (mem_listLatestSnapshots hrow).1
  obtain ⟨file, hfile, root, hrootMem, snapshot, hof, hsnapshot, hseen, rfl⟩ :=
    hroots.mem_listLatestSnapshotFiles.mp hlisted
  have hsame : root = row.root := s.catalog.db.storageRoot.eq_of_key_eq hrootMem hroot hslug
  rw [hsame] at hof hsnapshot
  have hnoted := h row.root hroot snapshot hsnapshot.1 file hfile hof hseen
  rwa [← hof]

/-- Along a run whose steps keep to the path of each root, what is reported as current shows
files of the root's path only. -/
theorem current_snapshots_follow_path {labels : List (Instant × RunEvent)}
    (hrun : Library.Steps ScanRuns.step KeepsPath (ScanRuns.start clock) labels s) :
    CurrentPathOnly s := by
  have hpres : ∀ (s : ScanRuns) (label : Instant × RunEvent) (t : ScanRuns), KeepsPath s label →
      s.step label = some t →
      RunsValid clock s ∧ PathsKept s.catalog.db s.observedUnder →
      RunsValid clock t ∧ PathsKept t.catalog.db t.observedUnder :=
    fun s label t hkeeps hstep hs =>
      ⟨hs.1.step hstep, pathsKept_step hs.1 hs.2 hkeeps hstep⟩
  obtain ⟨hvalid, hpaths⟩ := hrun.invariant hpres ⟨runsValid_start, List.forall_mem_nil _⟩
  exact hpaths.currentPathOnly hvalid

end Steps

/-! ## A root that moves while its scan is paused -/

def readUploaded : ReadBatch :=
  ⟨⟨[uploadedFile], 0, 7, some (py "a.jpg")⟩, rfl⟩

/-- A scan of the root `uploads` up to its first apply. -/
def firstApplyRun (workItems : List QueuedWorkItem) : List (Instant × RunEvent) :=
  [(1, .upsertStorageRoot uploadsSpec), (1, .listStorageRoots),
    (2, .create 0 (py "uploads") (py "a") none), (3, .seed 0 workItems),
    (4, .claim 0 (py "worker-1")), (5, .apply 0 0 readUploaded)]

def topItem : QueuedWorkItem :=
  ⟨[], py "[\"a.jpg\"]", 1, 0, 0, some (py "a.jpg"), 0⟩

def nestedItem : QueuedWorkItem :=
  ⟨py "b", py "[\"b/c.jpg\"]", 1, 0, 0, some (py "b/c.jpg"), 1⟩

/-- The scan is paused, the root is moved, and the scan goes on with what is left. -/
def movedRun : List (Instant × RunEvent) :=
  firstApplyRun [topItem, nestedItem] ++
    [(6, RunEvent.pause 0), (7, .upsertStorageRoot { uploadsSpec with path := py "/moved" }),
      (7, .listStorageRoots), (8, .resume 1 (py "a")), (9, .claim 1 (py "worker-1")),
      (10, .apply 1 0 ⟨⟨[], 1, 0, none⟩, rfl⟩), (11, .commit 1)]

def moved : ScanRuns :=
  Steps.last ScanRuns.step (.start 0) movedRun

/-- The snapshot is reported as current for the new path and lists a file of the old one. -/
theorem moved_root_lists_old_file :
    Reachable ScanRuns.step (ScanRuns.start 0) moved ∧ ¬ CurrentPathOnly moved := by
  have hreported : (moved.catalog.db.listLatestSnapshots none).map
      (fun row => (row.snapshotCurrent, row.root.slug, row.root.id, row.root.absolutePath)) =
        [(true, py "uploads", 1, py "/moved")] := by
    decide
  have hlisted : (moved.catalog.db.listLatestSnapshotFiles none none).map
      (fun listed => (listed.rootSlug, listed.relativePath)) = [(py "uploads", py "a.jpg")] := by
    decide
  refine ⟨Reachable.of_exec (Steps.exec_eq_last (by decide)), fun honly => ?_⟩
  obtain ⟨row, hrow, hcolumns⟩ := List.mem_map.mp (hreported ▸ List.mem_singleton.mpr rfl)
  obtain ⟨listed, hmem, hpath⟩ := List.mem_map.mp (hlisted ▸ List.mem_singleton.mpr rfl)
  simp only [Prod.mk.injEq] at hcolumns hpath
  obtain ⟨hcurrent, hslug, hid, habsolute⟩ := hcolumns
  have hnoted := honly row hrow hcurrent listed hmem (hpath.1.trans hslug.symm)
  rw [hid, hpath.2, habsolute] at hnoted
  exact absurd hnoted (by decide)

/-! ## A root that moves between two scans -/

/-- A commit keeps to the path when every file was observed under the path of the only root. -/
theorem keepsPath_commit {s : ScanRuns} {now : Instant} {run : Nat} (path : PyStr)
    (keys : List (Nat × PyStr))
    (hroots : s.catalog.db.storageRoot.rows.map (·.absolutePath) = [path])
    (hkeys : s.catalog.db.fileRecord.rows.map (·.key) = keys)
    (hnoted : ∀ key ∈ keys, s.observedUnder key = path) : KeepsPath s (now, .commit run) := by
  intro scan _ root hroot _ file hfile _ _
  have hpath : root.absolutePath ∈ s.catalog.db.storageRoot.rows.map (·.absolutePath) :=
    List.mem_map_of_mem hroot
  have hkey : file.key ∈ s.catalog.db.fileRecord.rows.map (·.key) := List.mem_map_of_mem hfile
  rw [hroots, List.mem_singleton] at hpath
  rw [hkeys] at hkey
  rw [hnoted file.key hkey, hpath]

/-- An apply keeps to the path when its snapshot is not among the committed ones. -/
theorem keepsPath_apply {s : ScanRuns} {now : Instant} {run index : Nat} {read : ReadBatch}
    (snapshots : List (Nat × SnapshotStatus))
    (hsnapshots : s.catalog.db.scanSnapshot.rows.map (fun row => (row.id, row.status)) = snapshots)
    (hrun : ∀ scan ∈ s.runs[run]?, (scan.snapshotId, .committed) ∉ snapshots) :
    KeepsPath s (now, .apply run index read) := by
  intro scan hscan _ root _ _ snapshot hcommitted hid
  have hrow : (snapshot.id, snapshot.status) ∈
      s.catalog.db.scanSnapshot.rows.map (fun row => (row.id, row.status)) :=
    List.mem_map_of_mem hcommitted.1
  rw [hsnapshots, hid, hcommitted.2.2.1] at hrow
  exact absurd hrow (hrun scan hscan)

def claimedOnce : ScanRuns :=
  Steps.last ScanRuns.step (.start 0) ((firstApplyRun [topItem]).take 5)

def appliedOnce : ScanRuns :=
  Steps.last ScanRuns.step claimedOnce [(5, .apply 0 0 readUploaded)]

def scannedOnce : ScanRuns :=
  Steps.last ScanRuns.step appliedOnce [(6, .commit 0)]

/-- The root is moved after its first scan is committed. -/
def movedRoot : CatalogRootSpec :=
  { uploadsSpec with path := py "/moved" }

/-- A second scan of the root is created and claims its work. -/
def secondClaimRun : List (Instant × RunEvent) :=
  [(7, .listStorageRoots), (8, .create 1 (py "uploads") (py "b") none), (9, .seed 1 [topItem]),
    (10, .claim 1 (py "worker-1"))]

def claimedTwice : ScanRuns :=
  Steps.last ScanRuns.step scannedOnce ((7, .upsertStorageRoot movedRoot) :: secondClaimRun)

def appliedTwice : ScanRuns :=
  Steps.last ScanRuns.step claimedTwice [(11, .apply 1 0 readUploaded)]

def scannedTwice : ScanRuns :=
  Steps.last ScanRuns.step appliedTwice [(12, .commit 1)]

/-- The second snapshot is reported as current, with the file that was read again. -/
theorem current_snapshots_follow_path_moved :
    (scannedTwice.catalog.db.listLatestSnapshotFiles none none).map (·.relativePath) =
        [py "a.jpg"] ∧
      CurrentPathOnly scannedTwice := by
  have hclaimed : Steps ScanRuns.step KeepsPath (ScanRuns.start 0)
      ((firstApplyRun [topItem]).take 5) claimedOnce :=
    .head nofun rfl <| .head trivial rfl <| .head trivial rfl <| .head trivial rfl <|
      .head trivial rfl <| .refl _
  have happlied : KeepsPath claimedOnce (5, .apply 0 0 readUploaded) :=
    keepsPath_apply [(1, .running)] (by decide) (by decide)
  have hcommitted : KeepsPath appliedOnce (6, .commit 0) :=
    keepsPath_commit (py "/uploads") [(1, py "a.jpg")] (by decide) (by decide) (by decide)
  have hmoved : KeepsPath scannedOnce (7, .upsertStorageRoot movedRoot) := by
    have hbefore : ∀ snapshot ∈ scannedOnce.catalog.db.scanSnapshot.rows,
        CatalogDb.committedSince snapshot 7 = false := by decide
    exact fun _ _ _ _ snapshot hsnapshot _ _ => hbefore snapshot hsnapshot
  have hagain : KeepsPath claimedTwice (11, .apply 1 0 readUploaded) :=
    keepsPath_apply [(1, .committed), (2, .running)] (by decide) (by decide)
  have hlast : KeepsPath appliedTwice (12, .commit 1) :=
    keepsPath_commit (py "/moved") [(1, py "a.jpg")] (by decide) (by decide) (by decide)
  have hfirst : Steps ScanRuns.step KeepsPath claimedOnce
      [(5, .apply 0 0 readUploaded), (6, .commit 0)] scannedOnce :=
    .head happlied rfl <| .head hcommitted rfl <| .refl _
  have hsecond : Steps ScanRuns.step KeepsPath scannedOnce
      ((7, .upsertStorageRoot movedRoot) :: secondClaimRun) claimedTwice :=
    .head hmoved rfl <| .head trivial rfl <| .head trivial rfl <| .head trivial rfl <|
      .head trivial rfl <| .refl _
  have hthird : Steps ScanRuns.step KeepsPath claimedTwice
      [(11, .apply 1 0 readUploaded), (12, .commit 1)] scannedTwice :=
    .head hagain rfl <| .head hlast rfl <| .refl _
  exact ⟨by decide, current_snapshots_follow_path
    (((hclaimed.append hfirst).append hsecond).append hthird)⟩

end ImmichDoctor.Catalog
