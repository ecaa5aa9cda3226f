import ImmichDoctor.Catalog.Proofs.StoreInvariant
import Mathlib.Data.Finset.Image
import Mathlib.Data.Finset.Dedup
/-!
# The listing of a committed snapshot

`list_latest_snapshot_files` reads the shared `file_record` rows through their
`last_seen_snapshot_id`. What it returns for a root is the set of rows recorded for
the latest committed snapshot, and it stays that set as long as no call moves one
of those rows to another snapshot, records other rows for the snapshot, or marks
the snapshot failed.
-/

namespace ImmichDoctor.Catalog

open ImmichDoctor.Library

/-- What a listed row says about a file. -/
structure FileEntry where
  relativePath : PyStr
  sizeBytes : Nat
  modifiedAtFs : Option Instant
  deriving DecidableEq

def FileRecord.entry (file : FileRecord) : FileEntry :=
  ⟨file.relativePath, file.sizeBytes, file.modifiedAtFs⟩

def CatalogFileObservation.entry (observation : CatalogFileObservation) : FileEntry :=
  ⟨observation.relativePath, observation.sizeBytes, observation.modifiedAtFs⟩

def SnapshotFileRow.entry (row : SnapshotFileRow) : FileEntry :=
  ⟨row.relativePath, row.sizeBytes, row.modifiedAtFs⟩

namespace CatalogDb

/-- The rows `list_latest_snapshot_files` returns for a root. -/
def listedEntries (db : CatalogDb) (slug : PyStr) : Finset FileEntry :=
  ((db.listLatestSnapshotFiles (some slug) none).map SnapshotFileRow.entry).toFinset

/-- The rows of a root that were last seen by the given snapshot. -/
def recordedEntries (storageRootId snapshotId : Nat)
    (records : Table FileRecord FileRecord.key) : Finset FileEntry :=
  ((records.rows.filter fun file =>
    file.storageRootId = storageRootId && file.lastSeenSnapshotId = snapshotId).map
      FileRecord.entry).toFinset

/-- The snapshot has the highest generation among the committed ones of the root. -/
def IsLatestCommitted (db : CatalogDb) (storageRootId snapshotId : Nat) : Prop :=
  ∃ snapshot ∈ db.scanSnapshot.rows, snapshot.id = snapshotId ∧
    snapshot.storageRootId = storageRootId ∧ snapshot.status = .committed ∧
    ∀ other ∈ db.scanSnapshot.rows, other.storageRootId = storageRootId →
      other.status = .committed → other.generation ≤ snapshot.generation

theorem mem_recordedEntries {records : Table FileRecord FileRecord.key}
    {storageRootId snapshotId : Nat} {e : FileEntry} :
    e ∈ recordedEntries storageRootId snapshotId records ↔
      ∃ file ∈ records.rows, file.storageRootId = storageRootId ∧
        file.lastSeenSnapshotId = snapshotId ∧ file.entry = e := by
  simp [recordedEntries, and_assoc]

end CatalogDb

open CatalogDb

/-! ## The condition on a step -/

/-- No call of the step rewrites what is recorded for the snapshot: files observed
for another snapshot are not among its files, files observed for it are recorded
already, and its own session is not marked failed. -/
def LeavesSnapshot (storageRootId snapshotId : Nat) (s : CatalogState) :
    Instant × StoreOp → Prop
  | (_, .applyDirectoryFiles application) =>
      application.storageRootId = storageRootId →
        ∀ observation ∈ application.fileObservations,
          if application.snapshotId = snapshotId then
            observation.entry ∈ recordedEntries storageRootId snapshotId s.db.fileRecord
          else
            ∀ e ∈ recordedEntries storageRootId snapshotId s.db.fileRecord,
              e.relativePath ≠ observation.relativePath
  | (_, .markSessionFailed sessionId) =>
      ∀ session, s.db.getScanSession sessionId = some session → session.snapshotId ≠ snapshotId
  | _ => True

/-- The step commits no snapshot of the root with a higher generation. -/
def NoNewerCommit (storageRootId snapshotId : Nat) (s : CatalogState) :
    Instant × StoreOp → Prop
  | (_, .commitScanSession sessionId) =>
      ∀ session, s.db.getScanSession sessionId = some session →
        ∀ newer ∈ s.db.scanSnapshot.rows, newer.id = session.snapshotId →
          newer.storageRootId = storageRootId →
          ∀ kept ∈ s.db.scanSnapshot.rows, kept.id = snapshotId →
            newer.generation ≤ kept.generation
  | _ => True

/-! ## Records of the snapshot -/

section Records

variable {records : Table FileRecord FileRecord.key} {now : Instant}
  {storageRootId snapshotId : Nat} {application : DirectoryApplication}

/-- Recording one file keeps the entries of a snapshot when the file is none of its
files, or is recorded for it already. -/
theorem recordedEntries_recordObservation {observation : CatalogFileObservation}
    (hkeep : application.storageRootId = storageRootId →
      if application.snapshotId = snapshotId then
        observation.entry ∈ recordedEntries storageRootId snapshotId records
      else
        ∀ e ∈ recordedEntries storageRootId snapshotId records,
          e.relativePath ≠ observation.relativePath) :
    recordedEntries storageRootId snapshotId
        (recordObservation now application records observation) =
      recordedEntries storageRootId snapshotId records := by
  ext e
  rw [mem_recordedEntries, mem_recordedEntries]
  constructor
  · rintro ⟨file, hfile, hroot, hsnapshot, rfl⟩
    -- a row written by the call carries the snapshot of the call and the observed entry
    have hwritten : application.storageRootId = storageRootId →
        application.snapshotId = snapshotId → file.entry = observation.entry →
        ∃ old ∈ records.rows, old.storageRootId = storageRootId ∧
          old.lastSeenSnapshotId = snapshotId ∧ old.entry = file.entry := by
      intro happ hsnap hentry
      have hin := hkeep happ
      rw [if_pos hsnap, mem_recordedEntries] at hin
      simpa only [hentry] using hin
    rcases Table.mem_upsert.mp hfile with ⟨hold, -⟩ | ⟨old, -, hkey, rfl⟩ | ⟨-, rfl⟩
    · exact ⟨file, hold, hroot, hsnapshot, rfl⟩
    · have hcolumns := Prod.mk.inj hkey
      refine hwritten (hcolumns.1.symm.trans hroot) hsnapshot ?_
      simp only [FileRecord.entry, mergeObservation, CatalogFileObservation.entry]
      rw [show old.relativePath = observation.relativePath from hcolumns.2]
    · exact hwritten hroot hsnapshot rfl
  · rintro ⟨file, hfile, hroot, hsnapshot, rfl⟩
    by_cases hkey : file.key = (application.storageRootId, observation.relativePath)
    · have hcolumns := Prod.mk.inj hkey
      have hin := hkeep (hcolumns.1.symm.trans hroot)
      by_cases hsnap : application.snapshotId = snapshotId
      · rw [if_pos hsnap, mem_recordedEntries] at hin
        obtain ⟨recorded, hrecorded, hrroot, -, hentry⟩ := hin
        have hpath : recorded.relativePath = observation.relativePath :=
          congrArg FileEntry.relativePath hentry
        have hsame : recorded = file :=
          records.eq_of_key_eq hrecorded hfile
            (Prod.ext (hrroot.trans hroot.symm) (hpath.trans hcolumns.2.symm))
        refine ⟨mergeObservation now application observation file,
          Table.mem_upsert.mpr (Or.inr (Or.inl ⟨file, hfile, hkey, rfl⟩)), hroot, hsnap, ?_⟩
        rw [← hsame, hentry]
        simp only [FileRecord.entry, mergeObservation, CatalogFileObservation.entry, hpath]
      · rw [if_neg hsnap] at hin
        exact absurd hcolumns.2
          (hin file.entry (mem_recordedEntries.mpr ⟨file, hfile, hroot, hsnapshot, rfl⟩))
    · exact ⟨file, Table.mem_upsert.mpr (Or.inl ⟨hfile, hkey⟩), hroot, hsnapshot, rfl⟩

/-- Applying a batch keeps the entries when every file of the batch does. -/
theorem recordedEntries_foldl (observations : List CatalogFileObservation)
    (hkeep : application.storageRootId = storageRootId → ∀ observation ∈ observations,
      if application.snapshotId = snapshotId then
        observation.entry ∈ recordedEntries storageRootId snapshotId records
      else
        ∀ e ∈ recordedEntries storageRootId snapshotId records,
          e.relativePath ≠ observation.relativePath) :
    recordedEntries storageRootId snapshotId
        (observations.foldl (recordObservation now application) records) =
      recordedEntries storageRootId snapshotId records := by
  induction observations generalizing records with
  | nil => rfl
  | cons observation rest ih =>
      have hone : recordedEntries storageRootId snapshotId
          (recordObservation now application records observation) =
            recordedEntries storageRootId snapshotId records :=
        recordedEntries_recordObservation fun happ => hkeep happ observation List.mem_cons_self
      rw [List.foldl_cons, ih, hone]
      intro happ other hother
      rw [hone]
      exact hkeep happ other (List.mem_cons_of_mem _ hother)

theorem recordedEntries_markPresence {db : CatalogDb} {rootId otherId : Nat} :
    recordedEntries storageRootId snapshotId (db.markPresence rootId otherId).fileRecord =
      recordedEntries storageRootId snapshotId db.fileRecord := by
  ext e
  simp only [mem_recordedEntries, markPresence, Table.mem_updateWhere]
  constructor
  · rintro ⟨file, ⟨old, hold, rfl⟩, hroot, hsnapshot, rfl⟩
    refine ⟨old, hold, ?_⟩
    revert hroot hsnapshot
    split <;> exact fun hroot hsnapshot => ⟨hroot, hsnapshot, rfl⟩
  · rintro ⟨file, hfile, hroot, hsnapshot, rfl⟩
    refine ⟨_, ⟨file, hfile, rfl⟩, ?_⟩
    split <;> exact ⟨hroot, hsnapshot, rfl⟩

theorem recordedEntries_run {s : CatalogState} {db' : CatalogDb} {label : Instant × StoreOp}
    (hkeep : LeavesSnapshot storageRootId snapshotId s label)
    (h : label.2.run label.1 s.db = some db') :
    recordedEntries storageRootId snapshotId db'.fileRecord =
      recordedEntries storageRootId snapshotId s.db.fileRecord := by
  obtain ⟨now, op⟩ := label
  cases op with
  | upsertStorageRoot root =>
      obtain ⟨_, rfl⟩ := CatalogDb.of_upsertStorageRoot h
      rfl
  | createScanSession sessionId rootId maxFiles => rw [(of_createScanSession h).2.1]
  | seedDirectoryWorkQueue sessionId workItems => rw [(of_seedDirectoryWorkQueue h).2.2]
  | claimNextDirectory sessionId workerId =>
      simp only [StoreOp.run] at h
      split at h
      · cases h; rfl
      · next hclaim => cases h; rw [(of_claimNextDirectory hclaim).2.2]
  | applyDirectoryFiles application =>
      rw [(of_applyDirectoryFiles h).2.2]
      exact recordedEntries_foldl application.fileObservations hkeep
  | markSessionFailed sessionId =>
      cases h
      rw [(of_markSessionFailed sessionId).2.1]
  | commitScanSession sessionId =>
      obtain ⟨session, -, -, hfiles, -⟩ := of_commitScanSession h
      rw [hfiles, recordedEntries_markPresence]
  | _ => cases h; rfl

end Records

/-! ## The listing -/

theorem mem_listedEntries {db : CatalogDb} {slug : PyStr} {e : FileEntry} :
    e ∈ db.listedEntries slug ↔
      ∃ file ∈ db.fileRecord.rows, ∃ row, db.snapshotFileRow file = some row ∧
        row.rootSlug = slug ∧ row.entry = e := by
  simp only [listedEntries, listLatestSnapshotFiles, limitRows, List.mem_toFinset, List.mem_map,
    List.mem_insertionSort, List.mem_filter, List.mem_filterMap]
  constructor
  · rintro ⟨row, ⟨⟨file, hfile, hrow⟩, hslug⟩, he⟩
    exact ⟨file, hfile, row, hrow, by simpa using hslug, he⟩
  · rintro ⟨file, hfile, row, hrow, hslug, he⟩
    exact ⟨row, ⟨⟨file, hfile, hrow⟩, by simpa using hslug⟩, he⟩

/-- A step that leaves a committed snapshot alone keeps it committed. -/
theorem SnapshotUpdate.kept {s : CatalogState} {label : Instant × StoreOp}
    {storageRootId snapshotId : Nat} {f : ScanSnapshot → ScanSnapshot} {snapshot : ScanSnapshot}
    (hf : SnapshotUpdate label.1 s.db label.2 f)
    (hleaves : LeavesSnapshot storageRootId snapshotId s label)
    (hid : snapshot.id = snapshotId) (hstatus : snapshot.status = .committed) :
    (f snapshot).status = .committed ∧
      ((f snapshot).committedAt = snapshot.committedAt ∨
        (f snapshot).committedAt = some label.1) := by
  obtain ⟨now, op⟩ := label
  cases hf with
  | @failed _ session hsession =>
      have hother : ¬ snapshot.id = session.snapshotId := by
        rw [hid]
        exact (hleaves session hsession).symm
      beta_reduce
      rw [if_neg hother]
      exact ⟨hstatus, Or.inl rfl⟩
  | committed hsession =>
      beta_reduce
      split
      · exact ⟨rfl, Or.inr rfl⟩
      · exact ⟨hstatus, Or.inl rfl⟩

/-- A snapshot that a step leaves committed was committed, or is committed by it. -/
theorem SnapshotUpdate.committed_of {db : CatalogDb} {now : Instant} {op : StoreOp}
    {f : ScanSnapshot → ScanSnapshot} {snapshot : ScanSnapshot}
    (hf : SnapshotUpdate now db op f) (hstatus : (f snapshot).status = .committed) :
    snapshot.status = .committed ∨
      ∃ sessionId session, op = .commitScanSession sessionId ∧
        db.getScanSession sessionId = some session ∧ snapshot.id = session.snapshotId := by
  cases hf with
  | failed hsession =>
      beta_reduce at hstatus
      split at hstatus
      · cases hstatus
      · exact Or.inl hstatus
  | committed hsession =>
      beta_reduce at hstatus
      split at hstatus
      · next hid => exact Or.inr ⟨_, _, rfl, hsession, hid⟩
      · exact Or.inl hstatus

/-- The latest committed snapshot stays the latest when no newer one is committed. -/
theorem isLatestCommitted_step {storageRootId snapshotId : Nat} {s t : CatalogState}
    {label : Instant × StoreOp} (hleaves : LeavesSnapshot storageRootId snapshotId s label)
    (hnewer : NoNewerCommit storageRootId snapshotId s label) (hstep : s.step label = some t)
    (hlatest : s.db.IsLatestCommitted storageRootId snapshotId) :
    t.db.IsLatestCommitted storageRootId snapshotId := by
  obtain ⟨-, hrun, -⟩ := CatalogState.step_eq_some_iff.mp hstep
  obtain ⟨latest, hmem, hid, hroot, hstatus, hmax⟩ := hlatest
  rcases scanSnapshot_run hrun with hsame | ⟨fresh, hrows, -, hrunning, -⟩ | ⟨f, hf, hrows⟩
  · exact ⟨latest, hsame ▸ hmem, hid, hroot, hstatus,
      fun other hother => hmax other (hsame ▸ hother)⟩
  · refine ⟨latest, hrows ▸ List.mem_append_left _ hmem, hid, hroot, hstatus, ?_⟩
    intro other hother horoot hocommitted
    rw [hrows, List.mem_append, List.mem_singleton] at hother
    rcases hother with hother | rfl
    · exact hmax other hother horoot hocommitted
    · rw [hrunning] at hocommitted
      cases hocommitted
  · obtain ⟨hfid, hfroot, hfgen⟩ := hf.columns latest
    refine ⟨f latest, hrows ▸ List.mem_map_of_mem hmem, hfid.trans hid, hfroot.trans hroot,
      (hf.kept hleaves hid hstatus).1, ?_⟩
    intro other hother horoot hocommitted
    rw [hrows, List.mem_map] at hother
    obtain ⟨old, hold, rfl⟩ := hother
    obtain ⟨-, horoot', hogen⟩ := hf.columns old
    rw [hogen, hfgen]
    rw [horoot'] at horoot
    rcases hf.committed_of hocommitted with hocommitted | ⟨sessionId, session, hop, hsession, hoid⟩
    · exact hmax old hold horoot hocommitted
    · obtain ⟨now, op⟩ := label
      cases hop
      exact hnewer session hsession old hold hoid horoot latest hmem hid

/-- What is known of a root and one of its snapshots while the snapshot is kept. -/
structure SnapshotKept (root : StorageRoot) (snapshotId : Nat) (entries : Finset FileEntry)
    (s : CatalogState) : Prop where
  valid : s.Valid
  root_mem : root ∈ s.db.storageRoot.rows
  committed : ∃ snapshot ∈ s.db.scanSnapshot.rows, snapshot.id = snapshotId ∧
    snapshot.storageRootId = root.id ∧ snapshot.status = .committed ∧
    committedSince snapshot root.updatedAt = true
  entries_eq : recordedEntries root.id snapshotId s.db.fileRecord = entries

namespace SnapshotKept

variable {root : StorageRoot} {snapshotId : Nat} {entries : Finset FileEntry}
  {s t : CatalogState} {label : Instant × StoreOp}

theorem storageRootById_eq (h : SnapshotKept root snapshotId entries s) :
    s.db.storageRootById root.id = some root := by
  cases hfind : s.db.storageRootById root.id with
  | none =>
      have hnone := List.find?_eq_none.mp hfind root h.root_mem
      simp at hnone
  | some other =>
      obtain ⟨hmem, hid⟩ := storageRootById_some hfind
      rw [h.valid.root_ids other hmem root h.root_mem hid]

/-- The subquery of the listing picks the kept snapshot when it is the latest. -/
theorem latestCurrent_eq (h : SnapshotKept root snapshotId entries s)
    (hlatest : s.db.IsLatestCommitted root.id snapshotId) :
    (s.db.latestCurrent root).map (·.id) = some snapshotId := by
  obtain ⟨snapshot, hmem, hid, hroot, hstatus, hsince⟩ := h.committed
  obtain ⟨latest, hlmem, hlid, -, -, hmax⟩ := hlatest
  have hsame : latest = snapshot :=
    s.db.scanSnapshot.eq_of_key_eq hlmem hmem (hlid.trans hid.symm)
  subst hsame
  have hcandidate : latest ∈ s.db.scanSnapshot.rows.filter fun snapshot =>
      snapshot.storageRootId = root.id && snapshot.status = .committed &&
        committedSince snapshot root.updatedAt := by
    simp [List.mem_filter, hmem, hroot, hstatus, hsince]
  cases hfirst : s.db.latestCurrent root with
  | none =>
      rw [latestCurrent, firstBy_eq_none_iff] at hfirst
      rw [hfirst] at hcandidate
      cases hcandidate
  | some first =>
      have hfmem := firstBy_mem hfirst
      simp only [List.mem_filter, Bool.and_eq_true, decide_eq_true_eq] at hfmem
      have hle : newerGeneration first latest :=
        firstBy_le newerGeneration_total newerGeneration_trans hfirst hcandidate
      have hge : first.generation ≤ latest.generation :=
        hmax first hfmem.1 hfmem.2.1.1 hfmem.2.1.2
      have heq : first = latest :=
        h.valid.generations first hfmem.1 latest hlmem (hfmem.2.1.1.trans hroot.symm)
          (Nat.le_antisymm hge hle)
      rw [heq, Option.map_some, hid]

/-- The listing of the root is what is recorded for its latest committed snapshot. -/
theorem listedEntries_eq (h : SnapshotKept root snapshotId entries s)
    (hlatest : s.db.IsLatestCommitted root.id snapshotId) :
    s.db.listedEntries root.slug = entries := by
  obtain ⟨snapshot, hmem, hid, hroot, hstatus, hsince⟩ := h.committed
  have hsnapshot : s.db.getSnapshot snapshotId = some snapshot :=
    Table.find?_eq_some_iff.mpr ⟨hmem, hid⟩
  rw [← h.entries_eq]
  ext e
  rw [mem_listedEntries, mem_recordedEntries]
  constructor
  · rintro ⟨file, hfile, row, hrow, hslug, rfl⟩
    simp only [snapshotFileRow, Option.bind_eq_bind, Option.bind_eq_some_iff] at hrow
    obtain ⟨other, hother, found, hfound, hrow⟩ := hrow
    split at hrow
    · next hcond =>
        cases hrow
        obtain ⟨homem, hoid⟩ := storageRootById_some hother
        have hsame : other = root := s.db.storageRoot.eq_of_key_eq homem h.root_mem hslug
        subst hsame
        rw [h.latestCurrent_eq hlatest] at hcond
        exact ⟨file, hfile, hoid.symm, (Option.some.inj hcond.2.2).symm, rfl⟩
    · cases hrow
  · rintro ⟨file, hfile, hfid, hfsnap, rfl⟩
    refine ⟨file, hfile, joinedFileRow root snapshot file, ?_, rfl, rfl⟩
    simp only [snapshotFileRow, hfid, hfsnap, h.storageRootById_eq, hsnapshot,
      Option.bind_eq_bind, Option.bind_some]
    rw [if_pos ⟨hstatus, hsince, h.latestCurrent_eq hlatest⟩]

/-- A kept snapshot is kept by every step that leaves it alone. -/
theorem step (h : SnapshotKept root snapshotId entries s) (hscan : label.2.isScan = true)
    (hleaves : LeavesSnapshot root.id snapshotId s label) (hstep : s.step label = some t) :
    SnapshotKept root snapshotId entries t := by
  obtain ⟨hclock, hrun, -⟩ := CatalogState.step_eq_some_iff.mp hstep
  refine ⟨CatalogState.valid_step h.valid hstep, ?_, ?_, ?_⟩
  · rw [storageRoot_run hscan hrun]
    exact h.root_mem
  · obtain ⟨snapshot, hmem, hid, hroot, hstatus, hsince⟩ := h.committed
    rcases scanSnapshot_run hrun with hsame | ⟨fresh, hrows, -, -⟩ | ⟨f, hf, hrows⟩
    · rw [hsame]
      exact ⟨snapshot, hmem, hid, hroot, hstatus, hsince⟩
    · rw [hrows]
      exact ⟨snapshot, List.mem_append_left _ hmem, hid, hroot, hstatus, hsince⟩
    · rw [hrows]
      obtain ⟨hfid, hfroot, -⟩ := hf.columns snapshot
      obtain ⟨hfstatus, hcommittedAt⟩ := hf.kept hleaves hid hstatus
      refine ⟨f snapshot, List.mem_map_of_mem hmem, hfid.trans hid,
        hfroot.trans hroot, hfstatus, ?_⟩
      unfold committedSince at hsince ⊢
      rcases hcommittedAt with hsame | hnow
      · rwa [hsame]
      · have hconfigured := (h.valid.configured root h.root_mem).trans hclock
        rw [hnow]
        exact decide_eq_true hconfigured
  · rw [recordedEntries_run hleaves hrun]
    exact h.entries_eq

end SnapshotKept

end ImmichDoctor.Catalog
