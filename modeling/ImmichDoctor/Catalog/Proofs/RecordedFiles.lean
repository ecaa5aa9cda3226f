import ImmichDoctor.Catalog.Proofs.StoreInvariant
/-!
# What a session records

The file records of a root relative to those it had when the session was created:
the records of the session's snapshot are its observations merged into the earlier
ones, and all other records still show when their file was first seen.
-/

namespace ImmichDoctor.Catalog

open ImmichDoctor.Library

/-- The columns of a file record, without its row id and the times of the writes. -/
structure FileContents where
  storageRootId : Nat
  relativePath : PyStr
  parentRelativePath : PyStr
  fileName : PyStr
  extension : Option PyStr
  sizeBytes : Nat
  createdAtFs : Option Instant
  modifiedAtFs : Option Instant
  firstSeenSnapshotId : Nat
  lastSeenSnapshotId : Nat
  lastScanSessionId : SessionId
  fileTypeGuess : PyStr
  mediaClassGuess : PyStr
  zeroByteFlag : Bool
  statDevice : Option PyStr
  statInode : Option PyStr
  presenceStatus : PresenceStatus
  deriving DecidableEq

def FileRecord.contents (file : FileRecord) : FileContents where
  storageRootId := file.storageRootId
  relativePath := file.relativePath
  parentRelativePath := file.parentRelativePath
  fileName := file.fileName
  extension := file.extension
  sizeBytes := file.sizeBytes
  createdAtFs := file.createdAtFs
  modifiedAtFs := file.modifiedAtFs
  firstSeenSnapshotId := file.firstSeenSnapshotId
  lastSeenSnapshotId := file.lastSeenSnapshotId
  lastScanSessionId := file.lastScanSessionId
  fileTypeGuess := file.fileTypeGuess
  mediaClassGuess := file.mediaClassGuess
  zeroByteFlag := file.zeroByteFlag
  statDevice := file.statDevice
  statInode := file.statInode
  presenceStatus := file.presenceStatus

/-- The session that writes, with its root and its snapshot. -/
structure WritingSession where
  sessionId : SessionId
  storageRootId : Nat
  snapshotId : Nat

/-- What the session records for an observation, given the earlier record of the path. -/
def recordedContents (id : WritingSession) (base : Table FileRecord FileRecord.key)
    (observation : CatalogFileObservation) : FileContents :=
  let old := base.find? (id.storageRootId, observation.relativePath)
  { storageRootId := id.storageRootId
    relativePath := observation.relativePath
    parentRelativePath := observation.parentRelativePath
    fileName := observation.fileName
    extension := observation.extension
    sizeBytes := observation.sizeBytes
    createdAtFs := old.bind (·.createdAtFs) <|> observation.createdAtFs
    modifiedAtFs := observation.modifiedAtFs
    firstSeenSnapshotId := (old.map (·.firstSeenSnapshotId)).getD id.snapshotId
    lastSeenSnapshotId := id.snapshotId
    lastScanSessionId := id.sessionId
    fileTypeGuess := observation.fileTypeGuess
    mediaClassGuess := observation.mediaClassGuess
    zeroByteFlag := observation.zeroByteFlag
    statDevice := observation.statDevice
    statInode := observation.statInode
    presenceStatus := .present }

/-- A record that still shows when its file was first seen. -/
def KeepsFirst (old new : FileRecord) : Prop :=
  new.key = old.key ∧ new.createdAtFs = old.createdAtFs ∧
    new.firstSeenSnapshotId = old.firstSeenSnapshotId

/-- The records of the root, once the session has recorded the observations `seen`. -/
structure Recorded (id : WritingSession) (base records : Table FileRecord FileRecord.key)
    (seen : List CatalogFileObservation) : Prop where
  current : ∀ file ∈ records.rows, file.storageRootId = id.storageRootId →
    file.lastSeenSnapshotId = id.snapshotId →
    ∃ observation ∈ seen, file.contents = recordedContents id base observation
  covered : ∀ observation ∈ seen, ∃ file ∈ records.rows,
    file.key = (id.storageRootId, observation.relativePath) ∧
    file.lastSeenSnapshotId = id.snapshotId
  others : ∀ file ∈ records.rows, file.storageRootId = id.storageRootId →
    file.lastSeenSnapshotId ≠ id.snapshotId → ∃ old ∈ base.rows, KeepsFirst old file
  kept : ∀ old ∈ base.rows, old.storageRootId = id.storageRootId →
    ∃ file ∈ records.rows, file.key = old.key

theorem orElse_orElse {α : Type} (a b : Option α) : ((a <|> b) <|> b) = (a <|> b) := by
  cases a <;> cases b <;> rfl

namespace Recorded

variable {id : WritingSession} {base records records' : Table FileRecord FileRecord.key}
  {seen : List CatalogFileObservation} {application : DirectoryApplication} {now : Instant}
  {observation : CatalogFileObservation}

theorem refl (hfresh : ∀ file ∈ base.rows, file.lastSeenSnapshotId ≠ id.snapshotId) :
    Recorded id base base [] where
  current file hfile _ hsnapshot := absurd hsnapshot (hfresh file hfile)
  covered _ hseen := by cases hseen
  others file hfile _ _ := ⟨file, hfile, rfl, rfl, rfl⟩
  kept old hold _ := ⟨old, hold, rfl⟩

/-- Records of the root that are kept, up to their presence where they are of another
snapshot. -/
theorem of_records (h : Recorded id base records seen)
    (hnew : ∀ file ∈ records'.rows, file.storageRootId = id.storageRootId →
      ∃ old ∈ records.rows, KeepsFirst old file ∧
        file.lastSeenSnapshotId = old.lastSeenSnapshotId ∧
        (file.lastSeenSnapshotId = id.snapshotId → file.contents = old.contents))
    (hold : ∀ old ∈ records.rows, old.storageRootId = id.storageRootId →
      ∃ file ∈ records'.rows, file.key = old.key ∧
        file.lastSeenSnapshotId = old.lastSeenSnapshotId) :
    Recorded id base records' seen := by
  refine ⟨?_, ?_, ?_, ?_⟩
  · intro file hfile hroot hsnapshot
    obtain ⟨old, holdMem, ⟨hkey, -⟩, hlast, hcontents⟩ := hnew file hfile hroot
    obtain ⟨observation, hseen, hrecorded⟩ := h.current old holdMem
      ((congrArg Prod.fst hkey).symm.trans hroot) (hlast.symm.trans hsnapshot)
    exact ⟨observation, hseen, (hcontents hsnapshot).trans hrecorded⟩
  · intro observation hseen
    obtain ⟨old, holdMem, hkey, hsnapshot⟩ := h.covered observation hseen
    obtain ⟨file, hfile, hfileKey, hlast⟩ := hold old holdMem (congrArg Prod.fst hkey)
    exact ⟨file, hfile, hfileKey.trans hkey, hlast.trans hsnapshot⟩
  · intro file hfile hroot hsnapshot
    obtain ⟨old, holdMem, ⟨hkey, hcreated, hfirst⟩, hlast, -⟩ := hnew file hfile hroot
    obtain ⟨first, hbase, hfirstKey, hfirstCreated, hfirstSeen⟩ := h.others old holdMem
      ((congrArg Prod.fst hkey).symm.trans hroot) (fun heq => hsnapshot (hlast.trans heq))
    exact ⟨first, hbase, hkey.trans hfirstKey, hcreated.trans hfirstCreated,
      hfirst.trans hfirstSeen⟩
  · intro old holdMem hroot
    obtain ⟨middle, hmiddle, hkey⟩ := h.kept old holdMem hroot
    obtain ⟨file, hfile, hfileKey, -⟩ := hold middle hmiddle
      ((congrArg Prod.fst hkey).trans hroot)
    exact ⟨file, hfile, hfileKey.trans hkey⟩

/-- A path without a record had none when the session was created. -/
theorem base_find?_eq_none (h : Recorded id base records seen) {path : PyStr}
    (hfresh : ∀ file ∈ records.rows, file.key ≠ (id.storageRootId, path)) :
    base.find? (id.storageRootId, path) = none := by
  rw [Table.find?_eq_none_iff]
  intro old hold hkey
  obtain ⟨file, hfile, hfileKey⟩ := h.kept old hold (congrArg Prod.fst hkey)
  exact hfresh file hfile (hfileKey.trans hkey)

/-- The record that is merged still has the creation time and the first snapshot of the
earlier one, unless the session recorded the path before. -/
theorem merged (h : Recorded id base records seen) {old : FileRecord} (hold : old ∈ records.rows)
    (hkey : old.key = (id.storageRootId, observation.relativePath))
    (hsession : application.sessionId = id.sessionId)
    (hsnapshot : application.snapshotId = id.snapshotId)
    (hsame : ∀ other ∈ seen, other.relativePath = observation.relativePath →
      other = observation) :
    (CatalogDb.mergeObservation now application observation old).contents =
      recordedContents id base observation := by
  obtain ⟨holdRoot, holdPath⟩ := Prod.mk.inj hkey
  have hcolumns : (old.createdAtFs <|> observation.createdAtFs) =
        (recordedContents id base observation).createdAtFs ∧
      old.firstSeenSnapshotId = (recordedContents id base observation).firstSeenSnapshotId := by
    by_cases hcurrent : old.lastSeenSnapshotId = id.snapshotId
    · obtain ⟨other, hother, hcontents⟩ := h.current old hold holdRoot hcurrent
      have hpath : other.relativePath = observation.relativePath :=
        (congrArg FileContents.relativePath hcontents).symm.trans holdPath
      rw [hsame other hother hpath] at hcontents
      have hcreated : old.createdAtFs = (recordedContents id base observation).createdAtFs :=
        congrArg FileContents.createdAtFs hcontents
      refine ⟨?_, congrArg FileContents.firstSeenSnapshotId hcontents⟩
      rw [hcreated]
      exact orElse_orElse _ _
    · obtain ⟨first, hfirst, hfirstKey, hcreated, hseen⟩ := h.others old hold holdRoot hcurrent
      have hfind : base.find? (id.storageRootId, observation.relativePath) = some first :=
        Table.find?_eq_some_iff.mpr ⟨hfirst, hfirstKey.symm.trans hkey⟩
      unfold recordedContents
      rw [hfind, hcreated, hseen]
      exact ⟨rfl, rfl⟩
  simp only [FileRecord.contents, CatalogDb.mergeObservation, hcolumns.1, hcolumns.2, holdRoot,
    holdPath, hsession, hsnapshot]
  rfl

/-- Recording one more observation. -/
theorem record (h : Recorded id base records seen)
    (hsession : application.sessionId = id.sessionId)
    (hroot : application.storageRootId = id.storageRootId)
    (hsnapshot : application.snapshotId = id.snapshotId)
    (hsame : ∀ other ∈ seen, other.relativePath = observation.relativePath →
      other = observation) :
    Recorded id base (CatalogDb.recordObservation now application records observation)
      (seen ++ [observation]) := by
  have hkey : ∀ n, (CatalogDb.recordOf now application n observation).key =
      (id.storageRootId, observation.relativePath) := by
    intro n
    rw [FileRecord.key, CatalogDb.recordOf, hroot]
  refine ⟨?_, ?_, ?_, ?_⟩
  · intro file hfile hfileRoot hfileSnapshot
    rcases Table.mem_upsert.mp hfile with ⟨hold, -⟩ | ⟨old, hold, holdKey, rfl⟩ | ⟨hfresh, rfl⟩
    · obtain ⟨other, hother, hcontents⟩ := h.current file hold hfileRoot hfileSnapshot
      exact ⟨other, List.mem_append_left _ hother, hcontents⟩
    · exact ⟨observation, List.mem_append_right _ List.mem_cons_self,
        h.merged hold (holdKey.trans (hkey _)) hsession hsnapshot hsame⟩
    · refine ⟨observation, List.mem_append_right _ List.mem_cons_self, ?_⟩
      have hnone := h.base_find?_eq_none fun file hfile => hkey _ ▸ hfresh file hfile
      simp only [FileRecord.contents, CatalogDb.recordOf, recordedContents, hnone, hsession, hroot,
        hsnapshot, Option.bind_none, Option.map_none, Option.getD_none]
      rfl
  · intro other hother
    rcases List.mem_append.mp hother with hseen | hnew
    · obtain ⟨file, hfile, hfileKey, hlast⟩ := h.covered other hseen
      by_cases hpath : file.key = (CatalogDb.recordOf now application
          (maxColumn FileRecord.id records.rows + 1) observation).key
      · exact ⟨_, Table.mem_upsert.mpr (Or.inr (Or.inl ⟨file, hfile, hpath, rfl⟩)), hfileKey,
          hsnapshot⟩
      · exact ⟨file, Table.mem_upsert.mpr (Or.inl ⟨hfile, hpath⟩), hfileKey, hlast⟩
    · rw [List.mem_singleton.mp hnew]
      by_cases hfresh : ∀ file ∈ records.rows, file.key ≠ (CatalogDb.recordOf now application
          (maxColumn FileRecord.id records.rows + 1) observation).key
      · exact ⟨_, Table.mem_upsert.mpr (Or.inr (Or.inr ⟨hfresh, rfl⟩)), hkey _, hsnapshot⟩
      · simp only [not_forall, not_not] at hfresh
        obtain ⟨file, hfile, hfileKey⟩ := hfresh
        exact ⟨_, Table.mem_upsert.mpr (Or.inr (Or.inl ⟨file, hfile, hfileKey, rfl⟩)),
          hfileKey.trans (hkey _), hsnapshot⟩
  · intro file hfile hfileRoot hfileSnapshot
    rcases Table.mem_upsert.mp hfile with ⟨hold, -⟩ | ⟨old, hold, holdKey, rfl⟩ | ⟨hfresh, rfl⟩
    · exact h.others file hold hfileRoot hfileSnapshot
    · exact absurd hsnapshot hfileSnapshot
    · exact absurd hsnapshot hfileSnapshot
  · intro old hold holdRoot
    obtain ⟨file, hfile, hfileKey⟩ := h.kept old hold holdRoot
    by_cases hpath : file.key = (CatalogDb.recordOf now application
        (maxColumn FileRecord.id records.rows + 1) observation).key
    · exact ⟨_, Table.mem_upsert.mpr (Or.inr (Or.inl ⟨file, hfile, hpath, rfl⟩)), hfileKey⟩
    · exact ⟨file, Table.mem_upsert.mpr (Or.inl ⟨hfile, hpath⟩), hfileKey⟩

/-- Recording the observations of a batch. -/
theorem record_all (h : Recorded id base records seen)
    (hsession : application.sessionId = id.sessionId)
    (hroot : application.storageRootId = id.storageRootId)
    (hsnapshot : application.snapshotId = id.snapshotId)
    {observations : List CatalogFileObservation}
    (hsame : ∀ a ∈ seen ++ observations, ∀ b ∈ seen ++ observations,
      a.relativePath = b.relativePath → a = b) :
    Recorded id base (observations.foldl (CatalogDb.recordObservation now application) records)
      (seen ++ observations) := by
  induction observations generalizing seen records with
  | nil =>
      rw [List.append_nil]
      exact h
  | cons observation rest ih =>
      have hassoc : seen ++ observation :: rest = (seen ++ [observation]) ++ rest := by
        rw [List.append_assoc, List.singleton_append]
      rw [hassoc] at hsame ⊢
      refine ih (h.record hsession hroot hsnapshot fun other hother hpath => ?_) hsame
      exact hsame other (List.mem_append_left _ (List.mem_append_left _ hother)) observation
        (List.mem_append_left _ (List.mem_append_right _ List.mem_cons_self)) hpath

end Recorded

/-! ## New snapshots -/

/-- Every file record was last seen by a snapshot of the catalog. -/
def RecordReferences (db : CatalogDb) : Prop :=
  ∀ file ∈ db.fileRecord.rows, ∃ snapshot ∈ db.scanSnapshot.rows,
    snapshot.id = file.lastSeenSnapshotId

section References

variable {db db' : CatalogDb} {now : Instant} {op : StoreOp}

theorem exists_snapshot_run (hrun : op.run now db = some db') {snapshot : ScanSnapshot}
    (hmem : snapshot ∈ db.scanSnapshot.rows) :
    ∃ new ∈ db'.scanSnapshot.rows, new.id = snapshot.id := by
  rcases scanSnapshot_run hrun with hsame | ⟨fresh, hrows, -⟩ | ⟨f, hf, hrows⟩
  · exact ⟨snapshot, hsame ▸ hmem, rfl⟩
  · exact ⟨snapshot, by rw [hrows]; exact List.mem_append_left _ hmem, rfl⟩
  · exact ⟨f snapshot, by rw [hrows]; exact List.mem_map_of_mem hmem, (hf.columns snapshot).1⟩

/-- After recording, a record is an earlier one or one of the application's snapshot. -/
theorem lastSeen_of_mem_recorded {application : DirectoryApplication}
    {observations : List CatalogFileObservation} {records : Table FileRecord FileRecord.key}
    {file : FileRecord}
    (h : file ∈ (observations.foldl (CatalogDb.recordObservation now application) records).rows) :
    file ∈ records.rows ∨ observations ≠ [] ∧ file.lastSeenSnapshotId = application.snapshotId := by
  induction observations generalizing records with
  | nil => exact Or.inl h
  | cons observation rest ih =>
      rcases ih h with hmem | ⟨-, hlast⟩
      · rcases Table.mem_upsert.mp hmem with ⟨hold, -⟩ | ⟨old, -, -, rfl⟩ | ⟨-, rfl⟩
        · exact Or.inl hold
        · exact Or.inr ⟨List.cons_ne_nil _ _, rfl⟩
        · exact Or.inr ⟨List.cons_ne_nil _ _, rfl⟩
      · exact Or.inr ⟨List.cons_ne_nil _ _, hlast⟩

theorem recordReferences_run (h : RecordReferences db) (hrun : op.run now db = some db') :
    RecordReferences db' := by
  have hkept : ∀ file ∈ db.fileRecord.rows, ∃ snapshot ∈ db'.scanSnapshot.rows,
      snapshot.id = file.lastSeenSnapshotId := by
    intro file hfile
    obtain ⟨snapshot, hsnapshot, hid⟩ := h file hfile
    obtain ⟨new, hnew, hsame⟩ := exists_snapshot_run hrun hsnapshot
    exact ⟨new, hnew, hsame.trans hid⟩
  intro file hfile
  rcases fileRecord_run hrun with hsame | ⟨application, rfl, hrecords⟩ |
    ⟨sessionId, session, -, -, hrecords⟩
  · exact hkept file (hsame ▸ hfile)
  · rw [hrecords] at hfile
    rcases lastSeen_of_mem_recorded hfile with hold | ⟨hobserved, hlast⟩
    · exact hkept file hold
    · -- the snapshot column is a foreign key of the rows that are written
      simp only [StoreOp.run, CatalogDb.applyDirectoryFiles] at hrun
      split at hrun
      · next happlicable =>
          simp only [CatalogDb.applicable, Bool.and_eq_true, Bool.or_eq_true,
            List.isEmpty_iff] at happlicable
          obtain ⟨⟨-, hsome⟩, -⟩ := happlicable.1.1.resolve_left hobserved
          obtain ⟨snapshot, hsnapshot⟩ := Option.isSome_iff_exists.mp hsome
          obtain ⟨hmem, hid⟩ := Table.find?_eq_some_iff.mp hsnapshot
          cases hrun
          exact ⟨snapshot, hmem, hid.trans hlast.symm⟩
      · cases hrun
  · rw [hrecords] at hfile
    obtain ⟨old, hold, rfl⟩ := List.mem_map.mp hfile
    obtain ⟨snapshot, hsnapshot, hid⟩ := hkept old hold
    refine ⟨snapshot, hsnapshot, hid.trans ?_⟩
    split <;> rfl

/-- No file has been seen by the snapshot of a new session. -/
theorem notSeen_of_created {sessionId : SessionId} {storageRootId : Nat} {maxFiles : Option Int}
    (h : RecordReferences db)
    (hrun : db.createScanSession now sessionId storageRootId maxFiles = some db') :
    ∃ session, db'.getScanSession sessionId = some session ∧
      session.storageRootId = storageRootId ∧ session.filesSeen = 0 ∧ session.bytesSeen = 0 ∧
      session.directoriesCompleted = 0 ∧ session.errorCount = 0 ∧
      ∀ file ∈ db'.fileRecord.rows, file.lastSeenSnapshotId ≠ session.snapshotId := by
  simp only [CatalogDb.createScanSession, Option.bind_eq_bind, Option.bind_eq_some_iff] at hrun
  obtain ⟨_, -, snapshots, -, sessions, hsessions, queue, -, hdb⟩ := hrun
  cases hdb
  obtain ⟨hrows, -⟩ := Table.rows_of_insert? hsessions
  refine ⟨_, Table.find?_eq_some_iff.mpr ⟨hrows ▸ List.mem_append_right _ List.mem_cons_self, rfl⟩,
    rfl, rfl, rfl, rfl, rfl, ?_⟩
  intro file hfile hlast
  obtain ⟨snapshot, hsnapshot, hid⟩ := h file hfile
  have hle : snapshot.id ≤ maxColumn ScanSnapshot.id db.scanSnapshot.rows := le_maxColumn hsnapshot
  rw [hid, hlast] at hle
  exact Nat.not_succ_le_self _ hle

end References

theorem recordReferences_of_reachable {clock : Instant} {s : CatalogState}
    (hreach : Reachable CatalogState.step (CatalogState.start clock) s) :
    RecordReferences s.db := by
  have hpres : ∀ (s : CatalogState) (label : Instant × StoreOp) (t : CatalogState),
      s.step label = some t → RecordReferences s.db → RecordReferences t.db :=
    fun s label t hstep hs => recordReferences_run hs (CatalogState.step_eq_some_iff.mp hstep).2.1
  exact Reachable.invariant hpres hreach (List.forall_mem_nil _)

end ImmichDoctor.Catalog
