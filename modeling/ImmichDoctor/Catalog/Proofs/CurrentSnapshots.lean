import ImmichDoctor.Catalog.ConsistencyState
import ImmichDoctor.Catalog.Proofs.StoreInvariant
/-!
# Current snapshots and the comparison window

The current snapshot of a root is its newest one among those committed since the root
was configured. Once every effective root has one, the window of a comparison starts
when the first of them was started.
-/

namespace ImmichDoctor.Catalog

open ImmichDoctor.Library
open ImmichDoctor.Storage

/-- The snapshot was committed for the root since the root was configured. -/
def CatalogDb.CommittedFor (db : CatalogDb) (root : StorageRoot) (snapshot : ScanSnapshot) : Prop :=
  snapshot ∈ db.scanSnapshot.rows ∧ snapshot.storageRootId = root.id ∧
    snapshot.status = .committed ∧ CatalogDb.committedSince snapshot root.updatedAt = true

/-- The newest of these snapshots. -/
def CatalogDb.IsCurrentSnapshot (db : CatalogDb) (root : StorageRoot) (snapshot : ScanSnapshot) :
    Prop :=
  db.CommittedFor root snapshot ∧
    ∀ other, db.CommittedFor root other → other.generation ≤ snapshot.generation

/-- What the roots and snapshots of every catalog satisfy. -/
structure RootsValid (db : CatalogDb) : Prop where
  ids : ∀ a ∈ db.storageRoot.rows, ∀ b ∈ db.storageRoot.rows, a.id = b.id → a = b
  enabled : ∀ root ∈ db.storageRoot.rows, root.enabled = true
  generations : ∀ a ∈ db.scanSnapshot.rows, ∀ b ∈ db.scanSnapshot.rows,
    a.storageRootId = b.storageRootId → a.generation = b.generation → a = b

/-! ## The invariant -/

section Invariant

variable {db db' : CatalogDb} {now : Instant}

theorem enabled_upsertStorageRoot {root : CatalogRootSpec}
    (h : ∀ row ∈ db.storageRoot.rows, row.enabled = true)
    (hrun : db.upsertStorageRoot now root = some db') :
    ∀ row ∈ db'.storageRoot.rows, row.enabled = true := by
  unfold CatalogDb.upsertStorageRoot at hrun
  split at hrun
  · cases hrun
  cases hrun
  intro row hrow
  rcases Table.mem_upsert.mp hrow with ⟨hold, -⟩ | ⟨old, -, -, rfl⟩ | ⟨-, rfl⟩
  · exact h row hold
  · rfl
  · rfl

theorem scanSnapshot_upsertStorageRoot {root : CatalogRootSpec}
    (hrun : db.upsertStorageRoot now root = some db') :
    db'.scanSnapshot = db.scanSnapshot ∧ db'.fileRecord = db.fileRecord := by
  obtain ⟨_, rfl⟩ := CatalogDb.of_upsertStorageRoot hrun
  exact ⟨rfl, rfl⟩

theorem RootsValid.upsertStorageRoot {root : CatalogRootSpec} (h : RootsValid db)
    (hrun : db.upsertStorageRoot now root = some db') : RootsValid db' where
  ids := CatalogState.root_ids_upsertStorageRoot h.ids hrun
  enabled := enabled_upsertStorageRoot h.enabled hrun
  generations := by
    rw [(scanSnapshot_upsertStorageRoot hrun).1]
    exact h.generations

theorem enabled_of_reachable {clock : Instant} {s : CatalogState}
    (hreach : Reachable CatalogState.step (CatalogState.start clock) s) :
    ∀ row ∈ s.db.storageRoot.rows, row.enabled = true := by
  have hpres : ∀ (s : CatalogState) (label : Instant × StoreOp) (t : CatalogState),
      s.step label = some t → (∀ row ∈ s.db.storageRoot.rows, row.enabled = true) →
      ∀ row ∈ t.db.storageRoot.rows, row.enabled = true := by
    intro s label t hstep hs
    obtain ⟨-, hrun, -⟩ := CatalogState.step_eq_some_iff.mp hstep
    by_cases hscan : label.2.isScan = true
    · rw [storageRoot_run hscan hrun]
      exact hs
    · obtain ⟨now, op⟩ := label
      cases op with
      | upsertStorageRoot root => exact enabled_upsertStorageRoot hs hrun
      | _ => exact absurd rfl hscan
  exact Reachable.invariant hpres hreach nofun

theorem rootsValid_of_reachable {clock : Instant} {s : CatalogState}
    (hreach : Reachable CatalogState.step (CatalogState.start clock) s) : RootsValid s.db where
  ids := (CatalogState.valid_of_reachable hreach).root_ids
  enabled := enabled_of_reachable hreach
  generations := (CatalogState.valid_of_reachable hreach).generations

/-- Writing the configured roots touches nothing but the roots. -/
theorem sync_spec {settings : StorageSettings} {times : PyStr → Instant} (h : RootsValid db)
    (hsync : CatalogRootRegistry.sync settings times db = some db') :
    RootsValid db' ∧ db'.scanSnapshot = db.scanSnapshot ∧ db'.fileRecord = db.fileRecord := by
  unfold CatalogRootRegistry.sync at hsync
  generalize CatalogRootRegistry.configuredRoots settings = roots at hsync
  induction roots generalizing db with
  | nil =>
      cases hsync
      exact ⟨h, rfl, rfl⟩
  | cons root rest ih =>
      rw [List.foldlM_cons] at hsync
      obtain ⟨next, hnext, hrest⟩ := Option.bind_eq_some_iff.mp hsync
      obtain ⟨hsnapshots, hfiles⟩ := scanSnapshot_upsertStorageRoot hnext
      obtain ⟨hvalid, hsnapshots', hfiles'⟩ := ih (h.upsertStorageRoot hnext) hrest
      exact ⟨hvalid, hsnapshots'.trans hsnapshots, hfiles'.trans hfiles⟩

end Invariant

/-! ## Current snapshots -/

section Current

variable {db : CatalogDb} {root : StorageRoot} {snapshot : ScanSnapshot}

/-- A root is found by its id, which it has for itself. -/
theorem storageRootById_of_mem
    (hids : ∀ a ∈ db.storageRoot.rows, ∀ b ∈ db.storageRoot.rows, a.id = b.id → a = b)
    (hroot : root ∈ db.storageRoot.rows) : db.storageRootById root.id = some root := by
  cases hfind : db.storageRootById root.id with
  | none =>
      have hnone := List.find?_eq_none.mp hfind root hroot
      simp at hnone
  | some other =>
      obtain ⟨hmem, hid⟩ := CatalogDb.storageRootById_some hfind
      rw [hids other hmem root hroot hid]

/-- `ORDER BY generation DESC LIMIT 1`, whichever of several snapshots is taken. -/
theorem firstBy_newest {snapshots : List ScanSnapshot} {p : ScanSnapshot → Bool}
    (h : firstBy CatalogDb.newerGeneration (snapshots.filter p) = some snapshot) :
    (snapshot ∈ snapshots ∧ p snapshot = true) ∧
      ∀ other ∈ snapshots, p other = true → other.generation ≤ snapshot.generation := by
  refine ⟨List.mem_filter.mp (firstBy_mem h), fun other hother hwhere => ?_⟩
  exact firstBy_le CatalogDb.newerGeneration_total CatalogDb.newerGeneration_trans h
    (List.mem_filter.mpr ⟨hother, hwhere⟩)

/-- The same over snapshots of different generations. -/
theorem firstBy_newest_iff {snapshots : List ScanSnapshot} {p : ScanSnapshot → Bool}
    (hdistinct : ∀ a ∈ snapshots, ∀ b ∈ snapshots, p a = true → p b = true →
      a.generation = b.generation → a = b) :
    firstBy CatalogDb.newerGeneration (snapshots.filter p) = some snapshot ↔
      (snapshot ∈ snapshots ∧ p snapshot = true) ∧
        ∀ other ∈ snapshots, p other = true → other.generation ≤ snapshot.generation := by
  refine ⟨firstBy_newest, fun hnewest => ?_⟩
  obtain ⟨first, hfirst⟩ : ∃ first,
      firstBy CatalogDb.newerGeneration (snapshots.filter p) = some first :=
    exists_firstBy (List.mem_filter.mpr hnewest.1)
  obtain ⟨hof, hbelow⟩ := firstBy_newest hfirst
  have hgeneration : first.generation = snapshot.generation :=
    Nat.le_antisymm (hnewest.2 first hof.1 hof.2) (hbelow snapshot hnewest.1.1 hnewest.1.2)
  rw [hfirst, hdistinct first hof.1 snapshot hnewest.1.1 hof.2 hnewest.1.2 hgeneration]

/-- The same over the snapshots of one root. -/
theorem RootsValid.firstBy_eq_some_iff (h : RootsValid db) {p : ScanSnapshot → Bool}
    (hp : ∀ snapshot, p snapshot = true → snapshot.storageRootId = root.id) :
    firstBy CatalogDb.newerGeneration (db.scanSnapshot.rows.filter p) = some snapshot ↔
      (snapshot ∈ db.scanSnapshot.rows ∧ p snapshot = true) ∧
        ∀ other ∈ db.scanSnapshot.rows, p other = true →
          other.generation ≤ snapshot.generation := by
  apply firstBy_newest_iff
  intro a ha b hb hpa hpb hgeneration
  exact h.generations a ha b hb ((hp a hpa).trans (hp b hpb).symm) hgeneration

/-- The query finds the current snapshot. -/
theorem RootsValid.latestCurrent_eq_some_iff (h : RootsValid db) :
    db.latestCurrent root = some snapshot ↔ db.IsCurrentSnapshot root snapshot := by
  rw [CatalogDb.latestCurrent, h.firstBy_eq_some_iff]
  · simp only [CatalogDb.IsCurrentSnapshot, CatalogDb.CommittedFor, Bool.and_eq_true,
      decide_eq_true_eq, and_assoc, and_imp]
  · intro other hother
    simp only [Bool.and_eq_true, decide_eq_true_eq] at hother
    exact hother.1.1

/-- The query finds the committed snapshot of the highest generation. -/
theorem RootsValid.latestCommitted_eq_some_iff (h : RootsValid db) :
    db.latestCommitted root = some snapshot ↔
      snapshot ∈ db.scanSnapshot.rows ∧ snapshot.storageRootId = root.id ∧
        snapshot.status = .committed ∧
        ∀ other ∈ db.scanSnapshot.rows, other.storageRootId = root.id →
          other.status = .committed → other.generation ≤ snapshot.generation := by
  rw [CatalogDb.latestCommitted, h.firstBy_eq_some_iff]
  · simp only [Bool.and_eq_true, decide_eq_true_eq, and_assoc, and_imp]
  · intro other hother
    simp only [Bool.and_eq_true, decide_eq_true_eq] at hother
    exact hother.1

/-- The files that are listed, whichever current snapshot the query finds for a root. -/
theorem mem_listLatestSnapshotFiles
    (hids : ∀ a ∈ db.storageRoot.rows, ∀ b ∈ db.storageRoot.rows, a.id = b.id → a = b)
    {row : SnapshotFileRow} :
    row ∈ db.listLatestSnapshotFiles none none ↔
      ∃ file ∈ db.fileRecord.rows, ∃ root ∈ db.storageRoot.rows, ∃ snapshot,
        file.storageRootId = root.id ∧ db.latestCurrent root = some snapshot ∧
        file.lastSeenSnapshotId = snapshot.id ∧
          row = CatalogDb.joinedFileRow root snapshot file := by
  have hwhere : ∀ {root : StorageRoot} {snapshot : ScanSnapshot},
      db.latestCurrent root = some snapshot → snapshot ∈ db.scanSnapshot.rows ∧
        snapshot.status = .committed ∧
        CatalogDb.committedSince snapshot root.updatedAt = true := by
    intro root snapshot hlatest
    have hmem := firstBy_mem hlatest
    simp only [List.mem_filter, Bool.and_eq_true, decide_eq_true_eq] at hmem
    exact ⟨hmem.1, hmem.2.1.2, hmem.2.2⟩
  simp only [CatalogDb.listLatestSnapshotFiles, CatalogDb.limitRows, List.mem_insertionSort,
    List.mem_filter, List.mem_filterMap, Option.all_none, and_true]
  constructor
  · rintro ⟨file, hfile, hrow⟩
    simp only [CatalogDb.snapshotFileRow, Option.bind_eq_bind, Option.bind_eq_some_iff] at hrow
    obtain ⟨root, hroot, snapshot, hsnapshot, hjoined⟩ := hrow
    split at hjoined
    · next hcurrent =>
        obtain ⟨hrootMem, hrootId⟩ := CatalogDb.storageRootById_some hroot
        obtain ⟨latest, hlatest, hid⟩ := Option.map_eq_some_iff.mp hcurrent.2.2
        obtain ⟨hsnapshotMem, hsnapshotId⟩ := Table.find?_eq_some_iff.mp hsnapshot
        have hsame : latest = snapshot := db.scanSnapshot.eq_of_key_eq (hwhere hlatest).1
          hsnapshotMem (hid.trans hsnapshotId.symm)
        subst hsame
        exact ⟨file, hfile, root, hrootMem, latest, hrootId.symm, hlatest, hid.symm,
          (Option.some.inj hjoined).symm⟩
    · cases hjoined
  · rintro ⟨file, hfile, root, hroot, snapshot, hrootId, hlatest, hsnapshotId, rfl⟩
    obtain ⟨hmem, hstatus, hsince⟩ := hwhere hlatest
    refine ⟨file, hfile, ?_⟩
    have hget : db.getSnapshot file.lastSeenSnapshotId = some snapshot :=
      Table.find?_eq_some_iff.mpr ⟨hmem, hsnapshotId.symm⟩
    have hfound : db.storageRootById file.storageRootId = some root := by
      rw [hrootId]
      exact storageRootById_of_mem hids hroot
    rw [CatalogDb.snapshotFileRow, hfound, hget]
    simp only [Option.bind_eq_bind, Option.bind_some]
    rw [if_pos ⟨hstatus, hsince, by rw [hlatest, hsnapshotId]; rfl⟩]

/-- A file is listed for a root if and only if it is a file of the root's current snapshot. -/
theorem RootsValid.mem_listLatestSnapshotFiles (h : RootsValid db) {row : SnapshotFileRow} :
    row ∈ db.listLatestSnapshotFiles none none ↔
      ∃ file ∈ db.fileRecord.rows, ∃ root ∈ db.storageRoot.rows, ∃ snapshot,
        file.storageRootId = root.id ∧ db.IsCurrentSnapshot root snapshot ∧
        file.lastSeenSnapshotId = snapshot.id ∧
          row = CatalogDb.joinedFileRow root snapshot file := by
  rw [Catalog.mem_listLatestSnapshotFiles h.ids]
  simp only [h.latestCurrent_eq_some_iff]

end Current

/-! ## The comparison window -/

/-- The time is not after the start of the current snapshot of any of the roots. -/
def CatalogDb.BeforeWindow (db : CatalogDb) (slugs : List PyStr) (time : Option Instant) : Prop :=
  ∀ t, time = some t → ∀ root ∈ db.storageRoot.rows, root.slug ∈ slugs →
    ∀ snapshot, db.IsCurrentSnapshot root snapshot → t ≤ snapshot.startedAt

section Window

variable {db synced : CatalogDb} {settings : StorageSettings} {times : PyStr → Instant}
  {resolvePath : PurePath → PurePath} {state : CatalogSnapshotState} {snapshot : ScanSnapshot}
  {slug : PyStr}

theorem mem_listLatestSnapshots {row : LatestSnapshotRow}
    (h : row ∈ synced.listLatestSnapshots none) :
    row.root ∈ synced.storageRoot.rows ∧ row.snapshot = synced.latestCommitted row.root ∧
      row.snapshotCurrent =
        row.snapshot.any fun snapshot => CatalogDb.committedSince snapshot row.root.updatedAt := by
  obtain ⟨root, hroot, rfl⟩ := List.mem_map.mp h
  have hmem := (List.mem_filter.mp hroot).1
  exact ⟨(List.mem_filter.mp (List.mem_insertionSort _ |>.mp hmem)).1, rfl, rfl⟩

/-- The latest committed snapshot, when it is current, is the current one. -/
theorem isCurrentSnapshot_of_latestCommitted {root : StorageRoot}
    (hlatest : synced.latestCommitted root = some snapshot)
    (hsince : CatalogDb.committedSince snapshot root.updatedAt = true) :
    synced.IsCurrentSnapshot root snapshot := by
  have hmem := firstBy_mem hlatest
  simp only [List.mem_filter, Bool.and_eq_true, decide_eq_true_eq] at hmem
  refine ⟨⟨hmem.1, hmem.2.1, hmem.2.2, hsince⟩, fun other hother => ?_⟩
  refine firstBy_le CatalogDb.newerGeneration_total CatalogDb.newerGeneration_trans hlatest ?_
  simp [List.mem_filter, hother.1, hother.2.1, hother.2.2.1]

theorem isCurrentSnapshot_of_lookup
    (h : (currentSnapshots (synced.listLatestSnapshots none)).lookup slug = some snapshot) :
    ∃ root ∈ synced.storageRoot.rows, root.slug = slug ∧
      synced.IsCurrentSnapshot root snapshot := by
  obtain ⟨before, after, hsplit, -⟩ := List.lookup_eq_some_iff.mp h
  have hmem : (slug, snapshot) ∈ currentSnapshots (synced.listLatestSnapshots none) := by
    rw [hsplit]
    exact List.mem_append_right _ List.mem_cons_self
  obtain ⟨row, hrow, hentry⟩ := List.mem_filterMap.mp hmem
  obtain ⟨hroot, hsnapshot, hcurrent⟩ := mem_listLatestSnapshots hrow
  split at hentry
  · next hflag =>
      obtain ⟨found, hfound, hpair⟩ := Option.map_eq_some_iff.mp hentry
      cases hpair
      rw [hcurrent, hfound, Option.any_some] at hflag
      rw [hfound] at hsnapshot
      exact ⟨row.root, hroot, rfl, isCurrentSnapshot_of_latestCommitted hsnapshot.symm hflag⟩
  · cases hentry

/-- What is known of a snapshot state that is ready. -/
structure ReadyState (db synced : CatalogDb) (slugs : List PyStr) (startedAt : Option Instant) :
    Prop where
  valid : RootsValid synced
  snapshots : synced.scanSnapshot = db.scanSnapshot
  files : synced.fileRecord = db.fileRecord
  current : ∀ slug ∈ slugs, ∃ root ∈ synced.storageRoot.rows, root.slug = slug ∧
    ∃ snapshot, synced.IsCurrentSnapshot root snapshot
  window : ∀ time, rowWithinSnapshotWindow startedAt time = true ↔ synced.BeforeWindow slugs time

/-- The current snapshots of the effective roots are those the window is computed from. -/
theorem mem_current_iff (hvalid : RootsValid synced) {slugs : List PyStr}
    (hfound : ∀ slug ∈ slugs,
      ((currentSnapshots (synced.listLatestSnapshots none)).lookup slug).isSome = true) :
    snapshot ∈ slugs.filterMap
        (fun slug => (currentSnapshots (synced.listLatestSnapshots none)).lookup slug) ↔
      ∃ root ∈ synced.storageRoot.rows, root.slug ∈ slugs ∧
        synced.IsCurrentSnapshot root snapshot := by
  rw [List.mem_filterMap]
  constructor
  · rintro ⟨slug, hslug, hlookup⟩
    obtain ⟨root, hroot, rfl, hcurrent⟩ := isCurrentSnapshot_of_lookup hlookup
    exact ⟨root, hroot, hslug, hcurrent⟩
  · rintro ⟨root, hroot, hslug, hcurrent⟩
    obtain ⟨found, hlookup⟩ := Option.isSome_iff_exists.mp (hfound root.slug hslug)
    obtain ⟨other, hother, hotherSlug, hotherCurrent⟩ := isCurrentSnapshot_of_lookup hlookup
    have hsame : other = root := synced.storageRoot.eq_of_key_eq hother hroot hotherSlug
    subst hsame
    rw [← hvalid.latestCurrent_eq_some_iff] at hcurrent hotherCurrent
    have hfoundEq : found = snapshot := Option.some.inj (hotherCurrent.symm.trans hcurrent)
    exact ⟨other.slug, hslug, hfoundEq ▸ hlookup⟩

theorem rowWithinSnapshotWindow_min? {starts : List Instant} {time : Option Instant} :
    rowWithinSnapshotWindow starts.min? time = true ↔
      ∀ t, time = some t → ∀ start ∈ starts, t ≤ start := by
  cases hmin : starts.min? with
  | none =>
      rw [List.min?_eq_none_iff] at hmin
      simp [rowWithinSnapshotWindow, hmin]
  | some cutoff =>
      simp only [rowWithinSnapshotWindow, Option.all_eq_true, decide_eq_true_eq]
      exact forall₂_congr fun t _ => List.le_min?_iff hmin

theorem readyState (hvalid : RootsValid db)
    (hprepare : prepareSnapshotState resolvePath settings times db = some (synced, state))
    (hready : state.ready = true) :
    ReadyState db synced ((CatalogRootRegistry.scanRoots resolvePath settings).map (·.slug))
      state.comparisonWindowStartedAt := by
  obtain ⟨other, hsync, hstate⟩ := Option.bind_eq_some_iff.mp hprepare
  cases hstate
  obtain ⟨hsynced, hsnapshots, hfiles⟩ := sync_spec hvalid hsync
  simp only [Bool.and_eq_true, List.isEmpty_iff] at hready
  obtain ⟨hmissing, hstale⟩ := hready
  have hfound : ∀ slug ∈ (CatalogRootRegistry.scanRoots resolvePath settings).map (·.slug),
      ((currentSnapshots (synced.listLatestSnapshots none)).lookup slug).isSome = true := by
    intro slug hslug
    cases hlookup : (currentSnapshots (synced.listLatestSnapshots none)).lookup slug with
    | some snapshot => rfl
    | none =>
        have hin : slug ∈ ([] : List PyStr) := by
          rw [← hmissing, List.mem_filter, hstale, hlookup]
          exact ⟨hslug, rfl⟩
        cases hin
  refine ⟨hsynced, hsnapshots, hfiles, ?_, ?_⟩
  · intro slug hslug
    obtain ⟨snapshot, hlookup⟩ := Option.isSome_iff_exists.mp (hfound slug hslug)
    obtain ⟨root, hroot, hrootSlug, hcurrent⟩ := isCurrentSnapshot_of_lookup hlookup
    exact ⟨root, hroot, hrootSlug, snapshot, hcurrent⟩
  · intro time
    rw [rowWithinSnapshotWindow_min?]
    refine forall₂_congr fun t _ => ?_
    rw [List.forall_mem_map]
    constructor
    · intro h root hroot hslug snapshot hcurrent
      exact h snapshot ((mem_current_iff hsynced hfound).mpr ⟨root, hroot, hslug, hcurrent⟩)
    · intro h snapshot hmem
      obtain ⟨root, hroot, hslug, hcurrent⟩ := (mem_current_iff hsynced hfound).mp hmem
      exact h root hroot hslug snapshot hcurrent

end Window

end ImmichDoctor.Catalog
