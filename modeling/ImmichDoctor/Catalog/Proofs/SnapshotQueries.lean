import ImmichDoctor.Catalog.Proofs.CurrentSnapshots
import ImmichDoctor.Catalog.Proofs.SnapshotGenerations
import ImmichDoctor.Catalog.Proofs.SnapshotImmutability
/-!
# The snapshot queries

`list_latest_snapshots` takes the highest committed generation and tests whether it is
current; the file queries take the highest generation among the current ones. They name the
same snapshot as long as the sessions of a root are committed in the order of their
generations.
-/

namespace ImmichDoctor.Catalog

open ImmichDoctor.Library

/-- A session is committed only if its snapshot has a higher generation than every other
committed snapshot of the root. -/
def CommitsInOrder (s : SharedCatalog) : Instant × CallerEvent → Prop
  | (_, .store (.commitScanSession sessionId)) => ∀ session,
      s.catalog.db.getScanSession sessionId = some session →
      ∀ own ∈ s.catalog.db.scanSnapshot.rows, own.id = session.snapshotId →
      ∀ other ∈ s.catalog.db.scanSnapshot.rows, other.storageRootId = own.storageRootId →
        other.status = .committed → other.id ≠ own.id → other.generation < own.generation
  | _ => True

/-- The committed snapshots of a root were committed in the order of their generations. -/
structure CommittedInOrder (s : CatalogState) : Prop where
  ids : ∀ a ∈ s.db.storageRoot.rows, ∀ b ∈ s.db.storageRoot.rows, a.id = b.id → a = b
  enabled : ∀ root ∈ s.db.storageRoot.rows, root.enabled = true
  committed : ∀ snapshot ∈ s.db.scanSnapshot.rows, snapshot.status = .committed →
    ∃ time ≤ s.clock, snapshot.committedAt = some time
  distinct : ∀ a ∈ s.db.scanSnapshot.rows, ∀ b ∈ s.db.scanSnapshot.rows,
    a.status = .committed → b.status = .committed → a.storageRootId = b.storageRootId →
    a.generation = b.generation → a = b
  ordered : ∀ a ∈ s.db.scanSnapshot.rows, ∀ b ∈ s.db.scanSnapshot.rows,
    a.status = .committed → b.status = .committed → a.storageRootId = b.storageRootId →
    a.generation ≤ b.generation →
    ∀ first ∈ a.committedAt, ∀ second ∈ b.committedAt, first ≤ second

/-! ## Queries of a state in order -/

section Queries

variable {s : CatalogState} {root : StorageRoot}

/-- The current snapshot is the latest one, when that is current. -/
theorem CommittedInOrder.latestCurrent_eq (h : CommittedInOrder s) (root : StorageRoot) :
    s.db.latestCurrent root = (s.db.latestCommitted root).filter fun snapshot =>
      CatalogDb.committedSince snapshot root.updatedAt := by
  have hcurrent : ∀ snapshot, s.db.latestCurrent root = some snapshot ↔
      s.db.IsCurrentSnapshot root snapshot := by
    intro snapshot
    unfold CatalogDb.latestCurrent
    rw [firstBy_newest_iff]
    · simp only [CatalogDb.IsCurrentSnapshot, CatalogDb.CommittedFor, Bool.and_eq_true,
        decide_eq_true_eq, and_assoc, and_imp]
    · intro a ha b hb hpa hpb hgeneration
      simp only [Bool.and_eq_true, decide_eq_true_eq] at hpa hpb
      exact h.distinct a ha b hb hpa.1.2 hpb.1.2 (hpa.1.1.trans hpb.1.1.symm) hgeneration
  refine Option.ext fun snapshot => ?_
  rw [hcurrent, Option.filter_eq_some_iff]
  constructor
  · rintro ⟨⟨hmem, hof, hstatus, hsince⟩, hnewest⟩
    cases hlatest : s.db.latestCommitted root with
    | none =>
        have hnil := firstBy_eq_none_iff.mp hlatest
        have hin := List.filter_eq_nil_iff.mp hnil snapshot hmem
        simp [hof, hstatus] at hin
    | some latest =>
        obtain ⟨hmemLatest, hwhere⟩ := List.mem_filter.mp (firstBy_mem hlatest)
        simp only [Bool.and_eq_true, decide_eq_true_eq] at hwhere
        have hle : snapshot.generation ≤ latest.generation := by
          refine firstBy_le CatalogDb.newerGeneration_total CatalogDb.newerGeneration_trans
            hlatest (List.mem_filter.mpr ⟨hmem, ?_⟩)
          simp [hof, hstatus]
        -- the latest one was committed no earlier, so it is current as well
        have hlatestSince : CatalogDb.committedSince latest root.updatedAt = true := by
          obtain ⟨time, htime, hupdated⟩ := (Option.any_eq_true ..).mp hsince
          obtain ⟨later, -, hlater⟩ := h.committed latest hmemLatest hwhere.2
          have hordered := h.ordered snapshot hmem latest hmemLatest hstatus hwhere.2
            (hof.trans hwhere.1.symm) hle time htime later hlater
          rw [CatalogDb.committedSince, hlater, Option.any_some]
          exact decide_eq_true ((of_decide_eq_true hupdated).trans hordered)
        have hback := hnewest latest ⟨hmemLatest, hwhere.1, hwhere.2, hlatestSince⟩
        rw [h.distinct snapshot hmem latest hmemLatest hstatus hwhere.2
          (hof.trans hwhere.1.symm) (Nat.le_antisymm hle hback)]
        exact ⟨rfl, hlatestSince⟩
  · rintro ⟨hlatest, hsince⟩
    exact isCurrentSnapshot_of_latestCommitted hlatest hsince

end Queries

/-! ## Steps -/

section Steps

variable {s t : CatalogState} {now : Instant}

/-- The roots stay, and what is committed was committed before. -/
theorem CommittedInOrder.of_subset (h : CommittedInOrder s) (hclock : s.clock ≤ t.clock)
    (hids : ∀ a ∈ t.db.storageRoot.rows, ∀ b ∈ t.db.storageRoot.rows, a.id = b.id → a = b)
    (henabled : ∀ root ∈ t.db.storageRoot.rows, root.enabled = true)
    (hold : ∀ snapshot ∈ t.db.scanSnapshot.rows, snapshot.status = .committed →
      snapshot ∈ s.db.scanSnapshot.rows) : CommittedInOrder t where
  ids := hids
  enabled := henabled
  committed := by
    intro snapshot hmem hstatus
    obtain ⟨time, htime, hat⟩ := h.committed snapshot (hold snapshot hmem hstatus) hstatus
    exact ⟨time, htime.trans hclock, hat⟩
  distinct := fun a ha b hb hsa hsb =>
    h.distinct a (hold a ha hsa) b (hold b hb hsb) hsa hsb
  ordered := fun a ha b hb hsa hsb =>
    h.ordered a (hold a ha hsa) b (hold b hb hsb) hsa hsb

/-- A commit that is in order. -/
theorem CommittedInOrder.commit (h : CommittedInOrder s) (hclock : s.clock ≤ now)
    {session : ScanSession} {db : CatalogDb}
    (hrows : db.scanSnapshot.rows = s.db.scanSnapshot.rows.map fun snapshot =>
      if snapshot.id = session.snapshotId then
        CatalogDb.commitSnapshot now session.filesSeen
          (s.db.zeroByteCount session.storageRootId session.snapshotId) snapshot
      else snapshot)
    (hroots : db.storageRoot = s.db.storageRoot)
    (hok : ∀ own ∈ s.db.scanSnapshot.rows, own.id = session.snapshotId →
      ∀ other ∈ s.db.scanSnapshot.rows, other.storageRootId = own.storageRootId →
        other.status = .committed → other.id ≠ own.id → other.generation < own.generation) :
    CommittedInOrder ⟨db, now⟩ := by
  -- a snapshot is the one that is committed now, or was there
  have hcases : ∀ snapshot ∈ db.scanSnapshot.rows,
      (∃ own ∈ s.db.scanSnapshot.rows, own.id = session.snapshotId ∧ snapshot.id = own.id ∧
        snapshot.storageRootId = own.storageRootId ∧ snapshot.generation = own.generation ∧
        snapshot.committedAt = some now) ∨
      (snapshot ∈ s.db.scanSnapshot.rows ∧ snapshot.id ≠ session.snapshotId) := by
    intro snapshot hmem
    rw [hrows] at hmem
    obtain ⟨old, hold, rfl⟩ := List.mem_map.mp hmem
    split
    · next hown => exact .inl ⟨old, hold, hown, rfl, rfl, rfl, rfl⟩
    · next hother => exact .inr ⟨hold, hother⟩
  have hbelow : ∀ a ∈ s.db.scanSnapshot.rows, a.id ≠ session.snapshotId → a.status = .committed →
      ∀ own ∈ s.db.scanSnapshot.rows, own.id = session.snapshotId →
      a.storageRootId = own.storageRootId → a.generation < own.generation :=
    fun a ha hne hstatus own hown hid hroot =>
      hok own hown hid a ha hroot hstatus (hid ▸ hne)
  constructor
  · exact fun a ha b hb => h.ids a (hroots ▸ ha) b (hroots ▸ hb)
  · exact fun root hroot => h.enabled root (hroots ▸ hroot)
  · intro snapshot hmem hstatus
    rcases hcases snapshot hmem with ⟨own, -, -, -, -, -, hat⟩ | ⟨hold, -⟩
    · exact ⟨now, le_refl now, hat⟩
    · obtain ⟨time, htime, hat⟩ := h.committed snapshot hold hstatus
      exact ⟨time, htime.trans hclock, hat⟩
  · intro a ha b hb hsa hsb hroot hgeneration
    rcases hcases a ha with ⟨owna, howna, hida, haid, haroot, hagen, -⟩ | ⟨holda, hnea⟩
    · rcases hcases b hb with ⟨ownb, hownb, hidb, hbid, -, -, -⟩ | ⟨holdb, hneb⟩
      · apply db.scanSnapshot.eq_of_key_eq ha hb
        rw [haid, hbid, hida, hidb]
      · have hlt := hbelow b holdb hneb hsb owna howna hida (hroot.symm.trans haroot)
        omega
    · rcases hcases b hb with ⟨ownb, hownb, hidb, hbid, hbroot, hbgen, -⟩ | ⟨holdb, -⟩
      · have hlt := hbelow a holda hnea hsa ownb hownb hidb (hroot.trans hbroot)
        omega
      · exact h.distinct a holda b holdb hsa hsb hroot hgeneration
  · intro a ha b hb hsa hsb hroot hgeneration first hfirst second hsecond
    rcases hcases a ha with ⟨owna, howna, hida, haid, haroot, hagen, haat⟩ | ⟨holda, hnea⟩
    · rcases hcases b hb with ⟨ownb, hownb, hidb, hbid, -, -, hbat⟩ | ⟨holdb, hneb⟩
      · rw [haat] at hfirst
        rw [hbat] at hsecond
        cases hfirst
        cases hsecond
        exact le_refl now
      · have hlt := hbelow b holdb hneb hsb owna howna hida (hroot.symm.trans haroot)
        omega
    · rcases hcases b hb with ⟨-, -, -, -, -, -, hbat⟩ | ⟨holdb, -⟩
      · rw [hbat] at hsecond
        cases hsecond
        obtain ⟨time, htime, hat⟩ := h.committed a holda hsa
        rw [hat] at hfirst
        cases hfirst
        exact htime.trans hclock
      · exact h.ordered a holda b holdb hsa hsb hroot hgeneration first hfirst second hsecond

/-- A method of the store, when a commit among them is in order. -/
theorem CommittedInOrder.run {shared : SharedCatalog} (h : CommittedInOrder shared.catalog)
    {op : StoreOp} (hok : CommitsInOrder shared (now, .store op))
    (hstep : shared.catalog.step (now, op) = some t) : CommittedInOrder t := by
  obtain ⟨hclock, hrun, hnow⟩ := CatalogState.step_eq_some_iff.mp hstep
  have hroots : (∀ a ∈ t.db.storageRoot.rows, ∀ b ∈ t.db.storageRoot.rows, a.id = b.id → a = b) ∧
      ∀ root ∈ t.db.storageRoot.rows, root.enabled = true := by
    by_cases hscan : op.isScan = true
    · rw [storageRoot_run hscan hrun]
      exact ⟨h.ids, h.enabled⟩
    · cases op with
      | upsertStorageRoot root =>
          exact ⟨CatalogState.root_ids_upsertStorageRoot h.ids hrun,
            enabled_upsertStorageRoot h.enabled hrun⟩
      | _ => exact absurd rfl hscan
  have hlater : shared.catalog.clock ≤ t.clock := hnow ▸ hclock
  rcases scanSnapshot_run hrun with hsame | ⟨fresh, hrows, -, hrunning, -⟩ | ⟨f, hf, hrows⟩
  · exact h.of_subset hlater hroots.1 hroots.2 fun snapshot hmem _ => hsame ▸ hmem
  · refine h.of_subset hlater hroots.1 hroots.2 fun snapshot hmem hstatus => ?_
    rw [hrows, List.mem_append, List.mem_singleton] at hmem
    rcases hmem with hold | rfl
    · exact hold
    · rw [hrunning] at hstatus
      cases hstatus
  · cases hf with
    | failed hsession =>
        refine h.of_subset hlater hroots.1 hroots.2 fun snapshot hmem hstatus => ?_
        rw [hrows] at hmem
        obtain ⟨old, hold, rfl⟩ := List.mem_map.mp hmem
        split at hstatus
        · cases hstatus
        · next hother =>
            rw [if_neg hother]
            exact hold
    | committed hsession =>
        have hroot := storageRoot_run rfl hrun
        obtain ⟨db, clock⟩ := t
        cases hnow
        exact h.commit hclock hrows hroot (hok _ hsession)

end Steps

/-! ## Runs -/

section Runs

variable {s t : SharedCatalog} {label : Instant × CallerEvent}

theorem CommittedInOrder.step (h : CommittedInOrder s.catalog) (hok : CommitsInOrder s label)
    (hstep : s.step label = some t) : CommittedInOrder t.catalog := by
  obtain ⟨now, event⟩ := label
  cases event with
  | readGeneration caller sessionId storageRootId maxFiles =>
      simp only [SharedCatalog.step] at hstep
      split at hstep
      · next hready =>
          cases hstep
          exact h.of_subset hready.1 h.ids h.enabled fun snapshot hmem _ => hmem
      · cases hstep
  | insertSession caller =>
      simp only [SharedCatalog.step, Option.bind_eq_bind, Option.bind_eq_some_iff] at hstep
      obtain ⟨call, -, hstep⟩ := hstep
      split at hstep
      · next hclock =>
          obtain ⟨db, hdb, hstep⟩ := Option.bind_eq_some_iff.mp hstep
          cases hstep
          obtain ⟨hroots, -, snapshot, -, -, hrunning, hrows⟩ := rows_insertScanSession hdb
          refine h.of_subset hclock (hroots.symm ▸ h.ids) (hroots.symm ▸ h.enabled)
            fun other hmem hstatus => ?_
          change other ∈ db.scanSnapshot.rows at hmem
          rw [hrows, List.mem_append, List.mem_singleton] at hmem
          rcases hmem with hold | rfl
          · exact hold
          · rw [hrunning] at hstatus
            cases hstatus
      · cases hstep
  | abandon caller =>
      cases hstep
      exact h
  | store op =>
      cases op with
      | createScanSession => cases hstep
      | _ =>
          obtain ⟨next, hnext, hstep⟩ := Option.bind_eq_some_iff.mp hstep
          cases hstep
          exact h.run hok hnext

end Runs

/-! ## An older session committed after its root was moved -/

end ImmichDoctor.Catalog
