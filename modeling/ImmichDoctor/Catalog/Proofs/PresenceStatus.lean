import ImmichDoctor.Catalog.Proofs.CurrentSnapshots
import ImmichDoctor.Catalog.Proofs.SessionSnapshots
import ImmichDoctor.Catalog.Proofs.SnapshotImmutability
import ImmichDoctor.Catalog.SessionCreation
/-!
# Presence and listing

A commit writes `presence_status` against the snapshot it commits, the listing goes by the
highest generation. They agree when these are one snapshot, or when neither has files. Calls
of `create_scan_session` interleave, so two snapshots of a root may share a generation.
-/

namespace ImmichDoctor.Catalog

open ImmichDoctor.Library

/-- The same catalog, its snapshots read in another order: SQL leaves open which of several
rows of the highest generation comes first. -/
def CatalogDb.Reordered (db stored : CatalogDb) : Prop :=
  ∃ scanSnapshot : Table ScanSnapshot ScanSnapshot.id,
    scanSnapshot.rows.Perm db.scanSnapshot.rows ∧ stored = { db with scanSnapshot }

variable {db db' : CatalogDb} {root : StorageRoot} {latest : ScanSnapshot} {file : FileRecord}
  {session : ScanSession} {sessionId : SessionId} {now : Instant}

/-- What the roots and the sessions satisfy whatever generations were read. -/
structure SessionsOwned (s : CatalogState) : Prop where
  ids : ∀ a ∈ s.db.storageRoot.rows, ∀ b ∈ s.db.storageRoot.rows, a.id = b.id → a = b
  configured : ∀ root ∈ s.db.storageRoot.rows, root.updatedAt ≤ s.clock
  snapshot : ∀ session ∈ s.db.scanSession.rows, ∃ snapshot, OwnSnapshot s.db session snapshot

theorem ownSnapshot_insertScanSession {startedAt : Instant} {storageRootId generation : Nat}
    {maxFiles : Option Int}
    (hs : ∀ session ∈ db.scanSession.rows, ∃ snapshot, OwnSnapshot db session snapshot)
    (h : db.insertScanSession startedAt sessionId storageRootId maxFiles generation = some db') :
    db'.storageRoot = db.storageRoot ∧
      ∀ session ∈ db'.scanSession.rows, ∃ snapshot, OwnSnapshot db' session snapshot := by
  simp only [CatalogDb.insertScanSession, Option.bind_eq_bind, Option.bind_eq_some_iff] at h
  obtain ⟨_, _, snapshots, hsnapshots, sessions, hsessions, queue, _, hdb⟩ := h
  cases hdb
  refine ⟨rfl, fun session hsession => ?_⟩
  rw [(Table.rows_of_insert? hsessions).1, List.mem_append, List.mem_singleton] at hsession
  rcases hsession with hold | rfl
  · obtain ⟨snapshot, hmem, hid, hof⟩ := hs session hold
    refine ⟨snapshot, ?_, hid, hof⟩
    rw [(Table.rows_of_insert? hsnapshots).1]
    exact List.mem_append_left _ hmem
  · exact ⟨_, Table.mem_of_insert? hsnapshots, rfl, rfl⟩

theorem SessionsOwned.step {s t : SharedCatalog} {label : Instant × CallerEvent}
    (h : SessionsOwned s.catalog) (hstep : s.step label = some t) : SessionsOwned t.catalog := by
  obtain ⟨now, event⟩ := label
  cases event with
  | readGeneration caller sessionId storageRootId maxFiles =>
      simp only [SharedCatalog.step] at hstep
      split at hstep
      · next hready =>
          cases hstep
          exact ⟨h.ids, fun root hroot => (h.configured root hroot).trans hready.1, h.snapshot⟩
      · cases hstep
  | insertSession caller =>
      simp only [SharedCatalog.step, Option.bind_eq_bind, Option.bind_eq_some_iff] at hstep
      obtain ⟨call, -, hstep⟩ := hstep
      split at hstep
      · next hclock =>
          obtain ⟨db, hdb, hstep⟩ := Option.bind_eq_some_iff.mp hstep
          cases hstep
          obtain ⟨hroots, hsnapshots⟩ := ownSnapshot_insertScanSession h.snapshot hdb
          exact ⟨hroots.symm ▸ h.ids,
            fun root hroot => (h.configured root (hroots ▸ hroot)).trans hclock, hsnapshots⟩
      · cases hstep
  | abandon caller =>
      cases hstep
      exact h
  | store op =>
      cases op with
      | createScanSession => cases hstep
      | _ =>
          obtain ⟨next, hnext, hstep⟩ := Option.bind_eq_some_iff.mp hstep
          cases hstep
          obtain ⟨hids, hconfigured⟩ := CatalogState.roots_step h.ids h.configured hnext
          exact ⟨hids, hconfigured,
            ownSnapshot_run h.snapshot (CatalogState.step_eq_some_iff.mp hnext).2.1⟩

section Newest

variable {stored : CatalogDb} {newest : ScanSnapshot}

theorem CatalogDb.Reordered.refl (db : CatalogDb) : db.Reordered db :=
  ⟨db.scanSnapshot, List.Perm.refl _, rfl⟩

end Newest

/-! ## Right after a commit -/

end ImmichDoctor.Catalog
