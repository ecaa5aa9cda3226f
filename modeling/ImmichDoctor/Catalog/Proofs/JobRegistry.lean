import ImmichDoctor.Catalog.Proofs.RegistrySync
/-!
# The registry under a job

Before each root a job writes all configured roots. Whether that succeeds is decided by the
registry the job starts on: once the roots have been written they can be written again, and
the row of each keeps its id.
-/

namespace ImmichDoctor.Catalog

open ImmichDoctor.Library

/-- The roots can be written to the registry, one after the other. -/
structure Syncable (roots : List CatalogRootSpec) (db : CatalogDb) : Prop where
  paths : (roots.map (·.path)).Nodup
  bindable : ∀ root ∈ roots, root.bindable = true
  /-- A path that is taken is that of the root itself, or of one that is written before it. -/
  free : ∀ old ∈ db.storageRoot.rows, ∀ root ∈ roots, old.absolutePath = root.path →
    old.slug = root.slug ∨ old.slug ∈ roots.map (·.slug) ∧ old.slug < root.slug

/-- The roots have been written, and nothing else has one of their paths. -/
structure Settled (written : List CatalogRootSpec) (db : CatalogDb) : Prop where
  registered : ∀ root ∈ written, ∃ row ∈ db.storageRoot.rows, row.spec = root
  alone : ∀ root ∈ written, ∀ row ∈ db.storageRoot.rows, row.absolutePath = root.path →
    row.slug = root.slug

/-- The row of the root has the id. -/
def CatalogDb.Registers (db : CatalogDb) (root : CatalogRootSpec) (id : Nat) : Prop :=
  ∃ row ∈ db.storageRoot.rows, row.spec = root ∧ row.id = id

section Roots

variable {db next : CatalogDb} {now : Instant} {times : PyStr → Instant} {root : CatalogRootSpec}
  {roots rest written : List CatalogRootSpec} {id : Nat}

/-- Roots in the order of their slugs have different slugs. -/
theorem spec_eq_of_slug_eq (hsorted : roots.Pairwise fun a b => a.slug < b.slug)
    {a b : CatalogRootSpec} (ha : a ∈ roots) (hb : b ∈ roots) (hslug : a.slug = b.slug) :
    a = b := by
  have hnodup : (roots.map (·.slug)).Nodup :=
    List.pairwise_map.mpr (hsorted.imp fun hlt => hlt.ne)
  exact List.inj_on_of_nodup_map hnodup ha hb hslug

/-! ## Whether the roots can be written -/

/-- A row that is not written again keeps its path to itself. -/
theorem path_ne_of_upsertRoots (hrun : (upsertRoots times roots db).isSome = true)
    {old : StorageRoot} (hold : old ∈ db.storageRoot.rows) (hslug : old.slug ∉ roots.map (·.slug)) :
    ∀ root ∈ roots, old.absolutePath ≠ root.path := by
  induction roots generalizing db old with
  | nil => exact nofun
  | cons root rest ih =>
      obtain ⟨db', hrun⟩ := Option.isSome_iff_exists.mp hrun
      obtain ⟨next, hnext, hrest⟩ := upsertRoots_cons_eq_some hrun
      rw [List.map_cons, List.mem_cons, not_or] at hslug
      refine List.forall_mem_cons.mpr ⟨fun hpath => ?_, fun other hother hpath => ?_⟩
      · have hfree :=
          (upsertStorageRoot_isSome_iff.mp (Option.isSome_iff_exists.mpr ⟨next, hnext⟩)).2
        exact hslug.1 (hfree old hold hpath)
      · obtain ⟨row, hrow, hspec⟩ := (exists_spec_upsertStorageRoot hnext old.spec).mpr
          (.inr ⟨hslug.1, old, hold, rfl⟩)
        have hrowSlug : row.slug = old.slug := congrArg CatalogRootSpec.slug hspec
        have hrowPath : row.absolutePath = old.absolutePath := congrArg CatalogRootSpec.path hspec
        exact ih (Option.isSome_iff_exists.mpr ⟨db', hrest⟩) hrow (hrowSlug ▸ hslug.2) other hother
          (hrowPath.trans hpath)

/-- Roots that were written have different paths. -/
theorem nodup_path_of_upsertRoots (hsorted : roots.Pairwise fun a b => a.slug < b.slug)
    (hrun : (upsertRoots times roots db).isSome = true) : (roots.map (·.path)).Nodup := by
  induction roots generalizing db with
  | nil => exact List.nodup_nil
  | cons root rest ih =>
      obtain ⟨hfirst, hsorted⟩ := List.pairwise_cons.mp hsorted
      obtain ⟨db', hrun⟩ := Option.isSome_iff_exists.mp hrun
      obtain ⟨next, hnext, hrest⟩ := upsertRoots_cons_eq_some hrun
      have hrest : (upsertRoots times rest next).isSome = true :=
        Option.isSome_iff_exists.mpr ⟨db', hrest⟩
      rw [List.map_cons, List.nodup_cons]
      refine ⟨fun hmem => ?_, ih hsorted hrest⟩
      obtain ⟨other, hother, hpath⟩ := List.mem_map.mp hmem
      obtain ⟨row, hrow, hspec⟩ := (exists_spec_upsertStorageRoot hnext root).mpr (.inl rfl)
      have hrowSlug : row.slug = root.slug := congrArg CatalogRootSpec.slug hspec
      have hrowPath : row.absolutePath = root.path := congrArg CatalogRootSpec.path hspec
      refine path_ne_of_upsertRoots hrest hrow ?_ other hother (hrowPath.trans hpath.symm)
      intro hslug
      obtain ⟨later, hlater, hsame⟩ := List.mem_map.mp hslug
      exact (hfirst later hlater).ne (hrowSlug.symm.trans hsame.symm)

theorem syncable_iff (hsorted : roots.Pairwise fun a b => a.slug < b.slug)
    (times : PyStr → Instant) : Syncable roots db ↔ (upsertRoots times roots db).isSome = true := by
  constructor
  · intro h
    exact (upsertRoots_isSome_iff hsorted h.paths db).mpr ⟨h.bindable, h.free⟩
  · intro hrun
    have hpaths := nodup_path_of_upsertRoots hsorted hrun
    obtain ⟨hbindable, hfree⟩ := (upsertRoots_isSome_iff hsorted hpaths db).mp hrun
    exact ⟨hpaths, hbindable, hfree⟩

/-- What is left can be written after the first root exactly when all could be before it. -/
theorem syncable_cons_iff (hsorted : (root :: rest).Pairwise fun a b => a.slug < b.slug)
    (hrun : db.upsertStorageRoot now root = some next) :
    Syncable (root :: rest) db ↔ Syncable rest next := by
  rw [syncable_iff hsorted fun _ => now, syncable_iff hsorted.of_cons fun _ => now]
  unfold upsertRoots
  rw [List.foldlM_cons, hrun]
  rfl

theorem not_syncable_of_refused (hsorted : (root :: rest).Pairwise fun a b => a.slug < b.slug)
    (hrun : db.upsertStorageRoot now root = none) : ¬ Syncable (root :: rest) db := by
  rw [syncable_iff hsorted fun _ => now]
  unfold upsertRoots
  rw [List.foldlM_cons, hrun]
  exact Bool.false_ne_true

/-! ## What has been written -/

theorem Settled.upsert (h : Settled written db) (hnew : root.slug ∉ written.map (·.slug))
    (hrun : db.upsertStorageRoot now root = some next) : Settled (written ++ [root]) next := by
  have hslug : ∀ old ∈ written, old.slug ≠ root.slug := by
    intro old hold hsame
    exact hnew (hsame ▸ List.mem_map_of_mem hold)
  have hfree := (upsertStorageRoot_isSome_iff.mp (Option.isSome_iff_exists.mpr ⟨next, hrun⟩)).2
  constructor
  · intro other hother
    rw [exists_spec_upsertStorageRoot hrun]
    rcases List.mem_append.mp hother with hold | hlast
    · exact .inr ⟨hslug other hold, h.registered other hold⟩
    · exact .inl (List.mem_singleton.mp hlast)
  · intro other hother row hrow hpath
    rcases (exists_spec_upsertStorageRoot hrun row.spec).mp ⟨row, hrow, rfl⟩ with
      hspec | ⟨hrowSlug, old, hold, hspec⟩
    · have hrowSlug : row.slug = root.slug := congrArg CatalogRootSpec.slug hspec
      have hrowPath : row.absolutePath = root.path := congrArg CatalogRootSpec.path hspec
      rcases List.mem_append.mp hother with hold | hlast
      · -- the path is that of a root written before, whose row would have refused this one
        obtain ⟨taken, htaken, rfl⟩ := h.registered other hold
        exact absurd (hfree taken htaken (hpath.symm.trans hrowPath)) (hslug _ hold)
      · rw [List.mem_singleton.mp hlast]
        exact hrowSlug
    · have holdSlug : old.slug = row.slug := congrArg CatalogRootSpec.slug hspec
      have holdPath : old.absolutePath = row.absolutePath := congrArg CatalogRootSpec.path hspec
      rcases List.mem_append.mp hother with hmem | hlast
      · exact holdSlug.symm.trans (h.alone other hmem old hold (holdPath.trans hpath))
      · rw [List.mem_singleton.mp hlast] at hpath ⊢
        exact holdSlug.symm.trans (hfree old hold (holdPath.trans hpath))

/-- Roots that have been written can be written again. -/
theorem Settled.syncable (h : Settled roots db) (hpaths : (roots.map (·.path)).Nodup)
    (hbindable : ∀ root ∈ roots, root.bindable = true) : Syncable roots db :=
  ⟨hpaths, hbindable, fun old hold root hroot hpath => .inl (h.alone root hroot old hold hpath)⟩

/-- A row keeps its id when its root is written again, or another root is. -/
theorem CatalogDb.Registers.upsert {other : CatalogRootSpec} (h : db.Registers root id)
    (hother : other.slug = root.slug → other = root)
    (hrun : db.upsertStorageRoot now other = some next) : next.Registers root id := by
  obtain ⟨row, hrow, rfl, rfl⟩ := h
  unfold CatalogDb.upsertStorageRoot at hrun
  split at hrun
  · cases hrun
  cases hrun
  by_cases hslug : row.slug = other.slug
  · refine ⟨_, Table.mem_upsert.mpr (.inr (.inl ⟨row, hrow, hslug, rfl⟩)), ?_, rfl⟩
    rw [← hother hslug.symm]
    simp only [StorageRoot.spec, CatalogDb.mergeStorageRoot, hslug]
  · exact ⟨row, Table.mem_upsert.mpr (.inl ⟨hrow, hslug⟩), rfl, rfl⟩

theorem CatalogDb.Registers.unique {a b : CatalogRootSpec}
    (hids : ∀ x ∈ db.storageRoot.rows, ∀ y ∈ db.storageRoot.rows, x.id = y.id → x = y)
    (ha : db.Registers a id) (hb : db.Registers b id) : a = b := by
  obtain ⟨x, hx, rfl, hxid⟩ := ha
  obtain ⟨y, hy, rfl, hyid⟩ := hb
  rw [hids x hx y hy (hxid.trans hyid.symm)]

end Roots

/-! ## The registry while a job runs -/

/-- The registry of a job that started on `base` and has still to write some roots. -/
structure RegistryAt (base : CatalogDb) (config unsynced : List CatalogRootSpec) (db : CatalogDb) :
    Prop where
  ids : ∀ a ∈ db.storageRoot.rows, ∀ b ∈ db.storageRoot.rows, a.id = b.id → a = b
  enabled : ∀ row ∈ db.storageRoot.rows, row.enabled = true
  written : ∃ written, config = written ++ unsynced ∧ Settled written db
  syncable : Syncable unsynced db ↔ Syncable config base

namespace RegistryAt

variable {base db db' : CatalogDb} {config rest unsynced : List CatalogRootSpec}
  {root : CatalogRootSpec} {now : Instant}

theorem start (hids : ∀ a ∈ base.storageRoot.rows, ∀ b ∈ base.storageRoot.rows, a.id = b.id → a = b)
    (henabled : ∀ row ∈ base.storageRoot.rows, row.enabled = true) :
    RegistryAt base config config base :=
  ⟨hids, henabled, ⟨[], rfl, nofun, nofun⟩, Iff.rfl⟩

theorem same (h : RegistryAt base config unsynced db) (hroots : db'.storageRoot = db.storageRoot) :
    RegistryAt base config unsynced db' where
  ids := by rw [hroots]; exact h.ids
  enabled := by rw [hroots]; exact h.enabled
  written := by
    obtain ⟨written, hconfig, hsettled⟩ := h.written
    refine ⟨written, hconfig, ?_, ?_⟩
    · rw [hroots]
      exact hsettled.registered
    · rw [hroots]
      exact hsettled.alone
  syncable := by
    rw [← h.syncable]
    exact ⟨fun h => ⟨h.paths, h.bindable, hroots ▸ h.free⟩,
      fun h => ⟨h.paths, h.bindable, hroots ▸ h.free⟩⟩

/-- The roots left are those of the end of the configuration. -/
theorem sorted (hsorted : config.Pairwise fun a b => a.slug < b.slug)
    (h : RegistryAt base config unsynced db) : unsynced.Pairwise fun a b => a.slug < b.slug := by
  obtain ⟨written, hconfig, -⟩ := h.written
  rw [hconfig] at hsorted
  exact (List.pairwise_append.mp hsorted).2.1

theorem upsert (hsorted : config.Pairwise fun a b => a.slug < b.slug)
    (h : RegistryAt base config (root :: rest) db)
    (hrun : db.upsertStorageRoot now root = some db') : RegistryAt base config rest db' where
  ids := CatalogState.root_ids_upsertStorageRoot h.ids hrun
  enabled := enabled_upsertStorageRoot h.enabled hrun
  written := by
    obtain ⟨written, hconfig, hsettled⟩ := h.written
    refine ⟨written ++ [root], by rw [hconfig, List.append_assoc]; rfl, hsettled.upsert ?_ hrun⟩
    intro hmem
    obtain ⟨other, hother, hsame⟩ := List.mem_map.mp hmem
    rw [hconfig] at hsorted
    have hlt := (List.pairwise_append.mp hsorted).2.2 other hother root List.mem_cons_self
    exact hlt.ne hsame
  syncable := (syncable_cons_iff (h.sorted hsorted) hrun).symm.trans h.syncable

theorem refused (hsorted : config.Pairwise fun a b => a.slug < b.slug)
    (h : RegistryAt base config (root :: rest) db)
    (hrun : db.upsertStorageRoot now root = none) : ¬ Syncable config base :=
  fun hsyncable => not_syncable_of_refused (h.sorted hsorted) hrun (h.syncable.mpr hsyncable)

/-- When nothing is left to write, everything could be, and can be again. -/
theorem synced (h : RegistryAt base config [] db) :
    Syncable config base ∧ Settled config db ∧ RegistryAt base config config db := by
  obtain ⟨written, hconfig, hsettled⟩ := h.written
  rw [List.append_nil] at hconfig
  subst hconfig
  have hsyncable : Syncable config base := h.syncable.mp ⟨List.nodup_nil, nofun, nofun⟩
  refine ⟨hsyncable, hsettled, h.ids, h.enabled, ⟨[], rfl, nofun, nofun⟩, ?_⟩
  exact iff_of_true (hsettled.syncable hsyncable.paths hsyncable.bindable) hsyncable

/-- The row that is listed for a configured slug is that of its root. -/
theorem registers (h : RegistryAt base config [] db) (hroot : root ∈ config) {row : StorageRoot}
    (hrow : db.listStorageRoots.find? (fun row => row.slug = root.slug) = some row) :
    row ∈ db.storageRoot.rows ∧ row.spec = root := by
  obtain ⟨other, hother, hspec⟩ := h.synced.2.1.registered root hroot
  have hmem := List.mem_of_find?_eq_some hrow
  unfold CatalogDb.listStorageRoots at hmem
  rw [List.mem_insertionSort] at hmem
  have hrowMem := List.mem_of_mem_filter hmem
  have hslug : row.slug = root.slug := by simpa using List.find?_some hrow
  have hotherSlug : other.slug = root.slug := congrArg CatalogRootSpec.slug hspec
  have hsame : row = other :=
    db.storageRoot.eq_of_key_eq hrowMem hother (hslug.trans hotherSlug.symm)
  exact ⟨hrowMem, hsame ▸ hspec⟩

/-- A configured root is listed. -/
theorem exists_listed (h : RegistryAt base config [] db) (hroot : root ∈ config) :
    ∃ row, db.listStorageRoots.find? (fun row => row.slug = root.slug) = some row := by
  obtain ⟨other, hother, rfl⟩ := h.synced.2.1.registered root hroot
  cases hfind : db.listStorageRoots.find? fun row => row.slug = other.spec.slug with
  | some row => exact ⟨row, rfl⟩
  | none =>
      have hlisted : other ∈ db.listStorageRoots := by
        unfold CatalogDb.listStorageRoots
        rw [List.mem_insertionSort, List.mem_filter]
        exact ⟨hother, h.enabled other hother⟩
      have hnot := List.find?_eq_none.mp hfind other hlisted
      exact absurd (decide_eq_true rfl) hnot

end RegistryAt

end ImmichDoctor.Catalog
