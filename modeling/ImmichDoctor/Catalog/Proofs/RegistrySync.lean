import ImmichDoctor.Catalog.Proofs.CurrentSnapshots
/-!
# The root registry and its configurations

Roots are upserted one by one in the order of their slugs, under a unique path, and no
row is ever disabled. A history of configurations is followed exactly when no root is
dropped on the way and a path only moves to a root whose slug comes later, which is
written after the row that gives the path up.
-/

namespace ImmichDoctor.Catalog

open ImmichDoctor.Library
open ImmichDoctor.Storage

/-- The configured root a row of the registry was written for. -/
def StorageRoot.spec (row : StorageRoot) : CatalogRootSpec where
  slug := row.slug
  settingName := row.settingName
  rootType := row.rootType
  path := row.absolutePath

/-- `list_storage_roots` returns the given roots. -/
def CatalogDb.ListsRoots (db : CatalogDb) (roots : List CatalogRootSpec) : Prop :=
  db.listStorageRoots.map StorageRoot.spec = roots

/-- A configuration and the times at which its roots are written. -/
structure Synchronisation where
  settings : StorageSettings
  now : PyStr → Instant

abbrev Synchronisation.roots (config : Synchronisation) : List CatalogRootSpec :=
  CatalogRootRegistry.configuredRoots config.settings

/-- Each configuration in turn is synchronised, and its roots are the ones listed then. -/
def CatalogDb.Follows (db : CatalogDb) : List Synchronisation → Prop
  | [] => True
  | config :: later => ∃ synced,
    CatalogRootRegistry.sync config.settings config.now db = some synced ∧
      synced.ListsRoots config.roots ∧ synced.Follows later

/-- Every root is kept, and a path is given up only to a root with a later slug. -/
def CarriedOver (before after : List CatalogRootSpec) : Prop :=
  (∀ old ∈ before, old.slug ∈ after.map (·.slug)) ∧
    ∀ old ∈ before, ∀ root ∈ after, old.path = root.path → old.slug ≤ root.slug

instance (before after : List CatalogRootSpec) : Decidable (CarriedOver before after) :=
  inferInstanceAs (Decidable (_ ∧ _))

/-- Every configuration carries its predecessor over, in text the database can hold. -/
def CarriedThrough (before : List CatalogRootSpec) : List Synchronisation → Prop
  | [] => True
  | config :: later => (∀ root ∈ config.roots, root.bindable = true) ∧
      CarriedOver before config.roots ∧ CarriedThrough config.roots later

instance decidableCarriedThrough (before : List CatalogRootSpec) :
    (configs : List Synchronisation) → Decidable (CarriedThrough before configs)
  | [] => isTrue trivial
  | config :: later =>
      have := decidableCarriedThrough config.roots later
      inferInstanceAs (Decidable (_ ∧ _ ∧ _))

/-! ## The configured roots -/

/-- Optional settings keep the order and the names of their table. -/
theorem sublist_filterMap_option {α β γ : Type} (name : α → γ) (entries : List (α × Option β)) :
    ((entries.filterMap fun entry => entry.2.map fun value => (entry.1, value)).map
      fun entry => name entry.1).Sublist (entries.map fun entry => name entry.1) := by
  induction entries with
  | nil => exact List.Sublist.slnil
  | cons entry rest ih =>
      obtain ⟨key, value⟩ := entry
      cases value with
      | none => exact ih.cons (name key)
      | some value => exact ih.cons_cons (name key)

/-- Distinct keys are sorted strictly. -/
theorem pairwise_lt_insertionSort {ρ κ : Type} [LinearOrder κ] {key : ρ → κ} {rows : List ρ}
    (hkeys : (rows.map key).Nodup) :
    (rows.insertionSort fun a b => key a ≤ key b).Pairwise fun a b => key a < key b := by
  have hsorted := List.pairwise_insertionSort (fun a b : ρ => key a ≤ key b) rows
  have hdistinct : ((rows.insertionSort fun a b => key a ≤ key b).map key).Nodup :=
    ((List.perm_insertionSort _ rows).map key).nodup_iff.mpr hkeys
  have hne : (rows.insertionSort fun a b => key a ≤ key b).Pairwise fun a b => key a ≠ key b :=
    List.pairwise_map.mp hdistinct
  exact hsorted.imp₂ (fun a b hle hne => lt_of_le_of_ne hle hne) hne

theorem nodup_configured_slugs (settings : StorageSettings) :
    ((configuredImmichPaths settings).map fun entry =>
      ((rootSpecs.lookup entry.1).getD (entry.1, py "unknown")).1).Nodup := by
  have hsub := sublist_filterMap_option
    (fun name : PyStr => ((rootSpecs.lookup name).getD (name, py "unknown")).1)
    [(py "immich_library_root", settings.immichLibraryRoot),
      (py "immich_uploads_path", settings.immichUploadsPath),
      (py "immich_thumbs_path", settings.immichThumbsPath),
      (py "immich_profile_path", settings.immichProfilePath),
      (py "immich_video_path", settings.immichVideoPath)]
  have hall : [py "library", py "uploads", py "thumbs", py "profile", py "video"].Nodup := by
    decide
  exact hall.sublist hsub

/-- The roots come in strictly increasing order of their slugs. -/
theorem pairwise_configuredRoots (settings : StorageSettings) :
    (CatalogRootRegistry.configuredRoots settings).Pairwise fun a b => a.slug < b.slug := by
  apply pairwise_lt_insertionSort
  rw [List.map_map]
  exact nodup_configured_slugs settings

/-! ## One root -/

section Upsert

variable {db db' : CatalogDb} {now : Instant} {root : CatalogRootSpec}

/-- A root is written unless another one holds its path. -/
theorem upsertStorageRoot_isSome_iff :
    (db.upsertStorageRoot now root).isSome ↔
      root.bindable = true ∧ ∀ old ∈ db.storageRoot.rows, old.absolutePath = root.path →
        old.slug = root.slug := by
  unfold CatalogDb.upsertStorageRoot
  split
  · next hrefused =>
      simp only [Bool.or_eq_true, Bool.not_eq_true', List.any_eq_true, Bool.and_eq_true,
        decide_eq_true_eq] at hrefused
      refine iff_of_false (by simp) ?_
      rintro ⟨hbind, hfree⟩
      rcases hrefused with hbad | ⟨old, hold, hslug, hpath⟩
      · rw [hbind] at hbad
        cases hbad
      · exact hslug (hfree old hold hpath)
  · next hallowed =>
      simp only [Bool.or_eq_true, Bool.not_eq_true', List.any_eq_true, Bool.and_eq_true,
        decide_eq_true_eq, not_or, Bool.not_eq_false, not_exists, not_and] at hallowed
      refine iff_of_true rfl ⟨hallowed.1, fun old hold hpath => ?_⟩
      by_contra hslug
      exact hallowed.2 old hold hslug hpath

/-- The root takes the place of what its slug had before, and no other root changes. -/
theorem exists_spec_upsertStorageRoot (hrun : db.upsertStorageRoot now root = some db')
    (spec : CatalogRootSpec) :
    (∃ row ∈ db'.storageRoot.rows, row.spec = spec) ↔
      spec = root ∨ spec.slug ≠ root.slug ∧ ∃ row ∈ db.storageRoot.rows, row.spec = spec := by
  unfold CatalogDb.upsertStorageRoot at hrun
  split at hrun
  · cases hrun
  cases hrun
  constructor
  · rintro ⟨row, hrow, rfl⟩
    rcases Table.mem_upsert.mp hrow with ⟨hold, hslug⟩ | ⟨old, -, hslug, rfl⟩ | ⟨-, rfl⟩
    · exact .inr ⟨hslug, row, hold, rfl⟩
    · left
      simp only [StorageRoot.spec, CatalogDb.mergeStorageRoot, hslug]
    · exact .inl rfl
  · rintro (rfl | ⟨hslug, row, hold, rfl⟩)
    · by_cases hfresh : ∀ old ∈ db.storageRoot.rows, old.slug ≠ spec.slug
      · exact ⟨_, Table.mem_upsert.mpr (.inr (.inr ⟨hfresh, rfl⟩)), rfl⟩
      · push Not at hfresh
        obtain ⟨old, hold, hslug⟩ := hfresh
        refine ⟨_, Table.mem_upsert.mpr (.inr (.inl ⟨old, hold, hslug, rfl⟩)), ?_⟩
        simp only [StorageRoot.spec, CatalogDb.mergeStorageRoot, hslug]
    · exact ⟨row, Table.mem_upsert.mpr (.inl ⟨hold, hslug⟩), rfl⟩

end Upsert

/-! ## All roots of a configuration -/

section Sync

variable {now : PyStr → Instant}

/-- The fold of `sync`. -/
def upsertRoots (now : PyStr → Instant) (roots : List CatalogRootSpec) (db : CatalogDb) :
    Option CatalogDb :=
  roots.foldlM (fun db root => db.upsertStorageRoot (now root.slug) root) db

theorem upsertRoots_cons_eq_some {root : CatalogRootSpec} {rest : List CatalogRootSpec}
    {db db' : CatalogDb} (hrun : upsertRoots now (root :: rest) db = some db') :
    ∃ next, db.upsertStorageRoot (now root.slug) root = some next ∧
      upsertRoots now rest next = some db' := by
  unfold upsertRoots at hrun
  rw [List.foldlM_cons] at hrun
  exact Option.bind_eq_some_iff.mp hrun

/-- The registry then holds the roots written and the rows of other slugs. -/
theorem exists_spec_upsertRoots {roots : List CatalogRootSpec}
    (hsorted : roots.Pairwise fun a b => a.slug < b.slug) {db db' : CatalogDb}
    (hrun : upsertRoots now roots db = some db') (spec : CatalogRootSpec) :
    (∃ row ∈ db'.storageRoot.rows, row.spec = spec) ↔
      spec ∈ roots ∨ spec.slug ∉ roots.map (·.slug) ∧
        ∃ row ∈ db.storageRoot.rows, row.spec = spec := by
  induction roots generalizing db with
  | nil =>
      cases hrun
      simp
  | cons root rest ih =>
      obtain ⟨next, hnext, hrest⟩ := upsertRoots_cons_eq_some hrun
      obtain ⟨hfirst, hsorted⟩ := List.pairwise_cons.mp hsorted
      rw [ih hsorted hrest, exists_spec_upsertStorageRoot hnext, List.mem_cons, List.map_cons,
        List.mem_cons, not_or]
      have hroot : root.slug ∉ rest.map (·.slug) := by
        rintro hmem
        obtain ⟨other, hother, hslug⟩ := List.mem_map.mp hmem
        exact absurd hslug.symm (hfirst other hother).ne
      constructor
      · rintro (hmem | ⟨hslugs, rfl | ⟨hslug, hrow⟩⟩)
        · exact .inl (.inr hmem)
        · exact .inl (.inl rfl)
        · exact .inr ⟨⟨hslug, hslugs⟩, hrow⟩
      · rintro ((rfl | hmem) | ⟨⟨hslug, hslugs⟩, hrow⟩)
        · exact .inr ⟨hroot, .inl rfl⟩
        · exact .inl hmem
        · exact .inr ⟨hslugs, .inr ⟨hslug, hrow⟩⟩

theorem enabled_upsertRoots {roots : List CatalogRootSpec} {db db' : CatalogDb}
    (h : ∀ row ∈ db.storageRoot.rows, row.enabled = true)
    (hrun : upsertRoots now roots db = some db') :
    ∀ row ∈ db'.storageRoot.rows, row.enabled = true := by
  induction roots generalizing db with
  | nil =>
      cases hrun
      exact h
  | cons root rest ih =>
      obtain ⟨next, hnext, hrest⟩ := upsertRoots_cons_eq_some hrun
      exact ih (enabled_upsertStorageRoot h hnext) hrest

/-- A root meets a taken path unless the row that has it is rewritten before. -/
theorem upsertRoots_isSome_iff {roots : List CatalogRootSpec}
    (hsorted : roots.Pairwise fun a b => a.slug < b.slug)
    (hpaths : (roots.map (·.path)).Nodup) (db : CatalogDb) :
    (upsertRoots now roots db).isSome ↔
      (∀ root ∈ roots, root.bindable = true) ∧
        ∀ old ∈ db.storageRoot.rows, ∀ root ∈ roots, old.absolutePath = root.path →
          old.slug = root.slug ∨ old.slug ∈ roots.map (·.slug) ∧ old.slug < root.slug := by
  induction roots generalizing db with
  | nil => simp [upsertRoots]
  | cons root rest ih =>
      obtain ⟨hfirst, hsorted⟩ := List.pairwise_cons.mp hsorted
      rw [List.map_cons, List.nodup_cons] at hpaths
      obtain ⟨hpath, hpaths⟩ := hpaths
      have hlater : ∀ slug ∈ (root :: rest).map (·.slug), ¬ slug < root.slug := by
        intro slug hslug hlt
        obtain ⟨other, hother, rfl⟩ := List.mem_map.mp hslug
        rcases List.mem_cons.mp hother with rfl | hother
        · exact lt_irrefl _ hlt
        · exact lt_asymm hlt (hfirst other hother)
      constructor
      · intro hsome
        obtain ⟨db', hrun⟩ := Option.isSome_iff_exists.mp hsome
        obtain ⟨next, hnext, hrest⟩ := upsertRoots_cons_eq_some hrun
        obtain ⟨hbind, hfree⟩ := upsertStorageRoot_isSome_iff.mp
          (Option.isSome_iff_exists.mpr ⟨next, hnext⟩)
        obtain ⟨hbinds, hrests⟩ := (ih hsorted hpaths next).mp
          (Option.isSome_iff_exists.mpr ⟨db', hrest⟩)
        refine ⟨List.forall_mem_cons.mpr ⟨hbind, hbinds⟩, fun old hold => ?_⟩
        refine List.forall_mem_cons.mpr ⟨fun hsame => .inl (hfree old hold hsame), ?_⟩
        intro other hother hsame
        by_cases hslug : old.slug = root.slug
        · rw [hslug]
          exact .inr ⟨List.mem_cons_self, hfirst other hother⟩
        · obtain ⟨row, hrow, hspec⟩ := (exists_spec_upsertStorageRoot hnext old.spec).mpr
            (.inr ⟨hslug, old, hold, rfl⟩)
          have hrowSlug : row.slug = old.slug := congrArg CatalogRootSpec.slug hspec
          have hrowPath : row.absolutePath = old.absolutePath :=
            congrArg CatalogRootSpec.path hspec
          have hkept := hrests row hrow other hother (hrowPath.trans hsame)
          rw [hrowSlug] at hkept
          exact hkept.imp_right fun ⟨hmem, hlt⟩ => ⟨List.mem_cons_of_mem _ hmem, hlt⟩
      · rintro ⟨hbinds, hrows⟩
        obtain ⟨hbind, hbinds⟩ := List.forall_mem_cons.mp hbinds
        have hfree : (db.upsertStorageRoot (now root.slug) root).isSome := by
          refine upsertStorageRoot_isSome_iff.mpr ⟨hbind, fun old hold hsame => ?_⟩
          rcases hrows old hold root List.mem_cons_self hsame with hslug | ⟨hmem, hlt⟩
          · exact hslug
          · exact absurd hlt (hlater _ hmem)
        obtain ⟨next, hnext⟩ := Option.isSome_iff_exists.mp hfree
        have hrest : (upsertRoots now rest next).isSome := by
          refine (ih hsorted hpaths next).mpr ⟨hbinds, fun row hrow other hother hsame => ?_⟩
          rcases (exists_spec_upsertStorageRoot hnext row.spec).mp ⟨row, hrow, rfl⟩ with
            hspec | ⟨hslug, old, hold, hspec⟩
          · have hrootPath : row.absolutePath = root.path := congrArg CatalogRootSpec.path hspec
            exact absurd (List.mem_map.mpr ⟨other, hother, hsame.symm.trans hrootPath⟩) hpath
          · have holdSlug : old.slug = row.slug := congrArg CatalogRootSpec.slug hspec
            have holdPath : old.absolutePath = row.absolutePath :=
              congrArg CatalogRootSpec.path hspec
            have hkept := hrows old hold other (List.mem_cons_of_mem _ hother)
              (holdPath.trans hsame)
            rw [holdSlug] at hkept
            refine hkept.imp_right fun ⟨hmem, hlt⟩ => ⟨?_, hlt⟩
            exact List.mem_of_ne_of_mem hslug hmem
        obtain ⟨db', hrun⟩ := Option.isSome_iff_exists.mp hrest
        unfold upsertRoots at hrun ⊢
        rw [List.foldlM_cons, hnext]
        exact Option.isSome_iff_exists.mpr ⟨db', hrun⟩

end Sync

/-! ## What is listed -/

/-- The roots listed are the rows of the registry, in the order of their slugs. -/
theorem listsRoots_iff {db : CatalogDb} {roots : List CatalogRootSpec}
    (henabled : ∀ row ∈ db.storageRoot.rows, row.enabled = true)
    (hsorted : roots.Pairwise fun a b => a.slug < b.slug) :
    db.ListsRoots roots ↔ ∀ spec, (∃ row ∈ db.storageRoot.rows, row.spec = spec) ↔
      spec ∈ roots := by
  have hmem : ∀ spec, spec ∈ db.listStorageRoots.map StorageRoot.spec ↔
      ∃ row ∈ db.storageRoot.rows, row.spec = spec := by
    intro spec
    unfold CatalogDb.listStorageRoots
    rw [List.filter_eq_self.mpr henabled]
    simp only [List.mem_map, List.mem_insertionSort]
  constructor
  · intro hlists spec
    rw [← hmem, hlists]
  · intro hrows
    have hlisted :
        (db.listStorageRoots.map StorageRoot.spec).Pairwise fun a b => a.slug < b.slug := by
      unfold CatalogDb.listStorageRoots
      rw [List.filter_eq_self.mpr henabled, List.pairwise_map]
      exact pairwise_lt_insertionSort db.storageRoot.unique
    have hirrefl : Std.Irrefl fun a b : CatalogRootSpec => a.slug < b.slug :=
      ⟨fun a => lt_irrefl a.slug⟩
    have hantisymm : Std.Antisymm fun a b : CatalogRootSpec => a.slug < b.slug :=
      ⟨fun a b hab hba => absurd hba (lt_asymm hab)⟩
    exact hlisted.eq_of_mem_iff hsorted fun spec => (hmem spec).trans (hrows spec)

/-! ## One configuration -/

section Config

variable {db : CatalogDb} {before : List CatalogRootSpec} {config : Synchronisation}

/-- From the roots of one configuration to those of the next. -/
theorem sync_lists_iff (henabled : ∀ row ∈ db.storageRoot.rows, row.enabled = true)
    (hlists : ∀ spec, (∃ row ∈ db.storageRoot.rows, row.spec = spec) ↔ spec ∈ before)
    (hpaths : (config.roots.map (·.path)).Nodup) :
    (∃ synced, CatalogRootRegistry.sync config.settings config.now db = some synced ∧
        synced.ListsRoots config.roots) ↔
      (∀ root ∈ config.roots, root.bindable = true) ∧ CarriedOver before config.roots := by
  have hsorted : config.roots.Pairwise fun a b => a.slug < b.slug :=
    pairwise_configuredRoots config.settings
  constructor
  · rintro ⟨synced, hsync, hsynced⟩
    obtain ⟨hbinds, htaken⟩ := (upsertRoots_isSome_iff hsorted hpaths db).mp
      (Option.isSome_iff_exists.mpr ⟨synced, hsync⟩)
    rw [listsRoots_iff (enabled_upsertRoots henabled hsync) hsorted] at hsynced
    refine ⟨hbinds, fun old hold => ?_, fun old hold root hroot hsame => ?_⟩
    · by_contra hslug
      have hkept : ∃ row ∈ synced.storageRoot.rows, row.spec = old :=
        (exists_spec_upsertRoots hsorted hsync old).mpr (.inr ⟨hslug, (hlists old).mpr hold⟩)
      exact hslug (List.mem_map_of_mem ((hsynced old).mp hkept))
    · obtain ⟨row, hrow, rfl⟩ := (hlists old).mpr hold
      rcases htaken row hrow root hroot hsame with hslug | ⟨-, hlt⟩
      · exact hslug.le
      · exact hlt.le
  · rintro ⟨hbinds, hkept, hmoved⟩
    have hsome : (upsertRoots config.now config.roots db).isSome := by
      refine (upsertRoots_isSome_iff hsorted hpaths db).mpr ⟨hbinds, ?_⟩
      intro old hold root hroot hsame
      have hbefore : old.spec ∈ before := (hlists old.spec).mp ⟨old, hold, rfl⟩
      rcases (hmoved old.spec hbefore root hroot hsame).eq_or_lt with hslug | hlt
      · exact .inl hslug
      · exact .inr ⟨hkept old.spec hbefore, hlt⟩
    obtain ⟨synced, hsync⟩ := Option.isSome_iff_exists.mp hsome
    refine ⟨synced, hsync, (listsRoots_iff (enabled_upsertRoots henabled hsync) hsorted).mpr ?_⟩
    intro spec
    rw [exists_spec_upsertRoots hsorted hsync spec, hlists spec]
    constructor
    · rintro (hmem | ⟨hslug, hold⟩)
      · exact hmem
      · exact absurd (hkept spec hold) hslug
    · exact .inl

end Config

/-! ## Histories -/

/-- The catalog lists every configuration of a history exactly when each carries the one
before it over. -/
theorem follows_of_rows {configs : List Synchronisation} {db : CatalogDb}
    {before : List CatalogRootSpec} (henabled : ∀ row ∈ db.storageRoot.rows, row.enabled = true)
    (hlists : ∀ spec, (∃ row ∈ db.storageRoot.rows, row.spec = spec) ↔ spec ∈ before)
    (hpaths : ∀ config ∈ configs, (config.roots.map (·.path)).Nodup) :
    db.Follows configs ↔ CarriedThrough before configs := by
  induction configs generalizing db before with
  | nil => exact Iff.rfl
  | cons config later ih =>
      obtain ⟨hpath, hpaths⟩ := List.forall_mem_cons.mp hpaths
      have hsorted : config.roots.Pairwise fun a b => a.slug < b.slug :=
        pairwise_configuredRoots config.settings
      have hstep := sync_lists_iff henabled hlists hpath
      have hlater : ∀ synced, CatalogRootRegistry.sync config.settings config.now db = some synced →
          synced.ListsRoots config.roots →
            (synced.Follows later ↔ CarriedThrough config.roots later) := by
        intro synced hsync hsynced
        have henabled' := enabled_upsertRoots henabled hsync
        exact ih henabled' ((listsRoots_iff henabled' hsorted).mp hsynced) hpaths
      constructor
      · rintro ⟨synced, hsync, hsynced, hfollows⟩
        obtain ⟨hbinds, hcarried⟩ := hstep.mp ⟨synced, hsync, hsynced⟩
        exact ⟨hbinds, hcarried, (hlater synced hsync hsynced).mp hfollows⟩
      · rintro ⟨hbinds, hcarried, hthrough⟩
        obtain ⟨synced, hsync, hsynced⟩ := hstep.mpr ⟨hbinds, hcarried⟩
        exact ⟨synced, hsync, hsynced, (hlater synced hsync hsynced).mpr hthrough⟩

/-- The registry follows a history of configurations exactly when every configuration
carries the one before it over. -/
theorem registry_follows_iff (configs : List Synchronisation)
    (hpaths : ∀ config ∈ configs, (config.roots.map (·.path)).Nodup) :
    CatalogDb.empty.Follows configs ↔ CarriedThrough [] configs :=
  follows_of_rows nofun (fun spec => by simp [CatalogDb.empty]) hpaths

/-- Uploads at `/a` and video at `/b`; then they exchange their paths, or uploads goes. -/
def uploadsAndVideo (uploads video : Option String) : Synchronisation where
  settings := ⟨none, uploads.map fun path => .parse (py path), none, none,
    video.map fun path => .parse (py path)⟩
  now := fun _ => 0

/-- A path may move to a root with a later slug when its holder is given another one. -/
theorem registry_follows_moved_path :
    CatalogDb.empty.Follows
      [uploadsAndVideo (some "/a") none, uploadsAndVideo (some "/b") (some "/a")] := by
  refine (registry_follows_iff _ ?_).mpr ?_
  · decide
  · decide

theorem not_follows_of_not_carried {configs : List Synchronisation}
    (hpaths : ∀ config ∈ configs, (config.roots.map (·.path)).Nodup)
    (h : ¬ CarriedThrough [] configs) : ¬ CatalogDb.empty.Follows configs := by
  have henabled : ∀ row ∈ CatalogDb.empty.storageRoot.rows, row.enabled = true := nofun
  exact fun hfollows => h
    ((follows_of_rows henabled (by simp [CatalogDb.empty]) hpaths).mp hfollows)

/-- Exchanged paths are refused, and a root that is removed stays listed. -/
theorem registry_keeps_stale_roots :
    ((∀ config ∈ [uploadsAndVideo (some "/a") (some "/b"), uploadsAndVideo (some "/b") (some "/a")],
        (config.roots.map (·.path)).Nodup) ∧
      ¬ CatalogDb.empty.Follows
        [uploadsAndVideo (some "/a") (some "/b"), uploadsAndVideo (some "/b") (some "/a")]) ∧
    (∀ config ∈ [uploadsAndVideo (some "/a") (some "/b"), uploadsAndVideo none (some "/b")],
        (config.roots.map (·.path)).Nodup) ∧
      ¬ CatalogDb.empty.Follows
        [uploadsAndVideo (some "/a") (some "/b"), uploadsAndVideo none (some "/b")] := by
  have hexchanged : ∀ config ∈
      [uploadsAndVideo (some "/a") (some "/b"), uploadsAndVideo (some "/b") (some "/a")],
      (config.roots.map (·.path)).Nodup := by decide
  have hremoved : ∀ config ∈
      [uploadsAndVideo (some "/a") (some "/b"), uploadsAndVideo none (some "/b")],
      (config.roots.map (·.path)).Nodup := by decide
  refine ⟨⟨hexchanged, not_follows_of_not_carried hexchanged ?_⟩,
    hremoved, not_follows_of_not_carried hremoved ?_⟩
  · decide
  · decide

end ImmichDoctor.Catalog
