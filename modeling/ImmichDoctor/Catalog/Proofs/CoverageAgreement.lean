import ImmichDoctor.Catalog.ScanCoverage
/-!
# The three coverage computations

The readiness of a comparison, the coverage of the workflow and the coverage of the
status are computed from the same rows. They decide alike which effective roots are stale
and which have no snapshot, and differ in what they make of no effective root at all.
-/

namespace ImmichDoctor.Catalog

open ImmichDoctor.Library
open ImmichDoctor.Storage

theorem lookup_isNone_iff {α : Type} {entries : List (PyStr × α)} {slug : PyStr} :
    (entries.lookup slug).isNone = true ↔ slug ∉ entries.map Prod.fst := by
  induction entries with
  | nil => simp
  | cons entry rest ih =>
      obtain ⟨key, value⟩ := entry
      rw [List.lookup_cons, List.map_cons, List.mem_cons, not_or, ← ih]
      by_cases hkey : slug = key
      · simp [hkey]
      · rw [beq_eq_false_iff_ne.mpr hkey]
        simp [hkey]

/-- The slugs of the effective roots with a current snapshot. -/
def currentSlugs (slugs : List PyStr) (rows : List LatestSnapshotRow) : List PyStr :=
  (rows.filter fun row => row.snapshot.isSome && row.snapshotCurrent &&
    slugs.contains row.root.slug).map (·.root.slug)

/-- The slugs of the effective roots whose snapshot is older than their configuration. -/
def staleSlugs (slugs : List PyStr) (rows : List LatestSnapshotRow) : List PyStr :=
  ((rows.filter fun row => row.snapshot.isSome && !row.snapshotCurrent &&
    slugs.contains row.root.slug).map (·.root.slug)).insertionSort (· ≤ ·)

/-- The effective roots without a snapshot, current or stale. -/
def missingSlugs (slugs : List PyStr) (rows : List LatestSnapshotRow) : List PyStr :=
  slugs.filter fun slug => !(currentSlugs slugs rows).contains slug &&
    !(staleSlugs slugs rows).contains slug

variable {slugs : List PyStr} {rows : List LatestSnapshotRow}

/-- An effective root has an entry in the comparison exactly when it is current. -/
theorem lookup_currentSnapshots_isNone {slug : PyStr} (hslug : slug ∈ slugs) :
    ((currentSnapshots rows).lookup slug).isNone = !(currentSlugs slugs rows).contains slug := by
  rw [Bool.eq_iff_iff, lookup_isNone_iff, Bool.not_eq_true', List.contains_eq_mem,
    decide_eq_false_iff_not, not_iff_not]
  unfold currentSnapshots currentSlugs
  constructor
  · intro hmem
    obtain ⟨entry, hentry, rfl⟩ := List.mem_map.mp hmem
    obtain ⟨row, hrow, hsome⟩ := List.mem_filterMap.mp hentry
    split at hsome
    · next hcurrent =>
        obtain ⟨snapshot, hsnapshot, rfl⟩ := Option.map_eq_some_iff.mp hsome
        refine List.mem_map.mpr ⟨row, List.mem_filter.mpr ⟨hrow, ?_⟩, rfl⟩
        simp [hsnapshot, hcurrent, hslug]
    · cases hsome
  · intro hmem
    obtain ⟨row, hrow, rfl⟩ := List.mem_map.mp hmem
    obtain ⟨hrow, hcurrent⟩ := List.mem_filter.mp hrow
    simp only [Bool.and_eq_true] at hcurrent
    obtain ⟨⟨hsome, hcurrent⟩, -⟩ := hcurrent
    obtain ⟨snapshot, hsnapshot⟩ := Option.isSome_iff_exists.mp hsome
    refine List.mem_map.mpr ⟨(row.root.slug, snapshot), List.mem_filterMap.mpr ⟨row, hrow, ?_⟩, rfl⟩
    rw [if_pos hcurrent, hsnapshot]
    rfl

/-- No root is missing or stale without an effective root. -/
theorem isEmpty_of_no_slugs :
    (missingSlugs [] rows).isEmpty = true ∧ (staleSlugs [] rows).isEmpty = true := by
  have hstale : (rows.filter fun row => row.snapshot.isSome && !row.snapshotCurrent &&
      ([] : List PyStr).contains row.root.slug) = [] :=
    List.filter_eq_nil_iff.mpr fun row _ => by simp
  unfold staleSlugs
  rw [hstale]
  exact ⟨rfl, rfl⟩

/-! ## The roots without a snapshot -/

theorem missing_of_comparison :
    (slugs.filter fun slug => ((currentSnapshots rows).lookup slug).isNone &&
      !(staleSlugs slugs rows).contains slug) = missingSlugs slugs rows := by
  apply List.filter_congr
  intro slug hslug
  rw [lookup_currentSnapshots_isNone hslug]

theorem missing_of_workflow :
    (slugs.filter fun slug => (((rows.filter fun row => row.snapshot.isSome &&
        row.snapshotCurrent && slugs.contains row.root.slug).map
          fun row => (row.root.slug, row)).lookup slug).isNone &&
      !(staleSlugs slugs rows).contains slug) = missingSlugs slugs rows := by
  apply List.filter_congr
  intro slug _
  congr 1
  rw [Bool.eq_iff_iff, lookup_isNone_iff, List.map_map, Bool.not_eq_true',
    List.contains_eq_mem, decide_eq_false_iff_not]
  rfl

theorem missing_of_status :
    (slugs.filter fun slug => !((currentSlugs slugs rows).insertionSort (· ≤ ·)).contains slug &&
      !(staleSlugs slugs rows).contains slug) = missingSlugs slugs rows := by
  apply List.filter_congr
  intro slug _
  congr 2
  rw [Bool.eq_iff_iff, List.contains_iff_mem, List.contains_iff_mem, List.mem_insertionSort]

/-! ## Each computation -/

section Computations

variable {config : WorkflowConfig} {now : PyStr → Instant} {db synced : CatalogDb}

/-- Every effective root has a snapshot, and it is current. -/
def allCurrent (config : WorkflowConfig) (synced : CatalogDb) : Bool :=
  (missingSlugs config.effectiveRootSlugs (synced.listLatestSnapshots none)).isEmpty &&
    (staleSlugs config.effectiveRootSlugs (synced.listLatestSnapshots none)).isEmpty

theorem ready_eq (hsync : CatalogRootRegistry.sync config.settings now db = some synced) :
    (prepareSnapshotState config.resolvePath config.settings now db).map (·.2.ready) =
      some (allCurrent config synced) := by
  unfold prepareSnapshotState allCurrent
  rw [hsync, ← missing_of_comparison]
  rfl

theorem fullScanCoverage_eq
    (hsync : CatalogRootRegistry.sync config.settings now db = some synced) :
    (config.fullScanCoverage now db).map (·.2.hasCompleteCoverage) =
      some (!config.effectiveRootSlugs.isEmpty && allCurrent config synced) := by
  unfold WorkflowConfig.fullScanCoverage allCurrent
  rw [hsync, ← missing_of_workflow, Bool.and_comm (List.isEmpty _), ← Bool.and_assoc]
  rfl

theorem statusCoverage_eq
    (hsync : CatalogRootRegistry.sync config.settings now db = some synced) :
    (statusCoverage config none now db).map (·.2.hasCompleteCoverage) =
      some (config.effectiveRootSlugs.isEmpty || allCurrent config synced) := by
  have hrequires : (config.effectiveRootSlugs.isEmpty || allCurrent config synced) =
      !(!config.effectiveRootSlugs.isEmpty && !allCurrent config synced) := by
    rw [Bool.not_and, Bool.not_not, Bool.not_not]
  rw [hrequires]
  unfold statusCoverage allCurrent
  rw [hsync, ← missing_of_status]
  rfl

/-- The flag the workflow's requests read is that of the whole computation. -/
theorem scanCoverage_eq :
    config.scanCoverage now db =
      (config.fullScanCoverage now db).map fun entry => (entry.1, entry.2.hasCompleteCoverage) := by
  unfold WorkflowConfig.scanCoverage prepareSnapshotState WorkflowConfig.fullScanCoverage
  cases CatalogRootRegistry.sync config.settings now db with
  | none => rfl
  | some synced =>
      have hmissing := (@missing_of_comparison config.effectiveRootSlugs
        (synced.listLatestSnapshots none)).trans missing_of_workflow.symm
      simp only [Option.bind_eq_bind, Option.bind_some, Option.map_some]
      exact congrArg (fun missing : List PyStr => some (synced,
        !config.effectiveRootSlugs.isEmpty &&
          (staleSlugs config.effectiveRootSlugs (synced.listLatestSnapshots none)).isEmpty &&
          missing.isEmpty)) hmissing

end Computations

/-- The three computations agree exactly when there is an effective root to decide about,
unless none of them comes to a result because the roots cannot be written. -/
theorem coverages_agree_iff (config : WorkflowConfig) (now : PyStr → Instant) (db : CatalogDb) :
    ((prepareSnapshotState config.resolvePath config.settings now db).map (·.2.ready) =
        (config.fullScanCoverage now db).map (·.2.hasCompleteCoverage) ∧
      (config.fullScanCoverage now db).map (·.2.hasCompleteCoverage) =
        (statusCoverage config none now db).map (·.2.hasCompleteCoverage)) ↔
      CatalogRootRegistry.sync config.settings now db = none ∨
        CatalogRootRegistry.scanRoots config.resolvePath config.settings ≠ [] := by
  cases hsync : CatalogRootRegistry.sync config.settings now db with
  | none =>
      unfold prepareSnapshotState WorkflowConfig.fullScanCoverage statusCoverage
      rw [hsync]
      simp
  | some synced =>
      rw [ready_eq hsync, fullScanCoverage_eq hsync, statusCoverage_eq hsync]
      cases hroots : CatalogRootRegistry.scanRoots config.resolvePath config.settings with
      | nil =>
          have hslugs : config.effectiveRootSlugs = [] := by
            unfold WorkflowConfig.effectiveRootSlugs
            rw [hroots]
            rfl
          have hready : allCurrent config synced = true := by
            unfold allCurrent
            rw [hslugs, isEmpty_of_no_slugs.1, isEmpty_of_no_slugs.2]
            rfl
          rw [hslugs, hready]
          simp
      | cons root rest =>
          have hslugs : config.effectiveRootSlugs.isEmpty = false := by
            unfold WorkflowConfig.effectiveRootSlugs
            rw [hroots]
            rfl
          rw [hslugs]
          simp

/-- Without a configured root a comparison is ready and the status is complete, while the
coverage of the workflow is not. -/
theorem coverages_differ :
    let config : WorkflowConfig := ⟨⟨none, none, none, none, none⟩, id⟩
    (prepareSnapshotState config.resolvePath config.settings (fun _ => 0) .empty).map
        (·.2.ready) = some true ∧
      (config.fullScanCoverage (fun _ => 0) .empty).map (·.2.hasCompleteCoverage) = some false ∧
      (statusCoverage config none (fun _ => 0) .empty).map (·.2.hasCompleteCoverage) =
        some true := by
  decide

end ImmichDoctor.Catalog
