import ImmichDoctor.Catalog.ConsistencyReports
import ImmichDoctor.Catalog.Proofs.MissingVerdicts
/-!
# When a report is current

A signature says which snapshot it is of, no two snapshots of one state have the same
root, and sorting leaves no more than the set of the signatures. So the comparison of
the sorted lists is that of the sets of current snapshots.
-/

namespace ImmichDoctor.Catalog

open ImmichDoctor.Library
open ImmichDoctor.Storage

/-- What identifies a snapshot in a report. -/
structure SnapshotEntry where
  rootSlug : PyStr
  snapshotId : Nat
  generation : Nat
  startedAt : Instant
  committedAt : Option Instant

/-- The entry is that of the current snapshot of an effective root. -/
def IsCurrentEntry (slugs : List PyStr) (db : CatalogDb) (entry : SnapshotEntry) : Prop :=
  ∃ root ∈ db.listStorageRoots, root.slug ∈ slugs ∧
    ∃ snapshot, db.latestCommitted root = some snapshot ∧
      CatalogDb.committedSince snapshot root.updatedAt = true ∧
      entry = ⟨root.slug, snapshot.id, snapshot.generation, snapshot.startedAt,
        snapshot.committedAt⟩

/-! ## Signatures -/

def SnapshotEntry.signature (entry : SnapshotEntry) : BasisSignature :=
  basisSignature entry.rootSlug entry.snapshotId entry.generation entry.startedAt
    entry.committedAt

theorem numberText_injective : Function.Injective numberText := by
  intro m n h
  unfold numberText at h
  by_cases hm : m = 0
  · by_cases hn : n = 0
    · rw [hm, hn]
    · rw [if_pos hm, if_neg hn] at h
      exact absurd h.symm (PyStr.decimal_ne_nil n)
  · by_cases hn : n = 0
    · rw [if_neg hm, if_pos hn] at h
      exact absurd h (PyStr.decimal_ne_nil m)
    · rw [if_neg hm, if_neg hn] at h
      exact PyStr.decimal_injective h

/-- Different entries have different signatures. -/
theorem SnapshotEntry.signature_injective : Function.Injective SnapshotEntry.signature := by
  rintro ⟨slug, id, generation, started, committed⟩
    ⟨slug', id', generation', started', committed'⟩ h
  simp only [SnapshotEntry.signature, basisSignature, EmbeddingLike.apply_eq_iff_eq,
    Prod.mk.injEq] at h
  obtain ⟨rfl, hid, hgeneration, rfl, hcommitted⟩ := h
  cases numberText_injective hid
  cases numberText_injective hgeneration
  cases committed with
  | none =>
      cases committed' with
      | none => rfl
      | some time => simp at hcommitted
  | some time =>
      cases committed' with
      | none => simp at hcommitted
      | some time' =>
          cases WithBot.coe_injective hcommitted
          rfl

/-- Sorted lists without repetition are equal when they have the same members. -/
theorem insertionSort_eq_iff {α : Type} [LinearOrder α] {a b : List α} (ha : a.Nodup)
    (hb : b.Nodup) :
    a.insertionSort (· ≤ ·) = b.insertionSort (· ≤ ·) ↔ ∀ x, x ∈ a ↔ x ∈ b := by
  constructor
  · intro h x
    rw [← List.mem_insertionSort (· ≤ ·) (l := a), h, List.mem_insertionSort]
  · intro h
    have hperm : a.Perm b := (List.perm_ext_iff_of_nodup ha hb).mpr h
    have hsorted := ((List.perm_insertionSort (· ≤ ·) a).trans hperm).trans
      (List.perm_insertionSort (· ≤ ·) b).symm
    exact hsorted.eq_of_pairwise' (List.pairwise_insertionSort _ a)
      (List.pairwise_insertionSort _ b)

/-! ## The entries both sides are made of -/

section Entries

variable {slugs : List PyStr} {db : CatalogDb} {rows : List LatestSnapshotRow}

def LatestSnapshotRow.entry (row : LatestSnapshotRow) : Option SnapshotEntry :=
  row.snapshot.map fun snapshot => ⟨row.root.slug, snapshot.id, snapshot.generation,
    snapshot.startedAt, snapshot.committedAt⟩

/-- The entries of the effective rows with a current snapshot. -/
def currentEntries (slugs : List PyStr) (rows : List LatestSnapshotRow) : List SnapshotEntry :=
  rows.filterMap fun row =>
    if row.snapshotCurrent && slugs.contains row.root.slug then row.entry else none

theorem mem_currentEntries {entry : SnapshotEntry} :
    entry ∈ currentEntries slugs (db.listLatestSnapshots none) ↔
      IsCurrentEntry slugs db entry := by
  rw [currentEntries, List.mem_filterMap]
  have hlisted : db.listLatestSnapshots none = db.listStorageRoots.map fun root =>
      ⟨root, db.latestCommitted root,
        (db.latestCommitted root).any (CatalogDb.committedSince · root.updatedAt)⟩ := by
    simp [CatalogDb.listLatestSnapshots]
  rw [hlisted]
  constructor
  · rintro ⟨row, hrow, hentry⟩
    obtain ⟨root, hroot, rfl⟩ := List.mem_map.mp hrow
    split at hentry
    · next hcurrent =>
        rw [Bool.and_eq_true, List.contains_iff_mem] at hcurrent
        obtain ⟨snapshot, hsnapshot, rfl⟩ := Option.map_eq_some_iff.mp hentry
        have hlatest : db.latestCommitted root = some snapshot := hsnapshot
        rw [hlatest] at hcurrent
        exact ⟨root, hroot, hcurrent.2, snapshot, hlatest, hcurrent.1, rfl⟩
    · cases hentry
  · rintro ⟨root, hroot, hslug, snapshot, hsnapshot, hsince, rfl⟩
    refine ⟨_, List.mem_map_of_mem hroot, ?_⟩
    rw [if_pos (by simp [hsnapshot, hsince, hslug]), LatestSnapshotRow.entry, hsnapshot]
    rfl

/-- No two entries are of the same root. -/
theorem currentEntries_nodup :
    (currentEntries slugs (db.listLatestSnapshots none)).Nodup := by
  have hrow : ∀ row : LatestSnapshotRow, ∀ entry : SnapshotEntry,
      (if row.snapshotCurrent && slugs.contains row.root.slug then row.entry else none) =
        some entry → entry.rootSlug = row.root.slug := by
    intro row entry h
    split at h
    · obtain ⟨snapshot, -, rfl⟩ := Option.map_eq_some_iff.mp h
      rfl
    · cases h
  have hsublist : ∀ rows : List LatestSnapshotRow,
      ((currentEntries slugs rows).map SnapshotEntry.rootSlug).Sublist
        (rows.map fun row => row.root.slug) := by
    intro rows
    induction rows with
    | nil => exact List.Sublist.refl _
    | cons row rows ih =>
        rw [currentEntries, List.filterMap_cons]
        split
        · exact ih.cons _
        · next entry hentry =>
            rw [List.map_cons, List.map_cons, hrow row entry hentry]
            exact ih.cons_cons _
  have hslugs : ((db.listLatestSnapshots none).map fun row => row.root.slug).Nodup := by
    have hlisted : (db.listLatestSnapshots none).map (fun row => row.root.slug) =
        db.listStorageRoots.map StorageRoot.slug := by
      simp [CatalogDb.listLatestSnapshots]
    have hperm : db.listStorageRoots.Perm (db.storageRoot.rows.filter fun root => root.enabled) :=
      List.perm_insertionSort _ _
    rw [hlisted, (hperm.map _).nodup_iff]
    exact (List.filter_sublist.map _).nodup db.storageRoot.unique
  exact ((hsublist _).nodup hslugs).of_map _

/-- The signature of a collected state is that of its entries. -/
theorem snapshotBasis_signatures (snapshotState : CatalogSnapshotState) :
    ((basisRows snapshotState).map snapshotBasisRow).map (fun item => basisSignature item.rootSlug
        item.snapshotId item.generation item.startedAt item.committedAt) =
      (currentEntries snapshotState.effectiveRootSlugs snapshotState.latestSnapshots).map
        SnapshotEntry.signature := by
  unfold basisRows currentEntries
  rw [List.map_filterMap, List.map_filterMap, List.map_filterMap]
  refine List.filterMap_congr fun row _ => ?_
  by_cases hcurrent : (row.snapshotCurrent &&
      snapshotState.effectiveRootSlugs.contains row.root.slug) = true
  · rw [if_pos hcurrent, if_pos hcurrent, LatestSnapshotRow.entry]
    cases row.snapshot <;> rfl
  · rw [if_neg hcurrent, if_neg hcurrent]
    rfl

/-- The signature of a coverage is that of its entries. -/
theorem currentRows_signatures (slugs : List PyStr) (rows : List LatestSnapshotRow) :
    (rows.filter fun row => row.snapshot.isSome && row.snapshotCurrent &&
        slugs.contains row.root.slug).filterMap (fun row => row.snapshot.map fun snapshot =>
          basisSignature row.root.slug snapshot.id snapshot.generation snapshot.startedAt
            snapshot.committedAt) =
      (currentEntries slugs rows).map SnapshotEntry.signature := by
  unfold currentEntries
  rw [List.map_filterMap, List.filterMap_filter]
  refine List.filterMap_congr fun row _ => ?_
  by_cases hcurrent : (row.snapshotCurrent && slugs.contains row.root.slug) = true
  · rw [if_pos hcurrent, LatestSnapshotRow.entry]
    cases hsnapshot : row.snapshot with
    | none => simp
    | some snapshot =>
        rw [Option.isSome_some, Bool.true_and, if_pos hcurrent]
        rfl
  · rw [if_neg hcurrent, Bool.and_assoc, if_neg]
    · rfl
    · rw [Bool.and_eq_true]
      exact fun h => hcurrent h.2

end Entries

/-! ## Currency -/

section Currency

variable {resolvePath : PurePath → PurePath} {settings : StorageSettings} {text : CaseMapping}
  {times times' : PyStr → Instant} {postgres : PostgresAnswer} {config : WorkflowConfig}
  {before before' synced synced' : CatalogDb} {state : CatalogConsistencyState}
  {coverage : ScanCoverage} {files : List StoredJob} {job : StoredJob}

theorem collect_snapshotBasis
    (hcollect : collect resolvePath settings text times postgres before = .ok (synced, state)) :
    snapshotBasisSignature (some state.snapshotBasis) =
      ((currentEntries ((CatalogRootRegistry.scanRoots resolvePath settings).map (·.slug))
        (synced.listLatestSnapshots none)).map SnapshotEntry.signature).insertionSort (· ≤ ·) := by
  unfold collect at hcollect
  split at hcollect
  · cases hcollect
  next written snapshotState hprepare =>
  split at hcollect
  · cases hcollect
  split at hcollect
  · cases hcollect
  · cases hcollect
  · cases hcollect
    simp only [prepareSnapshotState, Option.bind_eq_bind, Option.bind_eq_some_iff] at hprepare
    obtain ⟨db, -, hstate⟩ := hprepare
    cases hstate
    rw [snapshotBasisSignature, Option.getD_some, compare, snapshotBasis_signatures]

theorem coverage_signature
    (hcoverage : config.fullScanCoverage times before = some (synced, coverage)) :
    currentSnapshotBasisSignature coverage =
      ((currentEntries config.effectiveRootSlugs (synced.listLatestSnapshots none)).map
        SnapshotEntry.signature).insertionSort (· ≤ ·) := by
  simp only [WorkflowConfig.fullScanCoverage, Option.bind_eq_bind,
    Option.bind_eq_some_iff] at hcoverage
  obtain ⟨db, -, hstate⟩ := hcoverage
  cases hstate
  rw [currentSnapshotBasisSignature, currentRows_signatures]

/-- The latest validation is answered with exactly when the coverage is complete and the
effective roots have the current snapshots the validation was based on. -/
theorem report_current_iff
    (hcollect : collect resolvePath settings text times postgres before = .ok (synced, state))
    (hcoverage : config.fullScanCoverage times' before' = some (synced', coverage))
    (hlatest : findLatestJob catalogConsistencyJobType files = some job)
    (hreport : job.report = some state.report) :
    latestReportIsCurrent coverage files = true ↔ coverage.hasCompleteCoverage = true ∧
      ∀ entry, IsCurrentEntry ((CatalogRootRegistry.scanRoots resolvePath settings).map (·.slug))
          synced entry ↔ IsCurrentEntry config.effectiveRootSlugs synced' entry := by
  have hentries : snapshotBasisSignature (some state.snapshotBasis) =
      currentSnapshotBasisSignature coverage ↔
        ∀ entry, IsCurrentEntry ((CatalogRootRegistry.scanRoots resolvePath settings).map (·.slug))
          synced entry ↔ IsCurrentEntry config.effectiveRootSlugs synced' entry := by
    rw [collect_snapshotBasis hcollect, coverage_signature hcoverage,
      insertionSort_eq_iff (currentEntries_nodup.map SnapshotEntry.signature_injective)
        (currentEntries_nodup.map SnapshotEntry.signature_injective)]
    simp only [← mem_currentEntries]
    constructor
    · intro h entry
      rw [← List.mem_map_of_injective SnapshotEntry.signature_injective, h,
        List.mem_map_of_injective SnapshotEntry.signature_injective]
    · intro h signature
      rw [List.mem_map, List.mem_map]
      exact exists_congr fun entry => and_congr_left fun _ => h entry
  unfold latestReportIsCurrent
  rw [hlatest]
  simp only [consistencyReportIsCurrent, hreport, CatalogConsistencyState.report,
    Bool.and_eq_true, decide_eq_true_eq]
  exact and_congr_right fun _ => hentries

end Currency

/-- A report of a scanned root, looked at before and after an unrelated job. -/
theorem report_current_unchanged :
    ∃ synced state synced' coverage,
      collect id uploadsOnly ⟨id, id⟩ (fun _ => 30) (.tables [uploadedAsset] [])
        (scannedWithFileModifiedAt 9).db = .ok (synced, state) ∧
      (⟨uploadsOnly, id⟩ : WorkflowConfig).fullScanCoverage (fun _ => 40)
        (scannedWithFileModifiedAt 9).db = some (synced', coverage) ∧
      latestReportIsCurrent coverage
          [⟨catalogConsistencyJobType, .completed, 35, some state.report⟩,
            ⟨catalogScanJobType, .failed, 37, none⟩] = true ∧
      ∀ entry, IsCurrentEntry ((CatalogRootRegistry.scanRoots id uploadsOnly).map (·.slug)) synced
          entry ↔
        IsCurrentEntry (⟨uploadsOnly, id⟩ : WorkflowConfig).effectiveRootSlugs synced' entry := by
  have hcurrent : ((collect id uploadsOnly ⟨id, id⟩ (fun _ => 30) (.tables [uploadedAsset] [])
      (scannedWithFileModifiedAt 9).db).toOption.bind fun collected =>
        ((⟨uploadsOnly, id⟩ : WorkflowConfig).fullScanCoverage (fun _ => 40)
          (scannedWithFileModifiedAt 9).db).map fun covered =>
            latestReportIsCurrent covered.2
              [⟨catalogConsistencyJobType, .completed, 35, some collected.2.report⟩,
                ⟨catalogScanJobType, .failed, 37, none⟩]) = some true := by
    decide +kernel
  obtain ⟨synced, state, hcollect⟩ : ∃ synced state,
      collect id uploadsOnly ⟨id, id⟩ (fun _ => 30) (.tables [uploadedAsset] [])
        (scannedWithFileModifiedAt 9).db = .ok (synced, state) := ⟨_, _, rfl⟩
  obtain ⟨synced', coverage, hcoverage⟩ : ∃ synced' coverage,
      (⟨uploadsOnly, id⟩ : WorkflowConfig).fullScanCoverage (fun _ => 40)
        (scannedWithFileModifiedAt 9).db = some (synced', coverage) := ⟨_, _, rfl⟩
  rw [hcollect, hcoverage] at hcurrent
  have htrue : latestReportIsCurrent coverage
      [⟨catalogConsistencyJobType, .completed, 35, some state.report⟩,
        ⟨catalogScanJobType, .failed, 37, none⟩] = true := Option.some.inj hcurrent
  exact ⟨synced, state, synced', coverage, hcollect, hcoverage, htrue,
    ((report_current_iff hcollect hcoverage rfl rfl).mp htrue).2⟩

end ImmichDoctor.Catalog
