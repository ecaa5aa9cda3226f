import ImmichDoctor.Catalog.ConsistencyReports
import ImmichDoctor.Library.DateTimes
/-!
# Decisions on texts of times

The catalog and the job files keep times as texts of `isoformat`, and compare them as texts.
The decisions that rest on this are those that the instants give.
-/

namespace ImmichDoctor.Catalog

open ImmichDoctor.Library

/-! ## What is computed on the texts -/

/-- `_utcnow` at a time. -/
def utcnow (time : CivilTime) : PyStr :=
  time.utcText

/-- `snapshot_current` of a row that has a snapshot. -/
def snapshotCurrentText (committedAt : Option PyStr) (updatedAt : PyStr) : Bool :=
  committedAt.any fun committedAt => updatedAt ≤ committedAt

/-- Whether `stale_reason` of a row that has a snapshot is `root_configuration_changed`. -/
def rootConfigurationChangedText (committedAt : Option PyStr) (updatedAt : PyStr) : Bool :=
  committedAt.any fun committedAt => committedAt < updatedAt

/-- The start and the commit of a snapshot. -/
structure SnapshotTimes where
  startedAt : CivilTime
  committedAt : Option CivilTime

/-- `latest_scan_committed_at` of `_scan_coverage`. -/
def latestScanCommittedText (rows : List SnapshotTimes) : Option PyStr :=
  (rows.filterMap fun row => row.committedAt.map utcnow).max?

/-- `comparison_window_started_at` of `_scan_coverage`. -/
def comparisonWindowStartedText (rows : List SnapshotTimes) : Option PyStr :=
  (rows.map fun row => utcnow row.startedAt).min?

/-- `list_jobs`, by the texts of the times of the jobs. -/
def listJobsByText (jobType : PyStr) (files : List (StoredJob × CivilTime)) :
    List (StoredJob × CivilTime) :=
  (files.filter fun file => file.1.jobType = jobType).insertionSort
    fun a b => utcnow b.2 ≤ utcnow a.2

/-- A job as it is seen by its instant. -/
def stamped (file : StoredJob × CivilTime) : StoredJob :=
  { file.1 with updatedAt := file.2.instant }

/-! ## Orders -/

theorem utcnow_lt_iff {s t : CivilTime} : utcnow s < utcnow t ↔ s.instant < t.instant := by
  unfold utcnow
  rw [CivilTime.utcText_lt_iff, CivilTime.lt_iff_instant]

theorem utcnow_le_iff {s t : CivilTime} : utcnow s ≤ utcnow t ↔ s.instant ≤ t.instant := by
  rw [← not_lt, utcnow_lt_iff, not_lt]

theorem monotone_utcnow : Monotone utcnow :=
  fun _ _ h => utcnow_le_iff.mpr (CivilTime.le_iff_instant.mp h)

theorem monotone_instant : Monotone CivilTime.instant :=
  fun _ _ h => CivilTime.le_iff_instant.mp h

/-- The largest value has the largest image. -/
theorem max?_map_of_monotone {α β : Type*} [LinearOrder α] [LinearOrder β] {f : α → β}
    (hf : Monotone f) (items : List α) : (items.map f).max? = items.max?.map f := by
  cases items with
  | nil => rfl
  | cons first rest =>
      rw [List.map_cons, List.max?_cons', List.max?_cons', List.foldl_map]
      exact congrArg some (List.foldl_hom f fun largest item => hf.map_max.symm)

theorem min?_map_of_monotone {α β : Type*} [LinearOrder α] [LinearOrder β] {f : α → β}
    (hf : Monotone f) (items : List α) : (items.map f).min? = items.min?.map f := by
  cases items with
  | nil => rfl
  | cons first rest =>
      rw [List.map_cons, List.min?_cons', List.min?_cons', List.foldl_map]
      exact congrArg some (List.foldl_hom f fun smallest item => hf.map_min.symm)

/-! ## Decisions -/

theorem currency_of_texts (snapshot : ScanSnapshot) (committedAt : Option CivilTime)
    (updatedAt : CivilTime) :
    snapshotCurrentText (committedAt.map utcnow) (utcnow updatedAt) =
      CatalogDb.committedSince { snapshot with committedAt := committedAt.map CivilTime.instant }
        updatedAt.instant := by
  unfold snapshotCurrentText CatalogDb.committedSince
  cases committedAt with
  | none => rw [Option.map_none, Option.map_none, Option.any_none, Option.any_none]
  | some committedAt =>
      rw [Option.map_some, Option.map_some, Option.any_some, Option.any_some]
      exact decide_eq_decide.mpr utcnow_le_iff

theorem change_of_texts (committedAt : Option CivilTime) (updatedAt : CivilTime) :
    rootConfigurationChangedText (committedAt.map utcnow) (utcnow updatedAt) =
      committedAt.any fun committedAt => committedAt.instant < updatedAt.instant := by
  unfold rootConfigurationChangedText
  cases committedAt with
  | none => rw [Option.map_none, Option.any_none, Option.any_none]
  | some committedAt =>
      rw [Option.map_some, Option.any_some, Option.any_some]
      exact decide_eq_decide.mpr utcnow_lt_iff

/-- The latest commit as a text and as an instant is that of one time. -/
theorem latest_of_texts (rows : List SnapshotTimes) :
    latestScanCommittedText rows = ((rows.filterMap (·.committedAt)).max?).map utcnow ∧
      (rows.filterMap fun row => row.committedAt.map CivilTime.instant).max? =
        ((rows.filterMap (·.committedAt)).max?).map CivilTime.instant := by
  have hmap : ∀ {β : Type} (f : CivilTime → β), (rows.filterMap fun row => row.committedAt.map f) =
      (rows.filterMap (·.committedAt)).map f := by
    intro β f
    rw [List.map_filterMap]
  unfold latestScanCommittedText
  rw [hmap, hmap, max?_map_of_monotone monotone_utcnow, max?_map_of_monotone monotone_instant]
  exact ⟨rfl, rfl⟩

theorem window_of_texts (rows : List SnapshotTimes) :
    comparisonWindowStartedText rows = ((rows.map (·.startedAt)).min?).map utcnow ∧
      (rows.map fun row => row.startedAt.instant).min? =
        ((rows.map (·.startedAt)).min?).map CivilTime.instant := by
  have hmap : ∀ {β : Type} (f : CivilTime → β), (rows.map fun row => f row.startedAt) =
      (rows.map (·.startedAt)).map f := by
    intro β f
    rw [List.map_map]
    rfl
  unfold comparisonWindowStartedText
  rw [hmap, hmap CivilTime.instant, min?_map_of_monotone monotone_utcnow,
    min?_map_of_monotone monotone_instant]
  exact ⟨rfl, rfl⟩

/-- Jobs sorted by their texts are sorted by their instants, ties included. -/
theorem jobs_of_texts (jobType : PyStr) (files : List (StoredJob × CivilTime)) :
    (listJobsByText jobType files).map stamped = listJobs jobType (files.map stamped) := by
  unfold listJobsByText listJobs
  rw [List.filter_map]
  exact List.map_insertionSort (fun a b : StoredJob × CivilTime => utcnow b.2 ≤ utcnow a.2)
    (fun a b : StoredJob => b.updatedAt ≤ a.updatedAt) stamped _ fun a _ b _ => utcnow_le_iff

/-- The texts of times in UTC are ordered as the times are, so a snapshot is current, a root has
changed since, the window of the snapshots begins and ends, and the latest job comes first as
the instants say. -/
theorem texts_decide_as_instants :
    (∀ s t : CivilTime, utcnow s < utcnow t ↔ s.instant < t.instant) ∧
      (∀ (snapshot : ScanSnapshot) (committedAt : Option CivilTime) (updatedAt : CivilTime),
        snapshotCurrentText (committedAt.map utcnow) (utcnow updatedAt) =
            CatalogDb.committedSince
              { snapshot with committedAt := committedAt.map CivilTime.instant }
              updatedAt.instant ∧
          rootConfigurationChangedText (committedAt.map utcnow) (utcnow updatedAt) =
            committedAt.any fun committedAt => committedAt.instant < updatedAt.instant) ∧
      (∀ rows : List SnapshotTimes,
        ∃ latest first : Option CivilTime,
          latestScanCommittedText rows = latest.map utcnow ∧
            (rows.filterMap fun row => row.committedAt.map CivilTime.instant).max? =
              latest.map CivilTime.instant ∧
          comparisonWindowStartedText rows = first.map utcnow ∧
            (rows.map fun row => row.startedAt.instant).min? = first.map CivilTime.instant) ∧
      ∀ (jobType : PyStr) (files : List (StoredJob × CivilTime)),
        (listJobsByText jobType files).map stamped = listJobs jobType (files.map stamped) := by
  refine ⟨fun s t => utcnow_lt_iff, fun snapshot committedAt updatedAt => ⟨?_, ?_⟩, fun rows => ?_,
    fun jobType files => ?_⟩
  · exact currency_of_texts snapshot committedAt updatedAt
  · exact change_of_texts committedAt updatedAt
  · obtain ⟨hlatest, hlatest'⟩ := latest_of_texts rows
    obtain ⟨hfirst, hfirst'⟩ := window_of_texts rows
    exact ⟨_, _, hlatest, hlatest', hfirst, hfirst'⟩
  · exact jobs_of_texts jobType files

end ImmichDoctor.Catalog
