import ImmichDoctor.Catalog.ScanCoverage
import Mathlib.Data.Int.ConditionallyCompleteOrder
import Mathlib.Data.Prod.Lex
import Mathlib.Order.WithBot
/-!
# Stored consistency reports

A finished consistency validation keeps the snapshots it was based on. A later request
takes its report for current while the catalog has the same ones. Both sides are reduced
to sorted signatures; times are compared as instants, whose texts have the same order.
-/

namespace ImmichDoctor.Catalog

open ImmichDoctor.Library
open ImmichDoctor.Services

/-! ## Signatures -/

/-- Root, snapshot id, generation, start and commit of a snapshot; a missing time is the
empty text, which is sorted first. -/
abbrev BasisSignature := PyStr ×ₗ PyStr ×ₗ PyStr ×ₗ Instant ×ₗ WithBot Instant

/-- `str(value or "")` of a number. -/
def numberText (n : Nat) : PyStr :=
  if n = 0 then [] else PyStr.decimal n

def basisSignature (rootSlug : PyStr) (snapshotId generation : Nat) (startedAt : Instant)
    (committedAt : Option Instant) : BasisSignature :=
  toLex (rootSlug, toLex (numberText snapshotId, toLex (numberText generation,
    toLex (startedAt, (committedAt.elim ⊥ (fun time => (time : WithBot Instant)))))))

/-- `_snapshot_basis_signature`; `none` is anything that is not a list. -/
def snapshotBasisSignature (snapshotBasis : Option (List SnapshotBasisRow)) :
    List BasisSignature :=
  ((snapshotBasis.getD []).map fun item =>
    basisSignature item.rootSlug item.snapshotId item.generation item.startedAt
      item.committedAt).insertionSort (· ≤ ·)

/-- `_current_snapshot_basis_signature`; a current row has a snapshot. -/
def currentSnapshotBasisSignature (coverage : ScanCoverage) : List BasisSignature :=
  (coverage.currentRows.filterMap fun row => row.snapshot.map fun snapshot =>
    basisSignature row.root.slug snapshot.id snapshot.generation snapshot.startedAt
      snapshot.committedAt).insertionSort (· ≤ ·)

/-! ## Reports -/

/-- `result["report"]` as far as its `metadata["snapshotBasis"]`. -/
structure StoredReport where
  snapshotBasis : Option (List SnapshotBasisRow)

/-- The report of a validation that has collected the state. -/
def CatalogConsistencyState.report (state : CatalogConsistencyState) : StoredReport where
  snapshotBasis := some state.snapshotBasis

/-- `_consistency_report_is_current`. -/
def consistencyReportIsCurrent (report : Option StoredReport) (coverage : ScanCoverage) : Bool :=
  coverage.hasCompleteCoverage &&
    match report with
    | none => false
    | some report =>
        snapshotBasisSignature report.snapshotBasis = currentSnapshotBasisSignature coverage

/-! ## Stored jobs -/

/-- A job file, with what the search for a report reads. -/
structure StoredJob where
  jobType : PyStr
  state : BackgroundJobState
  updatedAt : Instant
  report : Option StoredReport

/-- `list_jobs`; the files are given in the order of their names. -/
def listJobs (jobType : PyStr) (files : List StoredJob) : List StoredJob :=
  (files.filter fun job => job.jobType = jobType).insertionSort
    fun a b => b.updatedAt ≤ a.updatedAt

/-- `find_latest_job` with `TERMINAL_BACKGROUND_JOB_STATES`. -/
def findLatestJob (jobType : PyStr) (files : List StoredJob) : Option StoredJob :=
  (listJobs jobType files).find? fun job => job.state.terminal

/-- Whether `get_consistency_job` answers with the report of the latest validation. -/
def latestReportIsCurrent (coverage : ScanCoverage) (files : List StoredJob) : Bool :=
  match findLatestJob catalogConsistencyJobType files with
  | none => false
  | some job => consistencyReportIsCurrent job.report coverage

end ImmichDoctor.Catalog
