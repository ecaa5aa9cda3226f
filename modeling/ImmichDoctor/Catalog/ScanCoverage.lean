import ImmichDoctor.Catalog.WorkflowService
/-!
# Scan coverage

Which effective roots have a current snapshot, as the catalog workflow and the catalog
status compute it. Each writes the configured roots first. The committed and started
times are compared as instants; their texts have the same order.
-/

namespace ImmichDoctor.Catalog

open ImmichDoctor.Library
open ImmichDoctor.Storage

/-! ## The catalog workflow -/

structure ScanCoverage where
  effectiveRootSlugs : List PyStr
  currentRows : List LatestSnapshotRow
  /-- A dictionary; the slugs are those of rows of one table, so none occurs twice. -/
  currentBySlug : List (PyStr × LatestSnapshotRow)
  staleRootSlugs : List PyStr
  missingRootSlugs : List PyStr
  latestScanCommittedAt : Option Instant
  comparisonWindowStartedAt : Option Instant
  hasCompleteCoverage : Bool

/-- `CatalogWorkflowService._scan_coverage`. -/
def WorkflowConfig.fullScanCoverage (config : WorkflowConfig) (now : PyStr → Instant)
    (db : CatalogDb) : Option (CatalogDb × ScanCoverage) := do
  let synced ← CatalogRootRegistry.sync config.settings now db
  let latest := synced.listLatestSnapshots none
  let effectiveRootSlugs := config.effectiveRootSlugs
  let currentRows := latest.filter fun row =>
    row.snapshot.isSome && row.snapshotCurrent && effectiveRootSlugs.contains row.root.slug
  let currentBySlug := currentRows.map fun row => (row.root.slug, row)
  let staleRootSlugs := ((latest.filter fun row =>
    row.snapshot.isSome && !row.snapshotCurrent && effectiveRootSlugs.contains row.root.slug).map
      fun row => row.root.slug).insertionSort (· ≤ ·)
  let missingRootSlugs := effectiveRootSlugs.filter fun slug =>
    (currentBySlug.lookup slug).isNone && !staleRootSlugs.contains slug
  let snapshots := currentRows.filterMap (·.snapshot)
  some (synced,
    { effectiveRootSlugs
      currentRows
      currentBySlug
      staleRootSlugs
      missingRootSlugs
      latestScanCommittedAt := (snapshots.filterMap (·.committedAt)).max?
      comparisonWindowStartedAt := (snapshots.map (·.startedAt)).min?
      hasCompleteCoverage := !effectiveRootSlugs.isEmpty && staleRootSlugs.isEmpty &&
        missingRootSlugs.isEmpty })

/-! ## The catalog status -/

/-- The `scanCoverage` of the report's metadata. -/
structure StatusCoverage where
  effectiveRootSlugs : List PyStr
  currentRootSlugs : List PyStr
  staleRootSlugs : List PyStr
  missingRootSlugs : List PyStr
  requiresScan : Bool
  hasCompleteCoverage : Bool
  activeSessions : List (ScanSession × StorageRoot)

/-- `CatalogStatusService.run` as far as the scan coverage. -/
def statusCoverage (config : WorkflowConfig) (rootSlug : Option PyStr) (now : PyStr → Instant)
    (db : CatalogDb) : Option (CatalogDb × StatusCoverage) := do
  let synced ← CatalogRootRegistry.sync config.settings now db
  let sessions := synced.listScanSessions rootSlug
  let snapshots := synced.listLatestSnapshots rootSlug
  let effectiveRootSlugs := config.effectiveRootSlugs
  let currentRootSlugs := ((snapshots.filter fun row =>
    row.snapshot.isSome && row.snapshotCurrent && effectiveRootSlugs.contains row.root.slug).map
      fun row => row.root.slug).insertionSort (· ≤ ·)
  let staleRootSlugs := ((snapshots.filter fun row =>
    row.snapshot.isSome && !row.snapshotCurrent && effectiveRootSlugs.contains row.root.slug).map
      fun row => row.root.slug).insertionSort (· ≤ ·)
  let missingRootSlugs := effectiveRootSlugs.filter fun slug =>
    !currentRootSlugs.contains slug && !staleRootSlugs.contains slug
  let requiresScan := !effectiveRootSlugs.isEmpty &&
    !(missingRootSlugs.isEmpty && staleRootSlugs.isEmpty)
  some (synced,
    { effectiveRootSlugs
      currentRootSlugs
      staleRootSlugs
      missingRootSlugs
      requiresScan
      hasCompleteCoverage := !requiresScan
      activeSessions := sessions.filter fun entry =>
        (entry.1.status = .running || entry.1.status = .paused) &&
          effectiveRootSlugs.contains entry.2.slug })

end ImmichDoctor.Catalog
