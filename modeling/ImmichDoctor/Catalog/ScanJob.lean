import ImmichDoctor.Catalog.RootRegistry
import ImmichDoctor.Catalog.ScanProcess
/-!
# The job over all roots

`CatalogWorkflowService._run_scan_job`: for one effective root after the other
`CatalogInventoryScanService.run` synchronises the registry with all configured roots, looks
up the row of the slug and scans it. A root that cannot be written raises out of the job.
-/

namespace ImmichDoctor.Catalog

open ImmichDoctor.Library
open ImmichDoctor.Storage

/-- The job and the locals of its loop; the process runs at most the root that is selected. -/
structure RootsJob where
  scan : ScanSystem
  /-- The roots the loop has not come to. -/
  roots : List CatalogRootSpec
  /-- What `sync` has still to write before the next root is selected. -/
  unsynced : List CatalogRootSpec
  /-- `selected_root` of the last `run`. -/
  selected : Option StorageRoot

inductive RootsEvent
  /-- `sync` writes the next configured root. -/
  | upsert
  /-- `_select_session_or_root` for the next root; the id is that of its new session. -/
  | select (sessionId : SessionId)
  /-- An action of the scan at hand, or the end of the job. -/
  | scan (event : ScanEvent)

/-- Whether the action belongs to a root that has been selected. -/
def ScanEvent.ofRoot : ScanEvent → Bool
  | .syncRoot _ | .startJob _ _ _ | .select _ => false
  | _ => true

namespace RootsJob

/-- A job that has just been started on the catalog. -/
def begin (config roots : List CatalogRootSpec) (workers : WorkerCount) (catalog : CatalogState) :
    RootsJob where
  scan := ⟨catalog, ⟨false, false⟩, some ⟨.create workers.value, none, [], none⟩⟩
  roots := roots
  unsynced := config
  selected := none

/-- `_run_scan_job`; `resolvePath` stands for `Path.resolve`. -/
def start (resolvePath : PurePath → PurePath) (settings : StorageSettings) (workers : WorkerCount)
    (catalog : CatalogState) : RootsJob :=
  begin (CatalogRootRegistry.configuredRoots settings)
    (CatalogRootRegistry.scanRoots resolvePath settings) workers catalog

/-- `upsert_storage_root` for the next configured root; an integrity error ends the job. -/
def upsert (s : RootsJob) (now : Instant) : Option RootsJob := do
  let job ← s.scan.job
  match s.roots, s.unsynced with
  | _ :: _, root :: rest =>
      if job.current.isSome || now < s.scan.catalog.clock then none
      else
        match s.scan.catalog.db.upsertStorageRoot now root with
        | some db => some { s with scan := { s.scan with catalog := ⟨db, now⟩ }, unsynced := rest }
        | none => some { s with scan := { s.scan with job := none } }
  | _, _ => none

/-- The registry is synchronised, and the next root gets a new session. -/
def select (config : List CatalogRootSpec) (s : RootsJob) (now : Instant) (sessionId : SessionId) :
    Option RootsJob := do
  let job ← s.scan.job
  match s.roots, s.unsynced with
  | root :: rest, [] =>
      let row ← s.scan.catalog.db.listStorageRoots.find? (·.slug = root.slug)
      let scan ← { s.scan with job := some { job with targets := [.fresh row.id] } }.step
        (now, .select sessionId)
      some ⟨scan, rest, config, some row⟩
  | _, _ => none

def step (config : List CatalogRootSpec) (s : RootsJob) (label : Instant × RootsEvent) :
    Option RootsJob :=
  match label with
  | (now, .upsert) => s.upsert now
  | (now, .select sessionId) => s.select config now sessionId
  | (now, .scan event) =>
      if event.ofRoot then (s.scan.step (now, event)).map fun scan => { s with scan } else none

end RootsJob

end ImmichDoctor.Catalog
