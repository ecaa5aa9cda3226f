import ImmichDoctor.Catalog.StoreOps
/-!
# Callers that create sessions

`create_scan_session` reads the next generation through one connection and inserts its rows
through another one. Any number of threads and processes are at either point of a call, and
other methods of the store run in between.
-/

namespace ImmichDoctor.Catalog

open ImmichDoctor.Library

/-- The rows that `create_scan_session` inserts with the generation it has read. -/
def CatalogDb.insertScanSession (startedAt : Instant) (sessionId : SessionId)
    (storageRootId : Nat) (maxFiles : Option Int) (generation : Nat) (db : CatalogDb) :
    Option CatalogDb := do
  let _ ← db.storageRootById storageRootId
  let snapshotId := maxColumn ScanSnapshot.id db.scanSnapshot.rows + 1
  let scanSnapshot ← db.scanSnapshot.insert?
    { id := snapshotId
      storageRootId := storageRootId
      sourceScanSessionId := sessionId
      generation := generation
      status := .running
      startedAt := startedAt
      committedAt := none
      itemCount := 0
      zeroByteCount := 0 }
  let scanSession ← db.scanSession.insert?
    { id := sessionId
      storageRootId := storageRootId
      snapshotId := snapshotId
      status := .running
      startedAt := startedAt
      heartbeatAt := startedAt
      completedAt := none
      maxFiles := maxFiles
      filesSeen := 0
      bytesSeen := 0
      directoriesCompleted := 0
      errorCount := 0
      lastRelativePath := none }
  let scanCollectQueue ← db.scanCollectQueue.insert?
    { id := maxColumn CollectQueueRow.id db.scanCollectQueue.rows + 1
      scanSessionId := sessionId
      relativePath := []
      status := .pending
      discoveredAt := startedAt
      completedAt := none }
  some { db with scanSnapshot, scanSession, scanCollectQueue }

/-- A call that nothing interrupts. -/
theorem CatalogDb.createScanSession_eq (now : Instant) (sessionId : SessionId)
    (storageRootId : Nat) (maxFiles : Option Int) (db : CatalogDb) :
    db.createScanSession now sessionId storageRootId maxFiles =
      db.insertScanSession now sessionId storageRootId maxFiles (db.nextGeneration storageRootId) :=
  rfl

/-- The generations of a root in the order in which its snapshots were inserted. -/
def CatalogDb.generationsOf (db : CatalogDb) (storageRootId : Nat) : List Nat :=
  (db.scanSnapshot.rows.filter fun snapshot =>
    snapshot.storageRootId = storageRootId).map ScanSnapshot.generation

/-- A call between its read and its insert. -/
structure SessionCall where
  sessionId : SessionId
  storageRootId : Nat
  maxFiles : Option Int
  startedAt : Instant
  generation : Nat
  /-- How many snapshots the root had at the read; the code does not keep this. -/
  known : Nat

/-- The catalog, and where each caller is. -/
structure SharedCatalog where
  catalog : CatalogState
  calls : Nat → Option SessionCall

inductive CallerEvent
  | readGeneration (caller : Nat) (sessionId : SessionId) (storageRootId : Nat)
      (maxFiles : Option Int)
  | insertSession (caller : Nat)
  /-- The call raises, or its process is gone. -/
  | abandon (caller : Nat)
  /-- Any other method. -/
  | store (op : StoreOp)

namespace SharedCatalog

def start (clock : Instant) : SharedCatalog where
  catalog := .start clock
  calls := fun _ => none

def step (s : SharedCatalog) : Instant × CallerEvent → Option SharedCatalog
  | (now, .readGeneration caller sessionId storageRootId maxFiles) =>
      if s.catalog.clock ≤ now ∧ s.calls caller = none then
        some
          { catalog := { s.catalog with clock := now }
            calls := Function.update s.calls caller <| some
              { sessionId := sessionId
                storageRootId := storageRootId
                maxFiles := maxFiles
                startedAt := now
                generation := s.catalog.db.nextGeneration storageRootId
                known := (s.catalog.db.generationsOf storageRootId).length } }
      else none
  | (now, .insertSession caller) => do
      let call ← s.calls caller
      if s.catalog.clock ≤ now then
        let db ← s.catalog.db.insertScanSession call.startedAt call.sessionId call.storageRootId
          call.maxFiles call.generation
        some { catalog := ⟨db, now⟩, calls := Function.update s.calls caller none }
      else none
  | (_, .abandon caller) => some { s with calls := Function.update s.calls caller none }
  | (_, .store (.createScanSession _ _ _)) => none
  | (now, .store op) => do
      some { s with catalog := ← s.catalog.step (now, op) }

end SharedCatalog

end ImmichDoctor.Catalog
