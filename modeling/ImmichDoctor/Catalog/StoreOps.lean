import ImmichDoctor.Catalog.Store
import ImmichDoctor.Library.Transition
/-!
# The store as a transition system

Every store method is one transaction. A label is a method call together with the
time it reads; the wall clock does not run backwards, which is the only thing
assumed about it.
-/

namespace ImmichDoctor.Catalog

open ImmichDoctor.Library

inductive StoreOp
  | upsertStorageRoot (root : CatalogRootSpec)
  | createScanSession (sessionId : SessionId) (storageRootId : Nat) (maxFiles : Option Int)
  | reopenScanSession (sessionId : SessionId)
  | seedDirectoryWorkQueue (sessionId : SessionId) (workItems : List QueuedWorkItem)
  | claimNextDirectory (sessionId : SessionId) (workerId : PyStr)
  | applyDirectoryFiles (application : DirectoryApplication)
  | requeueProcessingDirectories (sessionId : SessionId)
  | requeueProcessingDirectoriesForWorker (sessionId : SessionId) (workerId : PyStr)
  | requeueCollectingDirectories (sessionId : SessionId)
  | markSessionPaused (sessionId : SessionId)
  | markSessionStopped (sessionId : SessionId)
  | markSessionFailed (sessionId : SessionId)
  | commitScanSession (sessionId : SessionId)

structure CatalogState where
  db : CatalogDb
  clock : Instant

namespace StoreOp

def run (now : Instant) (db : CatalogDb) : StoreOp → Option CatalogDb
  | upsertStorageRoot root => db.upsertStorageRoot now root
  | createScanSession sessionId storageRootId maxFiles =>
      db.createScanSession now sessionId storageRootId maxFiles
  | reopenScanSession sessionId => some (db.reopenScanSession now sessionId)
  | seedDirectoryWorkQueue sessionId workItems => db.seedDirectoryWorkQueue now sessionId workItems
  | claimNextDirectory sessionId workerId =>
      match db.claimNextDirectory sessionId workerId with
      | none => some db
      | some (_, claimed) => some claimed
  | applyDirectoryFiles application => db.applyDirectoryFiles now application
  | requeueProcessingDirectories sessionId => some (db.requeueProcessingDirectories sessionId)
  | requeueProcessingDirectoriesForWorker sessionId workerId =>
      some (db.requeueProcessingDirectoriesForWorker sessionId workerId)
  | requeueCollectingDirectories sessionId => some (db.requeueCollectingDirectories sessionId)
  | markSessionPaused sessionId => some (db.markSessionPaused now sessionId)
  | markSessionStopped sessionId => some (db.markSessionStopped now sessionId)
  | markSessionFailed sessionId => some (db.markSessionFailed now sessionId)
  | commitScanSession sessionId => db.commitScanSession now sessionId

/-- Whether the call belongs to a scan; only configuring a root does not. -/
def isScan : StoreOp → Bool
  | upsertStorageRoot _ => false
  | _ => true

end StoreOp

namespace CatalogState

def start (clock : Instant) : CatalogState where
  db := .empty
  clock := clock

/-- One method call at a time that is not before the last one. -/
def step (s : CatalogState) (label : Instant × StoreOp) : Option CatalogState :=
  if s.clock ≤ label.1 then
    (label.2.run label.1 s.db).map fun db => { db := db, clock := label.1 }
  else none

theorem step_eq_some_iff {s t : CatalogState} {label : Instant × StoreOp} :
    s.step label = some t ↔
      s.clock ≤ label.1 ∧ label.2.run label.1 s.db = some t.db ∧ t.clock = label.1 := by
  unfold step
  split
  · next hclock =>
      simp only [Option.map_eq_some_iff, hclock, true_and]
      constructor
      · rintro ⟨db, hdb, rfl⟩
        exact ⟨hdb, rfl⟩
      · rintro ⟨hdb, hnow⟩
        exact ⟨t.db, hdb, by rw [← hnow]⟩
  · next hclock => simp [hclock]

end CatalogState

end ImmichDoctor.Catalog
