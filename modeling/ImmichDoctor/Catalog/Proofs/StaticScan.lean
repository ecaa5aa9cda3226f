import ImmichDoctor.Catalog.Proofs.ScanProgress
import ImmichDoctor.Catalog.Proofs.UndisturbedScan
/-!
# Workers on a static tree

While the tree does not change, what a worker applies for its row is determined by the
work item the row stands for. A worker that holds a row has the only claim on it, so
each item is applied once.
-/

namespace ImmichDoctor.Catalog

open ImmichDoctor.Library

/-- The batch that is applied for the row of an item. -/
def observedItem (lower : PyStr → PyStr) (tree : DirectoryTree) (item : WorkItem) :
    ObservedBatch :=
  let read := observeFileBatch lower tree
    (filePathsFromPayload (Json.dumps item.fileRelativePaths))
  { read with
    errorCount := read.errorCount + item.payloadErrorCount
    lastRelativePath := read.lastRelativePath <|> item.fileRelativePaths.getLast? }

/-! ## Held rows -/

/-- The row that a worker has claimed for an item, and has the only claim on. -/
structure Claim (id : WritingSession) (items : List WorkItem) (db : CatalogDb) (index : Nat)
    (row : DirectoryQueueRow) (item : WorkItem) : Prop where
  isItem : item ∈ items
  stands : QueuedFor item row
  payload : row.payloadJson = some (Json.dumps item.fileRelativePaths)
  queued : ∃ current ∈ db.scanDirectoryQueue.rows, current.key = (id.sessionId, item.relativePath) ∧
    current.status = .processing ∧ current.workerId = some (ActorId.worker (index + 1)).text

/-- A worker in its loop claims what it holds, and applies the batch of the item. -/
def HoldsClaim (id : WritingSession) (items : List WorkItem) (observed : WorkItem → ObservedBatch)
    (db : CatalogDb) (index : Nat) : WorkerPhase → Prop
  | .observe row => ∃ item, Claim id items db index row item
  | .apply row batch => ∃ item, Claim id items db index row item ∧ batch = observed item
  | _ => True

/-- Every worker claims what it holds. -/
def AllHold (id : WritingSession) (items : List WorkItem) (observed : WorkItem → ObservedBatch)
    (db : CatalogDb) (workers : List WorkerPhase) : Prop :=
  ∀ (index : Nat) (phase : WorkerPhase), workers[index]? = some phase →
    HoldsClaim id items observed db index phase

section Holds

variable {id : WritingSession} {items applied : List WorkItem} {observed : WorkItem → ObservedBatch}
  {db db' : CatalogDb} {workers : List WorkerPhase} {index : Nat} {phase next : WorkerPhase}
  {row : DirectoryQueueRow} {item : WorkItem}

/-- A claim is kept when the claimed row is. -/
theorem Claim.of_rows (h : Claim id items db index row item)
    (hkept : ∀ current ∈ db.scanDirectoryQueue.rows, current.scanSessionId = id.sessionId →
      current.status = .processing → current.workerId = some (ActorId.worker (index + 1)).text →
      current ∈ db'.scanDirectoryQueue.rows) :
    Claim id items db' index row item := by
  obtain ⟨current, hcurrent, hkey, hstatus, hworker⟩ := h.queued
  refine ⟨h.isItem, h.stands, h.payload, current, ?_, hkey, hstatus, hworker⟩
  exact hkept current hcurrent (congrArg Prod.fst hkey) hstatus hworker

theorem HoldsClaim.of_rows (h : HoldsClaim id items observed db index phase)
    (hkept : ∀ current ∈ db.scanDirectoryQueue.rows, current.scanSessionId = id.sessionId →
      current.status = .processing → current.workerId = some (ActorId.worker (index + 1)).text →
      current ∈ db'.scanDirectoryQueue.rows) :
    HoldsClaim id items observed db' index phase := by
  cases phase with
  | observe row =>
      obtain ⟨item, hclaim⟩ := h
      exact ⟨item, hclaim.of_rows hkept⟩
  | apply row batch =>
      obtain ⟨item, hclaim, hbatch⟩ := h
      exact ⟨item, hclaim.of_rows hkept, hbatch⟩
  | _ => trivial

/-- One worker moves on, and the rows the others hold are kept. -/
theorem AllHold.set (h : AllHold id items observed db workers)
    (hkept : ∀ other, other ≠ index → ∀ current ∈ db.scanDirectoryQueue.rows,
      current.scanSessionId = id.sessionId → current.status = .processing →
      current.workerId = some (ActorId.worker (other + 1)).text →
      current ∈ db'.scanDirectoryQueue.rows)
    (hnext : HoldsClaim id items observed db' index next) :
    AllHold id items observed db' (workers.set index next) := by
  intro other phase hphase
  by_cases hother : other = index
  · subst hother
    rw [List.getElem?_set_self'] at hphase
    cases hget : workers[other]? with
    | none =>
        rw [hget] at hphase
        cases hphase
    | some old =>
        rw [hget] at hphase
        cases hphase
        exact hnext
  · rw [WorkersAccount.getElem?_set_ne hother] at hphase
    exact (h other phase hphase).of_rows (hkept other hother)

/-- A worker that claims a row holds it. -/
theorem AllHold.claim (h : AllHold id items observed db workers)
    (hqueue : QueueProgress id.sessionId items applied db.scanDirectoryQueue)
    (hclaim : db.claimNextDirectory id.sessionId (ActorId.worker (index + 1)).text =
      some (row, db')) :
    AllHold id items observed db' (workers.set index (.observe row)) := by
  obtain ⟨hrow, hsession, hstatus, -, hrows⟩ := CatalogDb.queue_claimNextDirectory hclaim
  refine h.set ?_ ?_
  · intro other _ current hcurrent _ hprocessing _
    rw [hrows]
    refine List.mem_map.mpr ⟨current, hcurrent, if_neg fun hkey => ?_⟩
    -- the claimed row was pending, so nobody held it
    have hsame : current = row := db.scanDirectoryQueue.eq_of_key_eq hcurrent hrow
      (hkey.trans (by rw [DirectoryQueueRow.key, hsession]))
    rw [hsame, hstatus] at hprocessing
    cases hprocessing
  · obtain ⟨item, hitem, hstands, -⟩ := hqueue.rows row hrow hsession
    have hkey : row.key = (id.sessionId, row.relativePath) := by
      rw [DirectoryQueueRow.key, hsession]
    refine ⟨item, hitem, hstands, hstands.payload (by rw [hstatus]; simp),
      row.claimedBy (ActorId.worker (index + 1)).text, ?_, ?_, rfl, rfl⟩
    · rw [hrows]
      exact List.mem_map.mpr ⟨row, hrow, if_pos hkey⟩
    · rw [← hstands.relativePath]
      exact hkey

/-- A worker that holds nothing requeues no row of another worker. -/
theorem AllHold.requeueForWorker (h : AllHold id items observed db workers)
    (hnext : ∀ db', HoldsClaim id items observed db' index next) :
    AllHold id items observed
      (db.requeueProcessingDirectoriesForWorker id.sessionId (ActorId.worker (index + 1)).text)
      (workers.set index next) := by
  refine h.set ?_ (hnext _)
  intro other hother current hcurrent _ _ hworker
  refine List.mem_map.mpr ⟨current, hcurrent, if_neg fun hwhere => ?_⟩
  simp only [Bool.and_eq_true, decide_eq_true_eq] at hwhere
  have hsame : other + 1 = index + 1 :=
    ActorId.text_worker_injective (Option.some.inj (hworker.symm.trans hwhere.2))
  omega

/-- A worker that applies its row holds nothing any more. -/
theorem AllHold.applyRow (h : AllHold id items observed db workers)
    (hclaim : Claim id items db index row item) {now : Instant}
    {application : DirectoryApplication} (hsession : application.sessionId = id.sessionId)
    (hpath : application.relativePath = item.relativePath)
    (hnext : ∀ db', HoldsClaim id items observed db' index next)
    (happly : db.applyDirectoryFiles now application = some db') :
    AllHold id items observed db' (workers.set index next) := by
  obtain ⟨hrows, -⟩ := CatalogDb.queue_applyDirectoryFiles happly
  refine h.set ?_ (hnext _)
  intro other hother current hcurrent _ _ hworker
  rw [hrows]
  refine List.mem_map.mpr ⟨current, hcurrent, if_neg fun hkey => ?_⟩
  obtain ⟨mine, hmine, hmineKey, -, hmineWorker⟩ := hclaim.queued
  have hsame : current = mine := db.scanDirectoryQueue.eq_of_key_eq hcurrent hmine
    (hkey.trans (by rw [hmineKey, hsession, hpath]))
  rw [hsame, hmineWorker] at hworker
  have hindex : index + 1 = other + 1 := ActorId.text_worker_injective (Option.some.inj hworker)
  omega

end Holds

/-! ## A step of a worker -/

theorem AllQueued.run {sessionId : SessionId} {items : List WorkItem} {db db' : CatalogDb}
    {now : Instant} {op : StoreOp} (h : AllQueued sessionId items db.scanDirectoryQueue)
    (hrun : op.run now db = some db') : AllQueued sessionId items db'.scanDirectoryQueue := by
  intro item hitem
  obtain ⟨row, hrow, hkey⟩ := h item hitem
  obtain ⟨new, hnew, hsame, -⟩ := exists_queueRow_run hrun hrow
  exact ⟨new, hnew, hsame.trans hkey⟩

/-- The scan is of the session, its root and its snapshot. -/
def RootScan.IsOf (scan : RootScan) (id : WritingSession) : Prop :=
  scan.sessionId = id.sessionId ∧ scan.storageRootId = id.storageRootId ∧
    scan.snapshotId = id.snapshotId

/-- What is known while the workers of the session run. -/
structure Working (id : WritingSession) (base : Table FileRecord FileRecord.key)
    (items : List WorkItem) (observed : WorkItem → ObservedBatch) (db : CatalogDb)
    (workers : List WorkerPhase) : Prop where
  progress : ∃ applied, Progress id base items observed applied db
  queued : AllQueued id.sessionId items db.scanDirectoryQueue
  holds : AllHold id items observed db workers

/-- The items can be told apart by their keys, and their observations by their paths. -/
structure Separate (items : List WorkItem) (observed : WorkItem → ObservedBatch) : Prop where
  keys : ∀ a ∈ items, ∀ b ∈ items, a.relativePath = b.relativePath → a = b
  paths : ∀ a ∈ items.flatMap fun item => (observed item).files,
    ∀ b ∈ items.flatMap fun item => (observed item).files, a.relativePath = b.relativePath → a = b

namespace Working

variable {id : WritingSession} {base : Table FileRecord FileRecord.key} {items : List WorkItem}
  {observed : WorkItem → ObservedBatch} {db db' : CatalogDb} {workers : List WorkerPhase}
  {index : Nat} {phase next : WorkerPhase} {now : Instant} {op : StoreOp}

/-- The worker moves on to where it holds nothing, without a store call. -/
theorem set (h : Working id base items observed db workers)
    (hnext : HoldsClaim id items observed db index next) :
    Working id base items observed db (workers.set index next) :=
  ⟨h.progress, h.queued, h.holds.set (fun _ _ _ hcurrent _ _ _ => hcurrent) hnext⟩

/-- The worker moves on by a store call that leaves the progress. -/
theorem leave (h : Working id base items observed db workers) (hrun : op.run now db = some db')
    (hleaves : LeavesProgress id db op)
    (hholds : AllHold id items observed db' (workers.set index next)) :
    Working id base items observed db' (workers.set index next) := by
  obtain ⟨applied, hprogress⟩ := h.progress
  exact ⟨⟨applied, hprogress.run hleaves hrun⟩, h.queued.run hrun, hholds⟩

/-- The worker applies the row it holds. -/
theorem apply (h : Working id base items observed db workers) (hseparate : Separate items observed)
    {scan : RootScan} (hscan : scan.IsOf id) {row : DirectoryQueueRow} {item : WorkItem}
    (hclaim : Claim id items db index row item)
    (hnext : ∀ db', HoldsClaim id items observed db' index next)
    (happly : db.applyDirectoryFiles now (scan.application row (observed item)) = some db') :
    Working id base items observed db' (workers.set index next) := by
  obtain ⟨applied, hprogress⟩ := h.progress
  obtain ⟨hsession, hroot, hsnapshot⟩ := hscan
  obtain ⟨current, hcurrent, hkey, hstatus, -⟩ := hclaim.queued
  have hpath : row.relativePath = item.relativePath := hclaim.stands.relativePath
  refine ⟨⟨applied ++ [item], ?_⟩, ?_, ?_⟩
  · refine hprogress.apply hseparate.keys hseparate.paths hclaim.isItem hcurrent hkey ?_ ?_ happly
    · rw [hstatus]
      nofun
    · exact ⟨hsession, hroot, hsnapshot, hpath, rfl, rfl, rfl⟩
  · have hrun : StoreOp.run now db (.applyDirectoryFiles (scan.application row (observed item))) =
        some db' := happly
    exact h.queued.run hrun
  · exact h.holds.applyRow hclaim hsession hpath hnext happly

/-- What a worker observes of the tree for its row is the batch of the item. -/
theorem observedOf_eq {lower : PyStr → PyStr} {tree : DirectoryTree} {row : DirectoryQueueRow}
    {item : WorkItem} (hclaim : Claim id items db index row item) {read : ObservedBatch}
    (hread : ∀ payload, row.payloadJson = some payload →
      read = observeFileBatch lower tree (filePathsFromPayload payload)) :
    RootScan.observedOf row read = observedItem lower tree item := by
  unfold RootScan.observedOf observedItem
  rw [hclaim.payload, hread _ hclaim.payload, hclaim.stands.errorCount,
    hclaim.stands.lastRelativePath]

theorem workerStep {lower : PyStr → PyStr} {tree : DirectoryTree} {scan : RootScan}
    {control : ControlState} {read : ObservedBatch} {shared shared' : WorkerShared}
    (h : Working id base items (observedItem lower tree) shared.catalog.db workers)
    (hseparate : Separate items (observedItem lower tree)) (hscan : scan.IsOf id)
    (hphase : workers[index]? = some phase)
    (hread : ∀ row payload, phase = .observe row → row.payloadJson = some payload →
      read = observeFileBatch lower tree (filePathsFromPayload payload))
    (hstep : WorkerStep scan control now (.worker (index + 1)) read shared phase next shared') :
    Working id base items (observedItem lower tree) shared'.catalog.db
      (workers.set index next) := by
  have hheld := h.holds index phase hphase
  -- a call that gives up what the worker holds
  have hleave : ∀ {catalog : CatalogState} {next : WorkerPhase},
      (∀ db, HoldsClaim id items (observedItem lower tree) db index next) →
      shared.catalog.step
        (now, .requeueProcessingDirectoriesForWorker scan.sessionId
          (ActorId.worker (index + 1)).text) = some catalog →
      Working id base items (observedItem lower tree) catalog.db (workers.set index next) := by
    intro catalog next hnext hcall
    obtain ⟨-, hrun, -⟩ := CatalogState.step_eq_some_iff.mp hcall
    refine h.leave hrun trivial ?_
    rw [← Option.some.inj hrun, hscan.1]
    exact h.holds.requeueForWorker hnext
  cases hstep with
  | sees | goesOn | waitStopped | waits | runs | ends | retries | counts | halts | repeats =>
      exact h.set trivial
  | leaves hcall => exact hleave (fun _ => trivial) hcall
  | leavesStopped hcall => exact hleave (fun _ => trivial) hcall
  | claims hcall hclaim =>
      obtain ⟨-, hrun, -⟩ := CatalogState.step_eq_some_iff.mp hcall
      have hclaimed := hrun
      simp only [StoreOp.run, hclaim] at hclaimed
      rw [Option.some.inj hclaimed, hscan.1] at hclaim
      obtain ⟨applied, hprogress⟩ := h.progress
      exact h.leave hrun trivial (h.holds.claim hprogress.queue hclaim)
  | claimsNothing hcall hclaim =>
      obtain ⟨-, hrun, -⟩ := CatalogState.step_eq_some_iff.mp hcall
      have hclaimed := hrun
      simp only [StoreOp.run, hclaim] at hclaimed
      refine h.leave hrun trivial ?_
      rw [← Option.some.inj hclaimed]
      exact h.holds.set (fun _ _ _ hcurrent _ _ _ => hcurrent) trivial
  | @observes row =>
      obtain ⟨item, hclaim⟩ := hheld
      refine h.set ⟨item, hclaim, ?_⟩
      exact observedOf_eq hclaim fun payload hpayload => hread row payload rfl hpayload
  | applies hcall =>
      obtain ⟨item, hclaim, rfl⟩ := hheld
      exact h.apply hseparate hscan hclaim (fun _ => trivial)
        (CatalogState.step_eq_some_iff.mp hcall).2.1

end Working

end ImmichDoctor.Catalog
