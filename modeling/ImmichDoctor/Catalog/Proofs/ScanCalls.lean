import ImmichDoctor.Catalog.Proofs.ScanCommit
/-!
# The store calls of the scan process

Every step of the scan process is a run of the store, of at most two calls. What holds
of every reachable catalog therefore holds of the catalog of every reachable scan
process.
-/

namespace ImmichDoctor.Catalog

open ImmichDoctor.Library

/-! ## The calls of a step -/

/-- What a store call of a step can be: only preparing seeds, only a worker applies, and
both and a commit are of the current scan. -/
def MayCall (s : ScanSystem) (event : ScanEvent) : StoreOp → Prop
  | .seedDirectoryWorkQueue sessionId workItems => ∃ scan seen, s.scan? = some scan ∧
      sessionId = scan.sessionId ∧ event = .prepare workItems seen
  | .applyDirectoryFiles application => ∃ scan row observed index read,
      s.scan? = some scan ∧ application = scan.application row observed ∧
      event = .work index read
  | .commitScanSession sessionId => ∃ scan, s.scan? = some scan ∧ sessionId = scan.sessionId
  | _ => True

/-- The catalog after a step, by the calls that lead there. -/
def Calls (s : ScanSystem) (event : ScanEvent) (catalog : CatalogState) : Prop :=
  ∃ calls, Steps CatalogState.step (fun _ call => MayCall s event call.2) s.catalog calls catalog

section Calls

variable {s t : ScanSystem} {event : ScanEvent} {catalog : CatalogState}

theorem Calls.nil : Calls s event s.catalog :=
  ⟨[], .refl _⟩

theorem Calls.one {call : Instant × StoreOp} (hstep : s.catalog.step call = some catalog)
    (hmay : MayCall s event call.2) : Calls s event catalog :=
  ⟨[call], .head hmay hstep (.refl _)⟩

theorem calls_of_workerStep {now : Instant} {index : Nat} {read : ObservedBatch}
    {scan : RootScan} {shared shared' : WorkerShared} {phase next : WorkerPhase}
    (hscan : s.scan? = some scan) (hcatalog : shared.catalog = s.catalog)
    (hstep : WorkerStep scan s.control now (.worker (index + 1)) read shared phase next shared') :
    Calls s (.work index read) shared'.catalog := by
  have hsame : Calls s (.work index read) shared.catalog := hcatalog ▸ Calls.nil
  have hone : ∀ {call : Instant × StoreOp} {catalog : CatalogState},
      shared.catalog.step call = some catalog → MayCall s (.work index read) call.2 →
      Calls s (.work index read) catalog := fun hcall hmay => Calls.one (hcatalog ▸ hcall) hmay
  cases hstep with
  | sees | goesOn | waitStopped | waits | runs | ends | retries | observes | counts | halts
  | repeats => exact hsame
  | leaves hcall => exact hone hcall trivial
  | leavesStopped hcall => exact hone hcall trivial
  | claims hcall => exact hone hcall trivial
  | claimsNothing hcall => exact hone hcall trivial
  | @applies row observed catalog hcall =>
      exact hone hcall ⟨scan, row, observed, index, read, hscan, rfl, rfl⟩

/-- Opening a session is one call. -/
theorem calls_of_openSession {now : Instant} {sessionId selected : SessionId} {job : ScanJob}
    {target : ScanTarget}
    (hopen : s.openSession now sessionId job target = some (catalog, selected)) :
    Calls s event catalog := by
  cases target with
  | fresh storageRootId =>
      simp only [ScanSystem.openSession] at hopen
      split at hopen
      · cases hopen
      · obtain ⟨created, hcreated, hpair⟩ := Option.bind_eq_some_iff.mp hopen
        cases hpair
        exact Calls.one hcreated trivial
  | resume resumed =>
      obtain ⟨reopened, hreopened, hpair⟩ := Option.bind_eq_some_iff.mp hopen
      cases hpair
      exact Calls.one hreopened trivial

/-- The catalog of the next state is led to by calls of the step. -/
theorem calls_of_step {now : Instant} (hstep : s.step (now, event) = some t) :
    Calls s event t.catalog := by
  cases scanStep_of_step hstep with
  | synced hcall => exact Calls.one hcall trivial
  | started | signalled | asked | workerRaised | joinedInterrupted | joined | ended | crashed =>
      exact Calls.nil
  | selected hjob hcurrent htargets hopen => exact calls_of_openSession hopen
  | rootFailed hjob hcurrent hstage hcall => exact Calls.one hcall trivial
  | prepared hjob hcurrent hstage hcall =>
      exact Calls.one hcall ⟨_, none, ScanSystem.scan?_eq_some hjob hcurrent, rfl, rfl⟩
  | preparedInterrupted hjob hcurrent hstage hcall =>
      exact Calls.one hcall ⟨_, some _, ScanSystem.scan?_eq_some hjob hcurrent, rfl, rfl⟩
  | worked hjob hcurrent hstage hphase hworker =>
      exact calls_of_workerStep (ScanSystem.scan?_eq_some hjob hcurrent) rfl hworker
  | requeued hjob hcurrent hstage hcollecting hcall =>
      refine ⟨[_, _], Steps.head ?_ hcollecting (Steps.head ?_ hcall (Steps.refl _))⟩
      · trivial
      · trivial
  | interruptedStopped hjob hcurrent hstage hcall => exact Calls.one hcall trivial
  | interruptedPaused hjob hcurrent hstage hcall => exact Calls.one hcall trivial
  | committed hjob hcurrent hstage hcall =>
      exact Calls.one hcall ⟨_, ScanSystem.scan?_eq_some hjob hcurrent, rfl⟩

end Calls

/-! ## The actors of a job -/

/-- The job has at least one worker. -/
def HasActors (s : ScanSystem) : Prop :=
  ∀ job, s.job = some job → job.controller.actorIds ≠ []

namespace HasActors

variable {s t : ScanSystem} {job : ScanJob}

theorem withJob {catalog : CatalogState} {control : ControlState} {job' : ScanJob}
    (h : HasActors s) (hjob : s.job = some job)
    (hactors : job'.controller.actorIds = job.controller.actorIds) :
    HasActors ⟨catalog, control, some job'⟩ := by
  intro other hother
  cases hother
  exact hactors ▸ h job hjob

theorem withoutJob {catalog : CatalogState} {control : ControlState} :
    HasActors ⟨catalog, control, none⟩ := nofun

theorem step {now : Instant} {event : ScanEvent} (h : HasActors s)
    (hstep : s.step (now, event) = some t) : HasActors t := by
  cases scanStep_of_step hstep with
  | synced | signalled => exact h
  | @started targets workers maxFiles hidle =>
      intro other hother
      cases hother
      exact ScanRuntimeController.actorIds_create_ne_nil workers
  | asked hevent hjob => exact h.withJob hjob (ScanEvent.actorIds_actorRequest hevent _)
  | selected hjob => exact h.withJob hjob rfl
  | prepared hjob => exact h.withJob hjob (by simp)
  | preparedInterrupted hjob => exact h.withJob hjob (by simp)
  | worked hjob hcurrent hstage hphase hworker =>
      exact h.withJob hjob (workerStep_frame hworker).2
  | workerRaised hjob => exact h.withJob hjob rfl
  | joinedInterrupted hjob => exact h.withJob hjob rfl
  | joined hjob => exact h.withJob hjob (by simp)
  | requeued hjob => exact h.withJob hjob rfl
  | committed hjob => exact h.withJob hjob rfl
  | rootFailed | interruptedStopped | interruptedPaused | ended | crashed => exact withoutJob

end HasActors

/-! ## Reachable scan processes -/

section Reachable

variable {clock : Instant} {s : ScanSystem}

theorem reachable_catalog (hreach : Reachable ScanSystem.step (ScanSystem.start clock) s) :
    Reachable CatalogState.step (CatalogState.start clock) s.catalog := by
  have hpres : ∀ (s : ScanSystem) (label : Instant × ScanEvent) (t : ScanSystem),
      s.step label = some t →
      Reachable CatalogState.step (CatalogState.start clock) s.catalog →
      Reachable CatalogState.step (CatalogState.start clock) t.catalog := by
    intro s label t hstep hs
    obtain ⟨calls, hcalls⟩ := calls_of_step hstep
    exact hs.trans hcalls
  exact Reachable.invariant hpres hreach (Reachable.self _)

theorem hasActors_of_reachable (hreach : Reachable ScanSystem.step (ScanSystem.start clock) s) :
    HasActors s :=
  hreach.invariant (fun _ _ _ hstep hs => hs.step hstep) nofun

end Reachable

end ImmichDoctor.Catalog
