import ImmichDoctor.Library.Text
import Mathlib.Data.List.Dedup
/-!
# The runtime controller of a scan

`ScanRuntimeController` of `catalog/service.py`: the per-actor pause and stop
requests and the state each actor shows. One controller lives for a whole job and
is shared by all of its roots.
-/

namespace ImmichDoctor.Catalog

open ImmichDoctor.Library

inductive ActorRole
  | collector
  | worker
  deriving DecidableEq

inductive ActorState
  | idle
  | running
  | waiting
  | pausing
  | paused
  | stopping
  | stopped
  | completed
  deriving DecidableEq

/-- `"collector"`, or `"worker-<index>"` with indices from 1. -/
inductive ActorId
  | collector
  | worker (index : Nat)
  deriving DecidableEq

def ActorId.text : ActorId → PyStr
  | collector => py "collector"
  | worker index => py "worker-" ++ PyStr.decimal index

theorem ActorId.text_worker_injective {i j : Nat}
    (h : (ActorId.worker i).text = (ActorId.worker j).text) : i = j :=
  PyStr.decimal_injective (List.append_cancel_left h)

structure ScanActorRuntimeState where
  actorId : ActorId
  role : ActorRole
  state : ActorState
  currentRelativePath : Option PyStr

structure ScanRuntimeController where
  workerCount : Nat
  actors : List ScanActorRuntimeState
  paused : List ActorId
  stopped : List ActorId
  collectorFinished : Bool

/-- What one pass of the loop in `wait_until_runnable` ends with. -/
inductive WaitOutcome
  | stopped
  | waiting
  | running

namespace ScanRuntimeController

def idleWorker (index : Nat) : ScanActorRuntimeState where
  actorId := .worker index
  role := .worker
  state := .idle
  currentRelativePath := none

def create (workerCount : Nat) : ScanRuntimeController where
  workerCount := workerCount
  actors := ⟨.collector, .collector, .idle, none⟩ ::
    (List.range' 1 workerCount).map idleWorker
  paused := []
  stopped := []
  collectorFinished := false

def actorIds (c : ScanRuntimeController) : List ActorId :=
  (c.actors.map (·.actorId)).filter (· ≠ .collector)

def knows (c : ScanRuntimeController) (actorId : ActorId) : Bool :=
  c.actors.any fun actor => actor.actorId = actorId

def updateActor (c : ScanRuntimeController) (actorId : ActorId)
    (f : ScanActorRuntimeState → ScanActorRuntimeState) : ScanRuntimeController :=
  { c with actors := c.actors.map fun actor => if actor.actorId = actorId then f actor else actor }

def requestPause (c : ScanRuntimeController) (actorId : ActorId) : Bool × ScanRuntimeController :=
  if c.knows actorId then
    let requested := { c with paused := c.paused.insert actorId }
    (true, requested.updateActor actorId fun actor =>
      if actor.state = .stopped ∨ actor.state = .paused then actor
      else { actor with state := .pausing })
  else (false, c)

def requestResume (c : ScanRuntimeController) (actorId : ActorId) : Bool × ScanRuntimeController :=
  if !c.knows actorId || actorId ∈ c.stopped then (false, c)
  else
    let requested := { c with paused := c.paused.erase actorId }
    (true, requested.updateActor actorId fun actor =>
      if actor.state = .paused ∨ actor.state = .pausing then
        { actor with state := .idle, currentRelativePath := none }
      else actor)

def requestStop (c : ScanRuntimeController) (actorId : ActorId) : Bool × ScanRuntimeController :=
  if c.knows actorId then
    let requested := { c with
      paused := c.paused.erase actorId
      stopped := c.stopped.insert actorId }
    (true, requested.updateActor actorId fun actor =>
      if actor.state = .stopped then actor else { actor with state := .stopping })
  else (false, c)

/-- One pass of `wait_until_runnable`; a paused actor goes round the loop again. -/
def waitUntilRunnable (c : ScanRuntimeController) (actorId : ActorId) :
    WaitOutcome × ScanRuntimeController :=
  if actorId ∈ c.stopped then
    (.stopped, c.updateActor actorId fun actor =>
      { actor with state := .stopped, currentRelativePath := none })
  else if actorId ∈ c.paused then
    (.waiting, c.updateActor actorId fun actor =>
      { actor with state := .paused, currentRelativePath := none })
  else
    (.running, c.updateActor actorId fun actor =>
      if actor.state = .running ∨ actor.state = .waiting then actor
      else { actor with state := .waiting, currentRelativePath := none })

def markRunning (c : ScanRuntimeController) (actorId : ActorId) (relativePath : Option PyStr) :
    ScanRuntimeController :=
  c.updateActor actorId fun actor =>
    { actor with state := .running, currentRelativePath := relativePath }

def markIdle (c : ScanRuntimeController) (actorId : ActorId) : ScanRuntimeController :=
  c.updateActor actorId fun actor =>
    { actor with
      state :=
        if actorId ∈ c.stopped then .stopped
        else if actorId ∈ c.paused then .paused
        else if actor.role = .collector ∧ c.collectorFinished = true then .completed
        else .waiting
      currentRelativePath := none }

def markCollectorFinished (c : ScanRuntimeController) : ScanRuntimeController :=
  let finished := { c with collectorFinished := true }
  finished.updateActor .collector fun actor =>
    { actor with
      state :=
        if ActorId.collector ∈ c.stopped then .stopped
        else if ActorId.collector ∈ c.paused then .paused
        else .completed
      currentRelativePath := none }

def markScanCompleted (c : ScanRuntimeController) : ScanRuntimeController :=
  { c with
    actors := c.actors.map fun actor =>
      if actor.state = .stopped ∨ actor.state = .paused then actor
      else { actor with state := .completed, currentRelativePath := none }
    collectorFinished := true }

/-! ## The actors of a controller stay the same -/

theorem actorIds_updateActor {c : ScanRuntimeController} {actorId : ActorId}
    {f : ScanActorRuntimeState → ScanActorRuntimeState}
    (hf : ∀ actor, (f actor).actorId = actor.actorId) :
    (c.updateActor actorId f).actorIds = c.actorIds := by
  have hmap : (c.actors.map fun actor => if actor.actorId = actorId then f actor else actor).map
      (·.actorId) = c.actors.map (·.actorId) := by
    rw [List.map_map]
    refine List.map_congr_left fun actor _ => ?_
    by_cases hid : actor.actorId = actorId <;> simp [hid, hf]
  rw [actorIds, actorIds, updateActor, hmap]

@[simp] theorem actorIds_requestPause (c : ScanRuntimeController) (actorId : ActorId) :
    (c.requestPause actorId).2.actorIds = c.actorIds := by
  unfold requestPause
  split
  · exact actorIds_updateActor fun actor => by split <;> rfl
  · rfl

@[simp] theorem actorIds_requestResume (c : ScanRuntimeController) (actorId : ActorId) :
    (c.requestResume actorId).2.actorIds = c.actorIds := by
  unfold requestResume
  split
  · rfl
  · exact actorIds_updateActor fun actor => by split <;> rfl

@[simp] theorem actorIds_requestStop (c : ScanRuntimeController) (actorId : ActorId) :
    (c.requestStop actorId).2.actorIds = c.actorIds := by
  unfold requestStop
  split
  · exact actorIds_updateActor fun actor => by split <;> rfl
  · rfl

@[simp] theorem actorIds_waitUntilRunnable (c : ScanRuntimeController) (actorId : ActorId) :
    (c.waitUntilRunnable actorId).2.actorIds = c.actorIds := by
  unfold waitUntilRunnable
  split
  · exact actorIds_updateActor fun _ => rfl
  · split
    · exact actorIds_updateActor fun _ => rfl
    · exact actorIds_updateActor fun actor => by split <;> rfl

@[simp] theorem actorIds_markRunning (c : ScanRuntimeController) (actorId : ActorId)
    (relativePath : Option PyStr) : (c.markRunning actorId relativePath).actorIds = c.actorIds :=
  actorIds_updateActor fun _ => rfl

@[simp] theorem actorIds_markIdle (c : ScanRuntimeController) (actorId : ActorId) :
    (c.markIdle actorId).actorIds = c.actorIds :=
  actorIds_updateActor fun _ => rfl

@[simp] theorem actorIds_markCollectorFinished (c : ScanRuntimeController) :
    c.markCollectorFinished.actorIds = c.actorIds :=
  actorIds_updateActor fun _ => rfl

@[simp] theorem actorIds_markScanCompleted (c : ScanRuntimeController) :
    c.markScanCompleted.actorIds = c.actorIds := by
  have hmap : c.markScanCompleted.actors.map (·.actorId) = c.actors.map (·.actorId) := by
    rw [markScanCompleted, List.map_map]
    refine List.map_congr_left fun actor _ => ?_
    simp only [Function.comp_apply]
    split <;> rfl
  rw [actorIds, hmap, actorIds]

theorem actorIds_create (workerCount : Nat) :
    (create workerCount).actorIds = (List.range' 1 workerCount).map .worker := by
  simp [create, actorIds, idleWorker, List.filter_map, Function.comp_def]

end ScanRuntimeController

end ImmichDoctor.Catalog
