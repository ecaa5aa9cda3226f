import ImmichDoctor.Library.Transition
import ImmichDoctor.Services.BackupTargetSettings
import Mathlib.Logic.Function.Basic
/-!
# Requests and jobs on backup targets

The requests of an operator, `start_validation` and `start_execution`, and the jobs they
start, all on one file. A load and a save of the document are steps of their own. What a
check or a transfer finds is whatever it finds; a request may also end with an exception, or
because a job of its type is active, and an execution may end without a save. Exceptions come
before a save or after it: `write_text` empties the file that it opens, and one that raises while
it writes, and leaves no document to load, is not among these steps.
-/

namespace ImmichDoctor.Services

open ImmichDoctor.Library
open ImmichDoctor.Backup

/-! ## What is saved to a target -/

/-- The methods that load a target. -/
inductive TargetMethod
  | startValidation
  | runValidation
  | startExecution
  | runExecution
  deriving DecidableEq

/-- The copies that are saved. -/
inductive TargetWrite
  /-- `start_validation`. -/
  | running
  /-- `_run_validation`. -/
  | tested (result : BackupTargetLastTestResult)
  /-- `_run_execution`. -/
  | backedUp (metadata : BackupTargetLastBackupMetadata)
  deriving DecidableEq

/-- `target.model_copy(update=…)`. -/
def TargetWrite.copyOf (target : BackupTargetConfig) : TargetWrite → BackupTargetConfig
  | running => { target with verificationStatus := .running }
  | tested result =>
      { target with verificationStatus := result.status, lastTestResult := some result }
  | backedUp metadata => { target with lastSuccessfulBackup := some metadata }

/-- Which method saves what. -/
def TargetMethod.saves : TargetMethod → TargetWrite → Bool
  | startValidation, .running => true
  | runValidation, .tested _ => true
  | runExecution, .backedUp _ => true
  | _, _ => false

/-! ## Actors -/

/-- Where a request or a job is. -/
inductive ActorPhase
  | idle
  /-- The document is loaded next. -/
  | requested (request : OperatorRequest)
  /-- The document is saved next. -/
  | loaded (request : OperatorRequest) (document : BackupTargetsDocument)
  /-- `get_target` is next. -/
  | entered (method : TargetMethod) (targetId : TargetId)
  | working (method : TargetMethod) (target : BackupTargetConfig)
  /-- `save_target` loads the document next. -/
  | saving (write : TargetWrite) (target : BackupTargetConfig)
  /-- `save_target` saves the document next. -/
  | replacing (write : TargetWrite) (target : BackupTargetConfig) (document : BackupTargetsDocument)
  /-- `start_job` is next. -/
  | starting (method : TargetMethod) (targetId : TargetId)

/-- What follows a save of a target. -/
def TargetWrite.next (targetId : TargetId) : TargetWrite → ActorPhase
  | running => .starting .runValidation targetId
  | tested _ | backedUp _ => .idle

structure TargetSystem where
  document : BackupTargetsDocument
  /-- The ids there have been; a new one is none of them. -/
  issued : List TargetId
  actors : Nat → ActorPhase

def TargetSystem.start (document : BackupTargetsDocument) : TargetSystem :=
  ⟨document, document.map (·.targetId), fun _ => .idle⟩

inductive TargetLabel
  | request (actor : Nat) (request : OperatorRequest)
  | startValidation (actor : Nat) (targetId : TargetId)
  | startExecution (actor : Nat) (targetId : TargetId)
  | load (actor : Nat)
  /-- The work on a loaded target ends with a save. -/
  | report (actor : Nat) (write : TargetWrite)
  | save (actor : Nat)
  /-- `start_job`: the runner of the job goes on as an actor of its own. -/
  | spawn (actor job : Nat)
  /-- The request or the job ends without a further save; the document stays as it is. -/
  | leave (actor : Nat)

namespace TargetSystem

variable (s : TargetSystem)

def setActor (actor : Nat) (phase : ActorPhase) : TargetSystem :=
  { s with actors := Function.update s.actors actor phase }

/-- The phase of an actor after it has loaded the document. -/
def loadedPhase : ActorPhase → Option ActorPhase
  | .requested request => some (.loaded request s.document)
  | .entered method targetId =>
      match findTarget targetId s.document with
      | none => none
      | some target =>
          some (if method = .startExecution then .starting .runExecution targetId
            else .working method target)
  | .saving write target => some (.replacing write target s.document)
  | _ => none

/-- The document an actor saves, and the phase it goes on in. -/
def savedDocument : ActorPhase → Option (BackupTargetsDocument × ActorPhase)
  | .loaded request document =>
      match request.apply document with
      | .error _ => none
      | .ok saved => some (saved, .idle)
  | .replacing write target document =>
      some (putTarget (write.copyOf target) document, write.next target.targetId)
  | _ => none

/-- One step of an actor. -/
def step : TargetLabel → Option TargetSystem
  | .request actor request =>
      match s.actors actor with
      | .idle =>
          match request with
          | .createTarget context _ =>
              if context.newTargetId ∈ s.issued then none
              else some
                { s.setActor actor (.requested request) with
                  issued := context.newTargetId :: s.issued }
          | _ => some (s.setActor actor (.requested request))
      | _ => none
  | .startValidation actor targetId =>
      match s.actors actor with
      | .idle => some (s.setActor actor (.entered .startValidation targetId))
      | _ => none
  | .startExecution actor targetId =>
      match s.actors actor with
      | .idle => some (s.setActor actor (.entered .startExecution targetId))
      | _ => none
  | .load actor => (s.loadedPhase (s.actors actor)).map (s.setActor actor)
  | .report actor write =>
      match s.actors actor with
      | .working method target =>
          if method.saves write then some (s.setActor actor (.saving write target)) else none
      | _ => none
  | .save actor =>
      (savedDocument (s.actors actor)).map fun (saved, phase) =>
        { s.setActor actor phase with document := saved }
  | .spawn actor job =>
      match s.actors actor, s.actors job with
      | .starting method targetId, .idle =>
          some { s with
            actors := Function.update (Function.update s.actors actor .idle) job
              (.entered method targetId) }
      | _, _ => none
  | .leave actor => some (s.setActor actor .idle)

end TargetSystem

end ImmichDoctor.Services
