import ImmichDoctor.Library.Transition
import ImmichDoctor.Backup.RemoteTransport
import ImmichDoctor.Backup.TargetPayloads
import ImmichDoctor.Services.BackupTargetJobs
/-!
# Targets and their secrets

The requests of operators and the saves of jobs on the document of targets, together with the
files of secrets that `_build_target` writes and reads. A load of the document, a build and a
save are steps of their own, and an actor may stop at any of them. Whatever a job saves is a
copy of a target it has loaded.
-/

namespace ImmichDoctor.Services

open ImmichDoctor.Library
open ImmichDoctor.Backup

/-! ## Secrets of a build -/

/-- What is fixed while the application runs. -/
structure RegistryHost where
  expandUser : PurePath → PurePath
  /-- The id in the name of the file that a secret's id leads to. -/
  located : PyStr → PyStr

/-- What a build gets from the clock and the sources of new ids. -/
structure BuildDraws where
  now : PyStr
  newTargetId : TargetId
  newSecretId : PyStr

def RegistryHost.context (host : RegistryHost) (draws : BuildDraws) (secrets : SecretFiles) :
    BuildContext where
  now := draws.now
  newTargetId := draws.newTargetId
  expandUser := host.expandUser
  newSecretId := fun _ => draws.newSecretId
  storedSecret := fun secretId => reuseSecret secrets (host.located secretId)

/-- The files after `_resolve_secret_reference`. -/
def persistRequested (draws : BuildDraws) (secretKind defaultLabel : PyStr)
    (requested : Option BackupTargetSecretInput) (secrets : SecretFiles) : SecretFiles :=
  match requested with
  | none => secrets
  | some input =>
      if (input.material.getD []).isEmpty then secrets
      else
        (persistSecret draws.newSecretId draws.now secretKind
          (if (input.label.getD []).isEmpty then defaultLabel else input.label.getD [])
          (input.material.getD []) secrets).2

/-- The files after `_password_secret_reference`. -/
def persistPassword (draws : BuildDraws) (payload : BackupTargetUpsertPayload)
    (secrets : SecretFiles) : SecretFiles :=
  let persisted := persistRequested draws (py "password") (py "password secret")
    payload.passwordSecret secrets
  match payload.targetType with
  | .smb => if payload.mountStrategy = some .systemMount then persisted else secrets
  | .ssh | .rsync => if payload.authMode = some .password then persisted else secrets
  | .local_ => secrets

/-- The files after `_private_key_secret_reference`. -/
def persistPrivateKey (draws : BuildDraws) (payload : BackupTargetUpsertPayload)
    (secrets : SecretFiles) : SecretFiles :=
  match payload.targetType with
  | .ssh | .rsync =>
      if payload.authMode = some .privateKey then
        persistRequested draws (py "private_key") (py "private key secret")
          payload.privateKeySecret secrets
      else secrets
  | .local_ | .smb => secrets

/-- The files after `_build_target`; what it has written stays when it raises later. -/
def secretsAfterBuild (context : BuildContext) (draws : BuildDraws)
    (payload : BackupTargetUpsertPayload) (existing : Option BackupTargetConfig)
    (secrets : SecretFiles) : SecretFiles :=
  match context.transportPath payload with
  | .error _ => secrets
  | .ok _ =>
      match context.passwordSecretReference payload existing with
      | .error _ => secrets
      | .ok _ => persistPrivateKey draws payload (persistPassword draws payload secrets)

/-! ## Requests -/

/-- What an operator sends. -/
inductive RegistryRequest
  | create (body : TargetRequestBody)
  | update (targetId : TargetId) (body : TargetRequestBody)
  | delete (targetId : TargetId)

/-- A request whose body has been validated. -/
inductive ValidRequest
  | create (payload : BackupTargetUpsertPayload)
  | update (targetId : TargetId) (payload : BackupTargetUpsertPayload)
  | delete (targetId : TargetId)

def RegistryRequest.validated (host : RegistryHost) :
    RegistryRequest → Except PayloadError ValidRequest
  | .create body => (validatePayload host.expandUser body).map .create
  | .update targetId body => (validatePayload host.expandUser body).map (.update targetId)
  | .delete targetId => .ok (.delete targetId)

def ValidRequest.operatorRequest (context : BuildContext) : ValidRequest → OperatorRequest
  | .create payload => .createTarget context payload
  | .update targetId payload => .updateTarget context targetId payload
  | .delete targetId => .deleteTarget targetId

/-- The files of secrets after the request has worked on a loaded document. -/
def ValidRequest.secretsAfter (context : BuildContext) (draws : BuildDraws)
    (document : BackupTargetsDocument) (secrets : SecretFiles) : ValidRequest → SecretFiles
  | .create payload => secretsAfterBuild context draws payload none secrets
  | .update targetId payload =>
      match findTarget targetId document with
      | none => secrets
      | some existing => secretsAfterBuild context draws payload (some existing) secrets
  | .delete _ => secrets

/-! ## The system -/

/-- Where a request or a job is. -/
inductive RegistryPhase
  | idle
  /-- The document has been loaded. -/
  | loaded (request : ValidRequest) (document : BackupTargetsDocument)
  /-- The document is saved next. -/
  | built (document : BackupTargetsDocument)
  /-- A job works on a target it has loaded. -/
  | holding (target : BackupTargetConfig)
  /-- `save_target` has loaded the document. -/
  | replacing (target : BackupTargetConfig) (document : BackupTargetsDocument)

structure TargetRegistry where
  document : BackupTargetsDocument
  secrets : SecretFiles
  actors : Nat → RegistryPhase

def TargetRegistry.empty : TargetRegistry :=
  ⟨[], fun _ => none, fun _ => .idle⟩

inductive RegistryLabel
  /-- A request is validated and loads the document. -/
  | request (actor : Nat) (request : RegistryRequest)
  | build (actor : Nat) (draws : BuildDraws)
  /-- `get_target`. -/
  | hold (actor : Nat) (targetId : TargetId)
  /-- `model_copy` and the load of `save_target`. -/
  | report (actor : Nat) (write : TargetWrite)
  | save (actor : Nat)
  /-- The request or the job ends without a further save. -/
  | leave (actor : Nat)

namespace TargetRegistry

variable (host : RegistryHost) (s : TargetRegistry)

def setActor (actor : Nat) (phase : RegistryPhase) : TargetRegistry :=
  { s with actors := Function.update s.actors actor phase }

/-- The request has worked on the document it has loaded. -/
def built (actor : Nat) (draws : BuildDraws) (request : ValidRequest)
    (document : BackupTargetsDocument) : TargetRegistry :=
  let context := host.context draws s.secrets
  let phase := match (request.operatorRequest context).apply document with
    | .error _ => .idle
    | .ok saved => .built saved
  { s.setActor actor phase with
    secrets := request.secretsAfter context draws document s.secrets }

/-- One step of an actor; a new id of a secret is a plain name that no file has. -/
def step : RegistryLabel → Option TargetRegistry
  | .request actor request =>
      match s.actors actor, request.validated host with
      | .idle, .ok valid => some (s.setActor actor (.loaded valid s.document))
      | _, _ => none
  | .build actor draws =>
      match s.actors actor with
      | .loaded request document =>
          if (s.secrets draws.newSecretId).isNone ∧
              host.located draws.newSecretId = draws.newSecretId then
            some (s.built host actor draws request document)
          else none
      | _ => none
  | .hold actor targetId =>
      match s.actors actor, findTarget targetId s.document with
      | .idle, some target => some (s.setActor actor (.holding target))
      | _, _ => none
  | .report actor write =>
      match s.actors actor with
      | .holding target => some (s.setActor actor (.replacing (write.copyOf target) s.document))
      | _ => none
  | .save actor =>
      match s.actors actor with
      | .built document => some { s.setActor actor .idle with document := document }
      | .replacing target document =>
          some { s.setActor actor .idle with document := putTarget target document }
      | _ => none
  | .leave actor => some (s.setActor actor .idle)

/-- The secrets as a connection reads them. -/
def readable : SecretFiles :=
  fun secretId => s.secrets (host.located secretId)

end TargetRegistry

end ImmichDoctor.Services
