import ImmichDoctor.Backup.Targets
/-!
# Backup target settings

`BackupTargetSettingsService`: the target an operator's payload describes, and what the
methods make of the document they have loaded. The load and the save of a document are the
steps of the module on backup jobs.
-/

namespace ImmichDoctor.Services

open ImmichDoctor.Library
open ImmichDoctor.Backup

/-! ## Errors -/

inductive TargetError
  | keyError (message : PyStr)
  | valueError (message : PyStr)
  /-- The file of a secret cannot be read. -/
  | secretNotFound
  deriving DecidableEq

def targetNotFound (targetId : TargetId) : TargetError :=
  .keyError (py "Backup target not found: " ++ targetId)

/-! ## Building a target -/

/-- What `_build_target` gets from outside: the clock, new ids and the files of secrets. -/
structure BuildContext where
  now : PyStr
  newTargetId : TargetId
  expandUser : PurePath → PurePath
  newSecretId : PyStr → PyStr
  /-- `reuse_secret`. -/
  storedSecret : PyStr → Option SecretReferenceSummary

namespace BuildContext

variable (context : BuildContext)

/-- `_resolve_secret_reference`. -/
def resolveSecretReference (secretKind defaultLabel : PyStr)
    (requested : Option BackupTargetSecretInput) (current : Option SecretReferenceSummary) :
    Except TargetError (Option SecretReferenceSummary) :=
  match requested with
  | none => .ok current
  | some input =>
      if (input.material.getD []).isEmpty then
        match input.secretId with
        | none => .ok current
        | some secretId =>
            if secretId.isEmpty then .ok current
            else match context.storedSecret secretId with
              | none => .error .secretNotFound
              | some secret => .ok (some secret)
      else
        .ok (some
          { secretId := context.newSecretId secretKind
            kind := secretKind
            label := if (input.label.getD []).isEmpty then defaultLabel else input.label.getD []
            createdAt := context.now })

/-- `_password_secret_reference`. -/
def passwordSecretReference (payload : BackupTargetUpsertPayload)
    (existing : Option BackupTargetConfig) : Except TargetError (Option SecretReferenceSummary) :=
  let resolved := context.resolveSecretReference (py "password") (py "password secret")
    payload.passwordSecret (existing.bind (·.transport.passwordSecretRef))
  match payload.targetType with
  | .smb => if payload.mountStrategy = some .systemMount then resolved else .ok none
  | .ssh | .rsync => if payload.authMode = some .password then resolved else .ok none
  | .local_ => .ok none

/-- `_private_key_secret_reference`. -/
def privateKeySecretReference (payload : BackupTargetUpsertPayload)
    (existing : Option BackupTargetConfig) : Except TargetError (Option SecretReferenceSummary) :=
  match payload.targetType with
  | .ssh | .rsync =>
      if payload.authMode = some .privateKey then
        context.resolveSecretReference (py "private_key") (py "private key secret")
          payload.privateKeySecret (existing.bind (·.transport.privateKeySecretRef))
      else .ok none
  | .local_ | .smb => .ok none

/-- `_validated_path`. -/
def validatedPath (payload : BackupTargetUpsertPayload) : Except TargetError PyStr :=
  match payload.path with
  | none => .error (.valueError (py "Local targets require a path."))
  | some text =>
      let path := context.expandUser (.parse text)
      if path.anchor = .relative then
        .error (.valueError (py "Local targets require an absolute destination path."))
      else .ok path.text

/-- The path of the transport. -/
def transportPath (payload : BackupTargetUpsertPayload) : Except TargetError (Option PyStr) :=
  if payload.targetType = .local_ then (context.validatedPath payload).map some else .ok none

end BuildContext

/-- `_validate_resolved_transport`. -/
def validateResolvedTransport (payload : BackupTargetUpsertPayload)
    (transport : BackupTargetTransportSettings) : Except TargetError Unit :=
  match payload.targetType with
  | .ssh | .rsync =>
      match transport.authMode with
      | some .privateKey =>
          if transport.privateKeySecretRef.isSome then .ok ()
          else .error (.valueError
            (py "SSH and rsync targets using private_key auth require a private key " ++
              py "secret reference."))
      | some .password =>
          if transport.passwordSecretRef.isSome then .ok ()
          else .error (.valueError
            (py "SSH and rsync targets using password auth require a password secret reference."))
      | some .agent => .ok ()
      | none =>
          .error (.valueError (py "SSH and rsync targets require a supported auth mode."))
  | .local_ => .ok ()
  | .smb =>
      match transport.mountStrategy with
      | some .preMountedPath =>
          if transport.mountedPath.isSome then .ok ()
          else .error (.valueError (py "SMB pre-mounted targets require a mounted path."))
      | none => .error (.valueError (py "SMB targets require a supported mount strategy."))
      | some .systemMount =>
          if (transport.username.getD []).isEmpty then
            .error (.valueError (py "SMB system-mount targets require a username."))
          else if transport.passwordSecretRef.isSome then .ok ()
          else .error (.valueError
            (py "SMB system-mount targets require a password secret reference."))

/-- `_restore_readiness_for_payload`. -/
def restoreReadinessForPayload (payload : BackupTargetUpsertPayload) : BackupRestoreReadiness :=
  match payload.targetType with
  | .local_ => .partial_
  | .smb => if payload.mountStrategy = some .preMountedPath then .partial_ else .notImplemented
  | .ssh | .rsync => .notImplemented

/-- `_warnings_for_payload`. -/
def warningsForPayload (payload : BackupTargetUpsertPayload) : List PyStr :=
  (match payload.targetType with
    | .smb =>
        if payload.mountStrategy = some .preMountedPath then
          [py "SMB pre-mounted targets rely on an already authenticated mount. " ++
            py "When the mounted path is usable, execution follows the same " ++
            py "path-like check/sync workflow as other mounted destinations."]
        else
          [py "SMB targets require authentication for system mount. " ++
            py "Execution still disabled in this phase."]
    | .local_ =>
        [py "Local targets allow asset-aware check/sync, test copy, and " ++
          py "explicit selective restore with quarantine-first overwrite protection."]
    | .ssh | .rsync =>
        [py "Remote targets currently provide files-only backup scope and do " ++
          py "not imply restore readiness."] ++
        (if payload.authMode = some .password then
          [py "Password-based SSH/rsync execution is not implemented in this phase."] else []) ++
        (if payload.knownHostMode = some .disabled then
          [py "Known-host verification is explicitly disabled for this target."] else [])) ++
  if payload.retentionPolicy.any (·.pruneAutomatically) then
    [py "Automatic retention pruning is not implemented; old backups are " ++
      py "never deleted automatically."]
  else []

/-- `_build_target`. -/
def buildTarget (context : BuildContext) (payload : BackupTargetUpsertPayload)
    (existing : Option BackupTargetConfig) : Except TargetError BackupTargetConfig := do
  let path ← context.transportPath payload
  let passwordSecretRef ← context.passwordSecretReference payload existing
  let privateKeySecretRef ← context.privateKeySecretReference payload existing
  let transport : BackupTargetTransportSettings :=
    { path := path
      host := payload.host
      port := some (if payload.port.getD 0 = 0 then 22 else payload.port.getD 0)
      share := payload.share
      remotePath := payload.remotePath
      username := payload.username
      authMode := payload.authMode
      mountStrategy := payload.mountStrategy
      mountedPath := payload.mountedPath
      knownHostMode := payload.knownHostMode
      knownHostReference := payload.knownHostReference
      domain := payload.domain
      mountOptions := payload.mountOptions
      passwordSecretRef := passwordSecretRef
      privateKeySecretRef := privateKeySecretRef }
  validateResolvedTransport payload transport
  return {
    targetId := (existing.map (·.targetId)).getD context.newTargetId
    targetName := payload.targetName
    targetType := payload.targetType
    enabled := payload.enabled
    transport := transport
    verificationStatus := .unknown
    lastTestResult := existing.bind (·.lastTestResult)
    lastSuccessfulBackup := existing.bind (·.lastSuccessfulBackup)
    retentionPolicy := (payload.retentionPolicy <|> existing.map (·.retentionPolicy)).getD .default
    restoreReadiness := restoreReadinessForPayload payload
    sourceScope := py "files_only"
    schedulingCompatible := true
    warnings := warningsForPayload payload
    createdAt := (existing.map (·.createdAt)).getD context.now
    updatedAt := context.now }

/-! ## Documents -/

/-- `get_target` on a loaded document. -/
def findTarget (targetId : TargetId) (document : BackupTargetsDocument) :
    Option BackupTargetConfig :=
  document.find? fun target => target.targetId = targetId

/-- `document.items[index] = target` at the first item with the id. -/
def replaceTarget (target : BackupTargetConfig) : BackupTargetsDocument → BackupTargetsDocument
  | [] => []
  | item :: items =>
      if item.targetId = target.targetId then target :: items
      else item :: replaceTarget target items

/-- `save_target` on a loaded document: a target without an item is appended. -/
def putTarget (target : BackupTargetConfig) (document : BackupTargetsDocument) :
    BackupTargetsDocument :=
  if (findTarget target.targetId document).isSome then replaceTarget target document
  else document ++ [target]

/-- What an operator asks for. -/
inductive OperatorRequest
  | createTarget (context : BuildContext) (payload : BackupTargetUpsertPayload)
  | updateTarget (context : BuildContext) (targetId : TargetId)
      (payload : BackupTargetUpsertPayload)
  | deleteTarget (targetId : TargetId)

/-- The document the request saves after it has loaded one. -/
def OperatorRequest.apply (document : BackupTargetsDocument) :
    OperatorRequest → Except TargetError BackupTargetsDocument
  | .createTarget context payload => do
      let target ← buildTarget context payload none
      return document ++ [target]
  | .updateTarget context targetId payload =>
      match findTarget targetId document with
      | none => .error (targetNotFound targetId)
      | some existing => do
          let updated ← buildTarget context payload (some existing)
          return replaceTarget updated document
  | .deleteTarget targetId => .ok (document.filter fun target => target.targetId ≠ targetId)

end ImmichDoctor.Services
