import ImmichDoctor.Backup.ConnectionStrings
import ImmichDoctor.Backup.Targets
/-!
# Target payloads

What the validators of `BackupTargetUpsertPayload` make of a request body. The fields have
parsed, except those that a legacy body may stand in for; fields are named by their aliases.
-/

namespace ImmichDoctor.Backup

open ImmichDoctor.Library

/-- A body as it is sent; a field that may be absent and may be null is an option twice. -/
structure TargetRequestBody where
  targetName : PyStr
  targetType : BackupTargetType
  enabled : Bool
  path : Option PyStr
  connectionString : Option PyStr
  host : Option PyStr
  port : Option Int
  share : Option PyStr
  remotePath : Option PyStr
  username : Option PyStr
  authMode : Option BackupTargetAuthMode
  mountStrategy : Option BackupTargetMountStrategy
  mountedPath : Option PyStr
  knownHostMode : Option (Option PyStr)
  hostKeyVerification : Option (Option PyStr)
  knownHostReference : Option (Option PyStr)
  hostKeyReference : Option (Option PyStr)
  domain : Option PyStr
  mountOptions : Option PyStr
  passwordSecret : Option BackupTargetSecretInput
  privateKeySecret : Option BackupTargetSecretInput
  retentionPolicy : Option RetentionPolicy
  deriving DecidableEq

inductive PayloadError
  | valueError (message : PyStr)
  | connectionString (error : ConnectionStringError)
  /-- The text is no member of the enumeration. -/
  | knownHostMode
  deriving DecidableEq

/-! ## Before the fields are read -/

/-- A text without the spaces around it; `None` when nothing is left. -/
def strippedOrNone (value : Option PyStr) : Option PyStr :=
  value.bind fun text => if text.strip = [] then none else some text.strip

/-- `_legacy_known_host_mode`. -/
def legacyKnownHostMode (value : Option PyStr) : Option PyStr :=
  if value = some (py "known_hosts") then some (py "strict")
  else if value = some (py "insecure_accept_any") then some (py "disabled")
  else value

/-- The known-host mode and reference of `normalize_legacy_fields`; null when absent. -/
def normalizedKnownHosts (body : TargetRequestBody) : Option PyStr × Option PyStr :=
  (match body.knownHostMode, body.hostKeyVerification with
    | none, some verification => legacyKnownHostMode verification
    | mode, _ => mode.join,
  match body.knownHostReference, body.hostKeyReference with
    | none, some reference => reference
    | reference, _ => strippedOrNone reference.join)

/-- The member with a value. -/
def knownHostModeOf (value : Option PyStr) :
    Except PayloadError (Option BackupTargetKnownHostMode) :=
  match value with
  | none => .ok none
  | some text =>
      if text = py "strict" then .ok (some .strict)
      else if text = py "accept_new" then .ok (some .acceptNew)
      else if text = py "disabled" then .ok (some .disabled)
      else .error .knownHostMode

/-- `clear_empty_values`. -/
def BackupTargetSecretInput.clearEmptyValues (input : BackupTargetSecretInput) :
    BackupTargetSecretInput where
  label := if input.label = some [] then none else input.label
  material := if input.material = some [] then none else input.material
  secretId := if input.secretId = some [] then none else input.secretId

/-- The payload with its fields read, before the checks. -/
def readPayload (body : TargetRequestBody) : Except PayloadError BackupTargetUpsertPayload := do
  let knownHostMode ← knownHostModeOf (normalizedKnownHosts body).1
  return {
    targetName := body.targetName
    targetType := body.targetType
    enabled := body.enabled
    path := strippedOrNone body.path
    host := strippedOrNone body.host
    port := body.port
    share := strippedOrNone body.share
    remotePath := strippedOrNone body.remotePath
    username := strippedOrNone body.username
    authMode := body.authMode
    mountStrategy := body.mountStrategy
    mountedPath := strippedOrNone body.mountedPath
    knownHostMode := knownHostMode
    knownHostReference := (normalizedKnownHosts body).2
    domain := strippedOrNone body.domain
    mountOptions := strippedOrNone body.mountOptions
    passwordSecret := body.passwordSecret.map (·.clearEmptyValues)
    privateKeySecret := body.privateKeySecret.map (·.clearEmptyValues)
    retentionPolicy := body.retentionPolicy }

/-! ## Checks -/

def BackupTargetType.isRemote : BackupTargetType → Bool
  | .ssh | .rsync => true
  | .local_ | .smb => false

/-- Whether an optional text is `None` or empty. -/
def missing (value : Option PyStr) : Bool :=
  (value.getD []).isEmpty

/-- `apply_connection_string`. -/
def applyConnectionString (connectionString : Option PyStr) (payload : BackupTargetUpsertPayload) :
    Except PayloadError BackupTargetUpsertPayload :=
  match payload.targetType.isRemote, connectionString with
  | true, some text =>
      match parseBackupConnectionString text with
      | .error error => .error (.connectionString error)
      | .ok parsed =>
          if !missing payload.username ∧ payload.username ≠ some parsed.username then
            .error (.valueError
              (py "Connection string username does not match the username field."))
          else if !missing payload.host ∧ payload.host ≠ some parsed.host then
            .error (.valueError (py "Connection string host does not match the host field."))
          else if parsed.port.isSome ∧ payload.port.isSome ∧
              parsed.port.map Int.ofNat ≠ payload.port then
            .error (.valueError (py "Connection string port does not match the port field."))
          else
            .ok { payload with
              username := some parsed.username
              host := some parsed.host
              port := parsed.port.map Int.ofNat <|> payload.port }
  | _, _ => .ok payload

/-- `validate_transport_requirements`. -/
def validateTransportRequirements (expandUser : PurePath → PurePath)
    (payload : BackupTargetUpsertPayload) : Except PayloadError BackupTargetUpsertPayload :=
  match payload.targetType with
  | .local_ =>
      if missing payload.path ∨ (expandUser (.parse (payload.path.getD []))).anchor = .relative then
        .error (.valueError (py "Local targets require an absolute destination path."))
      else .ok payload
  | .smb =>
      match payload.mountStrategy with
      | none => .error (.valueError (py "SMB targets require an explicit mount strategy."))
      | some .preMountedPath =>
          if missing payload.mountedPath then
            .error (.valueError (py "SMB pre-mounted targets require a mounted path."))
          else .ok payload
      | some .systemMount =>
          if missing payload.host ∨ missing payload.share then
            .error (.valueError (py "SMB system-mount targets require host and share."))
          else if missing payload.username then
            .error (.valueError (py "SMB system-mount targets require a username."))
          else .ok payload
  | .ssh | .rsync =>
      if missing payload.host ∨ missing payload.remotePath ∨ missing payload.username ∨
          payload.authMode.isNone ∨ payload.knownHostMode.isNone then
        .error (.valueError
          (py "SSH and rsync targets require host, remote path, username, auth mode, " ++
            py "and explicit known host handling."))
      else .ok payload

/-- `BackupTargetUpsertPayload.model_validate` on a body. -/
def validatePayload (expandUser : PurePath → PurePath) (body : TargetRequestBody) :
    Except PayloadError BackupTargetUpsertPayload := do
  let payload ← readPayload body
  let connected ← applyConnectionString (strippedOrNone body.connectionString) payload
  validateTransportRequirements expandUser connected

end ImmichDoctor.Backup
