import ImmichDoctor.Backup.Targets
import ImmichDoctor.Library.ShellCommands
/-!
# Connections to a remote target

`LocalSecretStore` and `BackupTransportService`: the private key of a target is written to a
temporary file while a connection is prepared, and commands for the remote shell are put together
with a quoted path. Every call of the operating system may raise. Permissions are left out: a
temporary file is made for its owner only.
-/

namespace ImmichDoctor.Backup

open ImmichDoctor.Library

/-! ## Secrets -/

structure StoredSecretRecord where
  secretId : PyStr
  kind : PyStr
  label : PyStr
  createdAt : PyStr
  material : PyStr
  deriving DecidableEq

/-- The records that can be read, by the ids in the names of their files. -/
abbrev SecretFiles := PyStr → Option StoredSecretRecord

/-- `replace("\r\n", "\n")`. -/
def replaceReturnNewlines : PyStr → PyStr
  | 13 :: 10 :: rest => 10 :: replaceReturnNewlines rest
  | c :: rest => c :: replaceReturnNewlines rest
  | [] => []

/-- `_normalize_material`. -/
def normalizeMaterial (kind material : PyStr) : PyStr :=
  if kind ≠ py "private_key" then material
  else
    let normalized := (replaceReturnNewlines (material.dropWhile (· = 0xFEFF))).map fun c =>
      if c = 13 then 10 else c
    if normalized ≠ [] ∧ normalized.getLast? ≠ some 10 then normalized ++ [10] else normalized

def StoredSecretRecord.summary (record : StoredSecretRecord) : SecretReferenceSummary where
  secretId := record.secretId
  kind := record.kind
  label := record.label
  createdAt := record.createdAt

/-- `persist_secret`, with the id it draws. -/
def persistSecret (secretId createdAt kind label material : PyStr) (files : SecretFiles) :
    SecretReferenceSummary × SecretFiles :=
  let record : StoredSecretRecord :=
    { secretId := secretId
      kind := kind
      label := label
      createdAt := createdAt
      material := normalizeMaterial kind material }
  (record.summary, fun id => if id = secretId then some record else files id)

/-- `reuse_secret`. -/
def reuseSecret (files : SecretFiles) (secretId : PyStr) : Option SecretReferenceSummary :=
  (files secretId).map StoredSecretRecord.summary

/-- `load_secret_material`. -/
def loadSecretMaterial (files : SecretFiles) (secretId : PyStr) : Option PyStr :=
  (files secretId).map fun record => normalizeMaterial record.kind record.material

/-! ## Prepared connections -/

structure RemoteConnectionMaterial where
  remoteHostReference : PyStr
  remoteShellArgv : List PyStr
  remotePath : PyStr
  warnings : List PyStr
  deriving DecidableEq

/-- The temporary files with private keys, by their paths. -/
abbrev KeyFiles := PyStr → Option PyStr

/-- The calls that raise while a connection is prepared, used and given up. -/
structure ConnectionFaults where
  createKey : Bool
  /-- With so many code points of the key written. -/
  writeKey : Option Nat
  knownHosts : Bool
  unlinkKey : Bool

/-- A connection that is asked for, with the name a temporary file gets. -/
structure ConnectionRequest where
  transport : BackupTargetTransportSettings
  secrets : SecretFiles
  /-- `known_hosts_path`, for the reference of the target. -/
  knownHostsPath : Option PyStr → PyStr
  keyPath : PyStr
  faults : ConnectionFaults

/-- How a connection ends, and the temporary files while it was used and after it. -/
inductive ConnectionEnd
  /-- With a `ValueError`. -/
  | refused (message : PyStr)
  | raised
  | used (material : RemoteConnectionMaterial) (files : KeyFiles)

def sshOptions (transport : BackupTargetTransportSettings) : List PyStr :=
  [py "ssh", py "-p",
    py (toString (if transport.port.getD 0 = 0 then 22 else transport.port.getD 0)),
    py "-o", py "BatchMode=yes", py "-o", py "ConnectTimeout=10", py "-o",
    py "NumberOfPasswordPrompts=0"]

namespace ConnectionRequest

def put (request : ConnectionRequest) (content : PyStr) (files : KeyFiles) : KeyFiles :=
  fun path => if path = request.keyPath then some content else files path

def unlink (request : ConnectionRequest) (files : KeyFiles) : KeyFiles :=
  fun path => if path = request.keyPath then none else files path

/-- The private key that the temporary file is written from; an error ends the preparation. -/
def privateKey (request : ConnectionRequest) : Except ConnectionEnd (Option PyStr) :=
  match request.transport.authMode with
  | some .privateKey =>
      match request.transport.privateKeySecretRef with
      | none => .error (.refused (py "Remote target is missing a private key secret reference."))
      | some summary =>
          match loadSecretMaterial request.secrets summary.secretId with
          | none => .error .raised
          | some material => .ok (some material)
  | some .agent => .ok none
  | _ => .error (.refused (py "Remote target is missing a supported auth mode."))

/-- The options for the known hosts, and the warnings. -/
def knownHostOptions (request : ConnectionRequest) :
    Except ConnectionEnd (List PyStr × List PyStr) :=
  let checked (checking : String) : Except ConnectionEnd (List PyStr × List PyStr) :=
    if request.faults.knownHosts then .error .raised
    else
      .ok ([py "-o", py "StrictHostKeyChecking=" ++ py checking, py "-o",
        py "UserKnownHostsFile=" ++
          request.knownHostsPath request.transport.knownHostReference], [])
  match request.transport.knownHostMode with
  | some .strict => checked "yes"
  | some .acceptNew => checked "accept-new"
  | some .disabled =>
      .ok ([py "-o", py "StrictHostKeyChecking=no"],
        [py "Known-host verification is explicitly disabled for this target."])
  | none => .error (.refused (py "Remote target is missing a supported known-host mode."))

/-- The connection is given to its user, and the key file is removed after that. -/
def connect (request : ConnectionRequest) (host username remotePath : PyStr)
    (keyOptions : List PyStr) (written : Bool) (files : KeyFiles) : ConnectionEnd × KeyFiles :=
  match request.knownHostOptions with
  | .error ending => (ending, files)
  | .ok (options, warnings) =>
      (.used
        { remoteHostReference := username ++ 64 :: host
          remoteShellArgv := sshOptions request.transport ++ keyOptions ++ options
          remotePath := remotePath
          warnings := warnings } files,
        if written && !request.faults.unlinkKey then request.unlink files else files)

/-- `prepared_remote_connection` and the use of it, which may raise as well. -/
def prepare (request : ConnectionRequest) (files : KeyFiles) : ConnectionEnd × KeyFiles :=
  if request.transport.authMode = some .password then
    (.refused (py "Password auth mode is not implemented for SSH and rsync execution."), files)
  else
    match request.transport.host, request.transport.username, request.transport.remotePath with
    | some host, some username, some remotePath =>
        match request.privateKey with
        | .error ending => (ending, files)
        | .ok none => request.connect host username remotePath [] false files
        | .ok (some key) =>
            if request.faults.createKey then (.raised, files)
            else
              match request.faults.writeKey with
              | some written => (.raised, request.put (key.take written) files)
              | none => request.connect host username remotePath [py "-i", request.keyPath] true
                  (request.put key files)
    | _, _, _ => (.refused (py "Remote target is missing host, username, or remote path."), files)

end ConnectionRequest

/-! ## Remote commands -/

/-- `path.rstrip("/")`. -/
def stripSlashes (path : PyStr) : PyStr :=
  (path.reverse.dropWhile (· = 47)).reverse

/-- The write probe of a validation. -/
def writeProbeCommand (remotePath : PyStr) : PyStr :=
  py "mkdir -p " ++ Shell.quote remotePath ++ py " && probe=" ++ Shell.quote remotePath ++
    py "/.immich-doctor-write-probe && touch \"$probe\" && rm -f \"$probe\""

def freeSpaceCommand (remotePath : PyStr) : PyStr :=
  py "df -Pk " ++ Shell.quote remotePath ++ py " | tail -1"

/-- The directory of a version that a transfer writes. -/
def versionDestination (remotePath versionId : PyStr) : PyStr :=
  stripSlashes remotePath ++ 47 :: versionId ++ py "/files/immich-library"

/-- The check of a destination after a transfer. -/
def verifyCommand (destinationPath : PyStr) : PyStr :=
  py "test -d " ++ Shell.quote destinationPath

end ImmichDoctor.Backup
