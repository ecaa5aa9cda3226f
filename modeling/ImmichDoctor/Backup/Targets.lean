import ImmichDoctor.Library.PurePath
/-!
# Backup targets

The models of `backup/targets/models.py` and the document that is kept in `targets.json`.
A document is what the file parses to; writing it and reading it again gives it back.
-/

namespace ImmichDoctor.Backup

open ImmichDoctor.Library

inductive BackupTargetType
  | local_
  | smb
  | ssh
  | rsync
  deriving DecidableEq

inductive BackupTargetVerificationStatus
  | unknown
  | ready
  | warning
  | failed
  | running
  | unsupported
  deriving DecidableEq

inductive BackupTargetAuthMode
  | agent
  | password
  | privateKey
  deriving DecidableEq

inductive BackupTargetMountStrategy
  | systemMount
  | preMountedPath
  deriving DecidableEq

inductive BackupTargetKnownHostMode
  | strict
  | acceptNew
  | disabled
  deriving DecidableEq

inductive BackupRestoreReadiness
  | notImplemented
  | partial_
  deriving DecidableEq

inductive VerificationLevel
  | none
  | transportSuccessOnly
  | destinationExists
  | basicManifestVerified
  | copiedFilesSha256
  deriving DecidableEq

structure RetentionPolicy where
  mode : PyStr
  maxVersions : Option Int
  pruneAutomatically : Bool
  deriving DecidableEq

/-- `RetentionPolicy()`. -/
def RetentionPolicy.default : RetentionPolicy :=
  ⟨py "keep_all", .none, false⟩

structure SecretReferenceSummary where
  secretId : PyStr
  kind : PyStr
  label : PyStr
  createdAt : PyStr
  deriving DecidableEq

/-- The details of the checks are left out. -/
structure BackupTargetLastTestResult where
  checkedAt : PyStr
  status : BackupTargetVerificationStatus
  summary : PyStr
  warnings : List PyStr
  deriving DecidableEq

structure BackupTargetLastBackupMetadata where
  backupId : PyStr
  completedAt : PyStr
  sourceScope : PyStr
  bytesTransferred : Option Int
  verificationLevel : VerificationLevel
  snapshotId : Option PyStr
  deriving DecidableEq

structure BackupTargetTransportSettings where
  path : Option PyStr
  host : Option PyStr
  port : Option Int
  share : Option PyStr
  remotePath : Option PyStr
  username : Option PyStr
  authMode : Option BackupTargetAuthMode
  mountStrategy : Option BackupTargetMountStrategy
  mountedPath : Option PyStr
  knownHostMode : Option BackupTargetKnownHostMode
  knownHostReference : Option PyStr
  domain : Option PyStr
  mountOptions : Option PyStr
  passwordSecretRef : Option SecretReferenceSummary
  privateKeySecretRef : Option SecretReferenceSummary
  deriving DecidableEq

abbrev TargetId := PyStr

structure BackupTargetConfig where
  targetId : TargetId
  targetName : PyStr
  targetType : BackupTargetType
  enabled : Bool
  transport : BackupTargetTransportSettings
  verificationStatus : BackupTargetVerificationStatus
  lastTestResult : Option BackupTargetLastTestResult
  lastSuccessfulBackup : Option BackupTargetLastBackupMetadata
  retentionPolicy : RetentionPolicy
  restoreReadiness : BackupRestoreReadiness
  sourceScope : PyStr
  schedulingCompatible : Bool
  warnings : List PyStr
  createdAt : PyStr
  updatedAt : PyStr
  deriving DecidableEq

/-- The items of a `BackupTargetsDocument`; its version never changes. -/
abbrev BackupTargetsDocument := List BackupTargetConfig

/-! ## Payloads -/

structure BackupTargetSecretInput where
  label : Option PyStr
  material : Option PyStr
  secretId : Option PyStr
  deriving DecidableEq

/-- A payload as its validators leave it. -/
structure BackupTargetUpsertPayload where
  targetName : PyStr
  targetType : BackupTargetType
  enabled : Bool
  path : Option PyStr
  host : Option PyStr
  port : Option Int
  share : Option PyStr
  remotePath : Option PyStr
  username : Option PyStr
  authMode : Option BackupTargetAuthMode
  mountStrategy : Option BackupTargetMountStrategy
  mountedPath : Option PyStr
  knownHostMode : Option BackupTargetKnownHostMode
  knownHostReference : Option PyStr
  domain : Option PyStr
  mountOptions : Option PyStr
  passwordSecret : Option BackupTargetSecretInput
  privateKeySecret : Option BackupTargetSecretInput
  retentionPolicy : Option RetentionPolicy
  deriving DecidableEq

end ImmichDoctor.Backup
