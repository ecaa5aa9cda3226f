import ImmichDoctor.Library.Transition
import ImmichDoctor.Library.Table
import ImmichDoctor.Library.Text
import ImmichDoctor.Catalog.Models
import ImmichDoctor.Catalog.Store
import ImmichDoctor.Catalog.StoreOps
import ImmichDoctor.Catalog.RuntimeController
import ImmichDoctor.Catalog.ScanProcess
import ImmichDoctor.Library.JsonText
import ImmichDoctor.Catalog.DirectoryTree
import ImmichDoctor.Catalog.Discovery
import ImmichDoctor.Catalog.Proofs.StoreInvariant
import ImmichDoctor.Catalog.Proofs.CommittedListing
import ImmichDoctor.Catalog.Proofs.SnapshotImmutability
import ImmichDoctor.Catalog.Proofs.WorkQueue
import ImmichDoctor.Catalog.Proofs.ScanCommit
import ImmichDoctor.Catalog.Proofs.TreePaths
import ImmichDoctor.Catalog.Proofs.DirectoryWalk
import ImmichDoctor.Catalog.Proofs.WorkItems
import ImmichDoctor.Catalog.Proofs.WorkPlan
import ImmichDoctor.Catalog.Observation
import ImmichDoctor.Catalog.Proofs.RecordedFiles
import ImmichDoctor.Catalog.Proofs.ScanProgress
import ImmichDoctor.Catalog.Proofs.ScanCalls
import ImmichDoctor.Catalog.Proofs.UndisturbedScan
import ImmichDoctor.Catalog.Proofs.StaticScan
import ImmichDoctor.Catalog.Proofs.ScanAgreement
import ImmichDoctor.Library.PurePath
import ImmichDoctor.Storage.PathMapping
import ImmichDoctor.Catalog.RootRegistry
import ImmichDoctor.Catalog.ConsistencyState
import ImmichDoctor.Catalog.Proofs.CurrentSnapshots
import ImmichDoctor.Catalog.Proofs.MissingVerdicts
import ImmichDoctor.Db.CorruptionRepair
import ImmichDoctor.Db.Proofs.DuplicateSelection
import ImmichDoctor.Services.JobRuntime
import ImmichDoctor.Services.Proofs.TerminalStates
import ImmichDoctor.Services.Proofs.ActiveJobs
import ImmichDoctor.Catalog.WorkflowService
import ImmichDoctor.Catalog.Proofs.ScanExclusion
import ImmichDoctor.Backup.Targets
import ImmichDoctor.Services.BackupTargetSettings
import ImmichDoctor.Services.BackupTargetJobs
import ImmichDoctor.Services.Proofs.TargetWrites
import ImmichDoctor.Library.JsonValue
import ImmichDoctor.Repair.Guards
import ImmichDoctor.Repair.UndoService
import ImmichDoctor.Runtime.MetadataRepair
import ImmichDoctor.Repair.Proofs.UndoOrder
import ImmichDoctor.Catalog.Proofs.SessionSnapshots
import ImmichDoctor.Catalog.Proofs.PresenceStatus
import ImmichDoctor.Catalog.ScanRuns
import ImmichDoctor.Catalog.Proofs.RunSteps
import ImmichDoctor.Catalog.Proofs.RootPaths
import ImmichDoctor.Catalog.Proofs.RunAccounting
import ImmichDoctor.Consistency.MissingAssetApply
import ImmichDoctor.Consistency.Proofs.PreviewedDeletes
import ImmichDoctor.Catalog.Proofs.AcceptedResume
import ImmichDoctor.Catalog.Proofs.CoverageAgreement
import ImmichDoctor.Catalog.Proofs.JobIsolation
import ImmichDoctor.Catalog.Proofs.JobTermination
import ImmichDoctor.Catalog.Proofs.RegistrySync
import ImmichDoctor.Catalog.QuarantineItems
import ImmichDoctor.Repair.Proofs.TerminalRuns
import ImmichDoctor.Catalog.Proofs.QuarantineAtomicity
import ImmichDoctor.Storage.EmptyFolders.Proofs.ConfiguredRoots
import ImmichDoctor.Storage.EmptyFolders.Proofs.FileSafety
import ImmichDoctor.Storage.EmptyFolders.Proofs.IndexAgreement
import ImmichDoctor.Catalog.Proofs.SnapshotGenerations
import ImmichDoctor.Catalog.Proofs.SnapshotQueries
import ImmichDoctor.Catalog.ConsistencyReports
import ImmichDoctor.Catalog.Proofs.AssetClasses
import ImmichDoctor.Catalog.Proofs.PathRoundTrip
import ImmichDoctor.Catalog.Proofs.ReportCurrency
import ImmichDoctor.Storage.Proofs.RootSelection
import ImmichDoctor.Catalog.BrokenOriginals
import ImmichDoctor.Catalog.Proofs.RelocationSearch
import ImmichDoctor.Catalog.PathFix
import ImmichDoctor.Catalog.Proofs.UniqueOriginals
import ImmichDoctor.Services.BackupAssetRestore
import ImmichDoctor.Services.Proofs.RestoreRollback
import ImmichDoctor.Catalog.RemediationFindings
import ImmichDoctor.Catalog.DatabaseReads
import ImmichDoctor.Catalog.RemediationApply
import ImmichDoctor.Catalog.Proofs.FindingPayloads
import ImmichDoctor.Catalog.Proofs.ReadableRemediation
import ImmichDoctor.Catalog.Proofs.PlanTokenGuard
import ImmichDoctor.Runtime.MetadataFailures
import ImmichDoctor.Runtime.Proofs.IndependentPlans
import ImmichDoctor.Storage.EmptyFolders.Proofs.ScanClassification
import ImmichDoctor.Db.SchemaDetection
import ImmichDoctor.Consistency.Proofs.ProfileSoundness
import ImmichDoctor.Library.Overlaps
import ImmichDoctor.Remote.SyncRepair
import ImmichDoctor.Remote.Proofs.DryRunAgreement
import ImmichDoctor.Consistency.RepairService
import ImmichDoctor.Consistency.Proofs.SelectedDeletes
import ImmichDoctor.Consistency.MissingAssetRuns
import ImmichDoctor.Consistency.Proofs.SettledRuns
import ImmichDoctor.Repair.UndoExecution
import ImmichDoctor.Repair.Proofs.UndoExecutability
import ImmichDoctor.Library.OptionLists
import ImmichDoctor.Library.IndependentSteps
import ImmichDoctor.Services.BackupAssetWorkflow
import ImmichDoctor.Services.Proofs.IndependentCopies
import ImmichDoctor.Services.Proofs.AssetComparison
import ImmichDoctor.Services.Proofs.SyncMissing
import ImmichDoctor.Services.ManualBackupExecution
import ImmichDoctor.Services.Proofs.SuccessfulBackups
import ImmichDoctor.Services.Proofs.RestoreFrames
import ImmichDoctor.Services.Proofs.SelectiveRestores
import ImmichDoctor.Library.Cascades
import ImmichDoctor.Consistency.Proofs.RestorePointCompleteness
import ImmichDoctor.Library.FileTrees
import ImmichDoctor.Catalog.Proofs.FileMoves
import ImmichDoctor.Catalog.QuarantineRuns
import ImmichDoctor.Catalog.Proofs.QuarantineCustody
import ImmichDoctor.Library.DateTimes
import ImmichDoctor.Catalog.Proofs.TimestampOrder
import ImmichDoctor.Library.Digits
import ImmichDoctor.Backup.ConnectionStrings
import ImmichDoctor.Backup.Proofs.ConnectionGrammar
import ImmichDoctor.Library.JsonStrings
import ImmichDoctor.Library.JsonRecords
import ImmichDoctor.Library.Switches
import ImmichDoctor.Catalog.IgnoredFindings
import ImmichDoctor.Catalog.Proofs.IgnoredLog
import ImmichDoctor.Library.Fibers
import ImmichDoctor.Backup.SizeEstimation
import ImmichDoctor.Backup.Proofs.SizeAccounting
import ImmichDoctor.Library.DateTexts
import ImmichDoctor.Backup.Snapshots
import ImmichDoctor.Backup.Proofs.SnapshotManifests
import ImmichDoctor.Library.JsonDocuments
import ImmichDoctor.Library.JsonLines
import ImmichDoctor.Library.TextFiles
import ImmichDoctor.Repair.JournalStore
import ImmichDoctor.Repair.Proofs.JournalRefinement
import ImmichDoctor.Consistency.RestorePointStore
import ImmichDoctor.Consistency.Proofs.RestorePointFiles
import ImmichDoctor.Consistency.Proofs.RestoredOnce
import ImmichDoctor.Library.Reinserts
import ImmichDoctor.Consistency.Proofs.RestoreRoundTrip
import ImmichDoctor.Db.CorruptionGuard
import ImmichDoctor.Db.Proofs.PreviewedRepairs
import ImmichDoctor.Library.ShellCommands
import ImmichDoctor.Backup.RemoteTransport
import ImmichDoctor.Backup.Proofs.RemoteCommands
import ImmichDoctor.Backup.Proofs.PrivateKeyFiles
import ImmichDoctor.Library.Pruning
import ImmichDoctor.Consistency.Proofs.OrphanRemoval
import ImmichDoctor.Backup.TargetPayloads
import ImmichDoctor.Services.TargetRegistry
import ImmichDoctor.Services.Proofs.SecretReferences
import ImmichDoctor.Services.Proofs.ConnectableTargets
import ImmichDoctor.Remote.SyncValidation
import ImmichDoctor.Remote.Proofs.HealedValidation
import ImmichDoctor.Core.Models
import ImmichDoctor.Library.SetAside
import ImmichDoctor.Storage.EmptyFolders.Proofs.HeldSessions
import ImmichDoctor.Storage.EmptyFolders.Proofs.RestoredRounds
import ImmichDoctor.Backup.SnapshotRuns
import ImmichDoctor.Backup.SnapshotReaders
import ImmichDoctor.Backup.Proofs.RefusedSnapshots
import ImmichDoctor.Library.JsonScan
import ImmichDoctor.Library.JsonCuts
import ImmichDoctor.Repair.InterruptedCalls
import ImmichDoctor.Repair.Proofs.InterruptedRecords
