import ImmichDoctor.Services.ManualBackupExecution
import ImmichDoctor.Services.Proofs.SyncMissing
/-!
# The last successful backup of a target

A run of an execution saves it after every asset-aware sync that returns, whatever the state of
that sync is, and after a transfer to a remote host only when nothing went wrong. A save that
raises while it writes takes the targets with it.
-/

namespace ImmichDoctor.Services

open ImmichDoctor.Library
open ImmichDoctor.Backup
open ImmichDoctor.Catalog

/-! ## Truthful runs -/

/-- The state a run ends in, unless it raises. -/
def ExecutionRun.state (run : ExecutionRun) : Option BackgroundJobState :=
  run.result.map (·.state)

/-- The last successful backup is written only by a run that is completed, and after every other
one the targets are read as they were. -/
structure Truthful (run : ExecutionRun) : Prop where
  updated : ∀ target, run.saved = .whole target → run.state = some .completed
  kept : run.state ≠ some .completed → ∀ current, run.document current = some current

section Truthful

variable {run : ExecutionRun}

theorem truthful_of_nothing (h : run.saved = .nothing) : Truthful run := by
  refine ⟨fun target hwhole => ?_, fun _ current => ?_⟩
  · rw [h] at hwhole
    cases hwhole
  · rw [ExecutionRun.document, h]

theorem truthful_of_completed (h : run.state = some .completed) : Truthful run :=
  ⟨fun _ _ => h, fun hstate => absurd h hstate⟩

/-- A run that is not completed must not have touched the file. -/
theorem Truthful.nothing (h : Truthful run) (hstate : run.state ≠ some .completed) :
    run.saved = .nothing := by
  cases hsaved : run.saved with
  | nothing => rfl
  | whole target => exact absurd (h.updated target hsaved) hstate
  | cut =>
      have hdocument := h.kept hstate []
      rw [ExecutionRun.document, hsaved] at hdocument
      cases hdocument

end Truthful

/-! ## Branches -/

section Branches

variable {settings : WorkflowSettings} {facts : FileFacts} {calls : ExecutionCalls}
  {target : BackupTargetConfig} {context : PreparedBackupExecutionContext}
  {files : FileSystem PyStr Nat}

/-- A save at the end of a run must not be cut, and must be of a completed run if it returns. -/
theorem truthful_saveTarget_iff {updated : BackupTargetConfig} {result : ExecutionResult} :
    Truthful (saveTarget calls files updated result) ↔
      calls.save = .raisesBefore ∨ calls.save = .returns ∧ result.state = .completed := by
  unfold saveTarget
  cases calls.save with
  | returns =>
      constructor
      · intro h
        exact .inr ⟨rfl, Option.some.inj (h.updated updated rfl)⟩
      · rintro (hbefore | ⟨-, hstate⟩)
        · cases hbefore
        · exact truthful_of_completed (congrArg some hstate)
  | raisesBefore => exact iff_of_true (truthful_of_nothing rfl) (.inl rfl)
  | raisesWriting whole =>
      refine iff_of_false (fun h => ?_) ?_
      · have hnothing := h.nothing nofun
        cases whole with
        | false => cases hnothing
        | true => cases hnothing
      · rintro (hbefore | ⟨hreturns, -⟩)
        · cases hbefore
        · cases hreturns

/-- A transfer that comes to its save is completed, unless the save is cut. -/
theorem truthful_executeVersioned_iff (haccess : context.accessKind = .transportPrepared) :
    Truthful (executeVersioned calls target context files) ↔
      ∀ bytesTransferred destinationExists,
        calls.transfer = .transferred bytesTransferred destinationExists →
        ∀ snapshotId, calls.snapshot = some snapshotId →
          calls.save = .raisesBefore ∨ calls.save = .returns := by
  have hnot : ¬ context.accessKind ≠ .transportPrepared := fun hne => hne haccess
  unfold executeVersioned executeTransfer
  rw [if_neg hnot]
  cases calls.transfer with
  | executionError message => exact iff_of_true (truthful_of_nothing rfl) fun _ _ h => by cases h
  | raised => exact iff_of_true (truthful_of_nothing rfl) fun _ _ h => by cases h
  | transferred bytesTransferred destinationExists =>
      cases calls.snapshot with
      | none => exact iff_of_true (truthful_of_nothing rfl) fun _ _ _ _ h => by cases h
      | some snapshotId =>
          simp only [truthful_saveTarget_iff]
          constructor
          · rintro (hbefore | ⟨hreturns, -⟩) _ _ _ _ _
            · exact .inl hbefore
            · exact .inr hreturns
          · intro h
            exact (h _ _ rfl _ rfl).imp id fun hreturns => ⟨hreturns, trivial⟩

/-- A sync that returns comes to its save, however it ends. -/
theorem truthful_executeSync_iff :
    Truthful (executeSync settings facts calls target context files) ↔
      ∀ reloaded, calls.reloaded = some reloaded →
        SyncRaises settings facts calls.sync reloaded files ∨ calls.save = .raisesBefore ∨
          calls.save = .returns ∧ SyncCompletes settings facts calls.sync reloaded files := by
  cases hreloaded : calls.reloaded with
  | none =>
      refine iff_of_true (truthful_of_nothing ?_) fun _ h => by cases h
      simp only [executeSync, hreloaded]
  | some reloaded =>
      have hcondition : (∀ other, some reloaded = some other →
          SyncRaises settings facts calls.sync other files ∨ calls.save = .raisesBefore ∨
            calls.save = .returns ∧ SyncCompletes settings facts calls.sync other files) ↔
          SyncRaises settings facts calls.sync reloaded files ∨ calls.save = .raisesBefore ∨
            calls.save = .returns ∧ SyncCompletes settings facts calls.sync reloaded files :=
        ⟨fun h => h reloaded rfl, fun h other heq => Option.some.inj heq ▸ h⟩
      rw [hcondition, ← syncMissing_raises_iff, ← syncMissing_completed_iff]
      rcases hsync : syncMissing settings facts calls.sync reloaded files with ⟨left, result⟩
      cases result with
      | none =>
          refine iff_of_true (truthful_of_nothing ?_) (.inl rfl)
          simp only [executeSync, hreloaded, hsync]
      | some report =>
          simp only [executeSync, hreloaded, hsync, truthful_saveTarget_iff]
          constructor
          · rintro (hbefore | ⟨hreturns, hstate⟩)
            · exact .inr (.inl hbefore)
            · exact .inr (.inr ⟨hreturns, report, rfl, hstate⟩)
          · rintro (hnone | hbefore | ⟨hreturns, other, hother, hstate⟩)
            · cases hnone
            · exact .inl hbefore
            · cases hother
              exact .inr ⟨hreturns, hstate⟩

variable (settings calls target context) in
/-- The run comes to its sync or its transfer, with this context. -/
structure ReachesExecution : Prop where
  validation : ∃ validation, calls.validation = some validation ∧
    (validation.state = .completed ∨ validation.state = .partial_) ∧
    ¬ (validation.supported = some false ∧ (target.targetType = .ssh ∨ target.targetType = .rsync))
  library : settings.immichLibraryRoot.isSome = true
  source : calls.sourceCheck = some (.ok ())
  planned : calls.plannedMetrics = some ()
  prepared : prepareExecutionContext target = .ok context
  update : calls.update = some ()

theorem executeTarget_of_reachesExecution (h : ReachesExecution settings calls target context) :
    executeTarget settings facts calls target files =
      if context.executionMode = .assetAwareSync then
        executeSync settings facts calls target context files
      else executeVersioned calls target context files := by
  obtain ⟨validation, hvalidation, hstate, hsupported⟩ := h.validation
  obtain ⟨libraryRoot, hlibrary⟩ := Option.isSome_iff_exists.mp h.library
  have hpassed : ¬ (validation.state ≠ .completed ∧ validation.state ≠ .partial_) := fun hnot =>
    hstate.elim hnot.1 hnot.2
  simp only [executeTarget, hvalidation, if_neg hpassed, if_neg hsupported, executeValidated,
    hlibrary, h.source, h.planned, h.prepared, h.update]

theorem nothing_of_not_reachesExecution
    (h : ∀ context, ¬ ReachesExecution settings calls target context) :
    (executeTarget settings facts calls target files).saved = .nothing := by
  unfold executeTarget
  split
  · rfl
  next validation hvalidation =>
  split
  · rfl
  next hpassed =>
  split
  · rfl
  next hsupported =>
  unfold executeValidated
  split
  · rfl
  next libraryRoot hlibrary =>
  split
  · rfl
  · rfl
  next hsource =>
  split
  · rfl
  next hplanned =>
  split
  · rfl
  next context hcontext =>
  split
  · rfl
  next hupdate =>
  refine absurd ⟨⟨validation, hvalidation, ?_, hsupported⟩, ?_, hsource, hplanned, hcontext,
    hupdate⟩ (h context)
  · by_contra hneither
    exact hpassed (not_or.mp hneither)
  · rw [hlibrary]
    rfl

/-- A transfer is prepared for a remote connection. -/
theorem accessKind_of_prepared (h : prepareExecutionContext target = .ok context)
    (hmode : context.executionMode ≠ .assetAwareSync) :
    context.accessKind = .transportPrepared := by
  unfold prepareExecutionContext at h
  split at h
  · split at h
    · cases h
      exact absurd rfl hmode
    · cases h
  · split at h
    · cases h
      exact absurd rfl hmode
    · cases h
  · cases h
    rfl
  · cases h
    rfl

end Branches

/-! ## The run -/

/-- A run that comes to a sync has one that raises or is completed, and no save is cut. -/
def SavesTruthfully (settings : WorkflowSettings) (facts : FileFacts) (calls : ExecutionCalls)
    (document : BackupTargetsDocument) (targetId : TargetId)
    (files : FileSystem PyStr Nat) : Prop :=
  ∀ target, findTarget targetId document = some target →
    ∀ context, ReachesExecution settings calls target context →
      if context.executionMode = .assetAwareSync then
        ∀ reloaded, calls.reloaded = some reloaded →
          SyncRaises settings facts calls.sync reloaded files ∨ calls.save = .raisesBefore ∨
            calls.save = .returns ∧ SyncCompletes settings facts calls.sync reloaded files
      else
        ∀ bytesTransferred destinationExists,
          calls.transfer = .transferred bytesTransferred destinationExists →
          ∀ snapshotId, calls.snapshot = some snapshotId →
            calls.save = .raisesBefore ∨ calls.save = .returns

/-- The last successful backup tells the truth after a run if and only if the run has no sync
that returns without being completed and no save that raises while it writes. -/
theorem truthful_iff_savesTruthfully {settings : WorkflowSettings} {facts : FileFacts}
    {calls : ExecutionCalls} {document : BackupTargetsDocument} {targetId : TargetId}
    {files : FileSystem PyStr Nat} :
    Truthful (runExecution settings facts calls document targetId files) ↔
      SavesTruthfully settings facts calls document targetId files := by
  unfold SavesTruthfully
  cases htarget : findTarget targetId document with
  | none =>
      refine iff_of_true (truthful_of_nothing ?_) fun _ h => by cases h
      simp only [runExecution, htarget]
  | some target =>
      have hrun : runExecution settings facts calls document targetId files =
          executeTarget settings facts calls target files := by
        simp only [runExecution, htarget]
      rw [hrun]
      by_cases hreaches : ∃ context, ReachesExecution settings calls target context
      · obtain ⟨context, hcontext⟩ := hreaches
        have honly : ∀ other, ReachesExecution settings calls target other → other = context :=
          fun other hother => Except.ok.inj (hother.prepared.symm.trans hcontext.prepared)
        rw [executeTarget_of_reachesExecution hcontext]
        by_cases hmode : context.executionMode = .assetAwareSync
        · rw [if_pos hmode, truthful_executeSync_iff]
          constructor
          · intro h found hfound other hother
            cases hfound
            rw [honly other hother, if_pos hmode]
            exact h
          · intro h
            have hsync := h target rfl context hcontext
            rwa [if_pos hmode] at hsync
        · rw [if_neg hmode, truthful_executeVersioned_iff
            (accessKind_of_prepared hcontext.prepared hmode)]
          constructor
          · intro h found hfound other hother
            cases hfound
            rw [honly other hother, if_neg hmode]
            exact h
          · intro h
            have htransfer := h target rfl context hcontext
            rwa [if_neg hmode] at htransfer
      · refine iff_of_true
          (truthful_of_nothing (nothing_of_not_reachesExecution (not_exists.mp hreaches))) ?_
        intro found hfound context hcontext
        cases hfound
        exact absurd ⟨context, hcontext⟩ hreaches

/-! ## A failed sync -/

/-- The destination is full; every call but the copies returns. -/
def fullDestination : ExecutionCalls where
  validation := some ⟨.completed, [], some true, none⟩
  sourceCheck := some (.ok ())
  plannedMetrics := some ()
  update := some ()
  reloaded := some localTarget
  sync := { noSyncFaults with
    copies := fun _ =>
      ⟨none, some (.raises none), false, false, false, py "No space left on device"⟩ }
  transfer := .raised
  snapshot := none
  save := .returns
  versionId := py "20240102T000000Z"
  completedAt := py "2024-01-02T00:00:00+00:00"

/-- A sync that has failed is saved as the last successful backup. -/
theorem failed_sync_saved_as_successful : ¬ ∀ (settings : WorkflowSettings) (facts : FileFacts)
    (calls : ExecutionCalls) (document : BackupTargetsDocument) (targetId : TargetId)
    (files : FileSystem PyStr Nat),
    Truthful (runExecution settings facts calls document targetId files) := by
  intro h
  have hfailed : (runExecution librarySettings distinctFacts fullDestination [localTarget]
      (py "t1") libraryFiles).state = some .failed := by
    decide +kernel
  have hnothing := (h librarySettings distinctFacts fullDestination [localTarget] (py "t1")
    libraryFiles).nothing (by rw [hfailed]; decide)
  revert hnothing
  decide +kernel

end ImmichDoctor.Services
