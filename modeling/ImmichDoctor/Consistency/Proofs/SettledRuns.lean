import ImmichDoctor.Consistency.MissingAssetRuns
import ImmichDoctor.Consistency.Proofs.PreviewedDeletes
/-!
# Runs that are settled

A run is finished exactly when no exception leaves the loop over its assets: those of the
delete and of the reinsert are contained, those of the capture, of the restore point store
and of the journal are not.
-/

namespace ImmichDoctor.Consistency

open ImmichDoctor.Library
open ImmichDoctor.Db
open ImmichDoctor.Repair

/-! ## What a run is to end with -/

/-- Every asset has an item, and the run is finished with the status of its items. -/
structure Settles (done : MissingAssetOperationStatus) (assetIds : List PyStr) (run : RunEnd)
    (items : List MissingAssetOperationItem) : Prop where
  returned : run.items = some items
  processed : items.map (·.assetId) = assetIds
  stored : run.finished = some run.stored
  completed : run.finished = some .completed ↔ ∀ item ∈ items, item.status ≠ .failed
  partial_ : run.finished = some .partial_ ↔
    (∃ item ∈ items, item.status = .failed) ∧ ∃ item ∈ items, item.status = done
  failed : run.finished = some .failed ↔
    (∃ item ∈ items, item.status = .failed) ∧ ∀ item ∈ items, item.status ≠ done

section FinalStatus

variable {done : MissingAssetOperationStatus} {items : List MissingAssetOperationItem}

theorem any_status_iff {status : MissingAssetOperationStatus} :
    items.any (·.status = status) = true ↔ ∃ item ∈ items, item.status = status := by
  simp only [List.any_eq_true, decide_eq_true_eq]

theorem finalStatus_eq_completed_iff :
    finalStatus done items = .completed ↔ ∀ item ∈ items, item.status ≠ .failed := by
  unfold finalStatus
  by_cases hfailed : items.any (·.status = .failed) = true
  · obtain ⟨item, hitem, hstatus⟩ := any_status_iff.mp hfailed
    rw [if_pos hfailed]
    refine iff_of_false ?_ fun h => h item hitem hstatus
    split <;> exact nofun
  · rw [if_neg hfailed]
    exact iff_of_true rfl fun item hitem hstatus =>
      hfailed (any_status_iff.mpr ⟨item, hitem, hstatus⟩)

theorem finalStatus_eq_partial_iff :
    finalStatus done items = .partial_ ↔
      (∃ item ∈ items, item.status = .failed) ∧ ∃ item ∈ items, item.status = done := by
  rw [← any_status_iff, ← any_status_iff]
  unfold finalStatus
  by_cases hfailed : items.any (·.status = .failed) = true
  · rw [if_pos hfailed, and_iff_right hfailed]
    by_cases hdone : items.any (·.status = done) = true
    · rw [if_pos hdone]
      exact iff_of_true rfl hdone
    · rw [if_neg hdone]
      exact iff_of_false nofun hdone
  · rw [if_neg hfailed]
    exact iff_of_false nofun fun h => hfailed h.1

theorem finalStatus_eq_failed_iff :
    finalStatus done items = .failed ↔
      (∃ item ∈ items, item.status = .failed) ∧ ∀ item ∈ items, item.status ≠ done := by
  have hnone : (∀ item ∈ items, item.status ≠ done) ↔ ¬ items.any (·.status = done) = true := by
    rw [any_status_iff]
    exact ⟨fun h ⟨item, hitem, hstatus⟩ => h item hitem hstatus,
      fun h item hitem hstatus => h ⟨item, hitem, hstatus⟩⟩
  rw [← any_status_iff, hnone]
  unfold finalStatus
  by_cases hfailed : items.any (·.status = .failed) = true
  · rw [if_pos hfailed, and_iff_right hfailed]
    by_cases hdone : items.any (·.status = done) = true
    · rw [if_pos hdone]
      exact iff_of_false nofun (not_not_intro hdone)
    · rw [if_neg hdone]
      exact iff_of_true rfl hdone
  · rw [if_neg hfailed]
    exact iff_of_false nofun fun h => hfailed h.1

end FinalStatus

/-! ## The loop -/

section Loop

variable {α : Type} {attempt : Nat → α → AssetAttempt}

/-- The loop returns its items exactly when none of the attempts raises. -/
theorem items_attempts {assetId : α → PyStr}
    (hid : ∀ index asset item, (attempt index asset).item = some item →
      item.assetId = assetId asset) (first : Nat) (assets : List α) :
    (∃ items, (attempts attempt first assets).mapM (·.item) = some items ∧
        items.map (·.assetId) = assets.map assetId) ↔
      ∀ index asset, assets[index]? = some asset →
        (attempt (first + index) asset).item.isSome = true := by
  induction assets generalizing first with
  | nil => exact iff_of_true ⟨[], rfl, rfl⟩ nofun
  | cons asset assets ih =>
      rw [attempts]
      cases hitem : (attempt first asset).item with
      | none =>
          simp only [Option.isSome_none, Bool.false_eq_true, if_false]
          refine iff_of_false ?_ fun h => ?_
          · rintro ⟨items, hitems, -⟩
            simp only [List.mapM_cons, hitem, Option.bind_eq_bind, Option.bind_none] at hitems
            cases hitems
          · have hsome := h 0 asset rfl
            rw [Nat.add_zero, hitem] at hsome
            cases hsome
      | some item =>
          simp only [Option.isSome_some, if_true, List.mapM_cons, hitem,
            Option.bind_eq_bind, Option.bind_some]
          constructor
          · rintro ⟨items, hitems, hids⟩ index other hother
            obtain ⟨rest, hrest, hcons⟩ := Option.bind_eq_some_iff.mp hitems
            cases hcons
            cases index with
            | zero =>
                cases hother
                rw [Nat.add_zero, hitem]
                rfl
            | succ index =>
                have hall := (ih (first + 1)).mp ⟨rest, hrest, (List.cons.inj hids).2⟩
                rw [show first + (index + 1) = first + 1 + index by omega]
                exact hall index other hother
          · intro h
            obtain ⟨rest, hrest, hids⟩ := (ih (first + 1)).mpr fun index other hother => by
              rw [show first + 1 + index = first + (index + 1) by omega]
              exact h (index + 1) other hother
            refine ⟨item :: rest, ?_, ?_⟩
            · rw [hrest]
              rfl
            · rw [List.map_cons, List.map_cons, hids, hid first asset item hitem]

/-- A run over assets is settled exactly when none of the attempts raises. -/
theorem settles_ofAttempts_iff {assetId : α → PyStr}
    (hid : ∀ index asset item, (attempt index asset).item = some item →
      item.assetId = assetId asset) (done : MissingAssetOperationStatus) (assets : List α) :
    (∃ items, Settles done (assets.map assetId)
        (.ofAttempts (finalStatus done) (attempts attempt 0 assets)) items) ↔
      ∀ index asset, assets[index]? = some asset →
        (attempt index asset).item.isSome = true := by
  have hloop := items_attempts hid 0 assets
  simp only [Nat.zero_add] at hloop
  rw [← hloop, RunEnd.ofAttempts]
  refine exists_congr fun items => ?_
  cases hitems : (attempts attempt 0 assets).mapM (·.item) with
  | none => exact iff_of_false (fun h => nomatch h.returned) fun h => nomatch h.1
  | some found =>
      constructor
      · intro h
        exact ⟨h.returned, h.processed⟩
      · rintro ⟨hsame, hids⟩
        cases hsame
        simp only
        exact
          { returned := rfl
            processed := hids
            stored := rfl
            completed := Option.some_inj.trans finalStatus_eq_completed_iff
            partial_ := Option.some_inj.trans finalStatus_eq_partial_iff
            failed := Option.some_inj.trans finalStatus_eq_failed_iff }

end Loop

/-! ## What is contained -/

/-- No exception leaves the removal of an asset: the journal is written; a finding that is
ready is captured; what is captured is stored in a restore point; and this can be deleted
where the rows cannot. -/
def RemovalContained (faults : RemovalFaults) (assetId : PyStr)
    (finding : Option MissingAssetReferenceFinding) (relations : List AssetReferenceRelation)
    (views : AssetViews) : Prop :=
  faults.appendJournalEntry = false ∧
    ((∃ ready, finding = some ready ∧ ready.repairReadiness = .ready) →
      faults.capture = false ∧ (captureRecords views assetId relations ≠ [] →
        faults.createRestorePoint = false ∧
          serializableRecords (captureRecords views assetId relations) = true ∧
          (faults.delete = true ∨
            deleteAssetReferenceRecords assetId relations views.delete = none →
            faults.deleteRestorePoint = false)))

/-- No exception leaves the restore of a point: the journal is written, and a point whose rows
have been inserted is updated. -/
def RestoreContained (parseDocument : PyStr → Option PyStr) (faults : RestoreFaults)
    (point : StoredRestorePoint) (db : Postgres) : Prop :=
  faults.appendJournalEntry = false ∧
    (point.status ≠ .restored → faults.insert = false →
      restoreAssetReferenceRecords parseDocument point.records db ≠ none →
        faults.updateRestorePoint = false)

theorem isSome_item_record (attempt : AssetAttempt) (raises : Bool)
    (status : RepairJournalEntryStatus) (item : MissingAssetOperationItem)
    (hnone : attempt.item = none) :
    (attempt.record raises status item).item.isSome = true ↔ raises = false := by
  unfold AssetAttempt.record
  cases raises with
  | true => exact iff_of_false (by rw [if_pos rfl, hnone]; exact Bool.false_ne_true) nofun
  | false => exact iff_of_true rfl rfl

theorem assetId_item_record {attempt : AssetAttempt} {raises : Bool}
    {status : RepairJournalEntryStatus} {item found : MissingAssetOperationItem}
    (hnone : attempt.item = none) (h : (attempt.record raises status item).item = some found) :
    found = item := by
  unfold AssetAttempt.record at h
  split at h
  · rw [hnone] at h
    cases h
  · exact (Option.some.inj h).symm

section Removal

variable {faults : RemovalFaults} {runId restorePointId assetId : PyStr}
  {finding : Option MissingAssetReferenceFinding} {relations : List AssetReferenceRelation}
  {views : AssetViews}

theorem assetId_removeAsset {item : MissingAssetOperationItem}
    (h : (removeAsset faults runId restorePointId assetId finding relations views).item =
      some item) : item.assetId = assetId := by
  unfold removeAsset at h
  simp only at h
  split at h
  · rw [assetId_item_record rfl h]
  · split at h
    · rw [assetId_item_record rfl h]
    · split at h
      · cases h
      · split at h
        · rw [assetId_item_record rfl h]
        · split at h
          · cases h
          · split at h
            · split at h
              · cases h
              · rw [assetId_item_record rfl h]
            · rw [assetId_item_record rfl h]

/-- Without faults an asset is removed as `applySingleAsset` says. -/
theorem removeAsset_of_no_faults :
    let attempt := removeAsset ⟨false, false, false, false, false⟩ runId restorePointId assetId
      finding relations views
    let outcome := applySingleAsset runId restorePointId assetId finding relations views
    attempt.item = outcome.map (·.item) ∧ attempt.committed = outcome.bind (·.deleted) ∧
      attempt.restorePoint.map (·.toMissingAssetRestorePoint) =
        outcome.bind (·.restorePoint) := by
  unfold removeAsset applySingleAsset
  cases finding with
  | none => exact ⟨rfl, rfl, rfl⟩
  | some finding =>
      simp only
      by_cases hready : finding.repairReadiness ≠ .ready
      · rw [if_pos hready, if_pos hready]
        exact ⟨rfl, rfl, rfl⟩
      rw [if_neg hready, if_neg hready, if_neg Bool.false_ne_true, if_neg Bool.false_ne_true]
      by_cases hempty : (captureRecords views assetId relations).isEmpty = true
      · rw [if_pos hempty, if_pos hempty]
        exact ⟨rfl, rfl, rfl⟩
      rw [if_neg hempty, if_neg hempty, Bool.false_or]
      by_cases hserializable :
          (!serializableRecords (captureRecords views assetId relations)) = true
      · rw [if_pos hserializable, if_pos hserializable]
        exact ⟨rfl, rfl, rfl⟩
      rw [if_neg hserializable, if_neg hserializable]
      cases deleteAssetReferenceRecords assetId relations views.delete <;> exact ⟨rfl, rfl, rfl⟩

theorem isSome_removeAsset_iff :
    (removeAsset faults runId restorePointId assetId finding relations views).item.isSome = true ↔
      RemovalContained faults assetId finding relations views := by
  unfold removeAsset RemovalContained
  cases finding with
  | none =>
      rw [isSome_item_record _ _ _ _ rfl]
      exact ⟨fun h => ⟨h, fun ⟨_, hready, _⟩ => nomatch hready⟩, fun h => h.1⟩
  | some finding =>
      simp only
      by_cases hready : finding.repairReadiness = .ready
      · rw [if_neg (not_not_intro hready)]
        have hpremise : ∃ ready, some finding = some ready ∧ ready.repairReadiness = .ready :=
          ⟨finding, rfl, hready⟩
        rw [imp_iff_right hpremise]
        by_cases hcapture : faults.capture = true
        · rw [if_pos hcapture, hcapture]
          exact iff_of_false Bool.false_ne_true fun h => nomatch h.2.1
        rw [if_neg hcapture, and_iff_right (Bool.eq_false_iff.mpr hcapture)]
        by_cases hempty : captureRecords views assetId relations = []
        · rw [if_pos (List.isEmpty_iff.mpr hempty), isSome_item_record _ _ _ _ rfl]
          exact ⟨fun h => ⟨h, fun hne => absurd hempty hne⟩, fun h => h.1⟩
        rw [if_neg (mt List.isEmpty_iff.mp hempty), imp_iff_right hempty]
        by_cases hstored : faults.createRestorePoint = false ∧
            serializableRecords (captureRecords views assetId relations) = true
        · rw [if_neg (by rw [hstored.1, hstored.2]; exact Bool.false_ne_true),
            and_iff_right hstored.1, and_iff_right hstored.2]
          cases hdelete : if faults.delete = true then none
              else deleteAssetReferenceRecords assetId relations views.delete with
          | none =>
              have hfails : faults.delete = true ∨
                  deleteAssetReferenceRecords assetId relations views.delete = none := by
                by_cases hfault : faults.delete = true
                · exact .inl hfault
                · rw [if_neg hfault] at hdelete
                  exact .inr hdelete
              rw [imp_iff_right hfails]
              cases hpoint : faults.deleteRestorePoint with
              | true => exact iff_of_false Bool.false_ne_true fun h => nomatch h.2
              | false => rw [if_neg Bool.false_ne_true, isSome_item_record _ _ _ _ rfl,
                  and_iff_left rfl]
          | some deleted =>
              have hsucceeds : ¬ (faults.delete = true ∨
                  deleteAssetReferenceRecords assetId relations views.delete = none) := by
                rintro (hfault | hnone)
                · rw [if_pos hfault] at hdelete
                  cases hdelete
                · rw [hnone, ite_self] at hdelete
                  cases hdelete
              rw [isSome_item_record _ _ _ _ rfl]
              exact ⟨fun h => ⟨h, fun hfails => absurd hfails hsucceeds⟩, fun h => h.1⟩
        · rw [if_pos]
          · exact iff_of_false Bool.false_ne_true fun h => hstored ⟨h.2.1, h.2.2.1⟩
          · cases hcreate : faults.createRestorePoint with
            | true => rfl
            | false =>
                rw [Bool.false_or, Bool.not_eq_true', Bool.eq_false_iff]
                exact fun hserializable => hstored ⟨hcreate, hserializable⟩
      · rw [if_pos hready, isSome_item_record _ _ _ _ rfl]
        refine ⟨fun h => ⟨h, ?_⟩, fun h => h.1⟩
        rintro ⟨other, hother, hotherReady⟩
        cases hother
        exact absurd hotherReady hready

end Removal

section Restore

variable {parseDocument : PyStr → Option PyStr} {faults : RestoreFaults}
  {point : StoredRestorePoint} {db : Postgres}

theorem assetId_restoreSinglePoint {item : MissingAssetOperationItem}
    (h : (restoreSinglePoint parseDocument faults point db).item = some item) :
    item.assetId = point.assetId := by
  unfold restoreSinglePoint at h
  simp only at h
  split at h
  · rw [assetId_item_record rfl h]
  · split at h
    · rw [assetId_item_record rfl h]
    · split at h
      · cases h
      · rw [assetId_item_record rfl h]

theorem isSome_restoreSinglePoint_iff :
    (restoreSinglePoint parseDocument faults point db).item.isSome = true ↔
      RestoreContained parseDocument faults point db := by
  unfold restoreSinglePoint RestoreContained
  simp only
  by_cases hrestored : point.status = .restored
  · rw [if_pos hrestored, isSome_item_record _ _ _ _ rfl]
    exact ⟨fun h => ⟨h, fun hnot => absurd hrestored hnot⟩, fun h => h.1⟩
  rw [if_neg hrestored, imp_iff_right hrestored]
  cases hinsert : if faults.insert = true then none
      else restoreAssetReferenceRecords parseDocument point.records db with
  | none =>
      rw [isSome_item_record _ _ _ _ rfl]
      refine ⟨fun h => ⟨h, fun hfault hsome => ?_⟩, fun h => h.1⟩
      rw [hfault, if_neg Bool.false_ne_true] at hinsert
      exact absurd hinsert hsome
  | some after =>
      have hfault : faults.insert = false := by
        by_contra hfault
        rw [if_pos (Bool.not_eq_false _ ▸ hfault)] at hinsert
        cases hinsert
      rw [hfault, if_neg Bool.false_ne_true] at hinsert
      have hsome : restoreAssetReferenceRecords parseDocument point.records db ≠ none := by
        rw [hinsert]
        exact Option.some_ne_none after
      rw [imp_iff_right hfault, imp_iff_right hsome]
      simp only
      cases hupdate : faults.updateRestorePoint with
      | true => exact iff_of_false Bool.false_ne_true fun h => nomatch h.2
      | false => rw [if_neg Bool.false_ne_true, isSome_item_record _ _ _ _ rfl, and_iff_left rfl]

end Restore

/-! ## Runs -/

/-- The findings an apply selects from those of its scan. -/
def findingsFor (run : RepairRun) (findings : List MissingAssetReferenceFinding) :
    List MissingAssetReferenceFinding :=
  findings.filter fun finding => run.scope.assetIds.contains finding.assetId

/-- An apply is settled exactly when its scan succeeds, its token is valid, a database is
configured and no exception leaves an asset; a restore, when a database is configured and no
exception leaves a point. -/
theorem runs_settle_iff (digest : PyStr → PyStr) (batchLimit now : Int) (run : RepairRun)
    (planToken : PlanToken) (state : ScanState) (environment : ApplyEnvironment)
    (faults : Nat → RemovalFaults) (points : List StoredRestorePoint)
    (restorePointIds : List PyStr) (restoreAll : Bool) (restoring : RestoreEnvironment)
    (restoreFaults : Nat → RestoreFaults) :
    ((∃ result items,
        applyRun digest batchLimit now run planToken state environment faults = some result ∧
          Settles .applied run.scope.assetIds result items) ↔
      ∃ findings, scan batchLimit (some run.scope.limit) run.scope.offset state = some findings ∧
        (validatePlanToken digest now planToken run.scope.toDict
          (dbFingerprint digest (findingsFor run findings))
          (fileFingerprint digest (findingsFor run findings))).valid = true ∧
        environment.configured = true ∧
        ∀ index assetId, run.scope.assetIds[index]? = some assetId →
          RemovalContained (faults index) assetId
            ((findingsFor run findings).find? (·.assetId = assetId))
            (detectProfile environment.schema).relations (environment.views index)) ∧
    ((∃ items, Settles .restored
        ((selectedPoints points restorePointIds restoreAll).map (·.assetId))
        (restoreRun points restorePointIds restoreAll restoring restoreFaults) items) ↔
      restoring.configured = true ∧
        ∀ index point, (selectedPoints points restorePointIds restoreAll)[index]? = some point →
          RestoreContained restoring.parseDocument (restoreFaults index) point
            (restoring.databases index)) := by
  constructor
  · cases hscan : scan batchLimit (some run.scope.limit) run.scope.offset state with
    | none =>
        refine iff_of_false ?_ ?_
        · rintro ⟨result, items, hresult, -⟩
          simp only [applyRun, hscan, Option.bind_eq_bind, Option.bind_none] at hresult
          cases hresult
        · rintro ⟨findings, hfindings, -⟩
          cases hfindings
    | some findings =>
        have hrefused : ∀ stored finished, finished ≠ some .completed →
            ¬ ∃ items, Settles .applied run.scope.assetIds
              ⟨[], some [], finished, stored⟩ items := by
          rintro stored finished hfinished ⟨items, hsettles⟩
          cases hsettles.returned
          exact hfinished (hsettles.completed.mpr (List.forall_mem_nil _))
        have hfindings : ∀ p : List MissingAssetReferenceFinding → Prop,
            (∃ found, some findings = some found ∧ p found) ↔ p findings := by
          intro p
          exact ⟨fun ⟨found, hfound, hp⟩ => Option.some.inj hfound ▸ hp, fun hp => ⟨_, rfl, hp⟩⟩
        rw [hfindings]
        simp only [applyRun, hscan, Option.bind_eq_bind, Option.bind_some]
        rw [show (findings.filter fun finding => run.scope.assetIds.contains finding.assetId) =
          findingsFor run findings from rfl]
        cases hvalid : (validatePlanToken digest now planToken run.scope.toDict
            (dbFingerprint digest (findingsFor run findings))
            (fileFingerprint digest (findingsFor run findings))).valid with
        | false =>
            refine iff_of_false ?_ fun h => nomatch h.1
            rintro ⟨result, items, hresult, hsettles⟩
            cases hresult
            exact hrefused .failed (some .failed) nofun ⟨items, hsettles⟩
        | true =>
            rw [and_iff_right rfl]
            cases environment.configured with
            | false =>
                refine iff_of_false ?_ fun h => nomatch h.1
                rintro ⟨result, items, hresult, hsettles⟩
                cases hresult
                exact hrefused run.status none nofun ⟨items, hsettles⟩
            | true =>
                rw [and_iff_right rfl]
                have hloop := @settles_ofAttempts_iff _ (fun index assetId =>
                  removeAsset (faults index) run.repairRunId (environment.restorePointIds index)
                    assetId ((findingsFor run findings).find? (·.assetId = assetId))
                    (detectProfile environment.schema).relations (environment.views index)) id
                  (fun index assetId item hitem => assetId_removeAsset hitem) .applied
                  run.scope.assetIds
                simp only [isSome_removeAsset_iff, List.map_id] at hloop
                rw [← hloop]
                constructor
                · rintro ⟨result, items, hresult, hsettles⟩
                  cases hresult
                  exact ⟨items, hsettles⟩
                · rintro ⟨items, hsettles⟩
                  exact ⟨_, items, rfl, hsettles⟩
  · unfold restoreRun
    cases restoring.configured with
    | false =>
        refine iff_of_false ?_ fun h => nomatch h.1
        rintro ⟨items, hsettles⟩
        have hfailed := (hsettles.failed.mp rfl).1
        have hitems := hsettles.returned
        cases hitems
        obtain ⟨item, hitem, -⟩ := hfailed
        cases hitem
    | true =>
        rw [and_iff_right rfl]
        refine (settles_ofAttempts_iff (fun index point item hitem =>
          assetId_restoreSinglePoint hitem) .restored _).trans ?_
        simp only [isSome_restoreSinglePoint_iff]

/-! ## A journal that cannot be written -/

def journalFails : RemovalFaults := ⟨false, false, false, false, true⟩

set_option maxRecDepth 4000 in
/-- The row of the asset is deleted, and the run stays as it was last written. -/
theorem journal_fault_leaves_running :
    (∃ result, applyRun id 100 5 missingPreview.run missingPreview.planToken missingState
      missingEnvironment (fun _ => journalFails) = some result ∧ result.stored = .running ∧
        result.attempts.map (fun attempt => attempt.committed.map (·.entries.length)) = [some 0]) ∧
    ¬ ∀ (digest : PyStr → PyStr) (batchLimit now : Int) (run : RepairRun) (planToken : PlanToken)
        (state : ScanState) (environment : ApplyEnvironment) (faults : Nat → RemovalFaults)
        (result : RunEnd),
      applyRun digest batchLimit now run planToken state environment faults = some result →
        ∃ items, Settles .applied run.scope.assetIds result items := by
  have hrun : ((applyRun id 100 5 missingPreview.run missingPreview.planToken missingState
      missingEnvironment (fun _ => journalFails)).map fun result =>
        (result.stored, result.finished,
          result.attempts.map (fun attempt => attempt.committed.map (·.entries.length)))) =
      some (.running, none, [some 0]) := by
    decide
  obtain ⟨result, hresult, hfields⟩ := Option.map_eq_some_iff.mp hrun
  simp only [Prod.mk.injEq] at hfields
  obtain ⟨hstored, hfinished, hcommitted⟩ := hfields
  refine ⟨⟨result, hresult, hstored, hcommitted⟩, fun h => ?_⟩
  obtain ⟨items, hsettles⟩ := h _ _ _ _ _ _ _ _ _ hresult
  have hterminal := hsettles.stored
  rw [hfinished] at hterminal
  cases hterminal

end ImmichDoctor.Consistency
