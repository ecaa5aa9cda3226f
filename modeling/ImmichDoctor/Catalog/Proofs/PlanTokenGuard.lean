import ImmichDoctor.Catalog.Proofs.MissingVerdicts
import ImmichDoctor.Catalog.Proofs.ReadableRemediation
/-!
# The plan token of catalog remediation

An apply changes the database or a file only behind the token of its run. The stored token
is the one its preview has issued, and its fingerprints determine the findings it was issued
for, so what is changed was previewed as it is found.
-/

namespace ImmichDoctor.Catalog.Remediation

open ImmichDoctor.Library
open ImmichDoctor.Consistency (fingerprint_injective)
open ImmichDoctor.Db
open ImmichDoctor.Repair
open ImmichDoctor.Storage

/-! ## Stored runs -/

section Stored

variable {store store' : RepairStore} {repairRunId : PyStr} {record : RunRecord}

/-- A write leaves the scope and the token of a stored run as they are. -/
theorem find?_of_write {write : StoreWrite} (hwrite : write.run store = some store')
    (hfound : store.find? repairRunId = some record) :
    ∃ kept, store'.find? repairRunId = some kept ∧ kept.scope = record.scope ∧
      kept.planToken = record.planToken := by
  obtain ⟨hmem, hid⟩ := Table.find?_eq_some_iff.mp hfound
  cases write with
  | createRun created =>
      obtain ⟨hrows, -⟩ := Table.rows_of_insert? hwrite
      refine ⟨record, Table.find?_eq_some_iff.mpr ⟨?_, hid⟩, rfl, rfl⟩
      rw [hrows]
      exact List.mem_append_left _ hmem
  | updateRun target status =>
      cases hwrite
      refine ⟨_, Table.find?_eq_some_iff.mpr ⟨Table.mem_updateWhere_of_mem _ _ _ hmem, ?_⟩, ?_, ?_⟩
      · split <;> exact hid
      · split <;> rfl
      · split <;> rfl
  | appendJournalEntry entry =>
      cases hwrite
      refine ⟨_, Table.find?_eq_some_iff.mpr ⟨Table.mem_updateWhere_of_mem _ _ _ hmem, ?_⟩, ?_, ?_⟩
      · split <;> exact hid
      · split <;> rfl
      · split <;> rfl

theorem find?_of_runWrites {writes : List StoreWrite}
    (hwrites : runWrites store writes = some store')
    (hfound : store.find? repairRunId = some record) :
    ∃ kept, store'.find? repairRunId = some kept ∧ kept.scope = record.scope ∧
      kept.planToken = record.planToken := by
  unfold runWrites at hwrites
  induction writes generalizing store record with
  | nil =>
      cases hwrites
      exact ⟨record, hfound, rfl, rfl⟩
  | cons write writes ih =>
      rw [List.foldlM_cons] at hwrites
      obtain ⟨next, hnext, hrest⟩ := Option.bind_eq_some_iff.mp hwrites
      obtain ⟨kept, hkept, hscope, htoken⟩ := find?_of_write hnext hfound
      obtain ⟨last, hlast, hscope', htoken'⟩ := ih hrest hkept
      exact ⟨last, hlast, hscope'.trans hscope, htoken'.trans htoken⟩

end Stored

section Run

variable {digest : PyStr → PyStr} {s t : State} {repairRunId : PyStr} {record : RunRecord}

/-- What an apply does with the stored runs, and when it does something else. -/
theorem of_applyRun {environment : Environment} {actionKind : CatalogRemediationActionKind}
    {selection : Selection}
    (h : applyRun digest record environment actionKind selection s = some t) :
    (∃ writes, runWrites s.store writes = some t.store) ∧
      (admitted digest record environment selection = true ∨
        t.database = s.database ∧ t.files = s.files) := by
  unfold applyRun at h
  split at h
  · next hadmitted =>
      obtain ⟨store, hstore, rfl⟩ := Option.map_eq_some_iff.mp h
      exact ⟨⟨_, hstore⟩, .inl hadmitted⟩
  · obtain ⟨store, hstore, rfl⟩ := Option.map_eq_some_iff.mp h
    exact ⟨⟨_, hstore⟩, .inr ⟨rfl, rfl⟩⟩

/-- What a step does with the stored runs is a list of writes. -/
theorem writes_of_step {request : Request} (h : s.step digest request = some t) :
    ∃ writes, runWrites s.store writes = some t.store := by
  cases request with
  | preview request =>
      obtain ⟨selection, -, h⟩ := Option.bind_eq_some_iff.mp h
      obtain ⟨store, hstore, h⟩ := Option.bind_eq_some_iff.mp h
      cases h
      refine ⟨[.createRun (request.record digest selection)], ?_⟩
      show (StoreWrite.run s.store _).bind some = some store
      rw [hstore]
      rfl
  | apply environment repairRunId =>
      simp only [State.step] at h
      split at h
      · cases h
        exact ⟨[], rfl⟩
      · split at h
        · cases h
          exact ⟨[], rfl⟩
        · exact (of_applyRun h).1
  | changed database files =>
      cases h
      exact ⟨[], rfl⟩
  | storeWrite write =>
      obtain ⟨store, hstore, rfl⟩ := Option.map_eq_some_iff.mp h
      refine ⟨[write], ?_⟩
      show (StoreWrite.run s.store write).bind some = some store
      rw [hstore]
      rfl

/-- The scope and the token of a stored run stay what they are along every run. -/
theorem find?_of_steps {ok : State → Request → Prop} {requests : List Request}
    (hrun : Steps (State.step digest) ok s requests t)
    (hfound : s.store.find? repairRunId = some record) :
    ∃ kept, t.store.find? repairRunId = some kept ∧ kept.scope = record.scope ∧
      kept.planToken = record.planToken := by
  have hkept := hrun.invariant
    (P := fun u => ∃ kept, u.store.find? repairRunId = some kept ∧ kept.scope = record.scope ∧
      kept.planToken = record.planToken) ?_ ⟨record, hfound, rfl, rfl⟩
  · exact hkept
  · rintro u request v - hstep ⟨kept, hkept, hscope, htoken⟩
    obtain ⟨writes, hwrites⟩ := writes_of_step hstep
    obtain ⟨last, hlast, hscope', htoken'⟩ := find?_of_runWrites hwrites hkept
    exact ⟨last, hlast, hscope'.trans hscope, htoken'.trans htoken⟩

end Run

/-! ## The guard -/

section Guard

variable {digest : PyStr → PyStr} {record : RunRecord} {environment : Environment}
  {selection : Selection}

/-- A token that lets an apply go on is not expired and was issued for what is selected. -/
theorem of_admitted (h : admitted digest record environment selection = true) :
    (∀ expires, record.planToken.expiresAt = some expires → environment.now ≤ expires) ∧
      record.planToken.dbFingerprint = fingerprint digest selection := by
  unfold admitted at h
  obtain ⟨scope, -, hpasses⟩ := (Option.any_eq_true _ _).mp h
  obtain ⟨htime, -, hdb, -⟩ := valid_iff.mp (Bool.and_eq_true_iff.mp hpasses).1
  exact ⟨htime, hdb⟩

/-- The scope of a preview is read back with its kinds. -/
theorem selectedFor_previewScope (actionKind : CatalogRemediationActionKind) (ids : List PyStr)
    (selectAll : Bool) (result : ScanResult) :
    ∃ ids' selectAll', selectedFor (previewScope actionKind ids selectAll) result =
      some (actionKind, select result (findingKind actionKind) actionKind ids' selectAll') := by
  have hfinding : scopeFindingKind (previewScope actionKind ids selectAll) =
      some (findingKind actionKind) := by
    cases actionKind <;> rfl
  have haction : scopeActionKind (previewScope actionKind ids selectAll) = some actionKind := by
    cases actionKind <;> rfl
  unfold selectedFor
  rw [hfinding, haction]
  exact ⟨_, _, rfl⟩

/-- The findings of a scan are readable, whatever their kind. -/
structure ScanResult.Readable (result : ScanResult) : Prop where
  brokenDbOriginals : ∀ finding ∈ result.brokenDbOriginals, finding.Readable
  zeroByteFindings : ∀ finding ∈ result.zeroByteFindings, finding.Readable
  fuseHiddenOrphans : ∀ finding ∈ result.fuseHiddenOrphans, finding.Readable

theorem ScanResult.Readable.select {result : ScanResult} (h : result.Readable)
    (kind : CatalogRemediationFindingKind) (actionKind : CatalogRemediationActionKind)
    (ids : List PyStr) (selectAll : Bool) :
    (JsonValue.list
      (Remediation.select result kind actionKind ids selectAll).toDicts).Readable := by
  apply JsonValue.itemsReadable_iff.mpr
  cases kind with
  | brokenDbOriginal =>
      intro item hitem
      obtain ⟨finding, hmem, rfl⟩ := List.mem_map.mp hitem
      exact (h.brokenDbOriginals finding (List.mem_of_mem_filter hmem)).toDict
  | zeroByteFile =>
      intro item hitem
      obtain ⟨finding, hmem, rfl⟩ := List.mem_map.mp hitem
      exact (h.zeroByteFindings finding (List.mem_of_mem_filter hmem)).toDict
  | fuseHiddenOrphan =>
      intro item hitem
      obtain ⟨finding, hmem, rfl⟩ := List.mem_map.mp hitem
      exact (h.fuseHiddenOrphans finding (List.mem_of_mem_filter hmem)).toDict

/-- Selections of one kind with the same fingerprint are the same, in content and order. -/
theorem select_eq_of_fingerprint (hdigest : Function.Injective digest)
    {result result' : ScanResult} (h : result.Readable) (h' : result'.Readable)
    (kind : CatalogRemediationFindingKind) (actionKind : CatalogRemediationActionKind)
    {ids ids' : List PyStr} {selectAll selectAll' : Bool}
    (hsame : fingerprint digest (select result kind actionKind ids selectAll) =
      fingerprint digest (select result' kind actionKind ids' selectAll')) :
    select result kind actionKind ids selectAll =
      select result' kind actionKind ids' selectAll' := by
  have hsorted := fingerprint_injective hdigest (h.select kind actionKind ids selectAll)
    (h'.select kind actionKind ids' selectAll') hsame
  have hitems := JsonValue.list.inj hsorted
  cases kind with
  | brokenDbOriginal =>
      exact congrArg Selection.brokenDbOriginals
        (eq_of_sortItems (fun _ _ => BrokenDbOriginalFinding.eq_of_sortKeys) hitems)
  | zeroByteFile =>
      exact congrArg Selection.zeroByteFiles
        (eq_of_sortItems (fun _ _ => ZeroByteFinding.eq_of_sortKeys) hitems)
  | fuseHiddenOrphan =>
      exact congrArg Selection.fuseHiddenOrphans
        (eq_of_sortItems (fun _ _ => FuseHiddenOrphanFinding.eq_of_sortKeys) hitems)

end Guard

/-! ## Applies -/

/-- The apply of a run meets the token that its preview has issued, in time, and selects the
previewed findings. -/
structure AsPreviewed (digest : PyStr → PyStr) (request : PreviewRequest) (selection : Selection)
    (environment : Environment) (s : State) : Prop where
  token : ∃ record, s.store.find? request.repairRunId = some record ∧
    record.planToken = (request.record digest selection).planToken ∧
      s.selected environment record = some (request.actionKind, selection)
  unexpired : environment.now ≤ request.environment.now + planTokenTtl

section Applies

variable {digest : PyStr → PyStr} {s t u v : State} {request : PreviewRequest}
  {environment : Environment} {requests : List Request}

/-- After a preview has stored a run, and whatever happens in between, its apply changes the
database or a file only with the issued token, in time, and for the findings that were
previewed, in content and order. -/
theorem apply_changes_as_previewed (hdigest : Function.Injective digest)
    (hpreview : s.step digest (.preview request) = some t)
    (hrun : Steps (State.step digest) (fun _ _ => True) t requests u)
    (happly : u.step digest (.apply environment request.repairRunId) = some v)
    (hpreviewed : request.environment.Readable s.database)
    (hfound : environment.Readable u.database)
    (hchanged : v.database ≠ u.database ∨ v.files ≠ u.files) :
    ∃ selection, request.selected s.database s.files = some selection ∧
      AsPreviewed digest request selection environment u := by
  obtain ⟨selection, hselected, hstored⟩ := Option.bind_eq_some_iff.mp hpreview
  obtain ⟨store, hcreated, hstored⟩ := Option.bind_eq_some_iff.mp hstored
  cases hstored
  have hissued : store.find? request.repairRunId = some (request.record digest selection) :=
    Table.find?_eq_some_iff.mpr ⟨Table.mem_of_insert? hcreated, rfl⟩
  obtain ⟨record, hrecord, hscope, htoken⟩ := find?_of_steps hrun hissued
  refine ⟨selection, hselected, ?_⟩
  simp only [State.step, hrecord] at happly
  cases hnow : u.selected environment record with
  | none =>
      rw [hnow] at happly
      cases happly
      exact (hchanged.elim (fun h => h rfl) fun h => h rfl).elim
  | some found =>
      obtain ⟨actionKind, current⟩ := found
      rw [hnow] at happly
      rcases (of_applyRun happly).2 with hadmitted | ⟨hdatabase, hfiles⟩
      · obtain ⟨htime, hdb⟩ := of_admitted hadmitted
        rw [htoken] at htime hdb
        obtain ⟨scanned, hscanned, rfl⟩ := Option.map_eq_some_iff.mp hselected
        obtain ⟨result, hresult, hfor⟩ := Option.bind_eq_some_iff.mp hnow
        obtain ⟨ids, selectAll, hkinds⟩ := selectedFor_previewScope request.actionKind _
          request.selectAll result
        rw [hscope, show (request.record digest _).scope = previewScope request.actionKind _
          request.selectAll from rfl, hkinds] at hfor
        cases hfor
        obtain ⟨hbroken, hzero, hfuse⟩ := readable_scan hpreviewed hscanned
        obtain ⟨hbroken', hzero', hfuse'⟩ := readable_scan hfound hresult
        have hsame := select_eq_of_fingerprint hdigest ⟨hbroken, hzero, hfuse⟩
          ⟨hbroken', hzero', hfuse'⟩ (findingKind request.actionKind) request.actionKind hdb
        exact ⟨⟨record, hrecord, htoken, by rw [hnow, hsame]⟩, htime _ rfl⟩
      · exact (hchanged.elim (fun h => h hdatabase) fun h => h hfiles).elim

end Applies

/-! ## A broken row that is removed -/

def brokenRow : Row SqlValue :=
  [(py "id", some (.text (py "a1"))), (py "type", some (.text (py "IMAGE"))),
    (py "ownerId", some (.text (py "u1"))), (py "createdAt", some (.text (py "5"))),
    (py "updatedAt", some (.text (py "5"))), (py "originalFileName", some (.text (py "b.jpg"))),
    (py "originalPath", some (.text (py "/uploads/b.jpg")))]

/-- An asset whose file is not there. -/
def oneBroken : Postgres where
  tables := [(assetTable, assetColumns),
    (assetFileTable, [py "id", py "assetId", py "type", py "path"])]
  uniqueKeys := [(assetTable, [py "id"])]
  foreignKeys := []
  entries := [⟨1, assetTable, brokenRow⟩]
  identified := by decide

/-- The uploads are scanned, and nothing fails but the query of the users. -/
def cleanupEnvironment : Environment where
  settings := uploadsOnly
  text := ⟨id, id⟩
  resolvePath := id
  rootTimes := fun _ => 30
  catalog := (scannedWithFileModifiedAt 9).db
  configured := true
  reachable := true
  parseTimestamp := fun _ => some 5
  usersFail := true
  existsError := fun _ => none
  digest := fun _ _ => none
  inspectOpenFileHandles := fun _ => ⟨.skipped, none, []⟩
  now := 100
  writes := fun _ => .done
  entryIds := id
  restorePointIds := id
  cutOff := none

def cleanupPreview : PreviewRequest :=
  ⟨cleanupEnvironment, .brokenDbCleanup, [], true, py "r1", py "t1"⟩

def brokenState : State :=
  ⟨oneBroken, Table.empty, .empty⟩

def previewedState : State :=
  (brokenState.step id (.preview cleanupPreview)).get (by decide +kernel)

/-- The apply returns and leaves no row. -/
theorem entries_of_apply : (previewedState.step id (.apply cleanupEnvironment (py "r1"))).map
    (·.database.entries) = some [] := by
  decide +kernel

def cleanedState : State :=
  (previewedState.step id (.apply cleanupEnvironment (py "r1"))).get <| by
    rw [← Option.isSome_map, entries_of_apply, Option.isSome_some]

theorem readable_cleanupEnvironment {database : Postgres}
    (h : database.entries = [⟨1, assetTable, brokenRow⟩]) :
    cleanupEnvironment.Readable database where
  roots := by
    intro root hroot
    rw [List.mem_singleton.mp hroot]
    unfold Consistency.ReadablePath
    decide
  catalog := ⟨by decide +kernel, by decide +kernel⟩
  rows := by
    intro entry hentry column value hvalue
    rw [h] at hentry
    rw [List.mem_singleton.mp hentry] at hvalue
    have hrow : ∀ field ∈ brokenRow, ∀ value ∈ field.2, Json.Readable value.str := by decide
    exact hrow _ (mem_of_value hvalue) value rfl
  lower := fun _ htext => htext
  errors := nofun
  inspections := fun _ => ⟨nofun, nofun⟩

/-- The row is removed as it was previewed. -/
theorem apply_changes_as_previewed_removed : cleanedState.database.entries = [] ∧
    ∃ selection, cleanupPreview.selected brokenState.database brokenState.files = some selection ∧
      AsPreviewed id cleanupPreview selection cleanupEnvironment previewedState := by
  have hremoved : cleanedState.database.entries = [] := by
    obtain ⟨cleaned, hcleaned, hentries⟩ := Option.map_eq_some_iff.mp entries_of_apply
    exact (congrArg (·.database.entries) (Option.get_of_eq_some _ hcleaned)).trans hentries
  have hkept : previewedState.database.entries = [⟨1, assetTable, brokenRow⟩] := by
    decide +kernel
  have hpreview : brokenState.step id (.preview cleanupPreview) = some previewedState :=
    (Option.some_get _).symm
  have happly : previewedState.step id (.apply cleanupEnvironment cleanupPreview.repairRunId) =
      some cleanedState := (Option.some_get _).symm
  refine ⟨hremoved, apply_changes_as_previewed Function.injective_id hpreview (Steps.refl _) happly
    (readable_cleanupEnvironment rfl) (readable_cleanupEnvironment hkept) (Or.inl ?_)⟩
  intro hsame
  rw [hsame, hkept] at hremoved
  cases hremoved

end ImmichDoctor.Catalog.Remediation
