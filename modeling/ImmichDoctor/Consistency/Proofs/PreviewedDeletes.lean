import ImmichDoctor.Consistency.Proofs.ReadableFindings
/-!
# What an apply deletes was previewed

The fingerprints of a selection determine what they are made of, so a token that is valid
for the findings of a later scan shows that they are what the preview has selected.
-/

namespace ImmichDoctor.Consistency

open ImmichDoctor.Library
open ImmichDoctor.Db
open ImmichDoctor.Repair

/-! ## Fingerprints -/

section Fingerprints

variable {digest : PyStr → PyStr} {a b : List MissingAssetReferenceFinding}

/-- Payloads with the same fingerprint are the same up to the order of their keys. -/
theorem fingerprint_injective (hdigest : Function.Injective digest) {x y : JsonValue}
    (hx : x.Readable) (hy : y.Readable)
    (h : fingerprintPayload digest x = fingerprintPayload digest y) : x.sortKeys = y.sortKeys :=
  JsonValue.dumps_injective hx hy (hdigest h)

theorem sortKeys_textItems (texts : List PyStr) : (textItems texts).sortKeys = textItems texts := by
  rw [textItems, JsonValue.sortKeys, JsonValue.sortItems_eq_map, List.map_map]
  rfl

theorem textItems_injective : Function.Injective textItems := by
  intro a b h
  have hmap : a.map JsonValue.str = b.map JsonValue.str := JsonValue.list.inj h
  exact List.map_injective_iff.mpr (fun _ _ heq => JsonValue.str.inj heq) hmap

theorem scope_eq_of_fingerprint (hdigest : Function.Injective digest)
    {scope scope' : MissingAssetScope} (hscope : ∀ id ∈ scope.assetIds, Json.Readable id)
    (hscope' : ∀ id ∈ scope'.assetIds, Json.Readable id)
    (h : fingerprintPayload digest scope.toDict = fingerprintPayload digest scope'.toDict) :
    scope = scope' := by
  have hsorted : ∀ scope : MissingAssetScope, scope.toDict.sortKeys =
      .obj [(py "action", .str (py "preview_remove")),
        (py "asset_ids", (textItems scope.assetIds).sortKeys),
        (py "domain", .str (py "consistency.missing_asset_references")),
        (py "limit", .int scope.limit), (py "offset", .int scope.offset),
        (py "select_all", .bool scope.selectAll)] := fun _ => rfl
  have hfields := fingerprint_injective hdigest (readable_scope hscope) (readable_scope hscope') h
  rw [hsorted, hsorted, sortKeys_textItems, sortKeys_textItems] at hfields
  simp only [JsonValue.obj.injEq, List.cons.injEq, Prod.mk.injEq, JsonValue.int.injEq,
    JsonValue.bool.injEq, true_and, and_true] at hfields
  obtain ⟨hids, hlimit, hoffset, hall⟩ := hfields
  cases scope
  cases scope'
  simp only [MissingAssetScope.mk.injEq]
  exact ⟨textItems_injective hids, hall, hlimit, hoffset⟩

/-- What the fingerprint of the database sees of a finding. -/
def dbView (finding : MissingAssetReferenceFinding) :
    PyStr × MissingAssetReferenceStatus × PyStr × RepairReadinessStatus :=
  (finding.assetId, finding.status, finding.logicalPath, finding.repairReadiness)

/-- What the fingerprint of the files sees of a finding. -/
def fileView (finding : MissingAssetReferenceFinding) : PyStr × PyStr × List JsonValue :=
  (finding.assetId, finding.resolvedPhysicalPath,
    finding.repairBlockerDetails.map fun blocker => blocker.toDict.sortKeys)

theorem status_value_injective : Function.Injective MissingAssetReferenceStatus.value := by
  intro a b h
  cases a <;> cases b <;> first | rfl | exact absurd h (by decide)

theorem readiness_value_injective : Function.Injective RepairReadinessStatus.value := by
  intro a b h
  cases a <;> cases b <;> first | rfl | exact absurd h (by decide)

/-- Payloads of lists with the same fingerprint are made of the same views. -/
theorem views_eq_of_fingerprint {β : Type} (hdigest : Function.Injective digest)
    {fields : MissingAssetReferenceFinding → JsonValue} {view : MissingAssetReferenceFinding → β}
    (hreadable : ∀ finding, ReadableFinding finding → (fields finding).Readable)
    (hview : ∀ x y, (fields x).sortKeys = (fields y).sortKeys → view x = view y)
    (ha : ∀ finding ∈ a, ReadableFinding finding) (hb : ∀ finding ∈ b, ReadableFinding finding)
    (h : fingerprintPayload digest (.list (a.map fields)) =
      fingerprintPayload digest (.list (b.map fields))) :
    a.map view = b.map view := by
  have hpayload : ∀ findings : List MissingAssetReferenceFinding,
      (∀ finding ∈ findings, ReadableFinding finding) →
      (JsonValue.list (findings.map fields)).Readable := by
    intro findings hfindings
    refine JsonValue.itemsReadable_iff.mpr fun item hitem => ?_
    obtain ⟨finding, hmem, rfl⟩ := List.mem_map.mp hitem
    exact hreadable finding (hfindings finding hmem)
  have hsorted := fingerprint_injective hdigest (hpayload a ha) (hpayload b hb) h
  simp only [JsonValue.sortKeys, JsonValue.sortItems_eq_map, JsonValue.list.injEq,
    List.map_map] at hsorted
  clear ha hb h
  induction a generalizing b with
  | nil =>
      rw [List.map_nil, eq_comm, List.map_eq_nil_iff] at hsorted
      rw [hsorted]
  | cons x rest ih =>
      cases b with
      | nil => cases hsorted
      | cons y others =>
          obtain ⟨hhead, htail⟩ := List.cons.inj hsorted
          rw [List.map_cons, List.map_cons, hview x y hhead, ih htail]

theorem dbView_eq_of_fingerprint (hdigest : Function.Injective digest)
    (ha : ∀ finding ∈ a, ReadableFinding finding) (hb : ∀ finding ∈ b, ReadableFinding finding)
    (h : dbFingerprint digest a = dbFingerprint digest b) : a.map dbView = b.map dbView := by
  refine views_eq_of_fingerprint hdigest (fun _ => readable_dbFields) (fun x y hxy => ?_) ha hb h
  have hsorted : ∀ finding, (dbFields finding).sortKeys =
      .obj [(py "asset_id", .str finding.assetId), (py "logical_path", .str finding.logicalPath),
        (py "repair_readiness", .str finding.repairReadiness.value),
        (py "status", .str finding.status.value)] := fun _ => rfl
  rw [hsorted, hsorted] at hxy
  simp only [JsonValue.obj.injEq, List.cons.injEq, Prod.mk.injEq, JsonValue.str.injEq,
    true_and, and_true] at hxy
  obtain ⟨hid, hpath, hreadiness, hstatus⟩ := hxy
  rw [dbView, dbView, hid, hpath, status_value_injective hstatus,
    readiness_value_injective hreadiness]

theorem fileView_eq_of_fingerprint (hdigest : Function.Injective digest)
    (ha : ∀ finding ∈ a, ReadableFinding finding) (hb : ∀ finding ∈ b, ReadableFinding finding)
    (h : fileFingerprint digest a = fileFingerprint digest b) :
    a.map fileView = b.map fileView := by
  refine views_eq_of_fingerprint hdigest (fun _ => readable_fileFields) (fun x y hxy => ?_) ha hb h
  have hsorted : ∀ finding, (fileFields finding).sortKeys =
      .obj [(py "asset_id", .str finding.assetId),
        (py "repair_blockers",
          .list (JsonValue.sortItems (finding.repairBlockerDetails.map (·.toDict)))),
        (py "resolved_physical_path", .str finding.resolvedPhysicalPath)] := fun _ => rfl
  rw [hsorted, hsorted] at hxy
  simp only [JsonValue.obj.injEq, List.cons.injEq, Prod.mk.injEq, JsonValue.str.injEq,
    JsonValue.list.injEq, JsonValue.sortItems_eq_map, List.map_map, true_and, and_true] at hxy
  obtain ⟨hid, hblockers, hpath⟩ := hxy
  rw [fileView, fileView, hid, hpath]
  exact congrArg (fun blockers => (y.assetId, y.resolvedPhysicalPath, blockers)) hblockers

end Fingerprints

/-! ## Selections -/

/-- Path, classification and blockers are those of the other finding. -/
structure SameFinding (previewed finding : MissingAssetReferenceFinding) : Prop where
  assetId : finding.assetId = previewed.assetId
  status : finding.status = previewed.status
  repairReadiness : finding.repairReadiness = previewed.repairReadiness
  logicalPath : finding.logicalPath = previewed.logicalPath
  resolvedPhysicalPath : finding.resolvedPhysicalPath = previewed.resolvedPhysicalPath
  repairBlockerDetails : finding.repairBlockerDetails = previewed.repairBlockerDetails

/-- A finding that is ready has no blockers. -/
theorem blockers_of_ready {batchLimit : Int} {limit : Option Int} {offset : Int}
    {state : ScanState} {findings : List MissingAssetReferenceFinding}
    (h : scan batchLimit limit offset state = some findings) :
    ∀ finding ∈ findings, finding.repairReadiness = .ready →
      finding.repairBlockerDetails = [] := by
  simp only [scan] at h
  split at h
  · cases h
    simp
  · obtain ⟨rows, -, hfindings⟩ := Option.bind_eq_some_iff.mp h
    cases hfindings
    intro finding hfinding hready
    obtain ⟨row, -, rfl⟩ := List.mem_map.mp hfinding
    simp only [inspectAssetRow] at hready ⊢
    split at hready
    · next hmissing =>
        rw [List.isEmpty_iff.mp hmissing.2, List.append_nil]
        have hstatus := hmissing.1
        unfold inspectPath at hstatus ⊢
        split at hstatus
        · cases hstatus
        · next hblank =>
            rw [if_neg hblank]
            split at hstatus
            · cases hstatus
            · next hlegacy =>
                rw [if_neg hlegacy]
                revert hstatus
                cases state.files _ with
                | fileNotFound => exact fun _ => rfl
                | readable => exact fun hstatus => by cases hstatus
                | permissionDenied => exact fun hstatus => by cases hstatus
                | osError errno reason =>
                    intro hstatus
                    simp only [inspectProbe] at hstatus
                    split at hstatus <;> cases hstatus
    · cases hready

theorem sameFinding_of_views {previewed finding : MissingAssetReferenceFinding}
    (hdb : dbView finding = dbView previewed) (hfile : fileView finding = fileView previewed)
    (hblockers : previewed.repairBlockerDetails = []) : SameFinding previewed finding := by
  simp only [dbView, fileView, Prod.mk.injEq, hblockers, List.map_nil, List.map_eq_nil_iff]
    at hdb hfile
  obtain ⟨hid, hstatus, hpath, hreadiness⟩ := hdb
  obtain ⟨-, hresolved, hempty⟩ := hfile
  exact ⟨hid, hstatus, hreadiness, hpath, hresolved, hempty.trans hblockers.symm⟩

/-- Two lists with the same views have at each place findings with the same views. -/
theorem exists_same_views {a b : List MissingAssetReferenceFinding}
    (hdb : a.map dbView = b.map dbView) (hfile : a.map fileView = b.map fileView)
    {finding : MissingAssetReferenceFinding} (hfinding : finding ∈ b) :
    ∃ previewed ∈ a, dbView finding = dbView previewed ∧ fileView finding = fileView previewed := by
  induction a generalizing b with
  | nil =>
      rw [List.map_nil, eq_comm, List.map_eq_nil_iff] at hdb
      rw [hdb] at hfinding
      cases hfinding
  | cons x rest ih =>
      cases b with
      | nil => cases hfinding
      | cons y others =>
          obtain ⟨hdbHead, hdbTail⟩ := List.cons.inj hdb
          obtain ⟨hfileHead, hfileTail⟩ := List.cons.inj hfile
          rcases List.mem_cons.mp hfinding with rfl | hmem
          · exact ⟨x, List.mem_cons_self, hdbHead.symm, hfileHead.symm⟩
          · obtain ⟨previewed, hprevious, hsame⟩ := ih hdbTail hfileTail hmem
            exact ⟨previewed, List.mem_cons_of_mem _ hprevious, hsame⟩

/-! ## The run of an apply -/

/-- An outcome of an apply is one for an asset of its list. -/
theorem mem_applyAssets {apply : Nat → PyStr → Option AssetOutcome} {outcome : AssetOutcome} :
    ∀ {assetIds : List PyStr} {index : Nat}, outcome ∈ applyAssets apply index assetIds →
      ∃ assetId ∈ assetIds, ∃ place, apply place assetId = some outcome
  | [], _, h => by cases h
  | assetId :: assetIds, index, h => by
      rw [applyAssets] at h
      cases happly : apply index assetId with
      | none =>
          rw [happly] at h
          cases h
      | some first =>
          rw [happly] at h
          rcases List.mem_cons.mp h with rfl | hrest
          · exact ⟨assetId, List.mem_cons_self, index, happly⟩
          · obtain ⟨other, hother, place, hplace⟩ := mem_applyAssets hrest
            exact ⟨other, List.mem_cons_of_mem _ hother, place, hplace⟩

theorem assetId_applySingleAsset {runId restorePointId assetId : PyStr}
    {finding : Option MissingAssetReferenceFinding} {relations : List AssetReferenceRelation}
    {views : AssetViews} {outcome : AssetOutcome}
    (h : applySingleAsset runId restorePointId assetId finding relations views = some outcome) :
    outcome.item.assetId = assetId := by
  unfold applySingleAsset at h
  split at h
  · cases h
    rfl
  · simp only at h
    split at h
    · cases h
      rfl
    · split at h
      · cases h
        rfl
      · split at h
        · cases h
        · split at h <;> cases h <;> rfl

section Apply

variable {digest : PyStr → PyStr} {batchLimit : Int} {now : Int} {run : RepairRun}
  {planToken : PlanToken} {state : ScanState} {environment : ApplyEnvironment}
  {result : ApplyResult}

/-- The findings an apply compares with its token. -/
def ApplyResult.selectedFor (result : ApplyResult) (scope : MissingAssetScope) :
    List MissingAssetReferenceFinding :=
  result.findings.filter fun finding => scope.assetIds.contains finding.assetId

theorem of_apply
    (h : apply digest batchLimit now run planToken state environment = some result) :
    scan batchLimit (some run.scope.limit) run.scope.offset state = some result.findings ∧
      result.guardResult = validatePlanToken digest now planToken run.scope.toDict
        (dbFingerprint digest (result.selectedFor run.scope))
        (fileFingerprint digest (result.selectedFor run.scope)) ∧
      (result.guardResult.valid = false → result.outcomes = []) ∧
      ∀ outcome ∈ result.outcomes, outcome.item.assetId ∈ run.scope.assetIds := by
  obtain ⟨findings, hscan, hresult⟩ := Option.bind_eq_some_iff.mp h
  simp only at hresult
  split at hresult
  · cases hresult
    exact ⟨hscan, rfl, fun _ => rfl, nofun⟩
  · next hvalid =>
      cases hresult
      simp only [Bool.or_eq_true, Bool.not_eq_true', not_or, Bool.not_eq_false] at hvalid
      refine ⟨hscan, rfl, fun hinvalid => ?_, fun outcome houtcome => ?_⟩
      · have htrue := hvalid.1
        rw [show _ = false from hinvalid] at htrue
        cases htrue
      · obtain ⟨assetId, hmem, place, hplace⟩ := mem_applyAssets houtcome
        rw [assetId_applySingleAsset hplace]
        exact hmem

end Apply

/-! ## Deletes -/

section Deletes

variable {digest : PyStr → PyStr} {batchLimit batchLimit' : Int} {runId tokenId : PyStr}
  {issuedAt now : Int} {request : PreviewRequest} {previewState applyState : ScanState}
  {previewed : PreviewResult} {stored : RepairRun} {environment : ApplyEnvironment}
  {result : ApplyResult}

/-- What a preview has selected. -/
theorem of_preview
    (h : preview digest batchLimit runId tokenId issuedAt request previewState = some previewed) :
    ∃ findings, scan batchLimit request.limit request.offset previewState = some findings ∧
      previewed.selectedFindings =
        selectedFindings findings request.assetIds request.selectAll ∧
      previewed.run.scope = previewScope batchLimit request previewed.selectedFindings ∧
      previewed.planToken = createPlanToken tokenId issuedAt previewed.run.scope.toDict
        (dbFingerprint digest previewed.selectedFindings)
        (fileFingerprint digest previewed.selectedFindings) := by
  obtain ⟨findings, hscan, hresult⟩ := Option.bind_eq_some_iff.mp h
  cases hresult
  exact ⟨findings, hscan, rfl, rfl, rfl⟩

/-- An asset is deleted only if it was previewed as it is found now; nothing is deleted when
the guard rejects, and it rejects a token that is too old, another scope and other findings. -/
theorem apply_deletes_previewed (hdigest : Function.Injective digest)
    (hpreview : preview digest batchLimit runId tokenId issuedAt request previewState =
      some previewed)
    (happly : apply digest batchLimit' now stored previewed.planToken applyState environment =
      some result)
    (hpreviewed : previewState.Readable) (hfound : applyState.Readable)
    (hstored : ∀ id ∈ stored.scope.assetIds, Json.Readable id) :
    (∀ assetId ∈ result.deletedAssets,
      (∃ selected ∈ previewed.selectedFindings, selected.assetId = assetId) ∧
      (∃ finding ∈ result.findings, finding.assetId = assetId) ∧
      ∀ finding ∈ result.findings, finding.assetId = assetId →
        finding.repairReadiness = .ready ∧ finding.status = .missingOnDisk ∧
          ∃ selected ∈ previewed.selectedFindings, SameFinding selected finding) ∧
    (result.guardResult.valid = false → result.outcomes = []) ∧
    (issuedAt + planTokenTtl < now ∨ stored.scope ≠ previewed.run.scope ∨
        (result.selectedFor stored.scope).map dbView ≠ previewed.selectedFindings.map dbView ∨
        (result.selectedFor stored.scope).map fileView ≠ previewed.selectedFindings.map fileView →
      result.guardResult.valid = false) := by
  obtain ⟨findings, hscan, hselected, hscope, htoken⟩ := of_preview hpreview
  obtain ⟨hscan', hguard, hrejected, hids⟩ := of_apply happly
  have hmemSelected : ∀ finding ∈ previewed.selectedFindings, finding ∈ findings ∧
      finding.repairReadiness = .ready ∧ finding.status = .missingOnDisk := by
    intro finding hfinding
    rw [hselected] at hfinding
    obtain ⟨hmem, hactionable⟩ := List.mem_filter.mp hfinding
    simp only [Bool.and_eq_true, decide_eq_true_eq] at hactionable
    exact ⟨hmem, hactionable.1.1, hactionable.1.2⟩
  have hreadable : ∀ finding ∈ previewed.selectedFindings, ReadableFinding finding :=
    fun finding hfinding => readable_finding hpreviewed hscan finding
      (hmemSelected finding hfinding).1
  have hreadable' : ∀ finding ∈ result.selectedFor stored.scope, ReadableFinding finding :=
    fun finding hfinding => readable_finding hfound hscan' finding (List.mem_filter.mp hfinding).1
  have hscopeReadable : ∀ id ∈ previewed.run.scope.assetIds, Json.Readable id := by
    rw [hscope]
    intro id hid
    obtain ⟨finding, hfinding, rfl⟩ := List.mem_map.mp hid
    exact (hreadable finding hfinding).assetId
  -- a valid token shows that nothing has changed
  have hvalid : result.guardResult.valid = true →
      now ≤ issuedAt + planTokenTtl ∧ stored.scope = previewed.run.scope ∧
      previewed.selectedFindings.map dbView = (result.selectedFor stored.scope).map dbView ∧
      previewed.selectedFindings.map fileView =
        (result.selectedFor stored.scope).map fileView := by
    intro htrue
    rw [hguard, htoken, valid_iff] at htrue
    obtain ⟨htime, hsame, hdb, hfile⟩ := htrue
    exact ⟨htime _ rfl, scope_eq_of_fingerprint hdigest hstored hscopeReadable hsame,
      dbView_eq_of_fingerprint hdigest hreadable hreadable' hdb,
      fileView_eq_of_fingerprint hdigest hreadable hreadable' hfile⟩
  refine ⟨fun assetId hdeleted => ?_, hrejected, fun hchanged => ?_⟩
  · obtain ⟨outcome, houtcome, rfl⟩ := List.mem_map.mp hdeleted
    have hmem := (List.mem_filter.mp houtcome).1
    have htrue : result.guardResult.valid = true := by
      by_contra hfalse
      rw [hrejected (Bool.eq_false_iff.mpr hfalse)] at hmem
      cases hmem
    obtain ⟨-, hsame, hdb, hfile⟩ := hvalid htrue
    have hid := hids outcome hmem
    have hpreviewedId := hid
    rw [hsame, hscope] at hpreviewedId
    obtain ⟨selected, hselectedMem, hselectedId⟩ := List.mem_map.mp hpreviewedId
    refine ⟨⟨selected, hselectedMem, hselectedId⟩, ?_, fun finding hfinding hfindingId => ?_⟩
    · obtain ⟨finding, hfinding, hview, -⟩ := exists_same_views hdb.symm hfile.symm hselectedMem
      have hsameId : selected.assetId = finding.assetId := congrArg Prod.fst hview
      exact ⟨finding, (List.mem_filter.mp hfinding).1, hsameId.symm.trans hselectedId⟩
    · have hselectedFor : finding ∈ result.selectedFor stored.scope := by
        refine List.mem_filter.mpr ⟨hfinding, ?_⟩
        rw [List.contains_iff_mem, hfindingId]
        exact hid
      obtain ⟨source, hsource, hdbView, hfileView⟩ := exists_same_views hdb hfile hselectedFor
      obtain ⟨hscanned, hready, hmissing⟩ := hmemSelected source hsource
      have hsameFinding := sameFinding_of_views hdbView hfileView
        (blockers_of_ready hscan source hscanned hready)
      exact ⟨hsameFinding.repairReadiness.trans hready, hsameFinding.status.trans hmissing,
        source, hsource, hsameFinding⟩
  · by_contra hnot
    obtain ⟨htime, hsame, hdb, hfile⟩ := hvalid (Bool.eq_true_of_not_eq_false hnot)
    rcases hchanged with hlate | hscopes | hdbs | hfiles
    · omega
    · exact hscopes hsame
    · exact hdbs hdb.symm
    · exact hfiles hfile.symm

end Deletes

/-! ## An asset whose file is missing -/

def missingRow : Row SqlValue :=
  [(py "id", some (.text (py "a1"))), (py "type", some (.text (py "IMAGE"))),
    (py "originalPath", some (.text (py "/photos/a.jpg")))]

def oneAsset : Postgres where
  tables := [(assetTable, [py "id", py "type", py "originalPath"])]
  uniqueKeys := [(assetTable, [py "id"])]
  foreignKeys := []
  entries := [⟨1, assetTable, missingRow⟩]
  identified := by decide

def missingState : ScanState where
  configured := true
  reachable := true
  storage := ⟨none, none, none, none, none⟩
  schema := oneAsset
  assets := oneAsset
  files := fun _ => .fileNotFound
  timestamp := []

def missingEnvironment : ApplyEnvironment where
  configured := true
  schema := oneAsset
  views := fun _ => ⟨oneAsset, fun _ => oneAsset, oneAsset⟩
  restorePointIds := fun _ => py "p1"

def missingPreview : PreviewResult :=
  (preview id 100 (py "r1") (py "t1") 0 ⟨[], true, none, 0⟩ missingState).get (by decide)

def missingApply : ApplyResult :=
  (apply id 100 5 missingPreview.run missingPreview.planToken missingState
    missingEnvironment).get (by decide)

theorem readable_missingState : missingState.Readable where
  roots := nofun
  keys := nofun
  values := by
    intro entry hentry column value hvalue
    rw [List.mem_singleton.mp hentry] at hvalue
    have hrow : ∀ field ∈ missingRow, ∀ value ∈ field.2, Json.Readable value.str := by decide
    exact hrow _ (mem_of_value hvalue) value rfl
  reasons := nofun

set_option maxRecDepth 4000 in
/-- The asset is deleted as it was previewed. -/
theorem apply_deletes_previewed_missing : missingApply.deletedAssets = [py "a1"] ∧
    ∀ finding ∈ missingApply.findings, finding.assetId = py "a1" →
      finding.status = .missingOnDisk := by
  have hdeleted : missingApply.deletedAssets = [py "a1"] := by decide
  have hids : missingPreview.run.scope.assetIds = [py "a1"] := rfl
  have hreadable : ∀ id ∈ missingPreview.run.scope.assetIds, Json.Readable id := by
    rw [hids]
    decide
  have hpreview : preview id 100 (py "r1") (py "t1") 0 ⟨[], true, none, 0⟩ missingState =
      some missingPreview := (Option.some_get _).symm
  have happly : apply id 100 5 missingPreview.run missingPreview.planToken missingState
      missingEnvironment = some missingApply := (Option.some_get _).symm
  have hsafe := (apply_deletes_previewed Function.injective_id hpreview happly
    readable_missingState readable_missingState hreadable).1
  refine ⟨hdeleted, fun finding hfinding hid => ?_⟩
  have hmem : py "a1" ∈ missingApply.deletedAssets := by
    rw [hdeleted]
    exact List.mem_singleton.mpr rfl
  exact ((hsafe _ hmem).2.2 finding hfinding hid).2.1

end ImmichDoctor.Consistency
