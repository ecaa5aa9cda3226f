import ImmichDoctor.Services.Proofs.RestoreFrames
import ImmichDoctor.Services.Proofs.SyncMissing
/-!
# The files of the source over a selective restore

Every file of the source is where it was or, when it was the file of a restored asset, in a
quarantine that no other restored item uses. This is an invariant of the loop of
`restore_items` over the steps that find their places free and settle what they move.
-/

namespace ImmichDoctor.Services

open ImmichDoctor.Library
open ImmichDoctor.Backup
open ImmichDoctor.Catalog

/-! ## Items -/

/-- The quarantine paths of the restored items. -/
def takenPaths (results : List RestoreItem) : List FsPath :=
  (results.filter (·.resultStatus = .restored)).filterMap (·.quarantinePath)

/-- The file is where it was, or it was the file of a restored asset with one of the ids, and
stands in a quarantine that no other restored item uses. -/
def Preserved (sourceRoot : FsPath) (ids : List FsPath) (results : List RestoreItem)
    (files : FileSystem PyStr Nat) (path : FsPath) (content : Nat) : Prop :=
  files.lookup path = some (.file content) ∨
    ∃ item ∈ results, ∃ place, item.assetId ∈ ids ∧ path = sourceRoot ++ item.assetId ∧
      item.resultStatus = .restored ∧ item.quarantinePath = some place ∧
        files.lookup place = some (.file content) ∧ (takenPaths results).count place = 1

/-- The files of the source are preserved, and no quarantine path of a restored item is free. -/
structure Framed (sourceRoot : FsPath) (ids : List FsPath) (before : FileSystem PyStr Nat)
    (files : FileSystem PyStr Nat) (results : List RestoreItem) : Prop where
  preserved : ∀ path content, sourceRoot <+: path → before.lookup path = some (.file content) →
    Preserved sourceRoot ids results files path content
  occupied : ∀ place ∈ takenPaths results, (files.lookup place).isSome = true

section Items

variable {sourceRoot : FsPath} {ids : List FsPath} {before files after : FileSystem PyStr Nat}
  {results : List RestoreItem} {item : Option RestoreItem}

theorem takenPaths_append (results results' : List RestoreItem) :
    takenPaths (results ++ results') = takenPaths results ++ takenPaths results' := by
  unfold takenPaths
  rw [List.filter_append, List.filterMap_append]

theorem mem_takenPaths {place : FsPath} : place ∈ takenPaths results ↔
    ∃ item ∈ results, item.resultStatus = .restored ∧ item.quarantinePath = some place := by
  unfold takenPaths
  simp only [List.mem_filterMap, List.mem_filter, decide_eq_true_eq, and_assoc]

/-- What one step leaves of the files of the source, and of what is in quarantine. -/
structure ItemFrame (sourceRoot : FsPath) (files after : FileSystem PyStr Nat)
    (results : List RestoreItem) (item : Option RestoreItem) : Prop where
  source : ∀ path content, sourceRoot <+: path → files.lookup path = some (.file content) →
    after.lookup path = some (.file content) ∨
      ∃ restored ∈ item, ∃ place, path = sourceRoot ++ restored.assetId ∧
        restored.resultStatus = .restored ∧ restored.quarantinePath = some place ∧
          after.lookup place = some (.file content)
  taken : ∀ place ∈ takenPaths results, ∀ node, files.lookup place = some node →
    after.lookup place = some node
  new : ∀ place ∈ takenPaths item.toList, files.lookup place = none ∧
    (after.lookup place).isSome = true

/-- A step that changes no file restores nothing. -/
theorem ItemFrame.unchanged (h : takenPaths item.toList = []) :
    ItemFrame sourceRoot files files results item where
  source := fun _ _ _ hfile => .inl hfile
  taken := fun _ _ _ hnode => hnode
  new := by
    rw [h]
    exact List.forall_mem_nil _

/-- The step lemma. -/
theorem Framed.append (h : Framed sourceRoot ids before files results)
    (hitem : ItemFrame sourceRoot files after results item)
    (hids : ∀ restored ∈ item, restored.assetId ∈ ids) :
    Framed sourceRoot ids before after (results ++ item.toList) := by
  have hfresh : ∀ place ∈ takenPaths item.toList, place ∉ takenPaths results := by
    intro place hnew htaken
    have hoccupied := h.occupied place htaken
    rw [(hitem.new place hnew).1] at hoccupied
    cases hoccupied
  refine ⟨fun path content hpath hfile => ?_, fun place hplace => ?_⟩
  · rcases h.preserved path content hpath hfile with
      hthere | ⟨old, hold, place, hid, heq, hstatus, hquarantine, hcontent, hcount⟩
    · rcases hitem.source path content hpath hthere with
        hkept | ⟨restored, hrestored, place, heq, hstatus, hquarantine, hcontent⟩
      · exact .inl hkept
      · -- the step has moved the file, to a place of its own
        cases hrestored
        have hpaths : takenPaths (some restored).toList = [place] := by
          simp [takenPaths, hstatus, hquarantine]
        refine .inr ⟨restored, List.mem_append_right _ (List.mem_singleton.mpr rfl), place,
          hids restored rfl, heq, hstatus, hquarantine, hcontent, ?_⟩
        rw [hpaths] at hfresh
        rw [takenPaths_append, hpaths, List.count_append, List.count_singleton_self,
          List.count_eq_zero_of_not_mem (hfresh place (List.mem_singleton.mpr rfl))]
    · have htaken : place ∈ takenPaths results :=
        mem_takenPaths.mpr ⟨old, hold, hstatus, hquarantine⟩
      refine .inr ⟨old, List.mem_append_left _ hold, place, hid, heq, hstatus, hquarantine,
        hitem.taken place htaken _ hcontent, ?_⟩
      rw [takenPaths_append, List.count_append, hcount,
        List.count_eq_zero_of_not_mem fun hnew => hfresh place hnew htaken]
  · rw [takenPaths_append, List.mem_append] at hplace
    rcases hplace with htaken | hnew
    · obtain ⟨node, hnode⟩ := Option.isSome_iff_exists.mp (h.occupied place htaken)
      rw [hitem.taken place htaken node hnode]
      rfl
    · exact (hitem.new place hnew).2

end Items

/-! ## One id -/

section Requests

variable {settings : WorkflowSettings} {facts : FileFacts} {roots : WorkflowRoots}
  {records : List AssetComparisonRecord} {apply : Bool} {request : RestoreRequest}
  {files : FileSystem PyStr Nat} {results : List RestoreItem}

/-- The step comes to the restore of the asset. -/
structure Attempts (roots : WorkflowRoots) (records : List AssetComparisonRecord) (apply : Bool)
    (request : RestoreRequest) (files : FileSystem PyStr Nat) : Prop where
  applied : apply = true
  eligible : ∃ record, records.find? (·.assetId = request.assetId) = some record ∧
    record.status ∈ restoreEligibleStatuses
  start : request.faults.start = false
  backup : (files.lookup (roots.backupPath request.assetId)).isSome = true

theorem split_assetId {assetId : FsPath} (h : assetId ≠ []) (root : FsPath) :
    root ++ assetId.dropLast ++ [assetId.getLast?.getD []] = root ++ assetId := by
  rw [List.getLast?_eq_some_getLast h, Option.getD_some, List.append_assoc,
    List.dropLast_append_getLast]

theorem sourcePath_restorePlaces (h : request.assetId ≠ []) :
    (restorePlaces settings roots request).sourcePath = roots.sourceRoot ++ request.assetId :=
  split_assetId h _

theorem backupPath_restorePlaces (h : request.assetId ≠ []) :
    (restorePlaces settings roots request).backupPath = roots.backupPath request.assetId :=
  split_assetId h _

/-- The item of a result. -/
def itemOf (request : RestoreRequest) (result : RestoreResult) : RestoreItem :=
  ⟨request.assetId, py "restore_overwrite", result.outcome, result.resultStatus.value,
    result.reason, result.quarantinePath, result.rollbackRestoredSource⟩

theorem mem_takenPaths_itemOf {result : Option RestoreResult} {place : FsPath}
    (h : place ∈ takenPaths (result.map (itemOf request)).toList) :
    ∃ restored, result = some restored ∧ restored.resultStatus = .restored ∧
      restored.quarantinePath = some place := by
  obtain ⟨item, hitem, hstatus, hplace⟩ := mem_takenPaths.mp h
  cases result with
  | none => cases hitem
  | some restored =>
      cases List.mem_singleton.mp hitem
      refine ⟨restored, rfl, ?_, hplace⟩
      unfold itemOf RestoreStatus.value at hstatus
      cases hrestored : restored.resultStatus with
      | restored => rfl
      | failed =>
          rw [hrestored] at hstatus
          cases hstatus

/-- What a clear restore leaves of the files of the source. -/
theorem itemFrame_restoreOne (hne : request.assetId ≠ [])
    (hclear : RestoreClear facts.hash request.faults (restorePlaces settings roots request)
      (takenPaths results) files) :
    let run := restoreOne facts.hash request.faults (restorePlaces settings roots request) files
    ItemFrame roots.sourceRoot files run.1 results (run.2.map (itemOf request)) := by
  have hsource := @sourcePath_restorePlaces settings roots request hne
  refine ⟨fun path content _ hfile => ?_, fun place htaken node hnode => ?_,
    fun place hplace => ?_⟩
  · by_cases hbelow : (restorePlaces settings roots request).sourcePath <+: path
    · obtain rfl := hclear.below path content hbelow hfile
      rcases source_or_quarantine hclear (backupApart roots.apart) hfile with
        hkept | ⟨⟨restored, hrestored, hstatus, hplace⟩, hthere⟩
      · exact .inl hkept
      · refine .inr ⟨itemOf request restored, ?_, _, hsource, ?_, hplace, hthere⟩
        · rw [hrestored]
          rfl
        · simp only [itemOf, hstatus, RestoreStatus.value]
    · exact .inl (hclear.kept hfile hbelow)
  · exact hclear.kept hnode (hclear.taken place htaken)
  · obtain ⟨restored, hrestored, hstatus, hquarantine⟩ := mem_takenPaths_itemOf hplace
    obtain ⟨rfl, hsome, hoccupied⟩ := occupied_of_restored hclear hrestored hstatus hquarantine
    exact ⟨FileSystem.vacant_iff.mp (hclear.quarantine hsome).1 _ List.prefix_rfl, hoccupied⟩

theorem itemFrame_restoreRequested (hnamed : ∀ record ∈ records, record.assetId ≠ [])
    (hclear : Attempts roots records apply request files → RestoreClear facts.hash request.faults
      (restorePlaces settings roots request) (takenPaths results) files) :
    ItemFrame roots.sourceRoot files
      (restoreRequested settings facts roots records apply request files).1 results
      (restoreRequested settings facts roots records apply request files).2 := by
  unfold restoreRequested
  cases hrecord : records.find? (·.assetId = request.assetId) with
  | none => exact .unchanged rfl
  | some record =>
      have hid : record.assetId = request.assetId := by simpa using List.find?_some hrecord
      have hne : request.assetId ≠ [] := hid ▸ hnamed record (List.mem_of_find?_eq_some hrecord)
      simp only
      split
      · exact .unchanged rfl
      next heligible =>
      split
      · exact .unchanged rfl
      next happly =>
      have hone : ItemFrame roots.sourceRoot files
          (restoreOne facts.hash request.faults (restorePlaces settings roots request) files).1
          results ((restoreOne facts.hash request.faults (restorePlaces settings roots request)
            files).2.map (itemOf request)) := by
        by_cases hattempts : request.faults.start = false ∧
            (files.lookup (restorePlaces settings roots request).backupPath).isSome = true
        · exact itemFrame_restoreOne hne (hclear ⟨by simpa using happly,
            ⟨record, hrecord, by simpa using heligible⟩, hattempts.1,
            backupPath_restorePlaces hne ▸ hattempts.2⟩)
        · obtain ⟨hsame, hfailed⟩ := @restoreOne_not_attempted facts.hash _ _ _ hattempts
          rw [hsame]
          apply ItemFrame.unchanged
          refine List.eq_nil_iff_forall_not_mem.mpr fun place hplace => ?_
          obtain ⟨restored, hrestored, hstatus, -⟩ := mem_takenPaths_itemOf hplace
          rw [hfailed restored hrestored] at hstatus
          cases hstatus
      rcases hrun : restoreOne facts.hash request.faults (restorePlaces settings roots request)
        files with ⟨left, result⟩
      rw [hrun] at hone
      cases result with
      | none => exact hone
      | some result => exact hone

theorem assetId_restoreRequested {item : RestoreItem}
    (h : (restoreRequested settings facts roots records apply request files).2 = some item) :
    item.assetId = request.assetId := by
  unfold restoreRequested at h
  cases hrecord : records.find? (·.assetId = request.assetId) with
  | none =>
      rw [hrecord] at h
      cases h
      rfl
  | some record =>
      rw [hrecord] at h
      simp only at h
      split at h
      · cases h
        rfl
      split at h
      · cases h
        rfl
      split at h
      · cases h
      · cases h
        rfl

end Requests

/-! ## The loop -/

section Loop

variable {settings : WorkflowSettings} {facts : FileFacts} {faults : WorkflowFaults}
  {target : BackupTargetConfig} {roots : WorkflowRoots} {records : List AssetComparisonRecord}
  {requests : List RestoreRequest} {apply : Bool} {files before prepared : FileSystem PyStr Nat}
  {ids : List FsPath} {s : RestoreProgress} {request : RestoreRequest}

/-- A step that comes to a restore finds it clear. -/
def StepClear (settings : WorkflowSettings) (facts : FileFacts) (roots : WorkflowRoots)
    (records : List AssetComparisonRecord) (apply : Bool) (s : RestoreProgress)
    (request : RestoreRequest) : Prop :=
  s.raised = false → Attempts roots records apply request s.files →
    RestoreClear facts.hash request.faults (restorePlaces settings roots request)
      (takenPaths s.results) s.files

theorem next_eq (h : s.raised = false) :
    let run := restoreRequested settings facts roots records apply request s.files
    s.next settings facts roots records apply request =
      ⟨run.1, s.results ++ run.2.toList, run.2.isNone⟩ := by
  unfold RestoreProgress.next
  rw [if_neg (by rw [h]; exact Bool.false_ne_true)]
  rcases restoreRequested settings facts roots records apply request s.files with ⟨left, item⟩
  cases item with
  | none => simp
  | some item => rfl

theorem framed_next (h : Framed roots.sourceRoot ids before s.files s.results)
    (hnamed : ∀ record ∈ records, record.assetId ≠ []) (hid : request.assetId ∈ ids)
    (hclear : StepClear settings facts roots records apply s request) :
    let t := s.next settings facts roots records apply request
    Framed roots.sourceRoot ids before t.files t.results := by
  cases hraised : s.raised with
  | true =>
      unfold RestoreProgress.next
      rw [if_pos hraised]
      exact h
  | false =>
      rw [next_eq hraised]
      apply h.append (itemFrame_restoreRequested hnamed (hclear hraised))
      intro restored hrestored
      rw [assetId_restoreRequested hrestored]
      exact hid

/-- The run lemma. -/
theorem framed_run {final : RestoreProgress}
    (h : Framed roots.sourceRoot (requests.map (·.assetId)) before s.files s.results)
    (hnamed : ∀ record ∈ records, record.assetId ≠ [])
    (hrun : Steps (fun s request => some (s.next settings facts roots records apply request))
      (StepClear settings facts roots records apply) s requests final) :
    Framed roots.sourceRoot (requests.map (·.assetId)) before final.files final.results := by
  refine hrun.mem.invariant (P := fun s =>
    Framed roots.sourceRoot (requests.map (·.assetId)) before s.files s.results) ?_ h
  rintro s request t ⟨hclear, hrequest⟩ hstep hframed
  cases hstep
  exact framed_next hframed hnamed (List.mem_map_of_mem hrequest) hclear

theorem assetId_ne_nil (h : compareRoots facts faults files roots = some records) :
    ∀ record ∈ records, record.assetId ≠ [] := by
  obtain ⟨sourceEntries, backupEntries, hcompared⟩ := compared_of_compareRoots h
  intro record hrecord
  rcases (hcompared.listed record.assetId).mp (List.mem_map_of_mem hrecord) with hsource | hbackup
  · exact ((mem_collectFileEntries hcompared.source).mp hsource).1
  · exact ((mem_collectFileEntries hcompared.backup).mp hbackup).1

/-- Every step of the loop finds its restore clear. -/
def RestoresClear (settings : WorkflowSettings) (facts : FileFacts) (faults : WorkflowFaults)
    (target : BackupTargetConfig) (requests : List RestoreRequest) (apply : Bool)
    (files : FileSystem PyStr Nat) : Prop :=
  ∀ prepared roots warnings records,
    resolveRoots settings faults target files = (prepared, some (.roots roots warnings)) →
      compareRoots facts faults prepared roots = some records →
        ∃ final, Steps (fun s request => some (s.next settings facts roots records apply request))
          (StepClear settings facts roots records apply) ⟨prepared, [], false⟩ requests final

/-- The files of the library are preserved by a request. -/
def RestoreFrame (settings : WorkflowSettings) (requests : List RestoreRequest)
    (files after : FileSystem PyStr Nat) (results : List RestoreItem) : Prop :=
  ∀ sourceRoot, settings.immichLibraryRoot = some sourceRoot →
    ∀ path content, sourceRoot <+: path → files.lookup path = some (.file content) →
      Preserved sourceRoot (requests.map (·.assetId)) results after path content

/-- A request ends before its loop or with it. -/
theorem restoreItems_ends (settings : WorkflowSettings) (facts : FileFacts)
    (faults : WorkflowFaults)
    (target : BackupTargetConfig) (requests : List RestoreRequest) (apply : Bool)
    (files : FileSystem PyStr Nat) :
    let run := restoreItems settings facts faults target requests apply files
    run.1 = (resolveRoots settings faults target files).1 ∧ run.2.results = [] ∨
      ∃ prepared roots warnings records,
        resolveRoots settings faults target files = (prepared, some (.roots roots warnings)) ∧
          compareRoots facts faults prepared roots = some records ∧
            let final := requests.foldl (RestoreProgress.next settings facts roots records apply)
              ⟨prepared, [], false⟩
            run.1 = final.files ∧ run.2.results = final.results := by
  simp only [restoreItems]
  rcases resolveRoots settings faults target files with ⟨prepared, resolved⟩
  cases resolved with
  | none => exact .inl ⟨rfl, rfl⟩
  | some resolved =>
      cases resolved with
      | unsupported warnings => exact .inl ⟨rfl, rfl⟩
      | roots roots warnings =>
          simp only
          cases hrecords : compareRoots facts faults prepared roots with
          | none => exact .inl ⟨rfl, rfl⟩
          | some records => exact .inr ⟨_, _, _, _, rfl, hrecords, rfl, rfl⟩

/-- In a request whose steps are all clear every file of the library is where it was, or in a
quarantine that no other restored item uses. -/
theorem restoreFrame_of_clear
    (h : RestoresClear settings facts faults target requests apply files) :
    let run := restoreItems settings facts faults target requests apply files
    RestoreFrame settings requests files run.1 run.2.results := by
  intro run sourceRoot hroot path content hpath hfile
  have hwidens := widens_resolveRoots settings faults target files
  rcases restoreItems_ends settings facts faults target requests apply files with
    ⟨hfiles, -⟩ | ⟨prepared, roots, warnings, records, hresolved, hrecords, hfiles, hresults⟩
  · left
    rw [hfiles]
    exact hwidens.kept path (.file content) hfile
  · obtain ⟨final, hrun⟩ := h prepared roots warnings records hresolved hrecords
    have hstart : Framed roots.sourceRoot (requests.map (·.assetId)) files prepared [] := by
      rw [hresolved] at hwidens
      exact ⟨fun path content _ hthere => .inl (hwidens.kept path (.file content) hthere),
        List.forall_mem_nil _⟩
    have hend := framed_run hstart (assetId_ne_nil hrecords) hrun
    rw [(roots_of_resolveRoots hresolved).1] at hroot
    cases hroot
    rw [hfiles, hresults, ← hrun.eq_foldl]
    exact hend.preserved path content hpath hfile

end Loop

/-! ## An id that is requested twice -/

/-- The library and its backup each have an `a.jpg`. -/
def differingBackup : FileSystem PyStr Nat :=
  let backup := backupWorkflowCurrentLibraryRoot [py "backup"]
  ⟨[([py "library"], .directory), ([py "library", py "a.jpg"], .file 1),
    ([py "backup"], .directory), ([py "backup", py "_immich-doctor"], .directory),
    (backup.dropLast, .directory), (backup, .directory), (backup ++ [py "a.jpg"], .file 2)],
    by decide⟩

def libraryRoots : WorkflowRoots where
  sourceRoot := [py "library"]
  backupRoot := backupWorkflowCurrentLibraryRoot [py "backup"]
  apart := by decide

/-- The file is asked for, and no call goes wrong. -/
def requestAt (time : PyStr) : RestoreRequest where
  assetId := [py "a.jpg"]
  time := time
  faults :=
    { start := false
      sourceExists := false
      move := none
      copy := none
      replace := false
      hashSource := none
      hashBackup := none
      unlinkTemp := false
      rollbackCheck := false
      rollback := none
      error := [] }

/-- The second restore moves the restored file over the one in quarantine. -/
theorem repeated_id_loses_original : ¬ ∀ (settings : WorkflowSettings) (facts : FileFacts)
    (faults : WorkflowFaults) (target : BackupTargetConfig) (requests : List RestoreRequest)
    (apply : Bool) (files : FileSystem PyStr Nat),
    let run := restoreItems settings facts faults target requests apply files
    RestoreFrame settings requests files run.1 run.2.results := by
  intro h
  have hpreserved := h librarySettings distinctFacts noSyncFaults localTarget
    [requestAt (py "20250101T000000Z"), requestAt (py "20250101T000000Z")] true differingBackup
    [py "library"] rfl [py "library", py "a.jpg"] 1 (by decide) (by decide)
  have hgone : ∀ item ∈ (restoreItems librarySettings distinctFacts noSyncFaults localTarget
      [requestAt (py "20250101T000000Z"), requestAt (py "20250101T000000Z")] true
      differingBackup).2.results, item.quarantinePath.all fun place => decide
        ((restoreItems librarySettings distinctFacts noSyncFaults localTarget
          [requestAt (py "20250101T000000Z"), requestAt (py "20250101T000000Z")] true
          differingBackup).1.lookup place ≠ some (.file 1)) := by
    decide +kernel
  rcases hpreserved with hthere | ⟨item, hitem, place, -, -, -, hplace, hthere, -⟩
  · revert hthere
    decide +kernel
  · have hnot := hgone item hitem
    rw [hplace, Option.all_some, decide_eq_true_eq] at hnot
    exact hnot hthere

/-- Requested once, the file goes to quarantine and the backup takes its place. -/
theorem restoreFrame_of_clear_once :
    let requests := [requestAt (py "20250101T000000Z")]
    let run := restoreItems librarySettings distinctFacts noSyncFaults localTarget requests true
      differingBackup
    RestoresClear librarySettings distinctFacts noSyncFaults localTarget requests true
        differingBackup ∧
          RestoreFrame librarySettings requests differingBackup run.1 run.2.results ∧
      run.1.lookup [py "library", py "a.jpg"] = some (.file 2) ∧
        takenPaths run.2.results = [[py "quarantine", py "backup-restore-overwrite",
          py "20250101T000000Z", py "a.jpg"]] := by
  have hclear : RestoresClear librarySettings distinctFacts noSyncFaults localTarget
      [requestAt (py "20250101T000000Z")] true differingBackup := by
    intro prepared roots warnings records hresolved hrecords
    have hroots : roots = libraryRoots := by
      obtain ⟨hsource, targetRoot, htarget, hbackup⟩ := roots_of_resolveRoots hresolved
      obtain ⟨sourceRoot, backupRoot, apart⟩ := roots
      cases hsource
      cases htarget
      cases hbackup
      rfl
    have hprepared : prepared =
        (resolveRoots librarySettings noSyncFaults localTarget differingBackup).1 := by
      rw [hresolved]
    subst hroots hprepared
    refine ⟨_, .head (fun _ _ => ?_) rfl (.refl _)⟩
    refine ⟨by decide +kernel, fun _ => by decide +kernel, fun path content hbelow hfile => ?_,
      List.forall_mem_nil _, fun content hfile _ => ?_⟩
    · have hall : ∀ entry ∈ (resolveRoots librarySettings noSyncFaults localTarget
          differingBackup).1.rows, [py "library", py "a.jpg"] <+: entry.1 →
            entry.1 = [py "library", py "a.jpg"] := by
        decide +kernel
      exact hall (path, .file content) (FileSystem.lookup_eq_some_iff.mp hfile) hbelow
    · have hreplacement : replacement (requestAt (py "20250101T000000Z")).faults
          ((resolveRoots librarySettings noSyncFaults localTarget differingBackup).1.lookup
            (restorePlaces librarySettings libraryRoots
              (requestAt (py "20250101T000000Z"))).backupPath) = some 2 := by
        decide +kernel
      unfold Settles
      rw [hreplacement]
      exact ⟨2, PyStr.decimal 2, by decide +kernel, rfl, rfl⟩
  exact ⟨hclear, restoreFrame_of_clear hclear, by decide +kernel, by decide +kernel⟩

end ImmichDoctor.Services
