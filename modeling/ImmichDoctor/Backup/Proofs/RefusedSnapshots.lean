import ImmichDoctor.Backup.Proofs.SnapshotManifests
import ImmichDoctor.Backup.SnapshotReaders
import Mathlib.Data.List.Induction
/-!
# Snapshots that no reader accepts

A run hands the store a snapshot with the path `pending`. What it is given back has the path of
the manifest and is consistent; what the manifest holds is not. So each reader of the folder
refuses what every run has reported.
-/

namespace ImmichDoctor.Backup

open ImmichDoctor.Library
open ImmichDoctor.Core
open ImmichDoctor.Catalog (suffixOf)

variable {store : SnapshotStore} {digest : PyStr → PyStr} {s : SnapshotSystem}
  {snapshot : BackupSnapshot}

/-! ## What a run hands to the store -/

structure Planned (snapshot : BackupSnapshot) : Prop where
  named : ∃ id : HexId, snapshot.snapshotId = id.text
  createdAt : ∃ civil, snapshot.createdAt = ⟨civil, some .utc⟩
  coverage : snapshot.coverage = .filesOnly
  fileArtifacts : snapshot.fileArtifacts ≠ []
  dbArtifact : snapshot.dbArtifact = none
  manifestPath : snapshot.manifestPath = .parse (py "pending")
  repairRunId : ∀ id ∈ snapshot.repairRunId, Json.Settled id

theorem FilesRun.planned (run : FilesRun) : Planned (run.snapshot digest) where
  named := ⟨run.snapshotId, rfl⟩
  createdAt := ⟨run.startedAt, rfl⟩
  coverage := rfl
  fileArtifacts := List.cons_ne_nil _ _
  dbArtifact := rfl
  manifestPath := rfl
  repairRunId id hid := by
    obtain ⟨text, -, rfl⟩ := Option.mem_map.mp hid
    exact text.settled

theorem ManualRun.planned (run : ManualRun) : Planned run.snapshot where
  named := ⟨run.snapshotId, rfl⟩
  createdAt := ⟨run.startedAt, rfl⟩
  coverage := rfl
  fileArtifacts := List.cons_ne_nil _ _
  dbArtifact := rfl
  manifestPath := rfl
  repairRunId id hid := by cases hid

/-- The snapshot that is returned once its manifest is written. -/
def SnapshotStore.stamped (store : SnapshotStore) (snapshot : BackupSnapshot) : BackupSnapshot :=
  { snapshot with
    manifestPath := backupSnapshotManifestPath store.manifestsPath snapshot.snapshotId }

namespace HexId

variable (id : HexId)

theorem ne_nil : id.text ≠ [] := by
  intro hnil
  have hlength := id.length
  rw [hnil, List.length_nil] at hlength
  omega

theorem slashless : 47 ∉ id.text := by
  intro hmem
  have hdigit := id.digits 47 hmem
  omega

theorem settled : Json.Settled id.text := by
  apply Json.settled_of_readable
  intro c hc
  have hdigit := id.digits c hc
  have hbound : c < 0xD800 := by omega
  refine ⟨by omega, ?_⟩
  rw [Json.isHigh, Bool.and_eq_false_iff, decide_eq_false_iff_not]
  exact .inl (by omega)

end HexId

/-- The suffix of a name that ends in `.json` with something before it. -/
theorem suffixOf_manifestName {id : PyStr} (hid : id ≠ []) :
    suffixOf (manifestName id) = py ".json" := by
  have hextension : (manifestName id).reverse.takeWhile (· ≠ 46) = (py "json").reverse := by
    rw [manifestName, List.reverse_append]
    rfl
  have hlength : (manifestName id).length = id.length + 5 := List.length_append
  have hpos := List.length_pos_iff.mpr hid
  have hjson : (py "json").reverse.length = 4 := rfl
  unfold suffixOf
  simp only [hextension]
  rw [if_pos ⟨by omega, by decide⟩]
  rfl

theorem nameOf_joinText {path : PurePath} {name : PyStr} (hname : validPart name = true) :
    nameOf (joinText path name) = name := by
  rw [nameOf, joinText_name hname, List.getLastD_concat]

/-! ## The consistency of both -/

/-- What the readers say of a manifest. -/
def pendingError : PyStr := py "Snapshot manifest path must point to a JSON file."

/-- A snapshot for a repair that does not name it. -/
def Unlinked (snapshot : BackupSnapshot) : Prop :=
  snapshot.kind ∈ [SnapshotKind.preRepair, .postRepair] ∧ snapshot.repairRunId = none

theorem Planned.stamped_consistent (h : Planned snapshot) :
    snapshotConsistencyError (store.stamped snapshot) = none ↔ ¬ Unlinked snapshot := by
  obtain ⟨id, hid⟩ := h.named
  have hvalid : validPart (manifestName id.text) = true := by
    refine validPart_iff.mpr ⟨?_, fun heq => ?_, fun hmem => ?_⟩
    · exact List.append_ne_nil_of_left_ne_nil id.ne_nil _
    · have hlength := congrArg List.length heq
      rw [manifestName, List.length_append, id.length, List.length_singleton] at hlength
      omega
    · rcases List.mem_append.mp hmem with hfirst | hsecond
      · exact id.slashless hfirst
      · exact absurd hsecond (by decide)
  have hsuffix : suffixOf (nameOf (store.stamped snapshot).manifestPath) = py ".json" := by
    rw [SnapshotStore.stamped, hid]
    show suffixOf (nameOf (joinText _ (manifestName id.text))) = py ".json"
    rw [nameOf_joinText hvalid, suffixOf_manifestName id.ne_nil]
  have hkind : (store.stamped snapshot).kind ∈
      [SnapshotKind.preRepair, .postRepair, .periodic, .manual] := by
    cases (store.stamped snapshot).kind <;> decide
  have hcoverage : (store.stamped snapshot).coverage = .filesOnly := h.coverage
  have hartifacts : ¬ ((store.stamped snapshot).fileArtifacts = [] ∨
      (store.stamped snapshot).dbArtifact ≠ none) := by
    rintro (hnone | hsome)
    · exact h.fileArtifacts hnone
    · exact hsome h.dbArtifact
  unfold snapshotConsistencyError
  rw [if_neg (not_not.mpr hsuffix)]
  by_cases hunlinked : (store.stamped snapshot).kind ∈ [SnapshotKind.preRepair, .postRepair] ∧
      (store.stamped snapshot).repairRunId = none
  · rw [if_pos hunlinked]
    exact iff_of_false (by simp) (not_not.mpr hunlinked)
  · rw [if_neg hunlinked, if_neg (not_not.mpr hkind), hcoverage]
    exact iff_of_true (if_neg hartifacts) hunlinked

theorem Planned.loaded (h : Planned snapshot) (localOffset : CivilTime → Option UtcOffset) :
    loadManifest localOffset (.whole snapshot.toDict) =
      some (snapshot.reread snapshot.createdAt) := by
  obtain ⟨civil, hcivil⟩ := h.createdAt
  rw [loadManifest, fromDict_loaded, hcivil, DateTime.astimezoneUtc_utc, Option.map_some]

theorem Planned.manifestPath_reread (h : Planned snapshot) (createdAt : DateTime) :
    (snapshot.reread createdAt).manifestPath = .parse (py "pending") := by
  have hpath : PurePath.parse (Json.reread (PurePath.parse (py "pending")).text) =
      .parse (py "pending") := by decide
  rw [BackupSnapshot.reread, h.manifestPath]
  exact hpath

theorem Planned.reread_inconsistent (h : Planned snapshot) (createdAt : DateTime) :
    snapshotConsistencyError (snapshot.reread createdAt) = some pendingError := by
  unfold snapshotConsistencyError
  rw [h.manifestPath_reread, if_pos (by decide)]
  rfl

/-- The summary of a snapshot as it is listed, once it is read from its manifest. -/
def SnapshotSummary.refused (summary : SnapshotSummary) : SnapshotSummary :=
  { summary with
    manifestPath := py "pending"
    basicValidity := py "invalid"
    validityMessage := pendingError }

theorem Planned.summary_reread (h : Planned snapshot) :
    summarizeBackupSnapshot (snapshot.reread snapshot.createdAt) =
      (summarizeBackupSnapshot (store.stamped snapshot)).refused := by
  obtain ⟨id, hid⟩ := h.named
  have hsnapshotId : Json.reread snapshot.snapshotId = snapshot.snapshotId := by
    rw [hid, Json.reread_of_settled id.settled]
  have hrepairRunId : snapshot.repairRunId.map Json.reread = snapshot.repairRunId :=
    optionMap_eq_self_iff.mpr fun id hid => Json.reread_of_settled (h.repairRunId id hid)
  have hpath : (PurePath.parse (py "pending")).text = py "pending" := by decide
  unfold summarizeBackupSnapshot
  simp only [h.reread_inconsistent, h.manifestPath_reread, hpath]
  simp only [BackupSnapshot.reread, SnapshotStore.stamped, SnapshotSummary.refused, hsnapshotId,
    hrepairRunId, List.length_map, Option.isSome_map, reduceCtorEq, if_false, Option.getD_some]

/-! ## The folder -/

/-- A manifest was cut, or is that of a snapshot that was handed to the store. -/
def Left (handed : List BackupSnapshot) : ManifestText → Prop
  | .cut => True
  | .whole payload => ∃ snapshot ∈ handed, payload = snapshot.toDict

/-- All that the folder holds comes from runs, and so does what was returned. -/
structure FromRuns (store : SnapshotStore) (s : SnapshotSystem) : Prop where
  planned : ∀ snapshot ∈ s.handed, Planned snapshot
  named : ∀ file ∈ s.folder.rows, py ".json" <:+ file.1
  left : ∀ file ∈ s.folder.rows, Left s.handed file.2
  returned : ∀ snapshot ∈ s.returned, ∃ handed ∈ s.handed, snapshot = store.stamped handed

theorem Left.mono {handed more : List BackupSnapshot} {text : ManifestText}
    (h : Left handed text) : Left (handed ++ more) text := by
  cases text with
  | cut => trivial
  | whole payload =>
      obtain ⟨snapshot, hmem, hpayload⟩ := h
      exact ⟨snapshot, List.mem_append_left _ hmem, hpayload⟩

/-- What a run is given back is the snapshot in its place. -/
theorem SnapshotStore.persistIn_returned (store : SnapshotStore) (h : Planned snapshot)
    (folder : SnapshotFolder) (written : Written) :
    (store.persistIn folder snapshot written).2 =
      if written = .whole then some (store.stamped snapshot) else none := by
  obtain ⟨civil, hcivil⟩ := h.createdAt
  cases written with
  | whole =>
      rw [SnapshotStore.persistIn, if_pos rfl]
      simp only [fromDict_returned, hcivil, DateTime.astimezoneUtc_utc, Option.map_some]
      rw [SnapshotStore.stamped, ← hcivil]
  | unreturned => rfl
  | cut => rfl
  | nothing => rfl

/-- What a run writes is one file at most. -/
theorem mem_persistIn {folder : SnapshotFolder} {written : Written} {file : PyStr × ManifestText}
    (hmem : file ∈ (store.persistIn folder snapshot written).1.rows) :
    file ∈ folder.rows ∨ file.1 = manifestName snapshot.snapshotId ∧
      (file.2 = .cut ∨ file.2 = .whole snapshot.toDict) := by
  cases written with
  | whole =>
      rcases Table.mem_put.mp hmem with rfl | ⟨hkept, -⟩
      · exact .inr ⟨rfl, .inr rfl⟩
      · exact .inl hkept
  | unreturned =>
      rcases Table.mem_put.mp hmem with rfl | ⟨hkept, -⟩
      · exact .inr ⟨rfl, .inr rfl⟩
      · exact .inl hkept
  | cut =>
      rcases Table.mem_put.mp hmem with rfl | ⟨hkept, -⟩
      · exact .inr ⟨rfl, .inl rfl⟩
      · exact .inl hkept
  | nothing => exact .inl hmem

theorem FromRuns.persist (h : FromRuns store s) (hplanned : Planned snapshot)
    (written : Written) : FromRuns store (store.persist s snapshot written) := by
  have hreturned := store.persistIn_returned hplanned s.folder written
  refine ⟨fun other hother => ?_, fun file hfile => ?_, fun file hfile => ?_,
    fun other hother => ?_⟩
  · rcases List.mem_append.mp hother with hold | hnew
    · exact h.planned other hold
    · rw [List.mem_singleton.mp hnew]
      exact hplanned
  · rcases mem_persistIn hfile with hkept | ⟨hname, -⟩
    · exact h.named file hkept
    · rw [hname]
      exact List.suffix_append _ _
  · rcases mem_persistIn hfile with hkept | ⟨-, hcut | hwhole⟩
    · exact (h.left file hkept).mono
    · rw [hcut]
      trivial
    · rw [hwhole]
      exact ⟨snapshot, List.mem_append_right _ (List.mem_singleton.mpr rfl), rfl⟩
  · rcases List.mem_append.mp hother with hold | hnew
    · obtain ⟨handed, hmem, heq⟩ := h.returned other hold
      exact ⟨handed, List.mem_append_left _ hmem, heq⟩
    · rw [hreturned, Option.mem_toList] at hnew
      split at hnew
      · exact ⟨snapshot, List.mem_append_right _ (List.mem_singleton.mpr rfl),
          (Option.mem_some_iff.mp hnew).symm⟩
      · cases hnew

theorem FromRuns.step (h : FromRuns store s) (event : BackupEvent) :
    FromRuns store (store.step digest s event) := by
  cases event with
  | backupFiles run =>
      rw [SnapshotStore.step]
      split_ifs
      · exact h
      · exact h
      · exact h.persist run.planned run.written
  | manualBackup run => exact h.persist run.planned run.written
  | clear names =>
      exact
        { planned := h.planned
          named := fun file hfile => h.named file (List.mem_filter.mp hfile).1
          left := fun file hfile => h.left file (List.mem_filter.mp hfile).1
          returned := h.returned }

theorem fromRuns_after (events : List BackupEvent) :
    FromRuns store (store.after digest events) := by
  induction events using List.reverseRecOn with
  | nil =>
      exact
        { planned := fun snapshot hsnapshot => by cases hsnapshot
          named := fun file hfile => by cases hfile
          left := fun file hfile => by cases hfile
          returned := fun snapshot hsnapshot => by cases hsnapshot }
  | append_singleton events event ih =>
      rw [SnapshotStore.after, List.foldl_append]
      exact ih.step event

/-! ## The readers -/

section Readers

variable (localOffset : CivilTime → Option UtcOffset)

/-- A manifest of the folder is not loaded, or is that of a snapshot of a run. -/
theorem FromRuns.loaded (h : FromRuns store s) {file : PyStr × ManifestText}
    (hfile : file ∈ s.folder.rows) :
    file.2 = .cut ∨ ∃ snapshot ∈ s.handed, Planned snapshot ∧
      loadManifest localOffset file.2 = some (snapshot.reread snapshot.createdAt) := by
  have hleft := h.left file hfile
  cases htext : file.2 with
  | cut => exact .inl rfl
  | whole payload =>
      rw [htext] at hleft
      obtain ⟨snapshot, hmem, rfl⟩ := hleft
      have hplanned := h.planned snapshot hmem
      exact .inr ⟨snapshot, hmem, hplanned, hplanned.loaded localOffset⟩

theorem FromRuns.mem_manifests (h : FromRuns store s) {file : PyStr × ManifestText} :
    file ∈ listSnapshotManifests s.folder ↔ file ∈ s.folder.rows := by
  rw [listSnapshotManifests, List.mem_insertionSort, List.mem_filter, decide_eq_true_eq]
  exact and_iff_left_of_imp (h.named file)

theorem FromRuns.length_manifests (h : FromRuns store s) :
    (listSnapshotManifests s.folder).length = s.folder.rows.length := by
  rw [listSnapshotManifests, List.length_insertionSort, List.filter_eq_self.mpr]
  exact fun file hfile => decide_eq_true (h.named file hfile)

theorem FromRuns.manifestCheck_fails (h : FromRuns store s) (folderPath : PurePath)
    {file : PyStr × ManifestText} (hfile : file ∈ s.folder.rows) :
    (manifestCheck localOffset folderPath file).status = .fail ∧
      isValidManifest localOffset file = false := by
  rcases h.loaded localOffset hfile with hcut | ⟨snapshot, -, hplanned, hloaded⟩
  · rw [manifestCheck, isValidManifest, hcut]
    exact ⟨rfl, rfl⟩
  · rw [manifestCheck, isValidManifest, hloaded]
    simp only [hplanned.reread_inconsistent, Option.isNone_some, and_self]

/-- The checks are the first one and a failed one for each manifest. -/
theorem FromRuns.snapshotChecks_eq (h : FromRuns store s) (folderPath : PurePath) :
    ∃ first failed, snapshotChecks localOffset folderPath s.folder = first :: failed ∧
      first.name = py "backup_snapshot_manifests" ∧ first.status ≠ .fail ∧
        failed.length = s.folder.rows.length ∧ ∀ check ∈ failed, check.status = .fail := by
  unfold snapshotChecks
  by_cases hnil : listSnapshotManifests s.folder = []
  · have hlength := h.length_manifests
    rw [hnil, List.length_nil] at hlength
    rw [if_pos hnil]
    exact ⟨_, [], rfl, rfl, by simp, hlength, by simp⟩
  · have hinvalid : (listSnapshotManifests s.folder).all (isValidManifest localOffset) = false := by
      obtain ⟨file, hfile⟩ := List.exists_mem_of_ne_nil _ hnil
      rw [List.all_eq_false]
      refine ⟨file, hfile, ?_⟩
      rw [(h.manifestCheck_fails localOffset folderPath (h.mem_manifests.mp hfile)).2]
      exact Bool.false_ne_true
    rw [if_neg hnil]
    simp only [hinvalid, Bool.false_eq_true, if_false, List.append_nil, List.singleton_append]
    refine ⟨_, _, rfl, rfl, by simp, ?_, fun check hcheck => ?_⟩
    · rw [List.length_map, h.length_manifests]
    · obtain ⟨file, hfile, rfl⟩ := List.mem_map.mp hcheck
      exact (h.manifestCheck_fails localOffset folderPath (h.mem_manifests.mp hfile)).1

theorem FromRuns.listed (h : FromRuns store s) {items : List SnapshotSummary}
    (hitems : listSnapshots localOffset s.folder = some items) {item : SnapshotSummary}
    (hitem : item ∈ items) :
    ∃ snapshot ∈ s.handed, item = (summarizeBackupSnapshot (store.stamped snapshot)).refused := by
  obtain ⟨snapshots, hsnapshots, hsorted⟩ := Option.bind_eq_some_iff.mp hitems
  cases Option.some.inj hsorted
  rw [List.mem_insertionSort] at hitem
  obtain ⟨found, hfound, rfl⟩ := List.mem_map.mp hitem
  obtain ⟨file, hfile, hload⟩ := exists_of_mem_mapM hsnapshots hfound
  rcases h.loaded localOffset (h.mem_manifests.mp hfile) with
    hcut | ⟨snapshot, hmem, hplanned, hloaded⟩
  · rw [hcut, loadManifest] at hload
    cases hload
  · rw [hload, Option.some.injEq] at hloaded
    exact ⟨snapshot, hmem, by rw [hloaded, hplanned.summary_reread]⟩

/-- The list is shown as long as each manifest can be read. -/
theorem FromRuns.lists_iff (h : FromRuns store s) :
    (∃ items, listSnapshots localOffset s.folder = some items) ↔
      ∀ file ∈ s.folder.rows, file.2 ≠ .cut := by
  constructor
  · rintro ⟨items, hitems⟩ file hfile hcut
    obtain ⟨snapshots, hsnapshots, -⟩ := Option.bind_eq_some_iff.mp hitems
    obtain ⟨found, -, hload⟩ := exists_mem_of_mapM hsnapshots (h.mem_manifests.mpr hfile)
    rw [hcut, loadManifest] at hload
    cases hload
  · intro hwhole
    have hload : (loadSnapshots localOffset s.folder).isSome = true := by
      refine isSome_mapM_iff.mpr fun file hfile => ?_
      rcases h.loaded localOffset (h.mem_manifests.mp hfile) with hcut | ⟨snapshot, -, -, hloaded⟩
      · exact absurd hcut (hwhole file (h.mem_manifests.mp hfile))
      · rw [hloaded]
        rfl
    obtain ⟨snapshots, hsnapshots⟩ := Option.isSome_iff_exists.mp hload
    exact ⟨_, by rw [listSnapshots, hsnapshots]; rfl⟩

theorem FromRuns.restoreBlockers_ne (h : FromRuns store s) {id : SnapshotId}
    {found : BackupSnapshot} (hfound : loadSnapshotIn localOffset s.folder id = some found) :
    (restoreBlockers found).isEmpty = false := by
  obtain ⟨file, hfile, hload⟩ := Option.bind_eq_some_iff.mp hfound
  rcases h.loaded localOffset (Table.find?_eq_some_iff.mp hfile).1 with
    hcut | ⟨snapshot, -, hplanned, hloaded⟩
  · rw [hcut, loadManifest] at hload
    cases hload
  · rw [hload, Option.some.injEq] at hloaded
    have hcoverage : found.coverage = .filesOnly := by rw [hloaded]; exact hplanned.coverage
    rw [restoreBlockers, hcoverage]
    rfl

theorem exists_of_selectSnapshot {loadRun : PyStr → Option (Option SnapshotId)}
    {folder : SnapshotFolder} {snapshotId : Option SnapshotId} {repairRunId : Option PyStr}
    {source : PyStr} (h : selectSnapshot localOffset loadRun folder snapshotId repairRunId =
      some (some (snapshot, source))) :
    ∃ id, loadSnapshotIn localOffset folder id = some snapshot := by
  unfold selectSnapshot at h
  split at h
  · obtain ⟨linked, hlinked, hrest⟩ := Option.bind_eq_some_iff.mp h
    cases linked with
    | none => cases Option.some.inj hrest
    | some linkedSnapshotId =>
        simp only at hrest
        split at hrest
        · obtain ⟨found, hfound, hpair⟩ := Option.bind_eq_some_iff.mp hrest
          cases Option.some.inj hpair
          exact ⟨linkedSnapshotId, hfound⟩
        · cases Option.some.inj hrest
  · cases snapshotId with
    | none => cases Option.some.inj h
    | some snapshotId =>
        obtain ⟨found, hfound, hpair⟩ := Option.bind_eq_some_iff.mp h
        cases Option.some.inj hpair
        exact ⟨snapshotId, hfound⟩

/-- Every simulation that comes to a result is blocked. -/
theorem FromRuns.simulation_blocked (h : FromRuns store s)
    {loadRun : PyStr → Option (Option SnapshotId)} {snapshotId : Option SnapshotId}
    {repairRunId : Option PyStr} {result : RestoreSimulationResult}
    (hresult : simulateRestore localOffset loadRun s.folder snapshotId repairRunId = some result) :
    result.readiness = .blocked := by
  obtain ⟨selected, hselected, hsimulated⟩ := Option.bind_eq_some_iff.mp hresult
  cases selected with
  | none =>
      cases Option.some.inj hsimulated
      rfl
  | some selected =>
      obtain ⟨snapshot, source⟩ := selected
      obtain ⟨id, hid⟩ := exists_of_selectSnapshot localOffset hselected
      have hblockers := h.restoreBlockers_ne localOffset hid
      cases Option.some.inj hsimulated
      simp only [hblockers, Bool.false_eq_true, if_false]

end Readers

/-! ## All runs -/

/-- What is returned to a run is consistent, unless it is for a repair that it does not name; what
is read of it afterwards never is. -/
structure Refused (store : SnapshotStore) (s : SnapshotSystem) : Prop where
  stamped : ∀ snapshot ∈ s.returned, ∃ handed ∈ s.handed, snapshot = store.stamped handed
  returned : ∀ snapshot ∈ s.returned,
    (summarizeBackupSnapshot snapshot).basicValidity = py "valid" ↔ ¬ Unlinked snapshot
  lists : (∃ items, listSnapshots store.localOffset s.folder = some items) ↔
    ∀ file ∈ s.folder.rows, file.2 ≠ .cut
  listed : ∀ items, listSnapshots store.localOffset s.folder = some items →
    items.length = s.folder.rows.length ∧ ∀ item ∈ items, ∃ snapshot ∈ s.handed,
      item = (summarizeBackupSnapshot (store.stamped snapshot)).refused
  checked : ∀ folderPath, ∃ first failed,
    snapshotChecks store.localOffset folderPath s.folder = first :: failed ∧
      first.name = py "backup_snapshot_manifests" ∧ first.status ≠ .fail ∧
        failed.length = s.folder.rows.length ∧ ∀ check ∈ failed, check.status = .fail
  verified : s.folder.rows ≠ [] → ∀ targetPath targetChecks toolChecks folderPath,
    (verifyBackup store.localOffset targetPath targetChecks toolChecks folderPath
      s.folder).overallStatus = .fail
  restored : ∀ loadRun snapshotId repairRunId result,
    simulateRestore store.localOffset loadRun s.folder snapshotId repairRunId = some result →
      result.readiness = .blocked ∧ result.exitCode = 1

/-- Whatever backups were run, interrupted while their manifests were written, or cleared away:
verification, the list and the simulation refuse each snapshot that was reported as valid. -/
theorem reported_snapshots_refused (store : SnapshotStore) (digest : PyStr → PyStr)
    (events : List BackupEvent) : Refused store (store.after digest events) := by
  have hruns : FromRuns store (store.after digest events) := fromRuns_after events
  generalize store.after digest events = s at hruns
  constructor
  case stamped => exact hruns.returned
  case returned =>
    intro snapshot hsnapshot
    obtain ⟨planned, hmem, rfl⟩ := hruns.returned snapshot hsnapshot
    have hplanned := hruns.planned planned hmem
    show (if snapshotConsistencyError (store.stamped planned) = none then py "valid"
      else py "invalid") = py "valid" ↔ ¬ Unlinked planned
    rw [← hplanned.stamped_consistent]
    split
    · next hnone => exact iff_of_true rfl hnone
    · next herror => exact iff_of_false (by decide) herror
  case lists => exact hruns.lists_iff store.localOffset
  case listed =>
    intro items hitems
    refine ⟨?_, fun item hitem => hruns.listed store.localOffset hitems hitem⟩
    obtain ⟨snapshots, hsnapshots, hsorted⟩ := Option.bind_eq_some_iff.mp hitems
    cases Option.some.inj hsorted
    have hlength := congrArg List.length (mapM_eq_some_iff.mp hsnapshots)
    rw [List.length_map, List.length_map] at hlength
    rw [List.length_insertionSort, List.length_map, ← hlength, hruns.length_manifests]
  case checked => exact fun folderPath => hruns.snapshotChecks_eq store.localOffset folderPath
  case verified =>
    intro hne targetPath targetChecks toolChecks folderPath
    rw [ValidationReport.overallStatus_eq_fail]
    cases targetPath with
    | none => exact ⟨_, List.mem_cons_self, rfl⟩
    | some path =>
        obtain ⟨first, failed, hchecks, -, -, hlength, hfailed⟩ :=
          hruns.snapshotChecks_eq store.localOffset folderPath
        have hpos : failed ≠ [] := by
          rw [← List.length_pos_iff, hlength]
          exact List.length_pos_iff.mpr hne
        obtain ⟨check, hcheck⟩ := List.exists_mem_of_ne_nil _ hpos
        refine ⟨check, ?_, hfailed check hcheck⟩
        simp only [verifyBackup, hchecks]
        refine List.mem_cons_of_mem _ (List.mem_append_left _ (List.mem_append_right _ ?_))
        exact List.mem_cons_of_mem _ hcheck
  case restored =>
    intro loadRun snapshotId repairRunId result hresult
    have hblocked := hruns.simulation_blocked store.localOffset hresult
    have hfails : result.overallStatus = .fail := by
      rw [RestoreSimulationResult.overallStatus, CheckStatus.overall_eq_fail, hblocked]
      exact List.mem_append_right _ List.mem_cons_self
    exact ⟨hblocked, if_pos hfails⟩

/-- A backup that went well. -/
def nightlyRun : ManualRun where
  snapshotKind := .manual
  targetId := py "t1"
  targetName := py "nas"
  pathLike := false
  startedAt := ⟨2027, 4, 15, 22, 31, 7, 1, by decide, by decide, by decide, by decide, by decide,
    by decide, by decide⟩
  backupRootReference := py "me@nas:/backup/20270415T223107Z"
  artifactRelativePath := .parse (py "files/immich-library")
  totalSizeBytes := some 4096
  snapshotId := ⟨List.replicate 32 97, by decide, by decide⟩
  written := .whole

def nightlyStore : SnapshotStore where
  manifestsPath := .parse (py "/manifests")
  resolvePath := id
  localOffset := fun _ => none
  writable := fun _ => true

example : (snapshotChecks (fun _ => none) (.parse (py "/manifests/backup/snapshots"))
    (nightlyStore.after id [.manualBackup nightlyRun]).folder).map (·.status) = [.pass, .fail] := by
  decide +kernel

end ImmichDoctor.Backup
