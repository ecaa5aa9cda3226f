import Mathlib.Data.List.TakeWhile
import ImmichDoctor.Services.Proofs.AssetComparison
import ImmichDoctor.Services.Proofs.TargetWrites
/-!
# What a sync adds

A completed sync leaves an identical backup of every listed file. What a sync writes over is a
file that stands in a directory at the place of the backup, or in a directory of the backup that
could not be listed.
-/

namespace ImmichDoctor.Services

open ImmichDoctor.Library
open ImmichDoctor.Backup
open ImmichDoctor.Catalog

/-! ## The run of the copies -/

/-- The assets whose copy is begun: before the first whose directories cannot be made. -/
def begunCopies (faults : WorkflowFaults) (roots : WorkflowRoots) (files : FileSystem PyStr Nat)
    (records : List AssetComparisonRecord) : List FsPath :=
  (missingAssets records).takeWhile fun assetId => (roots.madeDirs faults assetId files).2

/-- A copy writes nothing else over a file that stands at its target. -/
def Spares (faults : WorkflowFaults) (roots : WorkflowRoots) (files : FileSystem PyStr Nat)
    (assetId : FsPath) : Prop :=
  ∀ old, files.lookup (roots.copiedTo files assetId) = some (.file old) →
    ∀ written ∈ (roots.effect faults files assetId).1, written = old

section Runs

variable {facts : FileFacts} {faults : WorkflowFaults} {files : FileSystem PyStr Nat}
  {roots : WorkflowRoots} {assetId : FsPath} {records : List AssetComparisonRecord}
  {sourceEntries backupEntries : List FsPath}

theorem finished_eq_begunCopies :
    finished (copyWithVerification facts faults roots) (missingAssets records) files =
      begunCopies faults roots files records := by
  simp only [finished, begunCopies, isSome_copyWithVerification]

/-- A copy keeps the backups of the other listed files. -/
theorem Identical.copied {other : FsPath}
    (h : Compared facts faults files roots sourceEntries backupEntries records)
    {s : FileSystem PyStr Nat} (hasset : assetId ∈ sourceEntries) (hother : other ∈ sourceEntries)
    (hne : assetId ≠ other)
    (hidentical : Identical facts s (roots.sourcePath other) (roots.backupPath other)) :
    Identical facts (copyWithVerification facts faults roots assetId s).1 (roots.sourcePath other)
      (roots.backupPath other) := by
  have hsame : roots.LooksSame other s (roots.copied faults assetId s) := by
    apply WorkflowRoots.LooksSame.copied faults .refl
    · exact fun hbelow => hne (eq_of_prefix_of_listed h.source hasset hother hbelow)
    · exact fun hbelow => hne (eq_of_prefix_of_listed h.source hother hasset hbelow).symm
  rw [WorkflowRoots.copyWithVerification_eq]
  exact hidentical.congr hsame.source hsame.backup

/-- The copies leave every file of the backup if and only if each of them spares what stands at
its target. -/
theorem runAll_additive_iff {root : FsPath}
    (h : Compared facts faults files roots sourceEntries backupEntries records)
    (hroot : root <+: roots.backupRoot) :
    (∀ path content, root <+: path → files.lookup path = some (.file content) →
        (runAll (copyWithVerification facts faults roots) (missingAssets records) files).1.lookup
          path = some (.file content)) ↔
      ∀ assetId ∈ begunCopies faults roots files records, Spares faults roots files assetId := by
  have hind := roots.independent files facts faults h.source
  have hlisted : ∀ assetId ∈ missingAssets records, assetId ∈ sourceEntries := fun assetId hmem =>
    ((mem_missingAssets h).mp hmem).1
  have hnodup := nodup_missingAssets h
  have hsame : ∀ assetId ∈ missingAssets records, roots.LooksSame assetId files files :=
    fun _ _ => .refl
  constructor
  · intro hkept assetId hbegun old hold written hwritten
    have hmade := hind.established hlisted hnodup hsame
      (P := fun assetId s => ∀ written ∈ (roots.effect faults files assetId).1,
        s.lookup (roots.copiedTo files assetId) = some (.file written)) ?_ ?_
    · rw [finished_eq_begunCopies] at hmade
      have hafter := hkept (roots.copiedTo files assetId) old
        (hroot.trans (roots.backupRoot_prefix_copiedTo files assetId)) hold
      rw [hmade assetId hbegun written hwritten] at hafter
      cases hafter
      rfl
    · intro assetId hmem s hlooks hsome written hwritten
      rw [WorkflowRoots.copyWithVerification_eq] at hsome ⊢
      have hdirs : (roots.madeDirs faults assetId s).2 = true := by
        by_contra hnot
        rw [if_neg hnot] at hsome
        cases hsome
      have htarget := roots.lookup_copied_target s assetId faults
      rw [if_pos hdirs, WorkflowRoots.copiedTo_congr hlooks.backup, hlooks.effect_eq faults,
        hwritten] at htarget
      exact htarget
    · intro assetId hmem other hother hne s hlooks hwrites written hwritten
      have hbefore := hwrites written hwritten
      rw [WorkflowRoots.copyWithVerification_eq]
      rcases roots.lookup_copied s assetId faults (roots.copiedTo files other)
        with hkeeps | htarget | ⟨hnone, -, -⟩
      · rw [hkeeps, hbefore]
      · refine absurd ?_ (@WorkflowRoots.backupPath_not_prefix_copiedTo roots s assetId other ?_ ?_)
        · rw [← htarget]
          exact roots.backupPath_prefix_copiedTo files other
        · exact fun hbelow => hne
            (eq_of_prefix_of_listed h.source (hlisted _ hmem) (hlisted _ hother) hbelow)
        · exact fun hbelow => hne
            (eq_of_prefix_of_listed h.source (hlisted _ hother) (hlisted _ hmem) hbelow).symm
      · rw [hnone] at hbefore
        cases hbefore
  · intro hspares path content hpath hcontent
    refine hind.keeps hlisted hnodup hsame
      (P := fun s => s.lookup path = some (.file content)) ?_ hcontent
    intro assetId hmem hworked s hlooks hbefore
    rw [finished_eq_begunCopies] at hworked
    rw [WorkflowRoots.copyWithVerification_eq] at hworked ⊢
    rcases roots.lookup_copied s assetId faults path with hkeeps | rfl | ⟨hnone, -, -⟩
    · rw [hkeeps, hbefore]
    · rw [WorkflowRoots.lookup_copied_target, hlooks.madeDirs_eq faults]
      split
      · next hdirs =>
          have hbegun := hworked.resolve_right (by rw [if_pos hdirs]; exact Option.some_ne_none _)
          have hold := hbefore
          rw [WorkflowRoots.copiedTo_congr hlooks.backup, hlooks.target] at hold
          have hspared := hspares assetId hbegun content hold
          rw [hlooks.effect_eq faults]
          cases hwritten : (roots.effect faults files assetId).1 with
          | none => exact hbefore
          | some written =>
              rw [hspared written hwritten]
              rfl
      · exact hbefore
    · rw [hnone] at hbefore
      cases hbefore

theorem ne_of_statusCount_eq_zero {status : BackupAssetComparisonStatus}
    (h : statusCount records status = 0) {record : AssetComparisonRecord}
    (hrecord : record ∈ records) : record.status ≠ status := by
  intro hstatus
  have hnil := List.length_eq_zero_iff.mp h
  have hmem : record ∈ records.filter (·.status = status) :=
    List.mem_filter.mpr ⟨hrecord, decide_eq_true hstatus⟩
  rw [hnil] at hmem
  cases hmem

/-- A sync is completed when no copy fails and no record is left for review. -/
theorem syncReport_completed_iff {warnings : List PyStr} {results : List CopyResult} :
    (syncReport roots warnings records results).state = .completed ↔
      (∀ result ∈ results, result.resultStatus ≠ .failed) ∧ statusCount records .mismatch = 0 ∧
        statusCount records .conflict = 0 ∧ statusCount records .restoreCandidate = 0 := by
  have hfailures : (∀ result ∈ results, result.resultStatus ≠ .failed) ↔
      (results.filter (·.resultStatus = .failed)).length = 0 := by
    rw [List.length_eq_zero_iff, List.filter_eq_nil_iff]
    exact forall_congr' fun result => forall_congr' fun _ => by rw [decide_eq_true_iff]
  rw [hfailures]
  simp only [syncReport, syncState]
  split
  · next hfailed =>
      refine iff_of_false (fun h => ?_) fun h => by omega
      split at h
      · cases h
      · cases h
  · next hfine =>
      split
      · next hreview =>
          refine iff_of_false (fun h => by cases h) fun h => ?_
          omega
      · next hnone =>
          refine iff_of_true rfl ?_
          omega

/-- After a completed sync every listed file of the source has an identical backup. -/
theorem runAll_complete (h : Compared facts faults files roots sourceEntries backupEntries records)
    {results : List CopyResult}
    (hresults : (runAll (copyWithVerification facts faults roots) (missingAssets records) files).2 =
      some results)
    {warnings : List PyStr}
    (hstate : (syncReport roots warnings records results).state = .completed) :
    ∀ assetId ∈ sourceEntries,
      Identical facts
        (runAll (copyWithVerification facts faults roots) (missingAssets records) files).1
        (roots.sourcePath assetId) (roots.backupPath assetId) := by
  have hind := roots.independent files facts faults h.source
  have hlisted : ∀ assetId ∈ missingAssets records, assetId ∈ sourceEntries := fun assetId hmem =>
    ((mem_missingAssets h).mp hmem).1
  have hnodup := nodup_missingAssets h
  have hsame : ∀ assetId ∈ missingAssets records, roots.LooksSame assetId files files :=
    fun _ _ => .refl
  obtain ⟨hfine, hmismatch, hconflict, -⟩ := syncReport_completed_iff.mp hstate
  rw [hind.results hlisted hnodup hsame] at hresults
  intro assetId hasset
  by_cases hmissing : assetId ∈ missingAssets records
  · -- what is copied is verified
    have hmade := hind.established hlisted hnodup hsame
      (P := fun assetId s => Identical facts s (roots.sourcePath assetId)
        (roots.backupPath assetId))
      ?_ ?_
    · refine hmade assetId ?_
      have hall : finished (copyWithVerification facts faults roots) (missingAssets records) files =
          missingAssets records := by
        refine List.takeWhile_eq_self_iff.mpr fun assetId hmem => ?_
        obtain ⟨result, -, hresult⟩ := exists_mem_of_mapM hresults hmem
        rw [hresult]
        rfl
      rw [hall]
      exact hmissing
    · intro assetId hmem s hlooks hsome
      obtain ⟨result, hresult, hbefore⟩ := exists_mem_of_mapM hresults hmem
      rw [← hlooks.result_eq facts faults] at hbefore
      exact ((status_copyWithVerification hbefore).resolve_left (hfine result hresult)).2
    · intro assetId hmem other hother hne s _ hidentical
      exact hidentical.copied h (hlisted _ hmem) (hlisted _ hother) hne
  · -- what is not copied was found identical
    have hbackup : assetId ∈ backupEntries := by
      by_contra hnot
      exact hmissing ((mem_missingAssets h).mpr ⟨hasset, hnot⟩)
    obtain ⟨record, hrecord, rfl⟩ := List.mem_map.mp ((h.listed assetId).mpr (.inl hasset))
    have hcompared := h.compared record hrecord
    rw [if_pos hasset, if_pos hbackup] at hcompared
    simp only [compareOne] at hcompared
    split at hcompared
    · next sourceStat backupStat hsource hbackupStat =>
        have hrecordEq := Option.some.inj hcompared
        have hstatus : (compareBoth facts faults files record.assetId
            (roots.sourcePath record.assetId) (roots.backupPath record.assetId) sourceStat
            backupStat).status = .identical := by
          have hnotMismatch := ne_of_statusCount_eq_zero hmismatch hrecord
          have hnotConflict := ne_of_statusCount_eq_zero hconflict hrecord
          rw [← hrecordEq] at hnotMismatch hnotConflict
          exact ((status_compareBoth _ _ _ _ _ _ _ _).resolve_right fun hreview =>
            hreview.elim hnotMismatch hnotConflict)
        have hidentical := identical_of_compareBoth hsource hbackupStat hstatus
        refine hind.keeps hlisted hnodup hsame (P := fun s => Identical facts s
          (roots.sourcePath record.assetId) (roots.backupPath record.assetId)) ?_ hidentical
        intro other hother _ s _ hbefore
        refine hbefore.copied h (hlisted _ hother) hasset ?_
        rintro rfl
        exact hmissing hother
    · cases hcompared

end Runs

/-! ## The sync -/

section Sync

variable (settings : WorkflowSettings) (facts : FileFacts) (faults : WorkflowFaults)
  (target : BackupTargetConfig) (files : FileSystem PyStr Nat)

/-- No file of the backup is modified or removed, and a completed sync leaves an identical backup
of every file that is listed in the source. -/
structure AdditiveAndComplete : Prop where
  additive : ∀ targetRoot, pathLikeTargetRoot settings target = some targetRoot →
    ∀ path content, targetRoot <+: path → files.lookup path = some (.file content) →
      (syncMissing settings facts faults target files).1.lookup path = some (.file content)
  complete : ∀ report, (syncMissing settings facts faults target files).2 = some report →
    report.state = .completed → ∃ sourceRoot targetRoot entries,
      settings.immichLibraryRoot = some sourceRoot ∧
        pathLikeTargetRoot settings target = some targetRoot ∧
        collectFileEntries faults files sourceRoot = some entries ∧
        ∀ assetId ∈ entries, Identical facts (syncMissing settings facts faults target files).1
          (sourceRoot ++ assetId) (backupWorkflowCurrentLibraryRoot targetRoot ++ assetId)

/-- Every copy that is begun spares what stands at its target: at the place of the backup, or in
the directory that stands there. -/
def SparesBackup : Prop :=
  ∀ prepared roots warnings records,
    resolveRoots settings faults target files = (prepared, some (.roots roots warnings)) →
      compareRoots facts faults prepared roots = some records →
        ∀ assetId ∈ begunCopies faults roots prepared records, Spares faults roots prepared assetId

variable {settings facts faults target files}

/-- A sync that copies. -/
theorem syncMissing_eq {prepared : FileSystem PyStr Nat} {roots : WorkflowRoots}
    {warnings : List PyStr} {records : List AssetComparisonRecord}
    (hroots : resolveRoots settings faults target files = (prepared, some (.roots roots warnings)))
    (hrecords : compareRoots facts faults prepared roots = some records) :
    syncMissing settings facts faults target files =
      ((runAll (copyWithVerification facts faults roots) (missingAssets records) prepared).1,
        (runAll (copyWithVerification facts faults roots) (missingAssets records) prepared).2.map
          (syncReport roots warnings records)) := by
  simp only [syncMissing, hroots, hrecords]

/-- A sync that copies nothing. -/
theorem syncMissing_of_not (h : ∀ prepared roots warnings records,
    resolveRoots settings faults target files = (prepared, some (.roots roots warnings)) →
      compareRoots facts faults prepared roots ≠ some records) :
    (syncMissing settings facts faults target files).1 =
        (resolveRoots settings faults target files).1 ∧
      ∀ report, (syncMissing settings facts faults target files).2 = some report →
        report.state = .unsupported := by
  rcases hroots : resolveRoots settings faults target files with ⟨prepared, resolved⟩
  cases resolved with
  | none =>
      simp only [syncMissing, hroots]
      exact ⟨trivial, fun _ hreport => by cases hreport⟩
  | some resolved =>
      cases resolved with
      | unsupported warnings =>
          simp only [syncMissing, hroots]
          refine ⟨trivial, fun _ hreport => ?_⟩
          cases hreport
          rfl
      | roots roots warnings =>
          cases hrecords : compareRoots facts faults prepared roots with
          | none =>
              simp only [syncMissing, hroots, hrecords]
              exact ⟨trivial, fun _ hreport => by cases hreport⟩
          | some records => exact absurd hrecords (h _ _ _ _ hroots)

/-- A completed sync is complete, and a sync is additive if and only if its copies spare the
backup. -/
theorem sync_additive_complete_iff :
    AdditiveAndComplete settings facts faults target files ↔
      SparesBackup settings facts faults target files := by
  have hwidens := widens_resolveRoots settings faults target files
  by_cases hcopies : ∃ prepared roots warnings records,
      resolveRoots settings faults target files = (prepared, some (.roots roots warnings)) ∧
        compareRoots facts faults prepared roots = some records
  · obtain ⟨prepared, roots, warnings, records, hroots, hrecords⟩ := hcopies
    obtain ⟨sourceEntries, backupEntries, hcompared⟩ := compared_of_compareRoots hrecords
    obtain ⟨hsource, targetRoot, htarget, hbackup⟩ := roots_of_resolveRoots hroots
    have hrun := syncMissing_eq hroots hrecords
    have hroot : targetRoot <+: roots.backupRoot := by
      rw [hbackup]
      exact (List.prefix_append _ _).trans (above_currentLibraryRoot targetRoot)
    have hiff := runAll_additive_iff hcompared hroot
    have hprepared : ∀ path content, files.lookup path = some (.file content) ↔
        prepared.lookup path = some (.file content) := by
      intro path content
      rw [hroots] at hwidens
      exact (hwidens.sameLeaves path (.file content) nofun).symm
    have hspares : SparesBackup settings facts faults target files ↔
        ∀ assetId ∈ begunCopies faults roots prepared records,
          Spares faults roots prepared assetId := by
      refine ⟨fun h => h _ _ _ _ hroots hrecords, ?_⟩
      intro h prepared' roots' warnings' records' hroots' hrecords'
      rw [hroots] at hroots'
      cases hroots'
      rw [hrecords] at hrecords'
      cases hrecords'
      exact h
    rw [hspares, ← hiff]
    constructor
    · intro h path content hpath hcontent
      have hkept := h.additive targetRoot htarget path content hpath
        ((hprepared path content).mpr hcontent)
      rwa [hrun] at hkept
    · intro hkept
      refine ⟨fun targetRoot' htarget' path content hpath hcontent => ?_,
        fun report hreport hstate => ?_⟩
      · rw [htarget] at htarget'
        cases htarget'
        rw [hrun]
        exact hkept path content hpath ((hprepared path content).mp hcontent)
      · rw [hrun] at hreport ⊢
        obtain ⟨results, hresults, rfl⟩ := Option.map_eq_some_iff.mp hreport
        have hsame := @collectFileEntries_congr faults files prepared roots.sourceRoot
          fun path hpath => lookup_resolveRoots hroots hpath
        have hlisted : (collectFileEntries faults files roots.sourceRoot).isSome = true := by
          rw [← hsame.1, hcompared.source]
          rfl
        obtain ⟨entries, hentries⟩ := Option.isSome_iff_exists.mp hlisted
        refine ⟨roots.sourceRoot, targetRoot, entries, hsource, htarget, hentries, ?_⟩
        intro assetId hasset
        rw [← hbackup]
        exact runAll_complete hcompared hresults hstate assetId
          ((hsame.2 _ _ hcompared.source hentries assetId).mpr hasset)
  · have hnot : ∀ prepared roots warnings records,
        resolveRoots settings faults target files = (prepared, some (.roots roots warnings)) →
          compareRoots facts faults prepared roots ≠ some records :=
      fun prepared roots warnings records hroots hrecords =>
        hcopies ⟨prepared, roots, warnings, records, hroots, hrecords⟩
    obtain ⟨hfirst, hunsupported⟩ := syncMissing_of_not hnot
    refine iff_of_true ⟨fun _ _ path content _ hcontent => ?_, fun report hreport hstate => ?_⟩
      fun _ _ _ _ hroots hrecords => absurd hrecords (hnot _ _ _ _ hroots)
    · rw [hfirst]
      exact hwidens.kept path _ hcontent
    · rw [hunsupported report hreport] at hstate
      cases hstate

/-! ### How a sync ends -/

variable (settings facts faults target files)

/-- A call that no handler is around raises: for the roots, in the comparison, or where the
directories of a backup are made. -/
def SyncRaises : Prop :=
  (resolveRoots settings faults target files).2 = none ∨
    ∃ prepared roots warnings,
      resolveRoots settings faults target files = (prepared, some (.roots roots warnings)) ∧
        ∀ records, compareRoots facts faults prepared roots = some records →
          ∃ assetId ∈ missingAssets records, (roots.madeDirs faults assetId prepared).2 = false

/-- The comparison leaves nothing for review, and every asset that is missing in the backup is
copied and verified. -/
def SyncCompletes : Prop :=
  ∃ prepared roots warnings records,
    resolveRoots settings faults target files = (prepared, some (.roots roots warnings)) ∧
      compareRoots facts faults prepared roots = some records ∧
      statusCount records .mismatch = 0 ∧ statusCount records .conflict = 0 ∧
      statusCount records .restoreCandidate = 0 ∧
      ∀ assetId ∈ missingAssets records, (roots.madeDirs faults assetId prepared).2 = true ∧
        Verifies facts faults roots prepared assetId

variable {settings facts faults target files}

/-- The results of the copies of a sync, each from the state before the first. -/
theorem results_of_compareRoots {roots : WorkflowRoots} {records : List AssetComparisonRecord}
    (h : compareRoots facts faults files roots = some records) :
    (runAll (copyWithVerification facts faults roots) (missingAssets records) files).2 =
      (missingAssets records).mapM fun assetId =>
        (copyWithVerification facts faults roots assetId files).2 := by
  obtain ⟨sourceEntries, backupEntries, hcompared⟩ := compared_of_compareRoots h
  exact (roots.independent files facts faults hcompared.source).results
    (fun assetId hmem => ((mem_missingAssets hcompared).mp hmem).1)
    (nodup_missingAssets hcompared) fun _ _ => .refl

theorem syncMissing_raises_iff :
    (syncMissing settings facts faults target files).2 = none ↔
      SyncRaises settings facts faults target files := by
  unfold SyncRaises
  rcases hroots : resolveRoots settings faults target files with ⟨prepared, resolved⟩
  cases resolved with
  | none =>
      simp only [syncMissing, hroots]
      exact iff_of_true trivial (.inl trivial)
  | some resolved =>
      cases resolved with
      | unsupported warnings =>
          simp only [syncMissing, hroots]
          refine iff_of_false (Option.some_ne_none _) ?_
          rintro (hnone | ⟨_, _, _, heq, -⟩)
          · cases hnone
          · cases heq
      | roots roots warnings =>
          cases hrecords : compareRoots facts faults prepared roots with
          | none =>
              simp only [syncMissing, hroots, hrecords]
              refine iff_of_true trivial
                (.inr ⟨prepared, roots, warnings, rfl, fun records hsome => ?_⟩)
              rw [hrecords] at hsome
              cases hsome
          | some records =>
              rw [syncMissing_eq hroots hrecords, Option.map_eq_none_iff,
                results_of_compareRoots hrecords, ← Option.not_isSome_iff_eq_none, isSome_mapM_iff]
              simp only [isSome_copyWithVerification]
              constructor
              · intro hnot
                push Not at hnot
                obtain ⟨assetId, hmem, hdirs⟩ := hnot
                refine .inr ⟨prepared, roots, warnings, rfl, fun records' hsome => ?_⟩
                rw [hrecords] at hsome
                cases hsome
                exact ⟨assetId, hmem, Bool.eq_false_iff.mpr hdirs⟩
              · rintro (hnone | ⟨_, _, _, heq, hdirs⟩) hall
                · cases hnone
                · cases heq
                  obtain ⟨assetId, hmem, hfalse⟩ := hdirs records hrecords
                  rw [hall assetId hmem] at hfalse
                  cases hfalse

theorem syncMissing_completed_iff :
    (∃ report, (syncMissing settings facts faults target files).2 = some report ∧
        report.state = .completed) ↔ SyncCompletes settings facts faults target files := by
  constructor
  · rintro ⟨report, hreport, hstate⟩
    by_contra hnot
    by_cases hcopies : ∃ prepared roots warnings records,
        resolveRoots settings faults target files = (prepared, some (.roots roots warnings)) ∧
          compareRoots facts faults prepared roots = some records
    · obtain ⟨prepared, roots, warnings, records, hroots, hrecords⟩ := hcopies
      rw [syncMissing_eq hroots hrecords, results_of_compareRoots hrecords] at hreport
      obtain ⟨results, hresults, rfl⟩ := Option.map_eq_some_iff.mp hreport
      obtain ⟨hfine, hmismatch, hconflict, hcandidates⟩ := syncReport_completed_iff.mp hstate
      refine hnot ⟨prepared, roots, warnings, records, hroots, hrecords, hmismatch, hconflict,
        hcandidates, fun assetId hmem => ?_⟩
      obtain ⟨result, hresult, hcopy⟩ := exists_mem_of_mapM hresults hmem
      have hrestored := (status_copyWithVerification hcopy).resolve_left (hfine result hresult)
      refine ⟨?_, (restored_iff hcopy).mp hrestored.1⟩
      rw [← isSome_copyWithVerification facts, hcopy]
      rfl
    · have hunsupported :=
        (syncMissing_of_not fun prepared roots warnings records hroots hrecords =>
        hcopies ⟨prepared, roots, warnings, records, hroots, hrecords⟩).2 report hreport
      rw [hunsupported] at hstate
      cases hstate
  · rintro ⟨prepared, roots, warnings, records, hroots, hrecords, hmismatch, hconflict, hcandidates,
      hcopies⟩
    have hsome : ((missingAssets records).mapM fun assetId =>
        (copyWithVerification facts faults roots assetId prepared).2).isSome = true := by
      rw [isSome_mapM_iff]
      intro assetId hmem
      rw [isSome_copyWithVerification]
      exact (hcopies assetId hmem).1
    obtain ⟨results, hresults⟩ := Option.isSome_iff_exists.mp hsome
    rw [syncMissing_eq hroots hrecords, results_of_compareRoots hrecords, hresults]
    refine ⟨_, rfl, syncReport_completed_iff.mpr ⟨fun result hresult => ?_, hmismatch, hconflict,
      hcandidates⟩⟩
    obtain ⟨assetId, hmem, hcopy⟩ := exists_of_mem_mapM hresults hresult
    rw [(restored_iff hcopy).mpr (hcopies assetId hmem).2]
    exact nofun

end Sync

/-! ## A directory at the place of a backup -/

def librarySettings : WorkflowSettings where
  place := placeOf
  immichLibraryRoot := some [py "library"]
  quarantinePath := [py "quarantine"]

/-- Contents whose bytes all differ. -/
def distinctFacts : FileFacts where
  hash := PyStr.decimal
  stat := fun content => ⟨content, 0⟩
  otherStat := fun _ => none

def noSyncFaults : WorkflowFaults where
  resolve := false
  backupRoot := none
  workflowRoot := none
  unlisted := fun _ => false
  stat := fun _ => false
  hash := fun _ => false
  copies := fun _ => ⟨none, none, false, false, false, []⟩

/-- The library has the file `a.jpg`, the backup a directory `a.jpg` with a file of that name. -/
def directoryInBackup : FileSystem PyStr Nat :=
  let backup := backupWorkflowCurrentLibraryRoot [py "backup"]
  ⟨[([py "library"], .directory), ([py "library", py "a.jpg"], .file 1),
    ([py "backup"], .directory), ([py "backup", py "_immich-doctor"], .directory),
    (backup.dropLast, .directory), (backup, .directory), (backup ++ [py "a.jpg"], .directory),
    (backup ++ [py "a.jpg", py "a.jpg"], .file 2)], by decide⟩

/-- The copy is written over the file in the directory. -/
theorem copy_into_directory_overwrites : ¬ ∀ (settings : WorkflowSettings) (facts : FileFacts)
    (faults : WorkflowFaults) (target : BackupTargetConfig) (files : FileSystem PyStr Nat),
    AdditiveAndComplete settings facts faults target files := by
  intro h
  have hkept :=
    (h librarySettings distinctFacts noSyncFaults localTarget directoryInBackup).additive
    [py "backup"] (by decide +kernel)
    (backupWorkflowCurrentLibraryRoot [py "backup"] ++ [py "a.jpg", py "a.jpg"]) 2
    (by decide +kernel)
    (by decide +kernel)
  revert hkept
  decide +kernel

end ImmichDoctor.Services
