import ImmichDoctor.Library.OptionLists
import ImmichDoctor.Services.Proofs.IndependentCopies
/-!
# The comparison of a library with its backup

The roots a target resolves to, the records of a comparison, and the rule by which a backup is
taken to be the same as its file. A copy that is reported as restored has left such a backup.
-/

namespace ImmichDoctor.Services

open ImmichDoctor.Library
open ImmichDoctor.Backup
open ImmichDoctor.Catalog

/-! ## Roots -/

section Roots

variable {settings : WorkflowSettings} {faults : WorkflowFaults} {target : BackupTargetConfig}
  {files prepared : FileSystem PyStr Nat}

theorem above_currentLibraryRoot (targetRoot : FsPath) :
    backupWorkflowRoot targetRoot <+: backupWorkflowCurrentLibraryRoot targetRoot :=
  List.prefix_append _ _

/-- All that is done to the roots is that directories are made. -/
theorem widens_resolveRoots (settings : WorkflowSettings) (faults : WorkflowFaults)
    (target : BackupTargetConfig) (files : FileSystem PyStr Nat) :
    FileSystem.Widens ((pathLikeTargetRoot settings target).elim []
      backupWorkflowCurrentLibraryRoot).inits.tail files
        (resolveRoots settings faults target files).1 := by
  unfold resolveRoots
  cases pathLikeTargetRoot settings target with
  | none => exact .refl _ _
  | some targetRoot =>
      rw [Option.elim_some]
      cases settings.immichLibraryRoot with
      | none => exact .refl _ _
      | some sourceRoot =>
          simp only
          split
          · exact .refl _ _
          split
          · exact .refl _ _
          have hbackup := widens_makeDirs files faults.backupRoot
            (backupWorkflowCurrentLibraryRoot targetRoot)
          rcases hmade : makeDirs files faults.backupRoot
            (backupWorkflowCurrentLibraryRoot targetRoot) with ⟨made, returned⟩
          rw [hmade] at hbackup
          cases returned with
          | false => exact hbackup
          | true =>
              have hworkflow := widens_makeDirs made faults.workflowRoot
                (backupWorkflowRoot targetRoot)
              rcases hleft : makeDirs made faults.workflowRoot (backupWorkflowRoot targetRoot) with
                ⟨left, returned⟩
              rw [hleft] at hworkflow
              have hboth := hbackup.trans (hworkflow.mono fun path hpath => ?_)
              · cases returned with
                | false =>
                    simp only [hleft]
                    exact hboth
                | true =>
                    simp only [hleft]
                    exact hboth
              · obtain ⟨hbelow, hne⟩ := FileSystem.mem_tail_inits.mp hpath
                exact FileSystem.mem_tail_inits.mpr
                  ⟨hbelow.trans (above_currentLibraryRoot targetRoot), hne⟩

/-- The roots come from the settings and the target. -/
theorem roots_of_resolveRoots {roots : WorkflowRoots} {warnings : List PyStr}
    (h : resolveRoots settings faults target files = (prepared, some (.roots roots warnings))) :
    settings.immichLibraryRoot = some roots.sourceRoot ∧
      ∃ targetRoot, pathLikeTargetRoot settings target = some targetRoot ∧
        roots.backupRoot = backupWorkflowCurrentLibraryRoot targetRoot := by
  unfold resolveRoots at h
  split at h
  · cases h
  · cases h
  next targetRoot sourceRoot htarget hsource =>
  rw [hsource, htarget]
  split at h
  · cases h
  split at h
  · cases h
  simp only at h
  split at h
  · cases h
  split at h
  · cases h
  cases h
  exact ⟨rfl, targetRoot, rfl, rfl⟩

/-- What stands below the source root is not touched. -/
theorem lookup_resolveRoots {roots : WorkflowRoots} {warnings : List PyStr}
    (h : resolveRoots settings faults target files = (prepared, some (.roots roots warnings)))
    {path : FsPath} (hpath : roots.sourceRoot <+: path) :
    prepared.lookup path = files.lookup path := by
  obtain ⟨-, targetRoot, htarget, hroot⟩ := roots_of_resolveRoots h
  have hwidens := widens_resolveRoots settings faults target files
  rw [h, htarget, Option.elim_some, ← hroot] at hwidens
  apply hwidens.lookup
  intro hmem
  exact roots.apart.1 (hpath.trans (FileSystem.mem_tail_inits.mp hmem).1)

/-- The files of the source are listed as before. -/
theorem collectFileEntries_congr {root : FsPath}
    (h : ∀ path, root <+: path → prepared.lookup path = files.lookup path) :
    (collectFileEntries faults prepared root).isSome =
    (collectFileEntries faults files root).isSome ∧
      ∀ entries entries', collectFileEntries faults prepared root = some entries →
        collectFileEntries faults files root = some entries' →
          ∀ assetId, assetId ∈ entries ↔ assetId ∈ entries' := by
  constructor
  · unfold collectFileEntries
    split <;> rfl
  · intro entries entries' hentries hentries' assetId
    have hwalked : walked faults.unlisted prepared root assetId = true ↔
        walked faults.unlisted files root assetId = true := by
      rw [walked_iff, walked_iff]
      exact forall_congr' fun above => forall_congr' fun _ => by
        rw [h (root ++ above) (List.prefix_append _ _)]
    rw [mem_collectFileEntries hentries, mem_collectFileEntries hentries',
      h (root ++ assetId) (List.prefix_append _ _), hwalked]

end Roots

/-! ## Records -/

section Records

variable {facts : FileFacts} {faults : WorkflowFaults} {files : FileSystem PyStr Nat}
  {roots : WorkflowRoots} {assetId : FsPath} {record : AssetComparisonRecord}
  {records : List AssetComparisonRecord}

theorem assetId_of_compareOne {source backup : Option FsPath}
    (h : compareOne facts faults files assetId source backup = some record) :
    record.assetId = assetId := by
  unfold compareOne at h
  split at h
  · split at h
    · cases h
    · cases h
      rfl
  · split at h
    · cases h
    · cases h
      rfl
  · cases h
    rfl
  · split at h
    · cases h
      unfold compareBoth
      split
      · rfl
      split
      · rfl
      split
      · split <;> rfl
      · rfl
    · cases h

/-- The records of a comparison: one for every listed id. -/
structure Compared (facts : FileFacts) (faults : WorkflowFaults) (files : FileSystem PyStr Nat)
    (roots : WorkflowRoots) (sourceEntries backupEntries : List FsPath)
    (records : List AssetComparisonRecord) : Prop where
  source : collectFileEntries faults files roots.sourceRoot = some sourceEntries
  backup : collectFileEntries faults files roots.backupRoot = some backupEntries
  nodup : (records.map (·.assetId)).Nodup
  listed : ∀ assetId, assetId ∈ records.map (·.assetId) ↔
    assetId ∈ sourceEntries ∨ assetId ∈ backupEntries
  compared : ∀ record ∈ records, compareOne facts faults files record.assetId
    (if record.assetId ∈ sourceEntries then some (roots.sourcePath record.assetId) else none)
    (if record.assetId ∈ backupEntries then some (roots.backupPath record.assetId) else none) =
      some record

theorem compared_of_compareRoots (h : compareRoots facts faults files roots = some records) :
    ∃ sourceEntries backupEntries,
      Compared facts faults files roots sourceEntries backupEntries records := by
  simp only [compareRoots, Option.bind_eq_bind, Option.bind_eq_some_iff] at h
  obtain ⟨sourceEntries, hsource, backupEntries, hbackup, hrecords⟩ := h
  have hids : records.map (·.assetId) = (sourceEntries ++ backupEntries).dedup.insertionSort
      fun a b => assetText a ≤ assetText b :=
    map_eq_of_mapM (fun _ _ => assetId_of_compareOne) hrecords
  have hperm := List.perm_insertionSort (fun a b => assetText a ≤ assetText b)
    (sourceEntries ++ backupEntries).dedup
  refine ⟨sourceEntries, backupEntries, hsource, hbackup, ?_, fun assetId => ?_, ?_⟩
  · rw [hids]
    exact hperm.nodup_iff.mpr (List.nodup_dedup _)
  · rw [hids, hperm.mem_iff, List.mem_dedup, List.mem_append]
  · intro record hrecord
    obtain ⟨assetId, -, hcompared⟩ := exists_of_mem_mapM hrecords hrecord
    rw [assetId_of_compareOne hcompared]
    exact hcompared

theorem status_compareBoth (facts : FileFacts) (faults : WorkflowFaults)
    (files : FileSystem PyStr Nat) (assetId source backup : FsPath)
    (sourceStat backupStat : FileStat) :
    let record := compareBoth facts faults files assetId source backup sourceStat backupStat
    record.status = .identical ∨ record.status = .mismatch ∨ record.status = .conflict := by
  simp only [compareBoth]
  split
  · exact .inr (.inl rfl)
  split
  · exact .inl rfl
  split
  · split
    · exact .inl rfl
    · exact .inr (.inl rfl)
  · exact .inr (.inr rfl)

/-- The assets a sync copies are those that are listed in the source only. -/
theorem mem_missingAssets {sourceEntries backupEntries : List FsPath}
    (h : Compared facts faults files roots sourceEntries backupEntries records) :
    assetId ∈ missingAssets records ↔ assetId ∈ sourceEntries ∧ assetId ∉ backupEntries := by
  have hstatus : ∀ record ∈ records, record.status = .missingInBackup ↔
      record.assetId ∈ sourceEntries ∧ record.assetId ∉ backupEntries := by
    intro record hrecord
    have hcompared := h.compared record hrecord
    have hlisted := (h.listed record.assetId).mp (List.mem_map_of_mem hrecord)
    by_cases hsource : record.assetId ∈ sourceEntries
    · by_cases hbackup : record.assetId ∈ backupEntries
      · refine iff_of_false (fun hmissing => ?_) fun hnot => hnot.2 hbackup
        rw [if_pos hsource, if_pos hbackup] at hcompared
        simp only [compareOne] at hcompared
        split at hcompared
        · next sourceStat backupStat _ _ =>
            have hstatus := status_compareBoth facts faults files record.assetId
              (roots.sourcePath record.assetId) (roots.backupPath record.assetId) sourceStat
              backupStat
            simp only [Option.some.inj hcompared, hmissing] at hstatus
            rcases hstatus with hstatus | hstatus | hstatus <;> cases hstatus
        · cases hcompared
      · refine iff_of_true ?_ ⟨hsource, hbackup⟩
        rw [if_pos hsource, if_neg hbackup] at hcompared
        simp only [compareOne, Option.ite_none_left_eq_some, Option.some.injEq] at hcompared
        exact hcompared.2 ▸ rfl
    · have hbackup := hlisted.resolve_left hsource
      refine iff_of_false (fun hmissing => ?_) fun hnot => hsource hnot.1
      rw [if_neg hsource, if_pos hbackup] at hcompared
      simp only [compareOne, Option.ite_none_left_eq_some, Option.some.injEq] at hcompared
      rw [← hcompared.2] at hmissing
      cases hmissing
  unfold missingAssets
  rw [List.mem_map]
  constructor
  · rintro ⟨record, hrecord, rfl⟩
    obtain ⟨hmem, hmissing⟩ := List.mem_filter.mp hrecord
    exact (hstatus record hmem).mp (of_decide_eq_true hmissing)
  · intro hnot
    obtain ⟨record, hrecord, rfl⟩ := List.mem_map.mp ((h.listed assetId).mpr (.inl hnot.1))
    have hmissing := (hstatus record hrecord).mpr hnot
    exact ⟨record, List.mem_filter.mpr ⟨hrecord, decide_eq_true hmissing⟩, rfl⟩

theorem nodup_missingAssets {sourceEntries backupEntries : List FsPath}
    (h : Compared facts faults files roots sourceEntries backupEntries records) :
    (missingAssets records).Nodup :=
  h.nodup.sublist (List.filter_sublist.map _)

end Records

/-! ## Identity -/

section Identity

variable {facts : FileFacts} {faults : WorkflowFaults} {files after : FileSystem PyStr Nat}
  {roots : WorkflowRoots} {assetId source backup : FsPath}

/-- The backup is taken to be the same as the file: by size and time, or by hash. -/
def Identical (facts : FileFacts) (files : FileSystem PyStr Nat) (source backup : FsPath) : Prop :=
  ∃ node copy, files.lookup source = some node ∧ files.lookup backup = some copy ∧
    copy ≠ .directory ∧
      ((∃ stat, facts.statOf source node = some stat ∧ facts.statOf backup copy = some stat) ∨
        ∃ content content', node = .file content ∧ copy = .file content' ∧
          facts.hash content = facts.hash content')

theorem Identical.congr (h : Identical facts files source backup)
    (hsource : after.lookup source = files.lookup source)
    (hbackup : after.lookup backup = files.lookup backup) :
    Identical facts after source backup := by
  unfold Identical
  rw [hsource, hbackup]
  exact h

theorem hashFile_eq_some {hash : Nat → PyStr} {fault : Bool} {path : FsPath} {text : PyStr}
    (h : hashFile hash files (if fault then some .raises else none) path = some text) :
    fault = false ∧ ∃ content, files.lookup path = some (.file content) ∧ hash content = text := by
  cases fault with
  | true =>
      rw [if_pos rfl] at h
      unfold hashFile at h
      split at h
      · next hfault => cases hfault
      · next hfault => cases hfault
      · cases h
  | false =>
      rw [if_neg Bool.false_ne_true] at h
      unfold hashFile at h
      split at h
      · next content hlookup _ => exact ⟨rfl, content, hlookup, Option.some.inj h⟩
      · next hfault => cases hfault
      · cases h

theorem identical_of_compareBoth {sourceStat backupStat : FileStat}
    (hsource : statPath facts faults files source = some sourceStat)
    (hbackup : statPath facts faults files backup = some backupStat)
    (h : (compareBoth facts faults files assetId source backup sourceStat backupStat).status =
      .identical) : Identical facts files source backup := by
  unfold statPath at hsource hbackup
  obtain ⟨-, hsource⟩ := Option.ite_none_left_eq_some.mp hsource
  obtain ⟨-, hbackup⟩ := Option.ite_none_left_eq_some.mp hbackup
  obtain ⟨node, hnode, hnodeStat⟩ := Option.bind_eq_some_iff.mp hsource
  obtain ⟨copy, hcopy, hcopyStat⟩ := Option.bind_eq_some_iff.mp hbackup
  have hfile : copy ≠ .directory := by
    rintro rfl
    cases hcopyStat
  refine ⟨node, copy, hnode, hcopy, hfile, ?_⟩
  unfold compareBoth at h
  split at h
  · cases h
  next hsize =>
  split at h
  · next htime =>
      have hstat : sourceStat = backupStat := by
        cases sourceStat
        cases backupStat
        simp_all
      exact .inl ⟨sourceStat, hnodeStat, hstat ▸ hcopyStat⟩
  split at h
  · next sourceHash backupHash hsourceHash hbackupHash =>
      split at h
      · next hequal =>
          right
          obtain ⟨-, content, hcontent, rfl⟩ := hashFile_eq_some hsourceHash
          obtain ⟨-, content', hcontent', rfl⟩ := hashFile_eq_some hbackupHash
          rw [hnode] at hcontent
          rw [hcopy] at hcontent'
          exact ⟨content, content', Option.some.inj hcontent, Option.some.inj hcontent', hequal⟩
      · cases h
  · cases h

theorem status_verifiedCopy (facts : FileFacts) (faults : WorkflowFaults) (roots : WorkflowRoots)
    (assetId : FsPath) (files : FileSystem PyStr Nat) :
    (verifiedCopy facts faults roots assetId files).resultStatus = .failed ∨
      (verifiedCopy facts faults roots assetId files).resultStatus = .restored ∧
        Identical facts files (roots.sourcePath assetId) (roots.backupPath assetId) := by
  simp only [verifiedCopy]
  split
  · next sourceHash targetHash targetStat hsource htarget hstat =>
      split
      · exact .inl rfl
      split
      · next hequal =>
          obtain ⟨-, content, hcontent, rfl⟩ := hashFile_eq_some hsource
          obtain ⟨-, content', hcontent', rfl⟩ := hashFile_eq_some htarget
          exact .inr ⟨rfl, .file content, .file content', hcontent, hcontent', by simp,
            .inr ⟨content, content', rfl, rfl, hequal⟩⟩
      · exact .inl rfl
  · exact .inl rfl

/-- A copy that is reported as restored has left an identical backup. -/
theorem status_copyWithVerification {result : CopyResult}
    (h : (copyWithVerification facts faults roots assetId files).2 = some result) :
    result.resultStatus = .failed ∨ result.resultStatus = .restored ∧
      Identical facts (copyWithVerification facts faults roots assetId files).1
        (roots.sourcePath assetId) (roots.backupPath assetId) := by
  rw [WorkflowRoots.copyWithVerification_eq] at h ⊢
  simp only [Option.ite_none_right_eq_some, Option.some.injEq] at h
  obtain ⟨-, hresult⟩ := h
  split at hresult
  · rw [← hresult]
    exact status_verifiedCopy facts faults roots assetId _
  · exact .inl (hresult ▸ rfl)

end Identity

/-! ## The end of a copy -/

section CopyEnds

variable {facts : FileFacts} {faults : WorkflowFaults} {roots : WorkflowRoots} {assetId : FsPath}
  {files : FileSystem PyStr Nat}

/-- Nothing goes wrong in a copy, or what is altered has the hash of the file. -/
structure Verifies (facts : FileFacts) (faults : WorkflowFaults) (roots : WorkflowRoots)
    (files : FileSystem PyStr Nat) (assetId : FsPath) : Prop where
  place : files.isDirectory (roots.backupPath assetId) = false
  hashSource : (faults.copies assetId).hashSource = false
  hashTarget : (faults.copies assetId).hashTarget = false
  details : (faults.copies assetId).details = false
  hashes : ∃ content written, files.lookup (roots.sourcePath assetId) = some (.file content) ∧
    roots.effect faults files assetId = (some written, true) ∧
      facts.hash content = facts.hash written

theorem isSome_copyWithVerification (facts : FileFacts) (faults : WorkflowFaults)
    (roots : WorkflowRoots) (assetId : FsPath) (files : FileSystem PyStr Nat) :
    (copyWithVerification facts faults roots assetId files).2.isSome =
      (roots.madeDirs faults assetId files).2 := by
  rw [WorkflowRoots.copyWithVerification_eq]
  cases (roots.madeDirs faults assetId files).2 <;> rfl

theorem restored_verifiedCopy_iff :
    (verifiedCopy facts faults roots assetId files).resultStatus = .restored ↔
      (faults.copies assetId).hashSource = false ∧ (faults.copies assetId).hashTarget = false ∧
        (faults.copies assetId).details = false ∧ ∃ content written,
          files.lookup (roots.sourcePath assetId) = some (.file content) ∧
            files.lookup (roots.backupPath assetId) = some (.file written) ∧
              facts.hash content = facts.hash written := by
  constructor
  · intro h
    simp only [verifiedCopy] at h
    split at h
    · next sourceHash targetHash targetStat hsource htarget hstat =>
        obtain ⟨hsourceFault, content, hcontent, rfl⟩ := hashFile_eq_some hsource
        obtain ⟨htargetFault, written, hwritten, rfl⟩ := hashFile_eq_some htarget
        split at h
        · cases h
        next hdetails =>
        split at h
        · next hequal =>
            exact ⟨hsourceFault, htargetFault, Bool.eq_false_iff.mpr hdetails, content, written,
              hcontent, hwritten, hequal⟩
        · cases h
    · cases h
  · rintro ⟨hsource, htarget, hdetails, content, written, hcontent, hwritten, hequal⟩
    simp only [verifiedCopy, hashFile, hsource, htarget, hdetails, hcontent, hwritten, hequal,
      Option.bind_some, FileFacts.statOf, Bool.false_eq_true, if_false, if_true]

/-- A copy that returns has written a file. -/
theorem copyEffect_returns {fault : Option CopyFault} {source target : Option (FsNode Nat)}
    (h : (copyEffect fault source target).2 = true) :
    ∃ written, copyEffect fault source target = (some written, true) ∧
      ∃ content, source = some (.file content) := by
  unfold copyEffect at h ⊢
  split at h
  · cases h
  · cases h
  · next content _ _ =>
      cases fault with
      | none => exact ⟨content, rfl, content, rfl⟩
      | some fault =>
          cases fault with
          | alters altered => exact ⟨altered, rfl, content, rfl⟩
          | raises left => cases h
  · cases h

theorem copiedTo_eq (h : files.isDirectory (roots.backupPath assetId) = false) :
    roots.copiedTo files assetId = roots.backupPath assetId := by
  unfold WorkflowRoots.copiedTo copyTarget
  rw [if_neg (Bool.eq_false_iff.mp h)]

/-- A copy ends well exactly when it verifies. -/
theorem restored_iff {result : CopyResult}
    (h : (copyWithVerification facts faults roots assetId files).2 = some result) :
    result.resultStatus = .restored ↔ Verifies facts faults roots files assetId := by
  rw [WorkflowRoots.copyWithVerification_eq] at h
  simp only [Option.ite_none_right_eq_some, Option.some.injEq] at h
  obtain ⟨hdirs, hresult⟩ := h
  cases hreturned : (roots.effect faults files assetId).2 with
  | false =>
      rw [hreturned, if_neg Bool.false_ne_true] at hresult
      refine iff_of_false (fun hrestored => ?_) fun hverifies => ?_
      · rw [← hresult] at hrestored
        cases hrestored
      · obtain ⟨content, written, -, heffect, -⟩ := hverifies.hashes
        rw [heffect] at hreturned
        cases hreturned
  | true =>
      rw [hreturned, if_pos rfl] at hresult
      obtain ⟨written, heffect, content, hcontent⟩ := copyEffect_returns hreturned
      change roots.effect faults files assetId = _ at heffect
      have htarget := roots.lookup_copied_target files assetId faults
      rw [if_pos hdirs, heffect] at htarget
      rw [← hresult, restored_verifiedCopy_iff, roots.lookup_copied_source, hcontent]
      constructor
      · rintro ⟨hsource, hbackup, hdetails, content', written', hcontent', hwritten', hequal⟩
        have hplace : files.isDirectory (roots.backupPath assetId) = false := by
          by_contra hnot
          have hdirectory := FileSystem.isDirectory_iff.mp (Bool.not_eq_false _ ▸ hnot)
          rcases roots.lookup_copied files assetId faults (roots.backupPath assetId) with
            hsame | hto | ⟨hnone, -, -⟩
          · rw [hsame, hdirectory] at hwritten'
            cases hwritten'
          · unfold WorkflowRoots.effect at heffect
            rw [← hto, hdirectory, hcontent] at heffect
            cases heffect
          · rw [hnone] at hdirectory
            cases hdirectory
        refine ⟨hplace, hsource, hbackup, hdetails, content, written, hcontent, heffect, ?_⟩
        rw [copiedTo_eq hplace] at htarget
        rw [htarget] at hwritten'
        cases hcontent'
        cases hwritten'
        exact hequal
      · intro hverifies
        refine ⟨hverifies.hashSource, hverifies.hashTarget, hverifies.details, ?_⟩
        obtain ⟨content', written', hcontent', heffect', hequal⟩ := hverifies.hashes
        rw [copiedTo_eq hverifies.place] at htarget
        rw [hcontent] at hcontent'
        rw [heffect] at heffect'
        cases hcontent'
        cases heffect'
        exact ⟨content, written, rfl, htarget, hequal⟩

end CopyEnds

end ImmichDoctor.Services
