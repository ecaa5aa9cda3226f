import ImmichDoctor.Catalog.Proofs.QuarantineAtomicity
import ImmichDoctor.Services.BackupAssetRestore
/-!
# The rollback of a failed restore

What stands at the source path after a restore that reports a failure. Before the backup
replaces the source, the handler moves the old file back from quarantine; after that it
does nothing, so that a restore whose hashes differ leaves what it has written.
-/

namespace ImmichDoctor.Services

open ImmichDoctor.Library
open ImmichDoctor.Catalog

/-! ## Calls -/

section Calls

variable {files : FileSystem PyStr Nat} {source destination path : FsPath}

/-- A copy writes one file at most. -/
theorem copy2_cases (files : FileSystem PyStr Nat) (fault : Option CopyFault)
    (source destination : FsPath) :
    (copy2 files fault source destination).1 = files ∨ ∃ content,
      (copy2 files fault source destination).1 =
        files.set (copyTarget files source destination) (.file content) := by
  simp only [copy2]
  split
  · split
    · exact .inl rfl
    · split
      · exact .inr ⟨_, rfl⟩
      · exact .inr ⟨_, rfl⟩
      · exact .inl rfl
      · exact .inr ⟨_, rfl⟩
  · exact .inl rfl

theorem lookup_copy2 {fault : Option CopyFault}
    (hpath : path ≠ copyTarget files source destination) :
    (copy2 files fault source destination).1.lookup path = files.lookup path := by
  rcases copy2_cases files fault source destination with heq | ⟨content, heq⟩
  · rw [heq]
  · rw [heq, FileSystem.lookup_set, if_neg hpath]

/-- A copy removes nothing. -/
theorem isSome_copy2 {fault : Option CopyFault} (h : (files.lookup path).isSome = true) :
    ((copy2 files fault source destination).1.lookup path).isSome = true := by
  rcases copy2_cases files fault source destination with heq | ⟨content, heq⟩
  · rwa [heq]
  · rw [heq, FileSystem.lookup_set]
    split
    · rfl
    · exact h

/-- A replacement that returns has moved the source to its destination. -/
theorem osReplace_returned {fault : Bool}
    (h : (osReplace files fault source destination).2 = true) :
    (osReplace files fault source destination).1.lookup destination = files.lookup source := by
  unfold osReplace at h ⊢
  split at h
  · next hclear =>
      rw [if_pos hclear]
      have hmoved := files.lookup_moveTree_destination hclear.2.2.1 []
      rwa [List.append_nil, List.append_nil] at hmoved
  · cases h

theorem osReplace_isSome {fault : Bool} (h : (osReplace files fault source destination).2 = true) :
    (files.lookup source).isSome = true := by
  unfold osReplace at h
  split at h
  · next hclear => exact hclear.2.1
  · cases h

theorem osReplace_raised {fault : Bool} (h : (osReplace files fault source destination).2 = false) :
    (osReplace files fault source destination).1 = files := by
  unfold osReplace at h ⊢
  split at h
  · cases h
  · next hstop => rw [if_neg hstop]

/-- Everything on the way to the path is a directory. -/
def DirectoriesTo (files : FileSystem PyStr Nat) (path : FsPath) : Prop :=
  ∀ above, above <+: path → above ≠ [] → files.lookup above = some .directory

theorem DirectoriesTo.foldlM_mkdir (h : DirectoriesTo files path) {paths : List FsPath}
    (hpaths : ∀ above ∈ paths, above ∈ path.inits.tail) :
    paths.foldlM FileSystem.mkdir files = some files := by
  apply FileSystem.foldlM_mkdir_of_directories
  intro above habove
  obtain ⟨hbelow, hne⟩ := FileSystem.mem_tail_inits.mp (hpaths above habove)
  exact h above hbelow hne

theorem directoriesTo_of_mkdirs {files' : FileSystem PyStr Nat}
    (h : files.mkdirs path = some files') : DirectoriesTo files' path :=
  fun _ habove hne => FileSystem.lookup_of_mkdirs h habove hne

/-- What a move to a path where nothing stands leaves there. -/
def movedTo : Option MoveFault → Option (FsNode Nat) → Option (FsNode Nat)
  | none, node | some .sourceKept, node => node
  | some (.cutOff left), _ => left
  | some (.parents _), _ => none

/-- A move into a directory that is there ends as its fault says, for paths that are apart. -/
theorem lookup_moveFile_destination (fault : Option MoveFault) (hne : source ≠ destination)
    (hparent : DirectoriesTo files destination.dropLast)
    (hsource : (files.lookup source).isSome = true) (hfree : files.lookup destination = none) :
    (moveFile files fault source destination).1.lookup destination =
      if FileSystem.Apart source destination then movedTo fault
        (files.lookup source) else none := by
  have hmove : ∀ fault, (shutilMove files fault source destination).1.lookup destination =
      if FileSystem.Apart source destination then movedTo fault
        (files.lookup source) else none := by
    intro fault
    have htarget : files.realDestination source destination = some destination := by
      unfold FileSystem.realDestination FileSystem.isDirectory
      rw [hfree]
      rfl
    unfold shutilMove
    rw [if_neg fun h => hne h.1, htarget]
    by_cases hapart : FileSystem.Apart source destination
    · have hclear : ¬ ((files.lookup source).isNone = true ∨
          ¬ FileSystem.Apart source destination ∨
          (files.isDirectory source = true ∧ (files.lookup destination).isSome = true)) := by
        simp [hapart, hfree, Option.isNone_eq_false_iff.mpr hsource]
      simp only [if_neg hclear, if_pos hapart]
      cases fault with
      | none =>
          have hmoved := files.lookup_moveTree_destination hapart []
          rwa [List.append_nil, List.append_nil] at hmoved
      | some fault =>
          cases fault with
          | parents made => exact hfree
          | cutOff left =>
              cases left with
              | none => exact hfree
              | some left => exact (files.lookup_set _ _ _).trans (if_pos rfl)
          | sourceKept =>
              have hcopied : (files.copyTree source destination fun _ => true).lookup
                  (destination ++ []) = files.lookup (source ++ []) :=
                (files.lookup_copyTree_destination _ []).trans (if_pos rfl)
              rwa [List.append_nil, List.append_nil] at hcopied
    · have hblocked : (files.lookup source).isNone = true ∨
          ¬ FileSystem.Apart source destination ∨
          (files.isDirectory source = true ∧ (files.lookup destination).isSome = true) :=
        .inr (.inl hapart)
      simp only [if_pos hblocked, if_neg hapart]
      exact hfree
  unfold moveFile
  split
  · next made =>
      have hmade : ((destination.dropLast.inits.tail.take made).foldlM FileSystem.mkdir files).getD
          files = files := by
        rw [hparent.foldlM_mkdir fun above hmem => List.mem_of_mem_take hmem, Option.getD_some]
      rw [hmade, hfree]
      split
      · rfl
      · rfl
  · have hmade : files.mkdirs destination.dropLast = some files :=
      hparent.foldlM_mkdir fun _ hmem => hmem
    rw [hmade]
    exact hmove fault

end Calls

/-! ## Places -/

section Places

variable (places : RestorePlaces)

theorem sourcePath_dropLast : places.sourcePath.dropLast = places.sourceParent :=
  List.dropLast_concat

theorem tempRestorePath_ne_sourcePath : places.tempRestorePath ≠ places.sourcePath := by
  intro h
  have hname := (List.cons.inj (List.append_cancel_left h)).1
  have hlength := congrArg List.length hname
  rw [List.length_append] at hlength
  have hsuffix : (py ".immich-doctor-restore.tmp").length = 26 := by decide
  omega

theorem tempRestorePath_ne_quarantinePath : places.tempRestorePath ≠ places.quarantinePath := by
  intro h
  have hname := (List.append_inj' h rfl).2
  have hlength := congrArg List.length (List.cons.inj hname).1
  rw [List.length_append] at hlength
  have hsuffix : (py ".immich-doctor-restore.tmp").length = 26 := by decide
  omega

/-- The copy is written to the temporary file or below it. -/
theorem tempRestorePath_prefix_copyTarget (files : FileSystem PyStr Nat) (source : FsPath) :
    places.tempRestorePath <+: copyTarget files source places.tempRestorePath := by
  unfold copyTarget
  split
  · exact List.prefix_append _ _
  · exact List.prefix_rfl

/-- Nothing on the way to the source path is below the temporary file, nor is the source. -/
theorem tempRestorePath_not_above {path : FsPath} (h : path <+: places.sourcePath) :
    ¬ places.tempRestorePath <+: path := by
  intro htemp
  have hlength : places.tempRestorePath.length = places.sourcePath.length := by
    simp [RestorePlaces.tempRestorePath, RestorePlaces.sourcePath]
  exact tempRestorePath_ne_sourcePath places ((htemp.trans h).eq_of_length hlength)

theorem sourcePath_not_prefix_sourceParent {above : FsPath} (h : above <+: places.sourceParent) :
    ¬ places.sourcePath <+: above := by
  intro hbelow
  have hlength := (hbelow.trans h).length_le
  rw [RestorePlaces.sourcePath, List.length_append, List.length_singleton] at hlength
  omega

variable {places}

theorem lookup_mkdirs_sourcePath {files prepared : FileSystem PyStr Nat}
    (h : files.mkdirs places.sourceParent = some prepared) :
    prepared.lookup places.sourcePath = files.lookup places.sourcePath :=
  FileSystem.lookup_mkdirs h fun hbelow =>
    sourcePath_not_prefix_sourceParent places hbelow List.prefix_rfl

end Places

/-! ## The attempt -/

section Attempt

variable {hash : Nat → PyStr} {faults : RestoreFaults} {places : RestorePlaces}
  {files after left : FileSystem PyStr Nat} {path : FsPath}

theorem lookup_copyBackup (h : path <+: places.sourcePath) :
    (copyBackup faults places files).1.lookup path = files.lookup path := by
  apply lookup_copy2
  rintro rfl
  exact tempRestorePath_not_above places h (tempRestorePath_prefix_copyTarget places _ _)

/-- The move to quarantine that raises, or has nothing to move, leaves what was there. -/
theorem quarantineSource_kept (h : (quarantineSource faults places files).2.2 = false ∨
    files.lookup places.sourcePath = none ∨ places.quarantinePath = places.sourcePath) :
    (quarantineSource faults places files).1.lookup places.sourcePath =
      files.lookup places.sourcePath := by
  unfold quarantineSource at h ⊢
  split
  · rfl
  next hexists =>
  rw [if_neg hexists] at h
  split
  · next hsome =>
      rw [if_pos hsome] at h
      apply (lookup_moveFile faults.move hsome).mpr
      rcases h with hraised | hnone | hsame
      · exact .inl hraised
      · rw [hnone] at hsome
        cases hsome
      · exact .inr hsame.symm
  · rfl

/-- There is a quarantine path when there is something to move. -/
theorem quarantineSource_path {quarantinePath : FsPath}
    (h : (quarantineSource faults places files).2.1 = some quarantinePath) :
    quarantinePath = places.quarantinePath ∧
      (files.lookup places.sourcePath).isSome = true := by
  unfold quarantineSource at h
  split at h
  · cases h
  · split at h
    · next hsome =>
        cases h
        exact ⟨rfl, hsome⟩
    · cases h

/-- After the move to quarantine nothing stands at the source path, the way to it is as
before, and something stands in quarantine. -/
theorem quarantineSource_moved (h : (quarantineSource faults places files).2.2 = true)
    (hsome : (files.lookup places.sourcePath).isSome = true)
    (hne : places.quarantinePath ≠ places.sourcePath)
    (hparent : DirectoriesTo files places.sourceParent) :
    (quarantineSource faults places files).2.1 = some places.quarantinePath ∧
      (quarantineSource faults places files).1.lookup places.sourcePath = none ∧
      ((quarantineSource faults places files).1.lookup places.quarantinePath).isSome = true ∧
      DirectoriesTo (quarantineSource faults places files).1 places.sourceParent := by
  unfold quarantineSource at h ⊢
  split at h
  · cases h
  next hexists =>
  simp only [if_neg hexists, if_pos hsome] at h ⊢
  obtain ⟨prepared, hprepared, hmove⟩ := moveFile_returned h
  rw [hmove] at h ⊢
  obtain ⟨target, htarget, hapart, hmoved⟩ := shutilMove_returned h hne.symm
  have hwidens := (FileSystem.widens_foldlM_mkdir hprepared).1
  rw [hmoved]
  refine ⟨trivial, prepared.lookup_moveTree_source hapart List.prefix_rfl, ?_, ?_⟩
  · obtain ⟨node, hnode⟩ := Option.isSome_iff_exists.mp hsome
    have hsource : prepared.lookup places.sourcePath = some node := hwidens.kept _ _ hnode
    by_cases hdirectory : prepared.isDirectory places.quarantinePath = true
    · -- the source is moved into the directory, which stays
      simp only [FileSystem.realDestination, if_pos hdirectory] at htarget
      split at htarget
      · cases htarget
      · cases htarget
        have hlength : ¬ (places.quarantinePath ++ places.sourcePath.getLast?.toList).length ≤
            places.quarantinePath.length := by
          simp [RestorePlaces.sourcePath]
        rw [prepared.lookup_moveTree_of_not_below
          (fun hbelow => hapart.1 (hbelow.trans (List.prefix_append _ _)))
          (fun hbelow => hlength hbelow.length_le), FileSystem.isDirectory_iff.mp hdirectory]
        rfl
    · simp only [FileSystem.realDestination, if_neg hdirectory] at htarget
      cases htarget
      have hmovedNode := prepared.lookup_moveTree_destination hapart []
      rw [List.append_nil, List.append_nil, hsource] at hmovedNode
      rw [hmovedNode]
      rfl
  · intro above habove hnil
    have hbelow : above <+: places.sourcePath := habove.trans (List.prefix_append _ _)
    rw [prepared.lookup_moveTree_of_not_below (fun hunder => ?_)
      (fun hunder => hapart.2 (hunder.trans hbelow))]
    · exact hwidens.kept _ _ (hparent above habove hnil)
    · have hlength := (hunder.trans habove).length_le
      simp [RestorePlaces.sourcePath] at hlength

theorem DirectoriesTo.copyBackup (h : DirectoriesTo files places.sourceParent) :
    DirectoriesTo (copyBackup faults places files).1 places.sourceParent := by
  intro above habove hne
  rw [lookup_copyBackup (habove.trans (List.prefix_append _ _))]
  exact h above habove hne

/-! ## The handler -/

/-- The handler moves nothing to a source path at which something stands, or without a
quarantine path. -/
theorem restoreHandler_kept {quarantinePath : Option FsPath} {result : Option RestoreResult}
    (h : restoreHandler faults places left quarantinePath = (after, result))
    (hkept : quarantinePath = none ∨ (left.lookup places.sourcePath).isSome = true) :
    after.lookup places.sourcePath = left.lookup places.sourcePath := by
  have hclean : (deleteFile left faults.unlinkTemp places.tempRestorePath).1.lookup
      places.sourcePath = left.lookup places.sourcePath :=
    lookup_deleteFile_of_ne (tempRestorePath_ne_sourcePath places).symm
  unfold restoreHandler at h
  cases quarantinePath with
  | none =>
      cases h
      exact hclean
  | some quarantinePath =>
      have hsome := hkept.resolve_left (Option.some_ne_none _)
      simp only at h
      split at h
      · cases h
        exact hclean
      · split at h
        · next hback =>
            rw [hclean] at hback
            simp [Option.isNone_eq_false_iff.mpr hsome] at hback
        · cases h
          exact hclean

/-- Otherwise it moves back what stands in quarantine. -/
theorem restoreHandler_moves {result : RestoreResult}
    (h : restoreHandler faults places left (some places.quarantinePath) = (after, some result))
    (hne : places.quarantinePath ≠ places.sourcePath)
    (hfree : left.lookup places.sourcePath = none)
    (hquarantine : (left.lookup places.quarantinePath).isSome = true)
    (hparent : DirectoriesTo left places.sourceParent) :
    after.lookup places.sourcePath =
      if FileSystem.Apart places.quarantinePath places.sourcePath then
        movedTo faults.rollback (left.lookup places.quarantinePath) else none := by
  have hclean : ∀ {path}, path ≠ places.tempRestorePath →
      (deleteFile left faults.unlinkTemp places.tempRestorePath).1.lookup path =
        left.lookup path := lookup_deleteFile_of_ne
  have hsourceClean := hclean (tempRestorePath_ne_sourcePath places).symm
  have hquarantineClean := hclean (tempRestorePath_ne_quarantinePath places).symm
  unfold restoreHandler at h
  simp only at h
  split at h
  · cases h
  rw [if_pos (by rw [hquarantineClean, hsourceClean, hquarantine, hfree]; rfl)] at h
  cases h
  rw [lookup_moveFile_destination faults.rollback hne ?_ (hquarantineClean ▸ hquarantine)
    (hsourceClean ▸ hfree), hquarantineClean]
  rw [sourcePath_dropLast]
  intro above habove hnil
  rw [hclean]
  · exact hparent above habove hnil
  · rintro rfl
    exact tempRestorePath_not_above places (habove.trans (List.prefix_append _ _))
      List.prefix_rfl

/-! ## The restore -/

/-- The file in quarantine is apart from the source path, and the move back, as it ends,
leaves what stood there. -/
structure MovesBack (faults : RestoreFaults) (places : RestorePlaces)
    (files copied : FileSystem PyStr Nat) : Prop where
  apart : FileSystem.Apart places.quarantinePath places.sourcePath
  node : movedTo faults.rollback (copied.lookup places.quarantinePath) =
    files.lookup places.sourcePath

/-- If the backup replaces the source, what was copied is what stood there; and if a call
before that raises, what was moved to quarantine is moved back. -/
def RollsBack (faults : RestoreFaults) (places : RestorePlaces) (files : FileSystem PyStr Nat) :
    Prop :=
  ∀ prepared, (files.lookup places.backupPath).isSome = true →
    files.mkdirs places.sourceParent = some prepared →
    let (quarantined, _, moved) := quarantineSource faults places prepared
    let (copied, written) := copyBackup faults places quarantined
    let replaced := (replaceSource faults places copied).2
    moved = true →
      ((written && replaced) = true →
          files.lookup places.sourcePath = copied.lookup places.tempRestorePath) ∧
        ((written && replaced) = false → (files.lookup places.sourcePath).isSome = true →
          places.quarantinePath ≠ places.sourcePath → MovesBack faults places files copied)

/-- When a call before the replacement raises. -/
theorem restoreHandler_iff {result : RestoreResult}
    (hparent : DirectoriesTo files places.sourceParent)
    (hmoved : (quarantineSource faults places files).2.2 = true)
    (h : restoreHandler faults places
        (copyBackup faults places (quarantineSource faults places files).1).1
        (quarantineSource faults places files).2.1 = (after, some result)) :
    after.lookup places.sourcePath = files.lookup places.sourcePath ↔
      ((files.lookup places.sourcePath).isSome = true →
        places.quarantinePath ≠ places.sourcePath → MovesBack faults places files
          (copyBackup faults places (quarantineSource faults places files).1).1) := by
  have hcopied : (copyBackup faults places (quarantineSource faults places files).1).1.lookup
      places.sourcePath =
        (quarantineSource faults places files).1.lookup places.sourcePath :=
    lookup_copyBackup List.prefix_rfl
  by_cases haway : (files.lookup places.sourcePath).isSome = true ∧
      places.quarantinePath ≠ places.sourcePath
  · obtain ⟨hsome, hne⟩ := haway
    obtain ⟨hpath, hgone, hquarantine, hway⟩ := quarantineSource_moved hmoved hsome hne hparent
    rw [hpath] at h
    rw [restoreHandler_moves h hne (hcopied.trans hgone) (isSome_copy2 hquarantine) hway.copyBackup]
    constructor
    · intro hsame _ _
      split at hsame
      · next hapart => exact ⟨hapart, hsame⟩
      · rw [← hsame] at hsome
        cases hsome
    · intro hback
      obtain ⟨hapart, hnode⟩ := hback hsome hne
      rw [if_pos hapart, hnode]
  · have hstays : files.lookup places.sourcePath = none ∨
        places.quarantinePath = places.sourcePath := by
      by_cases hnone : files.lookup places.sourcePath = none
      · exact .inl hnone
      · refine .inr (by_contra fun hne => haway ⟨?_, hne⟩)
        exact Option.isSome_iff_ne_none.mpr hnone
    have hsame := hcopied.trans (quarantineSource_kept (.inr hstays))
    refine iff_of_true ?_ fun hsome hne => absurd ⟨hsome, hne⟩ haway
    rw [restoreHandler_kept h ?_, hsame]
    cases hpath : (quarantineSource faults places files).2.1 with
    | none => exact .inl rfl
    | some quarantinePath =>
        rw [hsame]
        exact .inr (quarantineSource_path hpath).2

/-- Where no directory stands at the quarantine path, what is moved there stands there. -/
theorem lookup_quarantined (hne : places.quarantinePath ≠ places.sourcePath)
    (hfree : files.isDirectory places.quarantinePath = false)
    (hmoved : (quarantineSource faults places files).2.2 = true)
    (hsome : (files.lookup places.sourcePath).isSome = true) :
    FileSystem.Apart places.sourcePath places.quarantinePath ∧
      (quarantineSource faults places files).1.lookup places.quarantinePath =
        files.lookup places.sourcePath := by
  unfold quarantineSource at hmoved ⊢
  split at hmoved
  · cases hmoved
  next hexists =>
  simp only [if_neg hexists, if_pos hsome] at hmoved ⊢
  exact lookup_moveFile_returned hmoved hne.symm hfree
    (List.append_ne_nil_of_right_ne_nil _ (by simp))
    hsome

/-- Where no directory stands at a quarantine path apart from the source path and from the
temporary file, a move back without errors leaves what stood at the source path. -/
theorem movesBack_of_apart (hapart : FileSystem.Apart places.quarantinePath places.sourcePath)
    (htemp : ¬ places.tempRestorePath <+: places.quarantinePath)
    (hfree : files.isDirectory places.quarantinePath = false)
    (hmoved : (quarantineSource faults places files).2.2 = true)
    (hsome : (files.lookup places.sourcePath).isSome = true) (hrollback : faults.rollback = none) :
    MovesBack faults places files
      (copyBackup faults places (quarantineSource faults places files).1).1 := by
  refine ⟨hapart, ?_⟩
  have hne : places.quarantinePath ≠ places.sourcePath := by
    intro hsame
    exact hapart.1 (hsame ▸ List.prefix_rfl)
  have hcopied : (copyBackup faults places (quarantineSource faults places files).1).1.lookup
      places.quarantinePath =
        (quarantineSource faults places files).1.lookup places.quarantinePath := by
    apply lookup_copy2
    intro hsame
    exact htemp (hsame ▸ tempRestorePath_prefix_copyTarget places _ _)
  rw [hrollback, hcopied, movedTo]
  exact (lookup_quarantined hne hfree hmoved hsome).2

/-- A restore that reports a failure leaves what stood at the source path if and only if the
error comes before the replacement and the move back from quarantine comes to its end, or
what was written is what stood there. -/
theorem failed_restore_keeps_source_iff {result : RestoreResult}
    (h : restoreOne hash faults places files = (after, some result))
    (hfailed : result.resultStatus = .failed) :
    after.lookup places.sourcePath = files.lookup places.sourcePath ↔
      RollsBack faults places files := by
  unfold restoreOne at h
  split at h
  · cases h
  split at h
  · next hmissing =>
      cases h
      refine iff_of_true rfl fun prepared hbackup => ?_
      rw [Option.isNone_iff_eq_none.mp hmissing] at hbackup
      cases hbackup
  next hbackup =>
  have hbackup : (files.lookup places.backupPath).isSome = true := by
    simpa [Option.isSome_iff_ne_none] using hbackup
  split at h
  · cases h
  next prepared hprepared =>
  have hbefore := lookup_mkdirs_sourcePath hprepared
  rw [← hbefore]
  have hrolls : RollsBack faults places files ↔
      let (quarantined, _, moved) := quarantineSource faults places prepared
      let (copied, written) := copyBackup faults places quarantined
      let replaced := (replaceSource faults places copied).2
      moved = true →
        ((written && replaced) = true →
            prepared.lookup places.sourcePath = copied.lookup places.tempRestorePath) ∧
          ((written && replaced) = false → (prepared.lookup places.sourcePath).isSome = true →
            places.quarantinePath ≠ places.sourcePath →
              MovesBack faults places prepared copied) := by
    have hback : ∀ copied, MovesBack faults places prepared copied ↔
        MovesBack faults places files copied := fun copied =>
      ⟨fun hback => ⟨hback.apart, hback.node.trans hbefore⟩,
        fun hback => ⟨hback.apart, hback.node.trans hbefore.symm⟩⟩
    simp only [hbefore, hback]
    refine ⟨fun hrolls => hrolls prepared hbackup hprepared, fun hrolls other _ hother => ?_⟩
    cases hprepared.symm.trans hother
    exact hrolls
  rw [hrolls]
  unfold restoreAttempt at h
  have hmove := @quarantineSource_kept faults places prepared
  have hpath := @quarantineSource_path faults places prepared
  have hhandler := @restoreHandler_iff faults places prepared after result
    (directoriesTo_of_mkdirs hprepared)
  generalize quarantineSource faults places prepared = step at h hmove hpath hhandler ⊢
  obtain ⟨quarantined, quarantinePath, moved⟩ := step
  simp only at h hmove hpath hhandler ⊢
  cases moved with
  | false =>
      have hsame := hmove (.inl rfl)
      refine iff_of_true ?_ fun hmoved => by cases hmoved
      rw [restoreHandler_kept h ?_, hsame]
      cases quarantinePath with
      | none => exact .inl rfl
      | some path =>
          rw [hsame]
          exact .inr (hpath rfl).2
  | true =>
      specialize hhandler rfl
      simp only at h
      generalize copyBackup faults places quarantined = step at h hhandler ⊢
      obtain ⟨copied, written⟩ := step
      simp only at h hhandler ⊢
      cases written with
      | false => simpa using hhandler h
      | true =>
          have hreturned := @osReplace_returned copied places.tempRestorePath places.sourcePath
            faults.replace
          have hraised := @osReplace_raised copied places.tempRestorePath places.sourcePath
            faults.replace
          have hsome := @osReplace_isSome copied places.tempRestorePath places.sourcePath
            faults.replace
          simp only [replaceSource] at h ⊢
          generalize osReplace copied faults.replace places.tempRestorePath places.sourcePath =
            step at h hreturned hraised hsome ⊢
          obtain ⟨replaced, renamed⟩ := step
          simp only at h hreturned hraised hsome ⊢
          cases renamed with
          | false =>
              simp only [hraised rfl] at h
              simpa using hhandler h
          | true =>
              simp only [Bool.and_self, forall_const, Bool.true_eq_false, IsEmpty.forall_iff,
                and_true] at h ⊢
              cases hagree : hashesAgree hash faults places replaced with
              | true =>
                  rw [hagree] at h
                  cases h
                  cases hfailed
              | false =>
                  rw [hagree] at h
                  simp only at h
                  rw [restoreHandler_kept h (.inr ?_), hreturned rfl]
                  · exact eq_comm
                  · rw [hreturned rfl]
                    exact hsome rfl

end Attempt


/-! ## A copy that differs -/

def librarySource : RestorePlaces where
  sourceRoot := [py "library"]
  backupRoot := [py "backup"]
  quarantineRoot := [py "quarantine"]
  folder := []
  name := py "a.jpg"

/-- The library and the backup each have an `a.jpg`. -/
def libraryFiles : FileSystem PyStr Nat :=
  ⟨[([py "library"], .directory), ([py "library", py "a.jpg"], .file 1),
    ([py "backup"], .directory), ([py "backup", py "a.jpg"], .file 2)], by decide⟩

def restoreFaults (copy : CopyFault) : RestoreFaults where
  start := false
  sourceExists := false
  move := none
  copy := some copy
  replace := false
  hashSource := none
  hashBackup := none
  unlinkTemp := false
  rollbackCheck := false
  rollback := none
  error := []

/-- A copy that breaks off is rolled back. -/
theorem failed_restore_keeps_source_copy_raises :
    ∃ after result,
      restoreOne PyStr.decimal (restoreFaults (.raises (some 7))) librarySource libraryFiles =
          (after, some result) ∧ result.resultStatus = .failed ∧
        (after.lookup librarySource.sourcePath = libraryFiles.lookup librarySource.sourcePath ↔
          RollsBack (restoreFaults (.raises (some 7))) librarySource libraryFiles) ∧
        after.lookup librarySource.sourcePath = some (.file 1) := by
  obtain ⟨after, result, h⟩ : ∃ after result, restoreOne PyStr.decimal
      (restoreFaults (.raises (some 7))) librarySource libraryFiles = (after, some result) :=
    ⟨_, _, rfl⟩
  have hfailed : (restoreOne PyStr.decimal (restoreFaults (.raises (some 7))) librarySource
      libraryFiles).2.map (·.resultStatus) = some .failed := by decide
  have hkept : (restoreOne PyStr.decimal (restoreFaults (.raises (some 7))) librarySource
      libraryFiles).1.lookup librarySource.sourcePath = some (.file 1) := by decide
  rw [h] at hfailed hkept
  have hstatus : result.resultStatus = .failed := Option.some.inj hfailed
  exact ⟨after, result, h, hstatus, failed_restore_keeps_source_iff h hstatus, hkept⟩

/-- A copy with other content is found by its hash and stays in the place of the old file. -/
theorem mismatched_copy_stays :
    ¬ ∀ (hash : Nat → PyStr) (faults : RestoreFaults) (places : RestorePlaces)
      (files after : FileSystem PyStr Nat) (result : RestoreResult),
      restoreOne hash faults places files = (after, some result) →
        result.resultStatus = .failed →
          after.lookup places.sourcePath = files.lookup places.sourcePath := by
  intro h
  obtain ⟨after, result, hrun⟩ : ∃ after result, restoreOne PyStr.decimal
      (restoreFaults (.alters 3)) librarySource libraryFiles = (after, some result) :=
    ⟨_, _, rfl⟩
  have hfailed : (restoreOne PyStr.decimal (restoreFaults (.alters 3)) librarySource
      libraryFiles).2.map (·.resultStatus) = some .failed := by decide
  have hleft : (restoreOne PyStr.decimal (restoreFaults (.alters 3)) librarySource
      libraryFiles).1.lookup librarySource.sourcePath ≠
        libraryFiles.lookup librarySource.sourcePath := by decide
  rw [hrun] at hfailed hleft
  exact hleft (h _ _ _ _ _ _ hrun (Option.some.inj hfailed))

end ImmichDoctor.Services
