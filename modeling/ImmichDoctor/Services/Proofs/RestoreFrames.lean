import ImmichDoctor.Library.Transition
import ImmichDoctor.Services.Proofs.AssetComparison
/-!
# What a selective restore leaves alone

A restore moves what stands at the source path to quarantine and writes a temporary file beside
it. Everything else stays, as long as nothing stands at these places before. Over the loop of
`restore_items` every file of the source is then where it was, or in a quarantine of its own.
-/

namespace ImmichDoctor.Services

open ImmichDoctor.Library
open ImmichDoctor.Backup
open ImmichDoctor.Catalog

/-! ## Calls -/

section Calls

variable {files : FileSystem PyStr Nat} {source destination path : FsPath} {node : FsNode Nat}

theorem lookup_osReplace_apart {fault : Bool} (hsource : ¬ source <+: path)
    (hdestination : ¬ destination <+: path) :
    (osReplace files fault source destination).1.lookup path = files.lookup path := by
  unfold osReplace
  split
  · exact files.lookup_moveTree_of_not_below hsource hdestination
  · rfl

end Calls

/-! ## Other files -/

section Others

variable {hash : Nat → PyStr} {faults : RestoreFaults} {places : RestorePlaces}
  {files : FileSystem PyStr Nat} {path : FsPath} {node : FsNode Nat}

theorem kept_quarantineSource (h : files.lookup path = some node)
    (hsource : ¬ places.sourcePath <+: path)
    (hquarantine : (files.lookup places.sourcePath).isSome = true →
      ¬ places.quarantinePath <+: path) :
    (quarantineSource faults places files).1.lookup path = some node := by
  unfold quarantineSource
  split
  · exact h
  split
  · next hsome => exact kept_moveFile _ h hsource (hquarantine hsome)
  · exact h

theorem lookup_copyBackup_of_not_below (htemp : ¬ places.tempRestorePath <+: path) :
    (copyBackup faults places files).1.lookup path = files.lookup path := by
  apply lookup_copy2
  rintro rfl
  exact htemp (tempRestorePath_prefix_copyTarget places _ _)

theorem kept_restoreHandler {quarantinePath : Option FsPath} (h : files.lookup path = some node)
    (hsource : ¬ places.sourcePath <+: path) (htemp : ¬ places.tempRestorePath <+: path)
    (hquarantine : ∀ place, quarantinePath = some place → ¬ place <+: path) :
    (restoreHandler faults places files quarantinePath).1.lookup path = some node := by
  have hclean : (deleteFile files faults.unlinkTemp places.tempRestorePath).1.lookup path =
      some node := by
    rw [lookup_deleteFile_of_ne, h]
    rintro rfl
    exact htemp List.prefix_rfl
  unfold restoreHandler
  cases quarantinePath with
  | none => exact hclean
  | some place =>
      simp only
      split
      · exact hclean
      split
      · exact kept_moveFile _ hclean (hquarantine place rfl) hsource
      · exact hclean

theorem kept_restoreAttempt (h : files.lookup path = some node)
    (hsource : ¬ places.sourcePath <+: path) (htemp : ¬ places.tempRestorePath <+: path)
    (hquarantine : (files.lookup places.sourcePath).isSome = true →
      ¬ places.quarantinePath <+: path) :
    (restoreAttempt hash faults places files).1.lookup path = some node ∧
      ∀ place, (restoreAttempt hash faults places files).2.1 = some place → ¬ place <+: path := by
  have hkept := @kept_quarantineSource faults places files path node h hsource hquarantine
  have hplace : ∀ place, (quarantineSource faults places files).2.1 = some place →
      ¬ place <+: path := by
    intro place hsome
    obtain ⟨rfl, hexists⟩ := quarantineSource_path hsome
    exact hquarantine hexists
  unfold restoreAttempt
  rcases hmove : quarantineSource faults places files with ⟨quarantined, quarantinePath, moved⟩
  rw [hmove] at hkept hplace
  cases moved with
  | false => exact ⟨hkept, hplace⟩
  | true =>
      have hcopied : (copyBackup faults places quarantined).1.lookup path = some node :=
        (lookup_copyBackup_of_not_below htemp).trans hkept
      simp only
      rcases hcopy : copyBackup faults places quarantined with ⟨copied, written⟩
      rw [hcopy] at hcopied
      cases written with
      | false => exact ⟨hcopied, hplace⟩
      | true =>
          have hreplaced : (replaceSource faults places copied).1.lookup path = some node :=
            (lookup_osReplace_apart htemp hsource).trans hcopied
          simp only
          rcases hreplace : replaceSource faults places copied with ⟨replaced, renamed⟩
          rw [hreplace] at hreplaced
          cases renamed with
          | false => exact ⟨hreplaced, hplace⟩
          | true => exact ⟨hreplaced, hplace⟩

/-- A restore keeps what is not at or below the source path, the temporary file or, when
something stands at the source path, the quarantine path. -/
theorem kept_restoreOne (h : files.lookup path = some node)
    (hsource : ¬ places.sourcePath <+: path) (htemp : ¬ places.tempRestorePath <+: path)
    (hquarantine : (files.lookup places.sourcePath).isSome = true →
      ¬ places.quarantinePath <+: path) :
    (restoreOne hash faults places files).1.lookup path = some node := by
  unfold restoreOne
  split
  · exact h
  split
  · exact h
  cases hprepared : files.mkdirs places.sourceParent with
  | none => exact h
  | some prepared =>
      have hkept := (FileSystem.widens_foldlM_mkdir hprepared).1.kept path node h
      rw [← lookup_mkdirs_sourcePath hprepared] at hquarantine
      obtain ⟨hattempt, hplace⟩ := @kept_restoreAttempt hash faults places prepared path node hkept
        hsource htemp hquarantine
      simp only
      rcases hresult : restoreAttempt hash faults places prepared with ⟨left, quarantinePath, ended⟩
      rw [hresult] at hattempt hplace
      cases ended with
      | true => exact hattempt
      | false => exact kept_restoreHandler hattempt hsource htemp hplace

end Others

/-! ## The file at the source path -/

section Source

variable {hash : Nat → PyStr} {faults : RestoreFaults} {places : RestorePlaces}
  {files prepared quarantined copied : FileSystem PyStr Nat} {path : FsPath} {content : Nat}

/-- The hash of a file with this content, as it is read. -/
def readHash (hash : Nat → PyStr) : Option ReadFault → Nat → Option PyStr
  | none, content => some (hash content)
  | some (.reads other), _ => some (hash other)
  | some .raises, _ => none

/-- What comes to the source path; `none` when the copy or the replacement raises. -/
def replacement (faults : RestoreFaults) (backup : Option (FsNode Nat)) : Option Nat :=
  match copyEffect faults.copy backup none with
  | (some written, true) => if faults.replace then none else some written
  | _ => none

/-- The backup comes to the source path and both are read with the same hash, or an error comes
before that and the move back from quarantine leaves the file at the source path. -/
def Settles (hash : Nat → PyStr) (faults : RestoreFaults) (content : Nat)
    (backup : Option (FsNode Nat)) : Prop :=
  match replacement faults backup with
  | some written => ∃ original text, backup = some (.file original) ∧
      readHash hash faults.hashSource written = some text ∧
        readHash hash faults.hashBackup original = some text
  | none => faults.rollbackCheck = false ∧
      movedTo faults.rollback (some (.file content)) = some (.file content)

/-- What stands at the source path is moved to quarantine. -/
structure Quarantines (faults : RestoreFaults) (places : RestorePlaces)
    (files : FileSystem PyStr Nat) : Prop where
  exists_ : faults.sourceExists = false
  move : faults.move = none
  parent : (files.mkdirs places.quarantinePath.dropLast).isSome = true

/-- A restore that finds its places free: the temporary file, the quarantine path, and the source
path but for a file; that does not move what is `taken`; and that settles what it has moved. -/
structure RestoreClear (hash : Nat → PyStr) (faults : RestoreFaults) (places : RestorePlaces)
    (taken : List FsPath) (files : FileSystem PyStr Nat) : Prop where
  temp : files.vacant places.tempRestorePath = true
  quarantine : (files.lookup places.sourcePath).isSome = true →
    files.vacant places.quarantinePath = true ∧
      ¬ places.tempRestorePath <+: places.quarantinePath
  below : ∀ path content, places.sourcePath <+: path →
    files.lookup path = some (.file content) → path = places.sourcePath
  taken : ∀ path ∈ taken, ¬ places.sourcePath <+: path
  settles : ∀ content, files.lookup places.sourcePath = some (.file content) →
    Quarantines faults places files → Settles hash faults content (files.lookup places.backupPath)

theorem hashFile_file {fault : Option ReadFault} (h : files.lookup path = some (.file content)) :
    hashFile hash files fault path = readHash hash fault content := by
  unfold hashFile
  rw [h]
  cases fault with
  | none => rfl
  | some fault => cases fault <;> rfl

theorem apart_temp_source (places : RestorePlaces) :
    FileSystem.Apart places.tempRestorePath places.sourcePath := by
  refine ⟨tempRestorePath_not_above places List.prefix_rfl, fun h => ?_⟩
  have hlength : places.sourcePath.length = places.tempRestorePath.length := by
    simp [RestorePlaces.tempRestorePath, RestorePlaces.sourcePath]
  exact tempRestorePath_ne_sourcePath places (h.eq_of_length hlength).symm

theorem tempRestorePath_not_prefix_sourceParent (places : RestorePlaces) :
    ¬ places.tempRestorePath <+: places.sourceParent := fun h =>
  tempRestorePath_not_above places (h.trans (List.prefix_append _ _)) List.prefix_rfl

/-- Directories on the way elsewhere are all that is new. -/
theorem lookup_none_of_mkdirs {parent : FsPath} (h : files.mkdirs parent = some prepared)
    (hpath : ¬ path <+: parent) (hnone : files.lookup path = none) : prepared.lookup path = none :=
  (FileSystem.lookup_mkdirs h hpath).trans hnone

/-- A move to quarantine that is done has met no error. -/
theorem quarantines_of_moved (hprepared : files.mkdirs places.sourceParent = some prepared)
    (hsome : (prepared.lookup places.sourcePath).isSome = true)
    (hne : places.quarantinePath ≠ places.sourcePath)
    (hmoved : (quarantineSource faults places prepared).2.2 = true) :
    Quarantines faults places files := by
  unfold quarantineSource at hmoved
  split at hmoved
  · cases hmoved
  next hexists =>
  simp only at hmoved
  obtain ⟨made, hmade, -⟩ := moveFile_returned hmoved
  refine ⟨Bool.eq_false_iff.mpr hexists, fault_of_moveFile_returned hmoved hne.symm, ?_⟩
  have hparents : (prepared.mkdirs places.quarantinePath.dropLast).isSome = true := by
    rw [hmade]
    rfl
  rw [FileSystem.isSome_mkdirs_iff] at hparents ⊢
  intro above habove hnil
  cases hlookup : files.lookup above with
  | none => exact .inl rfl
  | some node =>
      have hkept := (FileSystem.widens_foldlM_mkdir hprepared).1.kept above node hlookup
      have hdirectory := hparents above habove hnil
      rw [hkept] at hdirectory
      exact hdirectory

/-- The move to quarantine puts nothing where the temporary file goes. -/
theorem lookup_temp_of_moved (hsome : (files.lookup places.sourcePath).isSome = true)
    (htemp : files.lookup places.tempRestorePath = none)
    (hquarantine : ¬ places.tempRestorePath <+: places.quarantinePath)
    (hfree : files.vacant places.quarantinePath = true)
    (hmoved : (quarantineSource faults places files).2.2 = true) :
    (quarantineSource faults places files).1.lookup places.tempRestorePath = none := by
  have hbelow : ¬ places.quarantinePath <+: places.tempRestorePath := by
    intro habove
    have hparent : places.quarantinePath <+: places.sourceParent := by
      have hdrop := prefix_dropLast habove (tempRestorePath_ne_quarantinePath places).symm
      rwa [RestorePlaces.tempRestorePath, List.dropLast_concat] at hdrop
    have hnone := FileSystem.vacant_iff.mp hfree places.sourcePath
      (hparent.trans (List.prefix_append _ _))
    rw [hnone] at hsome
    cases hsome
  unfold quarantineSource at hmoved ⊢
  split at hmoved
  · cases hmoved
  next hexists =>
  simp only [if_neg hexists, if_pos hsome] at hmoved ⊢
  obtain ⟨made, hmade, hmove⟩ := moveFile_returned hmoved
  rw [hmove, lookup_shutilMove_apart _ (apart_temp_source places).2 hbelow]
  exact lookup_none_of_mkdirs hmade
    (fun hdrop => hquarantine (hdrop.trans (List.dropLast_prefix _))) htemp

/-- After the move to quarantine: the file stands there, and the temporary file and the source
path are free. -/
structure InQuarantine (places : RestorePlaces) (content : Nat) (backup : Option (FsNode Nat))
    (files : FileSystem PyStr Nat) : Prop where
  source : files.lookup places.sourcePath = none
  quarantine : files.lookup places.quarantinePath = some (.file content)
  temp : files.lookup places.tempRestorePath = none
  backup : files.lookup places.backupPath = backup
  way : DirectoriesTo files places.sourceParent

/-- The copy goes to the temporary file. -/
theorem copyBackup_eq {backup : Option (FsNode Nat)} (h : InQuarantine places content backup files)
    (hne : places.backupPath ≠ places.tempRestorePath) :
    copyBackup faults places files =
      (((copyEffect faults.copy backup none).1.map fun written =>
          files.set places.tempRestorePath (.file written)).getD files,
        (copyEffect faults.copy backup none).2) := by
  have htarget : copyTarget files places.backupPath places.tempRestorePath =
      places.tempRestorePath := by
    unfold copyTarget FileSystem.isDirectory
    rw [h.temp]
    rfl
  unfold copyBackup
  rw [copy2_eq (by rw [htarget]; exact hne)]
  simp only [htarget, h.temp, h.backup]

theorem replaceSource_eq {written : Nat} (hsource : files.lookup places.sourcePath = none)
    (htemp : files.lookup places.tempRestorePath = some (.file written)) :
    replaceSource faults places files =
      if faults.replace then (files, false)
      else (files.moveTree places.tempRestorePath places.sourcePath, true) := by
  have hreplaceable : replaceable files places.tempRestorePath places.sourcePath = true := by
    unfold replaceable
    rw [hsource]
  unfold replaceSource osReplace
  cases faults.replace with
  | true => rfl
  | false =>
      rw [if_pos ⟨rfl, by rw [htemp]; rfl, apart_temp_source places, hreplaceable⟩]
      rfl

/-- The handler moves the file back. -/
theorem lookup_restoreHandler_back
    (hapart : FileSystem.Apart places.quarantinePath places.sourcePath)
    (hsource : files.lookup places.sourcePath = none)
    (hquarantine : files.lookup places.quarantinePath = some (.file content))
    (hway : DirectoriesTo files places.sourceParent) (hcheck : faults.rollbackCheck = false)
    (hback : movedTo faults.rollback (some (.file content)) = some (.file content)) :
    (restoreHandler faults places files (some places.quarantinePath)).1.lookup places.sourcePath =
      some (.file content) := by
  obtain ⟨after, result, hresult⟩ : ∃ after result,
      restoreHandler faults places files (some places.quarantinePath) = (after, some result) := by
    unfold restoreHandler
    simp only [hcheck, Bool.false_eq_true, if_false]
    split
    · exact ⟨_, _, rfl⟩
    · exact ⟨_, _, rfl⟩
  have hne : places.quarantinePath ≠ places.sourcePath := by
    intro hsame
    exact hapart.1 (hsame ▸ List.prefix_rfl)
  have hmoves := restoreHandler_moves hresult hne hsource (by rw [hquarantine]; rfl) hway
  rw [hresult, hmoves, if_pos hapart, hquarantine, hback]

theorem replacement_eq_some {backup : Option (FsNode Nat)} {written : Nat} :
    replacement faults backup = some written ↔
      copyEffect faults.copy backup none = (some written, true) ∧ faults.replace = false := by
  unfold replacement
  split
  · next other heffect =>
      rw [heffect]
      cases faults.replace with
      | true => simp
      | false => simp
  · next hnot =>
      refine iff_of_false (Option.some_ne_none _).symm fun h => ?_
      exact hnot _ h.1

/-- The copy or the replacement raises. -/
theorem restoreAttempt_raised {backup : Option (FsNode Nat)}
    (hmove : quarantineSource faults places prepared =
      (quarantined, some places.quarantinePath, true))
    (h : InQuarantine places content backup quarantined)
    (hne : places.backupPath ≠ places.tempRestorePath) (hnone : replacement faults backup = none) :
    restoreAttempt hash faults places prepared =
      ((copyBackup faults places quarantined).1, some places.quarantinePath, false) := by
  unfold restoreAttempt
  rw [hmove]
  simp only
  rw [copyBackup_eq h hne]
  cases hreturned : (copyEffect faults.copy backup none).2 with
  | false => rfl
  | true =>
      obtain ⟨written, heffect, -⟩ := copyEffect_returns hreturned
      have hreplace : faults.replace = true := by
        by_contra hnot
        have hsome := replacement_eq_some.mpr ⟨heffect, Bool.eq_false_iff.mpr hnot⟩
        rw [hnone] at hsome
        cases hsome
      simp only [heffect, Option.map_some, Option.getD_some]
      rw [@replaceSource_eq faults places _ written, hreplace]
      · rfl
      · rw [FileSystem.lookup_set, if_neg (tempRestorePath_ne_sourcePath places).symm, h.source]
      · rw [FileSystem.lookup_set, if_pos rfl]

/-- The state in which the copy has come to the source path. -/
def replacedFiles (places : RestorePlaces) (written : Nat) (files : FileSystem PyStr Nat) :
    FileSystem PyStr Nat :=
  (files.set places.tempRestorePath (.file written)).moveTree places.tempRestorePath
    places.sourcePath

/-- The backup comes to the source path. -/
theorem restoreAttempt_replaced {backup : Option (FsNode Nat)} {written : Nat}
    (hmove : quarantineSource faults places prepared =
      (quarantined, some places.quarantinePath, true))
    (h : InQuarantine places content backup quarantined)
    (hne : places.backupPath ≠ places.tempRestorePath)
    (hsome : replacement faults backup = some written) :
    restoreAttempt hash faults places prepared =
      (replacedFiles places written quarantined, some places.quarantinePath,
        hashesAgree hash faults places (replacedFiles places written quarantined)) := by
  obtain ⟨heffect, hreplace⟩ := replacement_eq_some.mp hsome
  unfold restoreAttempt
  rw [hmove]
  simp only
  rw [copyBackup_eq h hne, heffect]
  simp only [Option.map_some, Option.getD_some]
  rw [@replaceSource_eq faults places _ written, hreplace]
  · rfl
  · rw [FileSystem.lookup_set, if_neg (tempRestorePath_ne_sourcePath places).symm, h.source]
  · rw [FileSystem.lookup_set, if_pos rfl]

/-- The places of a restore whose backup is elsewhere. -/
structure BackupApart (places : RestorePlaces) : Prop where
  source : ¬ places.sourcePath <+: places.backupPath
  temp : ¬ places.tempRestorePath <+: places.backupPath

theorem backupApart (h : FileSystem.Apart places.sourceRoot places.backupRoot) :
    BackupApart places := by
  have hbackup : places.backupRoot <+: places.backupPath :=
    (List.prefix_append _ _).trans (List.prefix_append _ _)
  have hparent : places.sourceRoot <+: places.sourceParent := List.prefix_append _ _
  refine ⟨fun hsource => ?_, fun htemp => ?_⟩
  · exact h.symm.not_below hbackup (hparent.trans ((List.prefix_append _ _).trans hsource))
  · exact h.symm.not_below hbackup (hparent.trans ((List.prefix_append _ _).trans htemp))

/-- What the replacement leaves: the copy at the source path, and the rest as it was. -/
theorem lookup_replaced {written : Nat} (h : path = places.sourcePath ∨
      ¬ places.sourcePath <+: path ∧ ¬ places.tempRestorePath <+: path) :
    (replacedFiles places written files).lookup path =
      if path = places.sourcePath then some (.file written) else files.lookup path := by
  unfold replacedFiles
  rcases h with rfl | ⟨hsource, htemp⟩
  · have hmoved := (files.set places.tempRestorePath (.file written)).lookup_moveTree_destination
      (apart_temp_source places) []
    rw [List.append_nil, List.append_nil, FileSystem.lookup_set, if_pos rfl] at hmoved
    rw [hmoved, if_pos rfl]
  · rw [FileSystem.lookup_moveTree_of_not_below _ htemp hsource, FileSystem.lookup_set, if_neg,
      if_neg]
    · rintro rfl
      exact hsource List.prefix_rfl
    · rintro rfl
      exact htemp List.prefix_rfl

/-- Once the file is in quarantine the attempt comes to its end, or the handler moves it back. -/
theorem settled_of_inQuarantine {backup : Option (FsNode Nat)}
    (hmove : quarantineSource faults places prepared =
      (quarantined, some places.quarantinePath, true))
    (h : InQuarantine places content backup quarantined)
    (hquarantine : FileSystem.Apart places.quarantinePath places.sourcePath)
    (htemp : ¬ places.tempRestorePath <+: places.quarantinePath) (hbackup : BackupApart places)
    (hsettles : Settles hash faults content backup) :
    (∃ replaced, restoreAttempt hash faults places prepared =
        (replaced, some places.quarantinePath, true) ∧
          replaced.lookup places.quarantinePath = some (.file content)) ∨
      ∃ left, restoreAttempt hash faults places prepared =
        (left, some places.quarantinePath, false) ∧
          (restoreHandler faults places left (some places.quarantinePath)).1.lookup
            places.sourcePath = some (.file content) := by
  have hne : places.backupPath ≠ places.tempRestorePath := by
    intro hsame
    exact hbackup.temp (hsame ▸ List.prefix_rfl)
  unfold Settles at hsettles
  cases hreplacement : replacement faults backup with
  | none =>
      rw [hreplacement] at hsettles
      right
      refine ⟨_, restoreAttempt_raised hmove h hne hreplacement, ?_⟩
      apply lookup_restoreHandler_back hquarantine _ _ h.way.copyBackup hsettles.1 hsettles.2
      · rw [lookup_copyBackup List.prefix_rfl, h.source]
      · rw [lookup_copyBackup_of_not_below htemp, h.quarantine]
  | some written =>
      rw [hreplacement] at hsettles
      obtain ⟨original, text, horiginal, hwritten, hread⟩ := hsettles
      left
      have hattempt := @restoreAttempt_replaced hash faults places _ _ _ backup written hmove h hne
        hreplacement
      have hlookup := fun path => @lookup_replaced places quarantined path written
      have hagree : hashesAgree hash faults places (replacedFiles places written quarantined) =
          true := by
        have hsource := hlookup places.sourcePath (.inl rfl)
        have hother := hlookup places.backupPath (.inr ⟨hbackup.source, hbackup.temp⟩)
        rw [if_pos rfl] at hsource
        have hbackupNe : places.backupPath ≠ places.sourcePath := by
          intro hsame
          exact hbackup.source (hsame ▸ List.prefix_rfl)
        rw [if_neg hbackupNe, h.backup, horiginal] at hother
        unfold hashesAgree
        rw [hashFile_file hsource, hashFile_file hother, hwritten, hread]
        simp
      rw [hagree] at hattempt
      refine ⟨_, hattempt, ?_⟩
      have hquarantineNe : places.quarantinePath ≠ places.sourcePath := by
        intro hsame
        exact hquarantine.1 (hsame ▸ List.prefix_rfl)
      rw [hlookup places.quarantinePath (.inr ⟨hquarantine.2, htemp⟩), if_neg hquarantineNe,
        h.quarantine]

/-- With something at the source path the quarantine path is free, and still is when the
directories are made. -/
theorem RestoreClear.quarantine_free {taken : List FsPath}
    (h : RestoreClear hash faults places taken files)
    (hprepared : files.mkdirs places.sourceParent = some prepared)
    (hsome : (prepared.lookup places.sourcePath).isSome = true) :
    prepared.vacant places.quarantinePath = true ∧ places.quarantinePath ≠ places.sourcePath ∧
      ¬ places.tempRestorePath <+: places.quarantinePath := by
  rw [lookup_mkdirs_sourcePath hprepared] at hsome
  obtain ⟨hfree, htemp⟩ := h.quarantine hsome
  have hnot : ¬ places.quarantinePath <+: places.sourcePath := by
    intro hbelow
    rw [FileSystem.vacant_iff.mp hfree _ hbelow] at hsome
    cases hsome
  refine ⟨?_, fun hsame => hnot (hsame ▸ List.prefix_rfl), htemp⟩
  rw [FileSystem.vacant_iff] at hfree ⊢
  intro other hbelow
  refine lookup_none_of_mkdirs hprepared (fun hparent => hnot ?_) (hfree other hbelow)
  exact (hbelow.trans hparent).trans (List.prefix_append _ _)

theorem isDirectory_of_vacant (h : files.vacant path = true) : files.isDirectory path = false := by
  unfold FileSystem.isDirectory
  rw [FileSystem.vacant_iff.mp h _ List.prefix_rfl]

/-- A move to quarantine that is done leaves the file there, with its places free. -/
theorem inQuarantine_of_moved {taken : List FsPath}
    (hclear : RestoreClear hash faults places taken files)
    (hbackup : BackupApart places) (hexists : (files.lookup places.backupPath).isSome = true)
    (hprepared : files.mkdirs places.sourceParent = some prepared)
    (hsource : prepared.lookup places.sourcePath = some (.file content))
    (hmoved : (quarantineSource faults places prepared).2.2 = true) :
    FileSystem.Apart places.sourcePath places.quarantinePath ∧
      (quarantineSource faults places prepared).2.1 = some places.quarantinePath ∧
        InQuarantine places content (files.lookup places.backupPath)
          (quarantineSource faults places prepared).1 := by
  have hsome : (prepared.lookup places.sourcePath).isSome = true := by
    rw [hsource]
    rfl
  obtain ⟨hstill, hne, htemp⟩ := hclear.quarantine_free hprepared hsome
  obtain ⟨hapart, hthere⟩ :=
    lookup_quarantined hne (isDirectory_of_vacant hstill) hmoved hsome
  obtain ⟨hpath, hgone, -, hway⟩ :=
    quarantineSource_moved hmoved hsome hne (directoriesTo_of_mkdirs hprepared)
  refine ⟨hapart, hpath, hgone, hthere.trans hsource, ?_, ?_, hway⟩
  · apply lookup_temp_of_moved hsome _ htemp hstill hmoved
    exact lookup_none_of_mkdirs hprepared (tempRestorePath_not_prefix_sourceParent places)
      (FileSystem.vacant_iff.mp hclear.temp _ List.prefix_rfl)
  · obtain ⟨node, hnode⟩ := Option.isSome_iff_exists.mp hexists
    rw [hnode]
    have hkept := (FileSystem.widens_foldlM_mkdir hprepared).1.kept _ _ hnode
    refine kept_quarantineSource hkept hbackup.source fun _ hbelow => ?_
    have hnone := FileSystem.vacant_iff.mp hstill _ hbelow
    rw [hkept] at hnone
    cases hnone

/-- After the restore the file is at the source path, or the asset is restored and the file is in
quarantine. -/
theorem source_or_quarantine {taken : List FsPath}
    (hclear : RestoreClear hash faults places taken files)
    (hbackup : BackupApart places)
    (hsource : files.lookup places.sourcePath = some (.file content)) :
    (restoreOne hash faults places files).1.lookup places.sourcePath = some (.file content) ∨
      (∃ restored, (restoreOne hash faults places files).2 = some restored ∧
        restored.resultStatus = .restored ∧
          restored.quarantinePath = some places.quarantinePath) ∧
        (restoreOne hash faults places files).1.lookup places.quarantinePath =
          some (.file content) := by
  unfold restoreOne
  split
  · exact .inl hsource
  split
  · exact .inl hsource
  next hexists =>
  have hexists : (files.lookup places.backupPath).isSome = true := by
    simpa [Option.isSome_iff_ne_none] using hexists
  cases hprepared : files.mkdirs places.sourceParent with
  | none => exact .inl hsource
  | some prepared =>
      have hbefore := (lookup_mkdirs_sourcePath hprepared).trans hsource
      have hmovedCase :=
        @inQuarantine_of_moved hash faults places files prepared content taken hclear
        hbackup hexists hprepared hbefore
      simp only
      rcases hmove :
        quarantineSource faults places prepared with ⟨quarantined, quarantinePath, moved⟩
      rw [hmove] at hmovedCase
      cases moved with
      | false =>
          -- the move has raised, and the handler leaves the file alone
          have hkept := @quarantineSource_kept faults places prepared
          rw [hmove] at hkept
          have hthere : quarantined.lookup places.sourcePath = some (.file content) :=
            (hkept (.inl rfl)).trans hbefore
          have hattempt : restoreAttempt hash faults places prepared =
              (quarantined, quarantinePath, false) := by
            unfold restoreAttempt
            rw [hmove]
          rw [hattempt]
          refine .inl ((restoreHandler_kept rfl (.inr ?_)).trans hthere)
          rw [hthere]
          rfl
      | true =>
          obtain ⟨hapart, rfl, hin⟩ := hmovedCase rfl
          have hsome : (prepared.lookup places.sourcePath).isSome = true := by
            rw [hbefore]
            rfl
          have hne : places.quarantinePath ≠ places.sourcePath := by
            intro hsame
            exact hapart.1 (hsame ▸ List.prefix_rfl)
          have hquarantines := quarantines_of_moved hprepared hsome hne (by rw [hmove])
          have hsettles := hclear.settles content hsource hquarantines
          have htemp := (hclear.quarantine (by rw [hsource]; rfl)).2
          rcases settled_of_inQuarantine hmove hin hapart.symm htemp hbackup hsettles
            with ⟨replaced, hattempt, hthere⟩ | ⟨left, hattempt, hback⟩
          · rw [hattempt]
            exact .inr ⟨⟨_, rfl, rfl, rfl⟩, hthere⟩
          · rw [hattempt]
            exact .inl hback

theorem status_restoreHandler {quarantinePath : Option FsPath} {result : RestoreResult}
    (h : (restoreHandler faults places files quarantinePath).2 = some result) :
    result.resultStatus = .failed := by
  unfold restoreHandler at h
  cases quarantinePath with
  | none =>
      cases h
      rfl
  | some place =>
      simp only at h
      split at h
      · cases h
      split at h
      · cases h
        rfl
      · cases h
        rfl

/-- An attempt that comes to its end has done every call. -/
theorem restoreAttempt_ended {quarantinePath : Option FsPath} {left : FileSystem PyStr Nat}
    (h : restoreAttempt hash faults places files = (left, quarantinePath, true)) :
    (quarantineSource faults places files).2.2 = true ∧
      (quarantineSource faults places files).2.1 = quarantinePath ∧
        left = (replaceSource faults places
          (copyBackup faults places (quarantineSource faults places files).1).1).1 := by
  unfold restoreAttempt at h
  rcases hmove : quarantineSource faults places files with ⟨quarantined, place, moved⟩
  rw [hmove] at h
  cases moved with
  | false => cases h
  | true =>
      simp only at h ⊢
      rcases hcopy : copyBackup faults places quarantined with ⟨copied, written⟩
      rw [hcopy] at h
      cases written with
      | false => cases h
      | true =>
          simp only at h ⊢
          rcases hreplace : replaceSource faults places copied with ⟨replaced, renamed⟩
          rw [hreplace] at h
          cases renamed with
          | false => cases h
          | true =>
              simp only [Prod.mk.injEq] at h
              exact ⟨trivial, h.2.1, h.1.symm⟩

/-- What is restored with a quarantine path has had something at its source path, and something
stands in quarantine. -/
theorem occupied_of_restored {taken : List FsPath}
    (hclear : RestoreClear hash faults places taken files)
    {restored : RestoreResult} {place : FsPath}
    (h : (restoreOne hash faults places files).2 = some restored)
    (hstatus : restored.resultStatus = .restored) (hplace : restored.quarantinePath = some place) :
    place = places.quarantinePath ∧ (files.lookup places.sourcePath).isSome = true ∧
      ((restoreOne hash faults places files).1.lookup place).isSome = true := by
  unfold restoreOne at h ⊢
  split at h
  · cases h
  next hstart =>
  split at h
  · cases h
    cases hstatus
  next hexists =>
  rw [if_neg hstart, if_neg hexists]
  cases hprepared : files.mkdirs places.sourceParent with
  | none =>
      rw [hprepared] at h
      cases h
  | some prepared =>
      rw [hprepared] at h
      simp only at h ⊢
      rcases hattempt :
        restoreAttempt hash faults places prepared with ⟨left, quarantinePath, ended⟩
      rw [hattempt] at h
      cases ended with
      | false =>
          rw [status_restoreHandler h] at hstatus
          cases hstatus
      | true =>
          cases h
          cases hplace
          obtain ⟨hmoved, hpath, hleft⟩ := restoreAttempt_ended hattempt
          obtain ⟨rfl, hsome⟩ := quarantineSource_path hpath
          obtain ⟨hstill, hne, htemp⟩ := hclear.quarantine_free hprepared hsome
          obtain ⟨hapart, hthere⟩ :=
            lookup_quarantined hne (isDirectory_of_vacant hstill) hmoved hsome
          refine ⟨rfl, lookup_mkdirs_sourcePath hprepared ▸ hsome, ?_⟩
          rw [hleft, replaceSource, lookup_osReplace_apart htemp hapart.1,
            lookup_copyBackup_of_not_below htemp, hthere]
          exact hsome

/-- A clear restore keeps what is not at or below the source path. -/
theorem RestoreClear.kept {taken : List FsPath} {node : FsNode Nat}
    (hclear : RestoreClear hash faults places taken files) (h : files.lookup path = some node)
    (hsource : ¬ places.sourcePath <+: path) :
    (restoreOne hash faults places files).1.lookup path = some node := by
  have hfree : ∀ {above}, files.vacant above = true → ¬ above <+: path := by
    intro above hvacant hbelow
    rw [FileSystem.vacant_iff.mp hvacant path hbelow] at h
    cases h
  exact kept_restoreOne h hsource (hfree hclear.temp) fun hsome => hfree (hclear.quarantine hsome).1

/-- A restore that does not start, or without a backup, changes nothing. -/
theorem restoreOne_not_attempted
    (h : ¬ (faults.start = false ∧ (files.lookup places.backupPath).isSome = true)) :
    (restoreOne hash faults places files).1 = files ∧
      ∀ result, (restoreOne hash faults places files).2 = some result →
        result.resultStatus = .failed := by
  unfold restoreOne
  split
  · exact ⟨rfl, fun result hresult => by cases hresult⟩
  next hstart =>
  split
  · refine ⟨rfl, fun result hresult => ?_⟩
    cases hresult
    rfl
  next hexists =>
  refine absurd ⟨Bool.eq_false_iff.mpr hstart, ?_⟩ h
  rwa [Bool.not_eq_true, Option.isNone_eq_false_iff] at hexists

end Source

end ImmichDoctor.Services
