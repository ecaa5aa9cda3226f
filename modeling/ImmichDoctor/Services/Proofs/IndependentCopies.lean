import ImmichDoctor.Library.FileTrees
import ImmichDoctor.Services.BackupAssetWorkflow
import ImmichDoctor.Services.Proofs.RestoreRollback
/-!
# The copies of a sync side by side

What one copy writes and what it leaves as it was. The copies of a sync do not disturb each
other, as the listed files of the source are not below one another: each of them ends as its own
errors and the state before the first say.
-/

namespace ImmichDoctor.Services

open ImmichDoctor.Library
open ImmichDoctor.Backup
open ImmichDoctor.Catalog

/-! ## Listings -/

section Listings

variable {faults : WorkflowFaults} {files : FileSystem PyStr Nat} {root assetId other : FsPath}
  {entries : List FsPath}

theorem walked_iff {unlisted : FsPath → Bool} : walked unlisted files root assetId = true ↔
    ∀ above, above <+: assetId.dropLast →
      files.lookup (root ++ above) = some .directory ∧ unlisted (root ++ above) = false := by
  unfold walked
  simp only [List.all_eq_true, List.mem_inits, Bool.and_eq_true, Bool.not_eq_true',
    FileSystem.isDirectory_iff]

/-- What is listed: what is no directory and lies in directories that are listed. -/
theorem mem_collectFileEntries (h : collectFileEntries faults files root = some entries) :
    assetId ∈ entries ↔ assetId ≠ [] ∧
      (∃ node, files.lookup (root ++ assetId) = some node ∧ node ≠ .directory) ∧
        walked faults.unlisted files root assetId = true := by
  unfold collectFileEntries at h
  split at h
  · cases h
  cases h
  rw [List.mem_filterMap]
  constructor
  · rintro ⟨⟨path, node⟩, hmem, hentry⟩
    simp only [Option.ite_none_right_eq_some, Option.some.injEq] at hentry
    obtain ⟨⟨⟨rest, rfl⟩, hne, hnode, hwalked⟩, rfl⟩ := hentry
    rw [List.drop_left] at hne hwalked ⊢
    exact ⟨hne, ⟨node, FileSystem.lookup_eq_some_iff.mpr hmem, hnode⟩, hwalked⟩
  · rintro ⟨hne, ⟨node, hnode, hfile⟩, hwalked⟩
    refine ⟨(root ++ assetId, node), FileSystem.lookup_eq_some_iff.mp hnode, ?_⟩
    simp only [List.drop_left]
    rw [if_pos ⟨List.prefix_append _ _, hne, hfile, hwalked⟩]

/-- No listed file is below another one. -/
theorem eq_of_prefix_of_listed (h : collectFileEntries faults files root = some entries)
    (hasset : assetId ∈ entries) (hother : other ∈ entries) (hbelow : assetId <+: other) :
    assetId = other := by
  by_contra hne
  obtain ⟨-, ⟨node, hnode, hfile⟩, -⟩ := (mem_collectFileEntries h).mp hasset
  obtain ⟨-, -, hwalked⟩ := (mem_collectFileEntries h).mp hother
  have hdirectory := (walked_iff.mp hwalked assetId (prefix_dropLast hbelow hne)).1
  rw [hnode] at hdirectory
  exact hfile (Option.some.inj hdirectory)

end Listings

/-! ## Directories and copies -/

section Calls

variable {files made : FileSystem PyStr Nat} {path source destination : FsPath}

theorem widens_makeDirs (files : FileSystem PyStr Nat) (fault : Option Nat) (path : FsPath) :
    FileSystem.Widens path.inits.tail files (makeDirs files fault path).1 := by
  unfold makeDirs
  cases fault with
  | some count =>
      cases hmade : (path.inits.tail.take count).foldlM FileSystem.mkdir files with
      | none =>
          simp only [hmade, Option.getD_none]
          exact .refl _ _
      | some made =>
          simp only [hmade, Option.getD_some]
          exact (FileSystem.widens_foldlM_mkdir hmade).1.mono fun above => List.mem_of_mem_take
  | none =>
      cases hmade : files.mkdirs path with
      | none => exact .refl _ _
      | some made => exact (FileSystem.widens_foldlM_mkdir hmade).1

theorem makeDirs_returns {fault : Option Nat} : (makeDirs files fault path).2 = true ↔
    fault = none ∧ ∀ above, above <+: path → above ≠ [] →
      files.lookup above = none ∨ files.lookup above = some .directory := by
  unfold makeDirs
  cases fault with
  | some count => exact iff_of_false Bool.false_ne_true fun h => by cases h.1
  | none =>
      rw [← FileSystem.isSome_mkdirs_iff]
      cases files.mkdirs path with
      | none => exact iff_of_false Bool.false_ne_true fun h => by cases h.2
      | some made => exact iff_of_true rfl ⟨rfl, rfl⟩

theorem lookup_makeDirs {fault : Option Nat} {other : FsPath} (h : ¬ other <+: path) :
    (makeDirs files fault path).1.lookup other = files.lookup other :=
  (widens_makeDirs files fault path).lookup fun hmem => h (FileSystem.mem_tail_inits.mp hmem).1

/-- What a copy writes, and whether it returns, by what stands at its source and at its
target. -/
def copyEffect (fault : Option CopyFault) :
    Option (FsNode Nat) → Option (FsNode Nat) → Option Nat × Bool
  | some (.file _), some .directory | some (.file _), some .other => (none, false)
  | some (.file content), _ =>
      match fault with
      | none => (some content, true)
      | some (.alters other) => (some other, true)
      | some (.raises left) => (left, false)
  | _, _ => (none, false)

theorem copy2_eq {fault : Option CopyFault} (hne : source ≠ copyTarget files source destination) :
    copy2 files fault source destination =
      let target := copyTarget files source destination
      let effect := copyEffect fault (files.lookup source) (files.lookup target)
      ((effect.1.map fun written => files.set target (.file written)).getD files, effect.2) := by
  unfold copy2 copyEffect
  cases files.lookup source with
  | none => rfl
  | some node =>
      cases node with
      | directory => rfl
      | other => rfl
      | file content =>
          cases htarget : files.lookup (copyTarget files source destination) with
          | none =>
              simp only [hne, htarget, reduceCtorEq, or_self, if_false]
              cases fault with
              | none => rfl
              | some fault =>
                  cases fault with
                  | alters other => rfl
                  | raises left => cases left <;> rfl
          | some node =>
              cases node with
              | directory => simp [htarget]
              | other => simp [htarget]
              | file old =>
                  simp only [hne, htarget, Option.some.injEq, reduceCtorEq, or_self, if_false]
                  cases fault with
                  | none => rfl
                  | some fault =>
                      cases fault with
                      | alters other => rfl
                      | raises left => cases left <;> rfl

theorem hashFile_congr {hash : Nat → PyStr} {fault : Option ReadFault}
    {files' : FileSystem PyStr Nat}
    (h : files'.lookup path = files.lookup path) :
    hashFile hash files' fault path = hashFile hash files fault path := by
  unfold hashFile
  rw [h]

end Calls

/-! ## One copy -/

namespace WorkflowRoots

variable (roots : WorkflowRoots) (files : FileSystem PyStr Nat) (assetId : FsPath)

/-- Where the copy of an asset is written. -/
def copiedTo : FsPath :=
  copyTarget files (roots.sourcePath assetId) (roots.backupPath assetId)

/-- The name of the asset in a directory at the place of its backup. -/
def insidePath : FsPath :=
  roots.backupPath assetId ++ (roots.sourcePath assetId).getLast?.toList

/-- What the copy of an asset looks at: the file, the place of its backup, and the way there, on
which there may be new directories. -/
structure LooksSame (before after : FileSystem PyStr Nat) : Prop where
  source : after.lookup (roots.sourcePath assetId) = before.lookup (roots.sourcePath assetId)
  backup : after.lookup (roots.backupPath assetId) = before.lookup (roots.backupPath assetId)
  inside : after.lookup (roots.insidePath assetId) = before.lookup (roots.insidePath assetId)
  way : ∀ above, above <+: (roots.backupPath assetId).dropLast →
    after.lookup above = before.lookup above ∨
      before.lookup above = none ∧ after.lookup above = some .directory

theorem copiedTo_cases : roots.copiedTo files assetId = roots.backupPath assetId ∨
    roots.copiedTo files assetId = roots.insidePath assetId := by
  unfold copiedTo copyTarget
  split
  · exact .inr rfl
  · exact .inl rfl

theorem backupPath_prefix_copiedTo :
    roots.backupPath assetId <+: roots.copiedTo files assetId := by
  rcases roots.copiedTo_cases files assetId with h | h
  · rw [h]
  · rw [h]
    exact List.prefix_append _ _

/-- Nothing of the source is on the way to a backup or below it. -/
theorem sourcePath_not_above {path : FsPath} (h : roots.backupRoot <+: path) :
    ¬ roots.sourcePath assetId <+: path := fun hsource =>
  roots.apart.symm.not_below h ((List.prefix_append _ _).trans hsource)

theorem backupRoot_prefix_copiedTo : roots.backupRoot <+: roots.copiedTo files assetId :=
  (List.prefix_append _ _).trans (roots.backupPath_prefix_copiedTo files assetId)

variable {roots files assetId}

theorem copiedTo_congr {after : FileSystem PyStr Nat}
    (h : after.lookup (roots.backupPath assetId) = files.lookup (roots.backupPath assetId)) :
    roots.copiedTo after assetId = roots.copiedTo files assetId := by
  unfold copiedTo copyTarget FileSystem.isDirectory
  rw [h]

/-- The directories of the backup of an asset, as the copy makes them. -/
def madeDirs (roots : WorkflowRoots) (faults : WorkflowFaults) (assetId : FsPath)
    (files : FileSystem PyStr Nat) : FileSystem PyStr Nat × Bool :=
  makeDirs files (faults.copies assetId).parents (roots.backupPath assetId).dropLast

theorem backupPath_ne_nil (roots : WorkflowRoots) (assetId : FsPath) :
    roots.backupPath assetId ≠ [] := by
  intro h
  have hroot : roots.backupRoot = [] := (List.append_eq_nil_iff.mp h).1
  exact roots.apart.2 (hroot ▸ List.nil_prefix)

theorem backupPath_not_prefix_dropLast {path : FsPath} (h : roots.backupPath assetId <+: path) :
    ¬ path <+: (roots.backupPath assetId).dropLast := by
  intro hbelow
  exact not_below_dropLast (roots.backupPath_ne_nil assetId) (h.trans hbelow)

theorem backupRoot_prefix_or {path : FsPath} (h : path <+: (roots.backupPath assetId).dropLast) :
    path <+: roots.backupPath assetId :=
  h.trans (List.dropLast_prefix _)

section Made

variable (roots) (faults : WorkflowFaults) (assetId) (files)

theorem madeDirs_source :
    (roots.madeDirs faults assetId files).1.lookup (roots.sourcePath assetId) =
    files.lookup (roots.sourcePath assetId) :=
  lookup_makeDirs fun h => roots.sourcePath_not_above assetId (List.prefix_append _ _)
    (backupRoot_prefix_or h)

theorem madeDirs_below {path : FsPath} (h : roots.backupPath assetId <+: path) :
    (roots.madeDirs faults assetId files).1.lookup path = files.lookup path :=
  lookup_makeDirs (backupPath_not_prefix_dropLast h)

theorem copiedTo_madeDirs : roots.copiedTo (roots.madeDirs faults assetId files).1 assetId =
    roots.copiedTo files assetId :=
  copiedTo_congr (roots.madeDirs_below files assetId faults List.prefix_rfl)

theorem lookup_madeDirs (path : FsPath) :
    (roots.madeDirs faults assetId files).1.lookup path = files.lookup path ∨
      files.lookup path = none ∧ path <+: (roots.backupPath assetId).dropLast ∧
        (roots.madeDirs faults assetId files).1.lookup path = some .directory := by
  have hwidens := widens_makeDirs files (faults.copies assetId).parents
    (roots.backupPath assetId).dropLast
  unfold madeDirs
  cases hlookup : files.lookup path with
  | some node => exact .inl (hwidens.kept path node hlookup)
  | none =>
      cases hmade : (makeDirs files (faults.copies assetId).parents
          (roots.backupPath assetId).dropLast).1.lookup path with
      | none => exact .inl rfl
      | some node =>
          rcases hwidens.new path node hmade with hbefore | ⟨hmem, rfl⟩
          · rw [hlookup] at hbefore
            cases hbefore
          · exact .inr ⟨rfl, (FileSystem.mem_tail_inits.mp hmem).1, rfl⟩

end Made

section Copied

variable (facts : FileFacts) (faults : WorkflowFaults) (roots files assetId)

/-- What the copy of an asset writes, and whether it returns, in the state before it. -/
def effect (roots : WorkflowRoots) (faults : WorkflowFaults) (files : FileSystem PyStr Nat)
    (assetId : FsPath) : Option Nat × Bool :=
  copyEffect (faults.copies assetId).copy (files.lookup (roots.sourcePath assetId))
    (files.lookup (roots.copiedTo files assetId))

/-- The state that a copy leaves. -/
def copied (roots : WorkflowRoots) (faults : WorkflowFaults) (assetId : FsPath)
    (files : FileSystem PyStr Nat) : FileSystem PyStr Nat :=
  let made := roots.madeDirs faults assetId files
  if made.2 then
    ((roots.effect faults files assetId).1.map fun written =>
      made.1.set (roots.copiedTo files assetId) (.file written)).getD made.1
  else made.1

theorem copy2_madeDirs : copy2 (roots.madeDirs faults assetId files).1 (faults.copies assetId).copy
      (roots.sourcePath assetId) (roots.backupPath assetId) =
    (((roots.effect faults files assetId).1.map fun written =>
        (roots.madeDirs faults assetId files).1.set (roots.copiedTo files assetId)
          (.file written)).getD (roots.madeDirs faults assetId files).1,
      (roots.effect faults files assetId).2) := by
  have htarget := roots.copiedTo_madeDirs files assetId faults
  have hne : roots.sourcePath assetId ≠ copyTarget (roots.madeDirs faults assetId files).1
      (roots.sourcePath assetId) (roots.backupPath assetId) := by
    intro heq
    exact roots.sourcePath_not_above assetId
      (roots.backupRoot_prefix_copiedTo (roots.madeDirs faults assetId files).1 assetId)
      (heq ▸ List.prefix_rfl)
  rw [copy2_eq hne]
  change copyTarget _ _ _ = _ at htarget
  simp only
  rw [htarget, effect, roots.madeDirs_source, roots.madeDirs_below files assetId faults
    (roots.backupPath_prefix_copiedTo files assetId)]

theorem copyWithVerification_eq :
    copyWithVerification facts faults roots assetId files =
      (roots.copied faults assetId files,
        if (roots.madeDirs faults assetId files).2 then
          some (if (roots.effect faults files assetId).2 then
            verifiedCopy facts faults roots assetId (roots.copied faults assetId files)
          else raisedCopy faults assetId)
        else none) := by
  have hcopy := roots.copy2_madeDirs files assetId faults
  unfold madeDirs at hcopy
  rcases hmade : makeDirs files (faults.copies assetId).parents (roots.backupPath assetId).dropLast
    with ⟨made, returned⟩
  rw [hmade] at hcopy
  cases returned with
  | false => simp only [copied, copyWithVerification, madeDirs, hmade, Bool.false_eq_true, if_false]
  | true =>
      simp only [copied, copyWithVerification, madeDirs, hmade, if_true]
      cases hreturned : (roots.effect faults files assetId).2 with
      | false =>
          rw [hreturned] at hcopy
          simp only [hcopy, Bool.false_eq_true, if_false]
      | true =>
          rw [hreturned] at hcopy
          simp only [hcopy, if_true]

/-- What a copy leaves as it was: everything but its target, and the way to it. -/
theorem lookup_copied (path : FsPath) :
    (roots.copied faults assetId files).lookup path = files.lookup path ∨
      path = roots.copiedTo files assetId ∨
      files.lookup path = none ∧ path <+: (roots.backupPath assetId).dropLast ∧
        (roots.copied faults assetId files).lookup path = some .directory := by
  by_cases htarget : path = roots.copiedTo files assetId
  · exact .inr (.inl htarget)
  have hmade : (roots.copied faults assetId files).lookup path =
      (roots.madeDirs faults assetId files).1.lookup path := by
    simp only [copied]
    split
    · cases (roots.effect faults files assetId).1 with
      | none => rfl
      | some written => exact (FileSystem.lookup_set _ _ _ _).trans (if_neg htarget)
    · rfl
  rw [hmade]
  exact (roots.lookup_madeDirs files assetId faults path).imp_right .inr

/-- What a copy leaves at its target. -/
theorem lookup_copied_target :
    (roots.copied faults assetId files).lookup (roots.copiedTo files assetId) =
      if (roots.madeDirs faults assetId files).2 then
        ((roots.effect faults files assetId).1.map FsNode.file).or
          (files.lookup (roots.copiedTo files assetId))
      else files.lookup (roots.copiedTo files assetId) := by
  have hmade := roots.madeDirs_below files assetId faults
    (roots.backupPath_prefix_copiedTo files assetId)
  simp only [copied]
  split
  · cases (roots.effect faults files assetId).1 with
    | none => exact hmade
    | some written => exact (FileSystem.lookup_set _ _ _ _).trans (if_pos rfl)
  · exact hmade

theorem lookup_copied_source :
    (roots.copied faults assetId files).lookup (roots.sourcePath assetId) =
      files.lookup (roots.sourcePath assetId) := by
  rcases roots.lookup_copied files assetId faults (roots.sourcePath assetId)
    with hsame | htarget | ⟨-, hway, -⟩
  · exact hsame
  · refine absurd (htarget ▸ List.prefix_rfl) (roots.sourcePath_not_above assetId
      (roots.backupRoot_prefix_copiedTo files assetId))
  · exact absurd (backupRoot_prefix_or hway)
      (roots.sourcePath_not_above assetId (List.prefix_append _ _))

end Copied

/-! ## Copies side by side -/

section Congruence

variable {after : FileSystem PyStr Nat} {other : FsPath} (facts : FileFacts)
  (faults : WorkflowFaults)

namespace LooksSame

theorem refl : roots.LooksSame assetId files files :=
  ⟨rfl, rfl, rfl, fun _ _ => .inl rfl⟩

theorem target (h : roots.LooksSame assetId files after) :
    after.lookup (roots.copiedTo files assetId) = files.lookup (roots.copiedTo files assetId) := by
  rcases roots.copiedTo_cases files assetId with heq | heq
  · rw [heq, h.backup]
  · rw [heq, h.inside]

theorem effect_eq (h : roots.LooksSame assetId files after) :
    roots.effect faults after assetId = roots.effect faults files assetId := by
  rw [effect, effect, copiedTo_congr h.backup, h.source, h.target]

theorem madeDirs_eq (h : roots.LooksSame assetId files after) :
    (roots.madeDirs faults assetId after).2 = (roots.madeDirs faults assetId files).2 := by
  have hfree : ∀ above, above <+: (roots.backupPath assetId).dropLast →
      (after.lookup above = none ∨ after.lookup above = some .directory ↔
        files.lookup above = none ∨ files.lookup above = some .directory) := by
    intro above habove
    rcases h.way above habove with hsame | ⟨hnone, hdirectory⟩
    · rw [hsame]
    · exact iff_of_true (.inr hdirectory) (.inl hnone)
  rw [Bool.eq_iff_iff, madeDirs, madeDirs, makeDirs_returns, makeDirs_returns]
  exact and_congr_right fun _ => forall_congr' fun above => forall_congr' fun habove =>
    forall_congr' fun _ => hfree above habove

theorem copied_backup (h : roots.LooksSame assetId files after) :
    (roots.copied faults assetId after).lookup (roots.backupPath assetId) =
      (roots.copied faults assetId files).lookup (roots.backupPath assetId) := by
  have hto := copiedTo_congr h.backup
  by_cases htarget : roots.copiedTo files assetId = roots.backupPath assetId
  · have hafter := roots.lookup_copied_target after assetId faults
    have hbefore := roots.lookup_copied_target files assetId faults
    rw [hto, h.target, h.effect_eq, h.madeDirs_eq, htarget] at hafter
    rw [htarget] at hbefore
    rw [hafter, hbefore]
  · have hkept : ∀ state : FileSystem PyStr Nat, roots.copiedTo state assetId ≠
        roots.backupPath assetId → (roots.copied faults assetId state).lookup
          (roots.backupPath assetId) = state.lookup (roots.backupPath assetId) := by
      intro state hne
      rcases roots.lookup_copied state assetId faults (roots.backupPath assetId)
        with hsame | hsame | ⟨-, hway, -⟩
      · exact hsame
      · exact absurd hsame.symm hne
      · exact absurd hway (backupPath_not_prefix_dropLast List.prefix_rfl)
    rw [hkept after (hto ▸ htarget), hkept files htarget, h.backup]

/-- A copy ends in the same way. -/
theorem result_eq (h : roots.LooksSame assetId files after) :
    (copyWithVerification facts faults roots assetId after).2 =
      (copyWithVerification facts faults roots assetId files).2 := by
  have hverified : verifiedCopy facts faults roots assetId (roots.copied faults assetId after) =
      verifiedCopy facts faults roots assetId (roots.copied faults assetId files) := by
    have hsource : (roots.copied faults assetId after).lookup (roots.sourcePath assetId) =
        (roots.copied faults assetId files).lookup (roots.sourcePath assetId) := by
      rw [lookup_copied_source, lookup_copied_source, h.source]
    have hbackup := h.copied_backup faults
    simp only [verifiedCopy, hashFile_congr hsource, hashFile_congr hbackup, hbackup]
  rw [copyWithVerification_eq, copyWithVerification_eq]
  simp only [h.madeDirs_eq, h.effect_eq, hverified]

end LooksSame

/-- The target of a copy is not on the way to the place of another backup. -/
theorem copiedTo_not_above (hnot : ¬ assetId <+: other) :
    ¬ roots.copiedTo files assetId <+: roots.backupPath other := by
  intro hbelow
  have hboth := (roots.backupPath_prefix_copiedTo files assetId).trans hbelow
  exact hnot ((List.prefix_append_right_inj _).mp hboth)

/-- Nor is it that place, or the one inside it. -/
theorem backupPath_not_prefix_copiedTo (roots : WorkflowRoots) (files : FileSystem PyStr Nat)
    {assetId other : FsPath} (hnot : ¬ assetId <+: other) (hnot' : ¬ other <+: assetId) :
    ¬ roots.backupPath other <+: roots.copiedTo files assetId := by
  intro hbelow
  rcases roots.copiedTo_cases files assetId with heq | heq
  · rw [heq] at hbelow
    exact hnot' ((List.prefix_append_right_inj _).mp hbelow)
  · rw [heq, insidePath] at hbelow
    cases hlast : (roots.sourcePath assetId).getLast? with
    | none =>
        rw [hlast, Option.toList_none, List.append_nil] at hbelow
        exact hnot' ((List.prefix_append_right_inj _).mp hbelow)
    | some last =>
        rw [hlast, Option.toList_some] at hbelow
        rcases List.prefix_concat_iff.mp hbelow with hinside | hbackup
        · apply hnot
          have hboth : roots.backupPath assetId <+: roots.backupPath other := by
            rw [hinside]
            exact List.prefix_append _ _
          exact (List.prefix_append_right_inj _).mp hboth
        · exact hnot' ((List.prefix_append_right_inj _).mp hbackup)

/-- A copy leaves what the copy of an asset that is not below it, or above it, looks at. -/
theorem LooksSame.copied {before : FileSystem PyStr Nat} (h : roots.LooksSame other before files)
    (hnot : ¬ assetId <+: other) (hnot' : ¬ other <+: assetId) :
    roots.LooksSame other before (roots.copied faults assetId files) := by
  have hbelow : ∀ path, roots.backupPath other <+: path →
      (roots.copied faults assetId files).lookup path = files.lookup path := by
    intro path hpath
    rcases roots.lookup_copied files assetId faults path with hsame | htarget | ⟨-, hway, -⟩
    · exact hsame
    · exact absurd (htarget ▸ hpath) (roots.backupPath_not_prefix_copiedTo files hnot hnot')
    · refine absurd ?_ hnot'
      exact (List.prefix_append_right_inj _).mp ((hpath.trans hway).trans (List.dropLast_prefix _))
  refine ⟨?_, (hbelow _ List.prefix_rfl).trans h.backup,
    (hbelow _ (List.prefix_append _ _)).trans h.inside, ?_⟩
  · rw [← h.source]
    rcases roots.lookup_copied files assetId faults (roots.sourcePath other)
      with hsame | htarget | ⟨-, hway, -⟩
    · exact hsame
    · exact absurd (htarget ▸ List.prefix_rfl) (roots.sourcePath_not_above other
        (roots.backupRoot_prefix_copiedTo files assetId))
    · exact absurd (backupRoot_prefix_or hway)
        (roots.sourcePath_not_above other (List.prefix_append _ _))
  · intro above habove
    rcases roots.lookup_copied files assetId faults above
      with hsame | htarget | ⟨hnone, -, hdirectory⟩
    · rw [hsame]
      exact h.way above habove
    · exact absurd (htarget ▸ backupRoot_prefix_or habove) (copiedTo_not_above hnot)
    · right
      refine ⟨?_, hdirectory⟩
      rcases h.way above habove with hsame | ⟨hbefore, -⟩
      · rw [← hsame, hnone]
      · exact hbefore

/-- The copies of listed files are independent. -/
theorem independent (roots : WorkflowRoots) (files : FileSystem PyStr Nat) (facts : FileFacts)
    (faults : WorkflowFaults) {entries : List FsPath} {listed : FileSystem PyStr Nat}
    {root : FsPath}
    (h : collectFileEntries faults listed root = some entries) :
    Independent (copyWithVerification facts faults roots) roots.LooksSame entries files where
  agrees := fun _ _ _ hsame => hsame.result_eq facts faults
  kept := by
    intro assetId hasset other hother hne s hsame hsameOther
    rw [copyWithVerification_eq]
    apply hsameOther.copied faults
    · exact fun hbelow => hne (eq_of_prefix_of_listed h hasset hother hbelow)
    · exact fun hbelow => hne (eq_of_prefix_of_listed h hother hasset hbelow).symm

end Congruence

end WorkflowRoots

end ImmichDoctor.Services
