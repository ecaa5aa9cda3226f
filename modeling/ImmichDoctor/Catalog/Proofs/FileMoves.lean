import ImmichDoctor.Catalog.QuarantineItems
import ImmichDoctor.Library.FileTrees
/-!
# Moves and deletions of files

What `shutil.move`, `move_file` and `delete_file` leave at the path of the file, at the
destination and elsewhere, with the errors they may meet.
-/

namespace ImmichDoctor.Catalog

open ImmichDoctor.Library

/-! ## The path of the file -/

/-- Where nothing stands at the place that `shutil.move` has chosen it is not the source. -/
theorem lookup_shutilMove {files : FileSystem PyStr Nat} (fault : Option MoveFault)
    {source destination : FsPath} (hsource : (files.lookup source).isSome = true) :
    ((shutilMove files fault source destination).1.lookup source = files.lookup source) ↔
      ((shutilMove files fault source destination).2 = false ∨ source = destination) := by
  unfold shutilMove
  by_cases hsame : source = destination
  · rw [if_pos ⟨hsame, hsource⟩]
    exact iff_of_true rfl (.inr hsame)
  · rw [if_neg fun h => hsame h.1]
    split
    · exact iff_of_true rfl (.inl rfl)
    · next target _ =>
        split
        · exact iff_of_true rfl (.inl rfl)
        · next hclear =>
            have hapart : FileSystem.Apart source target := by
              by_contra hnot
              exact hclear (.inr (.inl hnot))
            split
            · have hgone := files.lookup_moveTree_source hapart (List.prefix_rfl)
              rw [hgone]
              refine iff_of_false (fun h => ?_) (by simpa using hsame)
              rw [← h] at hsource
              cases hsource
            · exact iff_of_true rfl (.inl rfl)
            · refine iff_of_true ?_ (.inl rfl)
              rw [FileSystem.lookup_set, if_neg]
              rintro rfl
              exact hapart.1 List.prefix_rfl
            · refine iff_of_true ?_ (.inl rfl)
              rw [FileSystem.lookup_copyTree_of_not_below files _ hapart.2]
            · exact iff_of_true rfl (.inl rfl)

theorem lookup_foldlM_mkdir {files files' : FileSystem PyStr Nat} {paths : List FsPath}
    {path : FsPath} (h : paths.foldlM FileSystem.mkdir files = some files')
    (hpath : (files.lookup path).isSome = true) : files'.lookup path = files.lookup path := by
  obtain ⟨node, hnode⟩ := Option.isSome_iff_exists.mp hpath
  rw [hnode]
  exact (FileSystem.widens_foldlM_mkdir h).1.kept path node hnode

theorem lookup_moveFile {files : FileSystem PyStr Nat} (fault : Option MoveFault)
    {source destination : FsPath} (hsource : (files.lookup source).isSome = true) :
    ((moveFile files fault source destination).1.lookup source = files.lookup source) ↔
      ((moveFile files fault source destination).2 = false ∨ source = destination) := by
  unfold moveFile
  split
  · next made =>
      refine iff_of_true ?_ (.inl rfl)
      cases hmade : (destination.dropLast.inits.tail.take made).foldlM FileSystem.mkdir files with
      | none => rfl
      | some files' => exact lookup_foldlM_mkdir hmade hsource
  · split
    · exact iff_of_true rfl (.inl rfl)
    · next prepared hprepared =>
        have hkept := lookup_foldlM_mkdir hprepared hsource
        rw [← hkept] at hsource ⊢
        exact lookup_shutilMove _ hsource

theorem lookup_deleteFile {files : FileSystem PyStr Nat} {fault : Bool} {path : FsPath}
    (hpath : (files.lookup path).isSome = true) :
    ((deleteFile files fault path).1.lookup path = files.lookup path) ↔
      (deleteFile files fault path).2 = false := by
  unfold deleteFile
  split
  · exact iff_of_true rfl rfl
  · refine iff_of_false ?_ (by simp)
    rw [FileSystem.lookup_keep, if_neg (by simp)]
    intro h
    rw [← h] at hpath
    cases hpath

/-! ## The destination -/

section Moves

variable {files : FileSystem PyStr Nat} {source destination path : FsPath} {node : FsNode Nat}

/-- A move that returns has moved the tree to a place apart, unless it had nothing to do. -/
theorem shutilMove_returned {fault : Option MoveFault}
    (h : (shutilMove files fault source destination).2 = true) (hne : source ≠ destination) :
    ∃ target, files.realDestination source destination = some target ∧
      FileSystem.Apart source target ∧
      (shutilMove files fault source destination).1 = files.moveTree source target := by
  unfold shutilMove at h ⊢
  rw [if_neg fun hsame => hne hsame.1] at h ⊢
  cases htarget : files.realDestination source destination with
  | none =>
      rw [htarget] at h
      cases h
  | some target =>
      simp only [htarget] at h ⊢
      split at h
      · cases h
      · next hclear =>
          have hapart : FileSystem.Apart source target := by
            by_contra hnot
            exact hclear (.inr (.inl hnot))
          rw [if_neg hclear]
          cases fault with
          | none => exact ⟨target, rfl, hapart, rfl⟩
          | some fault =>
              cases fault with
              | cutOff left => cases left <;> cases h
              | sourceKept => cases h
              | parents made => cases h

theorem moveFile_returned {fault : Option MoveFault}
    (h : (moveFile files fault source destination).2 = true) :
    ∃ prepared, files.mkdirs destination.dropLast = some prepared ∧
      (moveFile files fault source destination) = shutilMove prepared fault source destination := by
  unfold moveFile at h ⊢
  split at h
  · cases h
  · next hnot =>
      cases hprepared : files.mkdirs destination.dropLast with
      | none =>
          rw [hprepared] at h
          cases h
      | some prepared => exact ⟨prepared, rfl, rfl⟩

/-- A move to another path that returns has met no error. -/
theorem fault_of_moveFile_returned {fault : Option MoveFault}
    (h : (moveFile files fault source destination).2 = true) (hne : source ≠ destination) :
    fault = none := by
  obtain ⟨prepared, -, hmove⟩ := moveFile_returned h
  rw [hmove] at h
  unfold shutilMove at h
  rw [if_neg fun hsame => hne hsame.1] at h
  split at h
  · cases h
  split at h
  · cases h
  cases fault with
  | none => rfl
  | some fault =>
      cases fault with
      | cutOff left => cases left <;> cases h
      | sourceKept => cases h
      | parents made => cases h

/-- Where no directory stands at the destination, what is moved stands there. -/
theorem lookup_moveFile_returned {fault : Option MoveFault}
    (h : (moveFile files fault source destination).2 = true) (hne : source ≠ destination)
    (hfree : files.isDirectory destination = false) (hnil : destination ≠ [])
    (hsome : (files.lookup source).isSome = true) :
    FileSystem.Apart source destination ∧
      (moveFile files fault source destination).1.lookup destination = files.lookup source := by
  obtain ⟨prepared, hprepared, hmove⟩ := moveFile_returned h
  rw [hmove] at h ⊢
  obtain ⟨target, htarget, hapart, hafter⟩ := shutilMove_returned h hne
  have hdirectory : prepared.isDirectory destination = false := by
    have hkept : prepared.lookup destination = files.lookup destination := by
      exact FileSystem.lookup_mkdirs hprepared (not_below_dropLast hnil)
    unfold FileSystem.isDirectory at hfree ⊢
    rwa [hkept]
  simp only [FileSystem.realDestination, hdirectory, Bool.false_eq_true, if_false] at htarget
  cases htarget
  refine ⟨hapart, ?_⟩
  have hmoved := prepared.lookup_moveTree_destination hapart []
  rw [List.append_nil, List.append_nil] at hmoved
  rw [hafter, hmoved]
  obtain ⟨node, hnode⟩ := Option.isSome_iff_exists.mp hsome
  rw [hnode]
  exact (FileSystem.widens_foldlM_mkdir hprepared).1.kept _ _ hnode

/-! ## Other paths -/

theorem destination_above_realDestination {target : FsPath}
    (h : files.realDestination source destination = some target) : destination <+: target := by
  unfold FileSystem.realDestination at h
  split at h
  · simp only [Option.ite_none_left_eq_some, Option.some.injEq] at h
    exact h.2 ▸ List.prefix_append _ _
  · cases h
    exact List.prefix_rfl

/-- What is below neither end of a move stays. -/
theorem lookup_shutilMove_apart (fault : Option MoveFault) (hsource : ¬ source <+: path)
    (hdestination : ¬ destination <+: path) :
    (shutilMove files fault source destination).1.lookup path = files.lookup path := by
  unfold shutilMove
  split
  · rfl
  cases htarget : files.realDestination source destination with
  | none => rfl
  | some target =>
      have hnot : ¬ target <+: path := fun hbelow =>
        hdestination ((destination_above_realDestination htarget).trans hbelow)
      simp only
      split
      · rfl
      split
      · exact files.lookup_moveTree_of_not_below hsource hnot
      · rfl
      · rw [FileSystem.lookup_set, if_neg]
        rintro rfl
        exact hnot List.prefix_rfl
      · exact files.lookup_copyTree_of_not_below _ hnot
      · rfl

theorem kept_moveFile (fault : Option MoveFault) (h : files.lookup path = some node)
    (hsource : ¬ source <+: path) (hdestination : ¬ destination <+: path) :
    (moveFile files fault source destination).1.lookup path = some node := by
  unfold moveFile
  split
  · next made =>
      cases hmade : (destination.dropLast.inits.tail.take made).foldlM FileSystem.mkdir files with
      | none => exact h
      | some prepared => exact (FileSystem.widens_foldlM_mkdir hmade).1.kept path node h
  · cases hmade : files.mkdirs destination.dropLast with
    | none => exact h
    | some prepared =>
        simp only
        rw [lookup_shutilMove_apart _ hsource hdestination]
        exact (FileSystem.widens_foldlM_mkdir hmade).1.kept path node h

theorem lookup_deleteFile_of_ne {fault : Bool} {deleted : FsPath} (hpath : path ≠ deleted) :
    (deleteFile files fault deleted).1.lookup path = files.lookup path := by
  unfold deleteFile
  split
  · rfl
  · rw [FileSystem.lookup_keep, if_pos (by simpa using hpath)]

/-! ## Free destinations -/

/-- The tree is moved to the destination, or what a copy made of it stands there. -/
inductive Placed (source destination : FsPath) (files : FileSystem PyStr Nat) :
    FileSystem PyStr Nat → Prop
  | moved : Placed source destination files (files.moveTree source destination)
  | cutOff (left : FsNode Nat) : Placed source destination files (files.set destination left)
  | copied : Placed source destination files (files.copyTree source destination fun _ => true)

theorem shutilMove_cases (fault : Option MoveFault)
    (hfree : files.isDirectory destination = false) :
    (shutilMove files fault source destination).1 = files ∨
      FileSystem.Apart source destination ∧
        Placed source destination files (shutilMove files fault source destination).1 := by
  unfold shutilMove
  split
  · exact .inl rfl
  simp only [FileSystem.realDestination, hfree, Bool.false_eq_true, if_false]
  split
  · exact .inl rfl
  next hclear =>
    have hapart : FileSystem.Apart source destination := by
      by_contra hnot
      exact hclear (.inr (.inl hnot))
    split
    · exact .inr ⟨hapart, .moved⟩
    · exact .inl rfl
    · exact .inr ⟨hapart, .cutOff _⟩
    · exact .inr ⟨hapart, .copied⟩
    · exact .inl rfl

/-- A move to a free path makes directories, and then places the tree if it gets so far. -/
theorem moveFile_cases (fault : Option MoveFault) (hfree : files.lookup destination = none) :
    ∃ way prepared, files.mkdirs way = some prepared ∧
      ((moveFile files fault source destination).1 = prepared ∨
        way = destination.dropLast ∧ FileSystem.Apart source destination ∧
          prepared.lookup destination = none ∧
          Placed source destination prepared (moveFile files fault source destination).1) := by
  unfold moveFile
  split
  · next made =>
      rw [FileSystem.take_tail_inits]
      cases hmade : (destination.dropLast.take made).inits.tail.foldlM FileSystem.mkdir files with
      | none => exact ⟨[], files, rfl, .inl rfl⟩
      | some prepared => exact ⟨destination.dropLast.take made, prepared, hmade, .inl rfl⟩
  · cases hmade : files.mkdirs destination.dropLast with
    | none => exact ⟨[], files, rfl, .inl rfl⟩
    | some prepared =>
        refine ⟨destination.dropLast, prepared, hmade, ?_⟩
        have hprepared : prepared.lookup destination = none := by
          by_cases hnil : destination = []
          · subst hnil
            cases hmade
            exact hfree
          · rw [FileSystem.lookup_mkdirs hmade (not_below_dropLast hnil), hfree]
        have hdirectory : prepared.isDirectory destination = false := by
          rw [Bool.eq_false_iff, Ne, FileSystem.isDirectory_iff, hprepared]
          exact (Option.some_ne_none _).symm
        rcases shutilMove_cases fault hdirectory with hsame | ⟨hapart, hplaced⟩
        · exact .inl hsame
        · exact .inr ⟨rfl, hapart, hprepared, hplaced⟩

theorem grounded_moveFile (fault : Option MoveFault) (h : files.Grounded)
    (hfree : files.lookup destination = none) :
    (moveFile files fault source destination).1.Grounded := by
  obtain ⟨way, prepared, hmade, hafter | ⟨rfl, hapart, hprepared, hplaced⟩⟩ :=
    @moveFile_cases files source destination fault hfree
  · rw [hafter]
    exact FileSystem.grounded_mkdirs h hmade
  · have hgrounded := FileSystem.grounded_mkdirs h hmade
    have hsupported := FileSystem.supported_of_mkdirs hmade
    generalize (moveFile files fault source destination).1 = after at hplaced ⊢
    cases hplaced with
    | moved => exact FileSystem.grounded_moveTree hgrounded hapart hsupported
    | cutOff left =>
        exact FileSystem.grounded_set hgrounded hprepared hapart.ne_nil.2 hsupported left
    | copied => exact FileSystem.grounded_copyTree hgrounded hapart hsupported

/-- What is not below the source stays where it is. -/
theorem kept_moveFile_free (fault : Option MoveFault) (h : files.Grounded)
    (hfree : files.lookup destination = none) (hpath : files.lookup path = some node)
    (hsource : ¬ source <+: path) :
    (moveFile files fault source destination).1.lookup path = some node := by
  obtain ⟨way, prepared, hmade, hafter | ⟨rfl, hapart, hprepared, hplaced⟩⟩ :=
    @moveFile_cases files source destination fault hfree
  · rw [hafter]
    exact (FileSystem.widens_foldlM_mkdir hmade).1.kept path node hpath
  · refine kept_moveFile fault hpath hsource fun hbelow => ?_
    rw [FileSystem.vacant_iff.mp (h.vacant hfree hapart.ne_nil.2) path hbelow] at hpath
    cases hpath

/-- A move to a free path keeps every file, also when it fails halfway. -/
theorem keepsFiles_moveFile (fault : Option MoveFault) (h : files.Grounded)
    (hfree : files.lookup destination = none) :
    files.KeepsFiles (moveFile files fault source destination).1 := by
  obtain ⟨way, prepared, hmade, hafter | ⟨rfl, hapart, hprepared, hplaced⟩⟩ :=
    @moveFile_cases files source destination fault hfree
  · rw [hafter]
    exact FileSystem.keepsFiles_of_kept (FileSystem.widens_foldlM_mkdir hmade).1.kept
  · have hvacant := (FileSystem.grounded_mkdirs h hmade).vacant hprepared hapart.ne_nil.2
    refine (FileSystem.keepsFiles_of_kept (FileSystem.widens_foldlM_mkdir hmade).1.kept).trans ?_
    generalize (moveFile files fault source destination).1 = after at hplaced ⊢
    cases hplaced with
    | moved => exact FileSystem.keepsFiles_moveTree hapart hvacant
    | cutOff left => exact FileSystem.keepsFiles_set hprepared left
    | copied => exact FileSystem.keepsFiles_copyTree hvacant

theorem grounded_deleteFile {fault : Bool} (h : files.Grounded) :
    (deleteFile files fault path).1.Grounded := by
  unfold deleteFile
  split
  · exact h
  · next hstops =>
      simp only [Bool.or_eq_true, not_or, Bool.not_eq_true] at hstops
      exact FileSystem.grounded_keep h hstops.1.2

end Moves

end ImmichDoctor.Catalog
