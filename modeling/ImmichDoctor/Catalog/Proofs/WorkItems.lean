import ImmichDoctor.Catalog.Proofs.DirectoryWalk
import Mathlib.Data.List.Pairwise
/-!
# Work items

The keys, the files and the order of the work items. The key of a slice names its
directory and its index, up to the text that stands for the root; the items of a
tree hold each of its regular files once; larger items are queued before smaller
ones.
-/

namespace ImmichDoctor.Catalog

open ImmichDoctor.Library

/-! ## The keys of the work items -/

theorem encodable_append (a b : PyStr) :
    (a ++ b).encodable = (a.encodable && b.encodable) :=
  List.all_append

theorem encodable_zeroPad (width n : Nat) : (PyStr.zeroPad width n).encodable = true := by
  unfold PyStr.encodable PyStr.isSurrogate
  rw [List.all_eq_true]
  intro c hc
  have hdigit := PyStr.isDigit_of_mem_zeroPad hc
  simp only [Bool.not_eq_true', Bool.and_eq_false_iff, decide_eq_false_iff_not]
  omega

/-- The text a batch key of a directory starts with. -/
def batchPrefix (path : PyStr) : PyStr :=
  if path = [] then py "__root__" else path

theorem directoryWorkItemKey_batch {path : PyStr} {index count : Nat} (hcount : count ≠ 1) :
    directoryWorkItemKey path index count =
      batchPrefix path ++ py "::batch-" ++ PyStr.zeroPad 6 index := by
  rw [directoryWorkItemKey, if_neg hcount, batchPrefix]

theorem encodable_directoryWorkItemKey (path : PyStr) (index count : Nat) :
    (directoryWorkItemKey path index count).encodable = path.encodable := by
  by_cases hcount : count = 1
  · rw [directoryWorkItemKey, if_pos hcount]
  · have hbatch : (py "::batch-").encodable = true := by decide
    rw [directoryWorkItemKey_batch hcount, encodable_append, encodable_append, encodable_zeroPad,
      hbatch, Bool.and_true, Bool.and_true, batchPrefix]
    split
    · next hnil =>
        rw [hnil]
        decide
    · rfl

/-- A batch key determines the directory, up to the name of the root, and the index. -/
theorem batchPrefix_inj {p q : PyStr} {i j : Nat}
    (h : batchPrefix p ++ py "::batch-" ++ PyStr.zeroPad 6 i =
      batchPrefix q ++ py "::batch-" ++ PyStr.zeroPad 6 j) :
    batchPrefix p = batchPrefix q ∧ i = j := by
  have hsplit : py "::batch-" = py "::batch" ++ [45] := by decide
  have hdash : ∀ n, 45 ∉ PyStr.zeroPad 6 n := by
    intro n hmem
    have hdigit := PyStr.isDigit_of_mem_zeroPad hmem
    omega
  simp only [hsplit, List.append_assoc, List.singleton_append] at h
  rw [← List.append_assoc, ← List.append_assoc] at h
  obtain ⟨hpre, hindex⟩ := PyStr.append_cons_inj (hdash i) (hdash j) h
  exact ⟨List.append_cancel_right hpre, PyStr.zeroPad_injective 6 hindex⟩

theorem eq_of_batchPrefix_eq {p q : PyStr} (h : batchPrefix p = batchPrefix q) :
    p = q ∨ (p = [] ∧ q = py "__root__") ∨ (p = py "__root__" ∧ q = []) := by
  unfold batchPrefix at h
  split at h
  · next hp =>
      split at h
      · next hq => exact Or.inl (hp.trans hq.symm)
      · exact Or.inr (Or.inl ⟨hp, h.symm⟩)
  · split at h
    · next hq => exact Or.inr (Or.inr ⟨h, hq⟩)
    · exact Or.inl h

/-! ## The work items of a directory -/

/-- Whether the files of a directory are spread over several items. -/
def Directory.batched (directory : Directory) : Prop :=
  directoryFileChunkSize < directory.files.length

theorem chunkSize_pos : 0 < directoryFileChunkSize := by decide

theorem length_sortPaths (paths : List PyStr) : (sortPaths paths).length = paths.length :=
  List.length_insertionSort _ _

/-- An item is the only one of a directory without files, or one of its slices. -/
theorem Directory.mem_workItems {directory : Directory} {item : WorkItem} :
    item ∈ directory.workItems ↔
      (directory.files = [] ∧ item =
        ⟨directory.path, directory.path, [], if directory.listed then 0 else 1⟩) ∨
      ∃ index < chunkCount directoryFileChunkSize directory.files.length, item =
        { relativePath := directoryWorkItemKey directory.path index
            (chunkCount directoryFileChunkSize directory.files.length)
          sourceRelativePath := directory.path
          fileRelativePaths := chunk directoryFileChunkSize (sortPaths directory.files) index
          payloadErrorCount := if index = 0 then (if directory.listed then 0 else 1) else 0 } := by
  have hsorted : sortPaths directory.files = [] ↔ directory.files = [] := by
    rw [← List.length_eq_zero_iff, length_sortPaths, List.length_eq_zero_iff]
  unfold Directory.workItems directoryWorkItems
  by_cases hfiles : directory.files = []
  · have hcount : chunkCount directoryFileChunkSize directory.files.length = 0 := by
      rw [hfiles]
      decide
    rw [if_pos (hsorted.mpr hfiles), hcount, List.mem_singleton]
    simp only [hfiles, true_and, Nat.not_lt_zero, false_and, exists_false, or_false]
    rfl
  · rw [if_neg (fun h => hfiles (hsorted.mp h)), length_sortPaths]
    simp only [hfiles, false_and, false_or, List.mem_map, List.mem_range]
    exact exists_congr fun index => and_congr_right fun _ => eq_comm

/-- The items of a directory hold its files. -/
theorem Directory.files_workItems (directory : Directory) :
    (directory.workItems.flatMap WorkItem.fileRelativePaths).Perm directory.files := by
  have hsort : (sortPaths directory.files).Perm directory.files := List.perm_insertionSort _ _
  refine List.Perm.trans (List.Perm.of_eq ?_) hsort
  unfold Directory.workItems directoryWorkItems
  split
  · next hnil => rw [hnil, List.flatMap_singleton]
  · rw [List.flatMap_map]
    exact flatMap_chunk_chunkCount chunkSize_pos _

/-! ## The items of the tree hold each file once -/

theorem DirectoryTree.files_workItems (tree : DirectoryTree) :
    (tree.workItems.flatMap WorkItem.fileRelativePaths).Perm tree.regularFiles := by
  unfold DirectoryTree.workItems
  rw [List.flatMap_assoc]
  refine List.Perm.trans
    (List.Perm.flatMap_left _ fun directory _ => ?_) tree.regularFiles_perm.symm
  exact directory.files_workItems

/-- A file is in one work item only. -/
theorem DirectoryTree.eq_of_common_file {tree : DirectoryTree} {a b : WorkItem} {path : PyStr}
    (ha : a ∈ tree.workItems) (hb : b ∈ tree.workItems) (hpath : path ∈ a.fileRelativePaths)
    (hother : path ∈ b.fileRelativePaths) : a = b := by
  have hnodup : (tree.workItems.flatMap WorkItem.fileRelativePaths).Nodup :=
    tree.files_workItems.nodup_iff.mpr tree.regularFiles_nodup
  have hdisjoint : tree.workItems.Pairwise fun x y =>
      List.Disjoint x.fileRelativePaths y.fileRelativePaths := (List.nodup_flatMap.mp hnodup).2
  have hsymm : Std.Symm fun x y : WorkItem =>
      List.Disjoint x.fileRelativePaths y.fileRelativePaths := ⟨fun _ _ h => h.symm⟩
  by_contra hne
  exact hdisjoint.forall ha hb hne hpath hother

theorem DirectoryTree.mem_regularFiles_iff {tree : DirectoryTree} {path : PyStr} :
    path ∈ tree.regularFiles ↔ ∃ item ∈ tree.workItems, path ∈ item.fileRelativePaths := by
  rw [← tree.files_workItems.mem_iff, List.mem_flatMap]

/-! ## The order of the queue -/

theorem WorkItem.before_total (a b : WorkItem) : a.before b ∨ b.before a := by
  unfold WorkItem.before
  rcases Nat.lt_trichotomy a.fileRelativePaths.length b.fileRelativePaths.length with h | h | h
  · exact Or.inr (Or.inl h)
  · rcases lt_trichotomy (topLevelSegment a.sourceRelativePath)
      (topLevelSegment b.sourceRelativePath) with hs | hs | hs
    · exact Or.inl (Or.inr ⟨h, Or.inl hs⟩)
    · rcases le_total a.relativePath b.relativePath with hk | hk
      · exact Or.inl (Or.inr ⟨h, Or.inr ⟨hs, hk⟩⟩)
      · exact Or.inr (Or.inr ⟨h.symm, Or.inr ⟨hs.symm, hk⟩⟩)
    · exact Or.inr (Or.inr ⟨h.symm, Or.inl hs⟩)
  · exact Or.inl (Or.inl h)

theorem WorkItem.before_trans (a b c : WorkItem) (hab : a.before b) (hbc : b.before c) :
    a.before c := by
  unfold WorkItem.before at hab hbc ⊢
  rcases hab with hab | ⟨hlen, hab⟩
  · rcases hbc with hbc | ⟨hlen', -⟩
    · exact Or.inl (hbc.trans hab)
    · exact Or.inl (hlen' ▸ hab)
  · rcases hbc with hbc | ⟨hlen', hbc⟩
    · exact Or.inl (hlen ▸ hbc)
    · refine Or.inr ⟨hlen.trans hlen', ?_⟩
      rcases hab with hab | ⟨hseg, hab⟩
      · rcases hbc with hbc | ⟨hseg', -⟩
        · exact Or.inl (hab.trans hbc)
        · exact Or.inl (hseg' ▸ hab)
      · rcases hbc with hbc | ⟨hseg', hbc⟩
        · exact Or.inl (hseg ▸ hbc)
        · exact Or.inr ⟨hseg.trans hseg', hab.trans hbc⟩

theorem WorkItem.length_le_of_before {a b : WorkItem} (h : a.before b) :
    b.fileRelativePaths.length ≤ a.fileRelativePaths.length := by
  rcases h with hlt | ⟨heq, -⟩
  · exact hlt.le
  · exact heq.ge

/-- The queued items are the work items with some priority. -/
theorem mem_balancedDirectoryWorkItems {workItems : List WorkItem} {queued : QueuedWorkItem}
    (h : queued ∈ balancedDirectoryWorkItems workItems) :
    ∃ item ∈ workItems, ∃ priority, queued = item.queued priority := by
  obtain ⟨⟨item, priority⟩, hentry, rfl⟩ := List.mem_map.mp h
  have hitem := List.fst_mem_of_mem_zipIdx hentry
  exact ⟨item, (List.perm_insertionSort _ _).mem_iff.mp hitem, priority, rfl⟩

theorem exists_queued_of_mem {workItems : List WorkItem} {item : WorkItem}
    (h : item ∈ workItems) :
    ∃ priority, item.queued priority ∈ balancedDirectoryWorkItems workItems := by
  have hsorted : item ∈ workItems.insertionSort WorkItem.before :=
    (List.perm_insertionSort _ _).mem_iff.mpr h
  rw [← List.zipIdx_map_fst 0 (workItems.insertionSort WorkItem.before)] at hsorted
  obtain ⟨entry, hentry, rfl⟩ := List.mem_map.mp hsorted
  exact ⟨entry.2, List.mem_map.mpr ⟨entry, hentry, rfl⟩⟩

/-- Larger items are queued before smaller ones. -/
theorem pairwise_balancedDirectoryWorkItems (workItems : List WorkItem) :
    (balancedDirectoryWorkItems workItems).Pairwise fun a b =>
      b.payloadFileCount ≤ a.payloadFileCount := by
  have : Std.Total WorkItem.before := ⟨WorkItem.before_total⟩
  have : IsTrans WorkItem WorkItem.before := ⟨WorkItem.before_trans⟩
  have hsorted := List.pairwise_insertionSort WorkItem.before workItems
  have hitems : ((workItems.insertionSort WorkItem.before).zipIdx.map Prod.fst).Pairwise
      WorkItem.before := by
    rw [List.zipIdx_map_fst]
    exact hsorted
  unfold balancedDirectoryWorkItems
  rw [List.pairwise_map] at hitems ⊢
  exact hitems.imp WorkItem.length_le_of_before

end ImmichDoctor.Catalog
