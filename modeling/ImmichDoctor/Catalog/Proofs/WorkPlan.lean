import ImmichDoctor.Catalog.Proofs.WorkItems
import ImmichDoctor.Catalog.Proofs.WorkQueue
/-!
# The work plan of a directory tree

Which files the workers obtain from the queue of a session that was prepared for a
static tree. The seeding keeps the first item of each key, and an item is read back
as its files without the blank ones; so the plan is a partition of the regular
files exactly when the items that hold files have keys of their own, no file is
blank, and every bound text has an encoding.
-/

namespace ImmichDoctor.Catalog

open ImmichDoctor.Library

/-- The lists have no element twice, and together they have the elements of `all`. -/
structure Partition {α : Type} (lists : List (List α)) (all : List α) : Prop where
  nodup : ∀ list ∈ lists, list.Nodup
  disjoint : lists.Pairwise List.Disjoint
  union : ∀ a, a ∈ all ↔ ∃ list ∈ lists, a ∈ list

/-- The queue was built, and its file lists cover every regular file exactly once. -/
def PlannedOnce (tree : DirectoryTree) (sessionId : SessionId) (prepared : Option CatalogDb) :
    Prop :=
  ∃ db, prepared = some db ∧ Partition (db.plannedFiles sessionId) tree.regularFiles

/-- What a tree must be like for its files to be covered exactly once. -/
structure DirectoryTree.Plannable (tree : DirectoryTree) : Prop where
  /-- Every directory has a path with a UTF-8 encoding. -/
  directories : ∀ directory ∈ tree.directories, directory.path.encodable = true
  /-- So has the last file of each slice of a directory. -/
  lastFiles : ∀ directory ∈ tree.directories,
    ∀ index < chunkCount directoryFileChunkSize directory.files.length,
      (chunk directoryFileChunkSize (sortPaths directory.files) index).getLast?.all
        PyStr.encodable = true
  /-- No file has a path of white space only. -/
  visible : ∀ path ∈ tree.regularFiles, path.blank = false
  /-- No directory with one slice is named like a slice of another directory. -/
  batchNames : ∀ directory ∈ tree.directories, ∀ other ∈ tree.directories,
    directory.batched → other.files ≠ [] → ¬ other.batched →
    ∀ index < chunkCount directoryFileChunkSize directory.files.length,
      other.path ≠ batchPrefix directory.path ++ py "::batch-" ++ PyStr.zeroPad 6 index
  /-- The root and a directory `__root__` in it do not both have several slices. -/
  rootName : ∀ directory ∈ tree.directories, ∀ other ∈ tree.directories,
    directory.batched → other.batched → directory.path = [] → other.path ≠ py "__root__"

/-- The same for a list of work items. -/
structure ItemsPlannable (workItems : List WorkItem) : Prop where
  bindable : ∀ item ∈ workItems, item.relativePath.encodable = true ∧
    item.fileRelativePaths.getLast?.all PyStr.encodable = true
  visible : ∀ item ∈ workItems, ∀ path ∈ item.fileRelativePaths, path.blank = false
  keys : ∀ item ∈ workItems, ∀ other ∈ workItems, item.fileRelativePaths ≠ [] →
    other.fileRelativePaths ≠ [] → item.relativePath = other.relativePath → item = other

theorem ItemsPlannable.congr {workItems others : List WorkItem} (h : ItemsPlannable workItems)
    (hitems : ∀ item, item ∈ workItems ↔ item ∈ others) : ItemsPlannable others := by
  refine ⟨fun item hitem => h.bindable item ((hitems item).mpr hitem),
    fun item hitem => h.visible item ((hitems item).mpr hitem), ?_⟩
  intro item hitem other hother
  exact h.keys item ((hitems item).mpr hitem) other ((hitems other).mpr hother)

/-! ## From the items to the queue -/

namespace CatalogDb

variable {db seeded : CatalogDb} {sessionId : SessionId} {now : Instant}
  {workItems : List QueuedWorkItem}

theorem bindable_of_seed (h : db.seedDirectoryWorkQueue now sessionId workItems = some seeded) :
    workItems.all QueuedWorkItem.bindable = true := by
  unfold seedDirectoryWorkQueue at h
  split at h
  · next hnil => rw [List.isEmpty_iff.mp hnil, List.all_nil]
  · split at h
    · cases h
    · next hbindable =>
        simp only [Bool.or_eq_true, not_or, Bool.not_eq_true', Bool.not_eq_false] at hbindable
        exact hbindable.2

theorem exists_seed_of_bindable (now : Instant)
    (hsession : (db.getScanSession sessionId).isSome = true)
    (hbindable : workItems.all QueuedWorkItem.bindable = true) :
    ∃ seeded, db.seedDirectoryWorkQueue now sessionId workItems = some seeded := by
  unfold seedDirectoryWorkQueue
  split
  · exact ⟨db, rfl⟩
  · rw [if_neg]
    · exact ⟨_, rfl⟩
    · simp [hbindable, Option.isSome_iff_ne_none.mp hsession]

end CatalogDb

theorem bindable_queued_iff {item : WorkItem} {priority : Nat} :
    (item.queued priority).bindable = true ↔ item.relativePath.encodable = true ∧
      item.fileRelativePaths.getLast?.all PyStr.encodable = true := by
  unfold QueuedWorkItem.bindable WorkItem.queued
  rw [Json.encodable_dumps, Bool.and_true, Bool.and_eq_true]

theorem all_bindable_iff {workItems : List WorkItem} :
    (balancedDirectoryWorkItems workItems).all QueuedWorkItem.bindable = true ↔
      ∀ item ∈ workItems, item.relativePath.encodable = true ∧
        item.fileRelativePaths.getLast?.all PyStr.encodable = true := by
  rw [List.all_eq_true]
  constructor
  · intro h item hitem
    obtain ⟨priority, hqueued⟩ := exists_queued_of_mem hitem
    exact bindable_queued_iff.mp (h _ hqueued)
  · intro h queued hqueued
    obtain ⟨item, hitem, priority, rfl⟩ := mem_balancedDirectoryWorkItems hqueued
    exact bindable_queued_iff.mpr (h item hitem)

/-- The rows of a session whose queue was empty, after its items were seeded. -/
structure SeededFrom (workItems : List WorkItem) (db : CatalogDb) (sessionId : SessionId) :
    Prop where
  /-- A row is that of a largest item with its key. -/
  item : ∀ row ∈ db.scanDirectoryQueue.rows, row.scanSessionId = sessionId →
    ∃ item ∈ workItems, row.relativePath = item.relativePath ∧
      row.payloadJson = some (Json.dumps item.fileRelativePaths) ∧
      ∀ other ∈ workItems, other.relativePath = item.relativePath →
        other.fileRelativePaths.length ≤ item.fileRelativePaths.length
  row : ∀ item ∈ workItems, ∃ row ∈ db.scanDirectoryQueue.rows,
    row.key = (sessionId, item.relativePath)

theorem seededFrom_of_seed {workItems : List WorkItem} {db seeded : CatalogDb}
    {sessionId : SessionId} {now : Instant} (hne : workItems ≠ [])
    (hempty : ∀ row ∈ db.scanDirectoryQueue.rows, row.scanSessionId ≠ sessionId)
    (hseed : db.seedDirectoryWorkQueue now sessionId (balancedDirectoryWorkItems workItems) =
      some seeded) : SeededFrom workItems seeded sessionId := by
  have hitems : (balancedDirectoryWorkItems workItems).isEmpty = false := by
    obtain ⟨item, hitem⟩ := List.exists_mem_of_ne_nil workItems hne
    obtain ⟨priority, hqueued⟩ := exists_queued_of_mem hitem
    exact List.isEmpty_eq_false_iff_exists_mem.mpr ⟨_, hqueued⟩
  unfold CatalogDb.seedDirectoryWorkQueue at hseed
  rw [hitems, if_neg (by simp)] at hseed
  split at hseed
  · cases hseed
  · cases hseed
    refine ⟨fun row hrow hsession => ?_, fun item hitem => ?_⟩
    · rcases CatalogDb.first_of_seeded (pairwise_balancedDirectoryWorkItems workItems) hrow with
        hold | ⟨queued, hqueued, id, rfl, -, hfirst⟩
      · exact absurd hsession (hempty row hold)
      · obtain ⟨item, hitem, priority, rfl⟩ := mem_balancedDirectoryWorkItems hqueued
        refine ⟨item, hitem, rfl, rfl, fun other hother hsame => ?_⟩
        obtain ⟨otherPriority, hotherQueued⟩ := exists_queued_of_mem hother
        rcases hfirst _ hotherQueued hsame with heq | hle
        · exact Nat.le_of_eq (congrArg QueuedWorkItem.payloadFileCount heq)
        · exact hle
    · obtain ⟨priority, hqueued⟩ := exists_queued_of_mem hitem
      exact CatalogDb.exists_seeded hqueued

/-! ## From the queue to the files -/

theorem filePathsFromPayload_dumps {paths : List PyStr}
    (hreadable : ∀ path ∈ paths, Json.Readable path) :
    filePathsFromPayload (Json.dumps paths) = paths.filter fun path => !path.blank := by
  rw [filePathsFromPayload, Json.loads_dumps hreadable]

section Planned

variable {tree : DirectoryTree} {workItems : List WorkItem} {db : CatalogDb}
  {sessionId : SessionId}

theorem mem_plannedFiles {list : List PyStr} :
    list ∈ db.plannedFiles sessionId ↔ ∃ row ∈ db.scanDirectoryQueue.rows,
      row.scanSessionId = sessionId ∧ row.payloadJson.elim [] filePathsFromPayload = list := by
  simp only [CatalogDb.plannedFiles, List.mem_map, List.mem_filter, decide_eq_true_eq, and_assoc]

/-- What the row of an item is read back as. -/
theorem planned_of_item {item : WorkItem} (hitem : item ∈ tree.workItems) {row : DirectoryQueueRow}
    (hpayload : row.payloadJson = some (Json.dumps item.fileRelativePaths)) :
    row.payloadJson.elim [] filePathsFromPayload =
      item.fileRelativePaths.filter fun path => !path.blank := by
  rw [hpayload, Option.elim_some]
  apply filePathsFromPayload_dumps
  intro path hpath
  exact DirectoryTree.readable_of_mem_regularFiles
    (DirectoryTree.mem_regularFiles_iff.mpr ⟨item, hitem, hpath⟩)

/-- A file that the workers obtain comes from the item of some row. -/
theorem exists_item_of_planned (hseeded : SeededFrom workItems db sessionId)
    (hitems : ∀ item, item ∈ workItems ↔ item ∈ tree.workItems) {list : List PyStr} {path : PyStr}
    (hlist : list ∈ db.plannedFiles sessionId) (hpath : path ∈ list) :
    ∃ row ∈ db.scanDirectoryQueue.rows, ∃ item ∈ workItems,
      row.key = (sessionId, item.relativePath) ∧ path ∈ item.fileRelativePaths ∧
      path.blank = false := by
  obtain ⟨row, hrow, hsession, hread⟩ := mem_plannedFiles.mp hlist
  obtain ⟨item, hitem, hkey, hpayload, -⟩ := hseeded.item row hrow hsession
  rw [← hread, planned_of_item ((hitems item).mp hitem) hpayload, List.mem_filter] at hpath
  refine ⟨row, hrow, item, hitem, ?_, hpath.1, by simpa using hpath.2⟩
  rw [DirectoryQueueRow.key, hsession, hkey]

/-- The plan is a partition when no file is blank and the keys are distinct. -/
theorem partition_of_plannable (hseeded : SeededFrom workItems db sessionId)
    (hitems : ∀ item, item ∈ workItems ↔ item ∈ tree.workItems)
    (hplannable : ItemsPlannable workItems) :
    Partition (db.plannedFiles sessionId) tree.regularFiles := by
  refine ⟨?_, ?_, ?_⟩
  · intro list hlist
    obtain ⟨row, hrow, hsession, rfl⟩ := mem_plannedFiles.mp hlist
    obtain ⟨item, hitem, -, hpayload, -⟩ := hseeded.item row hrow hsession
    rw [planned_of_item ((hitems item).mp hitem) hpayload]
    apply List.Nodup.filter
    have hnodup : (tree.workItems.flatMap WorkItem.fileRelativePaths).Nodup :=
      tree.files_workItems.nodup_iff.mpr tree.regularFiles_nodup
    exact (List.nodup_flatMap.mp hnodup).1 item ((hitems item).mp hitem)
  · have hkeys : db.scanDirectoryQueue.rows.Pairwise fun a b => a.key ≠ b.key :=
      List.pairwise_map.mp db.scanDirectoryQueue.unique
    unfold CatalogDb.plannedFiles
    rw [List.pairwise_map]
    refine List.Pairwise.imp_of_mem ?_ (hkeys.filter _)
    intro a b ha hb hne path hpath hother
    obtain ⟨harow, hasession⟩ := List.mem_filter.mp ha
    obtain ⟨hbrow, hbsession⟩ := List.mem_filter.mp hb
    simp only [decide_eq_true_eq] at hasession hbsession
    obtain ⟨item, hitem, hkey, hpayload, -⟩ := hseeded.item a harow hasession
    obtain ⟨other, hotherItem, hotherKey, hotherPayload, -⟩ := hseeded.item b hbrow hbsession
    rw [planned_of_item ((hitems item).mp hitem) hpayload] at hpath
    rw [planned_of_item ((hitems other).mp hotherItem) hotherPayload] at hother
    have hsame : item = other := DirectoryTree.eq_of_common_file ((hitems item).mp hitem)
      ((hitems other).mp hotherItem) (List.mem_filter.mp hpath).1 (List.mem_filter.mp hother).1
    refine hne ?_
    rw [DirectoryQueueRow.key, DirectoryQueueRow.key, hasession, hbsession, hkey, hotherKey, hsame]
  · intro path
    rw [DirectoryTree.mem_regularFiles_iff]
    constructor
    · rintro ⟨item, hitem, hpath⟩
      have hitem := (hitems item).mpr hitem
      obtain ⟨row, hrow, hkey⟩ := hseeded.row item hitem
      obtain ⟨hsession, hrelative⟩ := Prod.mk.inj hkey
      -- the row of this key may be that of another item, but only of a larger one
      obtain ⟨first, hfirst, hfirstKey, hpayload, hlargest⟩ := hseeded.item row hrow hsession
      have hlength := hlargest item hitem (hrelative.symm.trans hfirstKey)
      have hne : item.fileRelativePaths ≠ [] := List.ne_nil_of_mem hpath
      have hfirstNe : first.fileRelativePaths ≠ [] := by
        have hpos := List.length_pos_iff.mpr hne
        exact List.length_pos_iff.mp (by omega)
      have hsame : first = item := hplannable.keys first hfirst item hitem hfirstNe hne
        (hfirstKey.symm.trans hrelative)
      subst hsame
      refine ⟨_, mem_plannedFiles.mpr ⟨row, hrow, hsession, rfl⟩, ?_⟩
      rw [planned_of_item ((hitems first).mp hfirst) hpayload, List.mem_filter]
      exact ⟨hpath, by rw [hplannable.visible first hfirst path hpath]; rfl⟩
    · rintro ⟨list, hlist, hpath⟩
      obtain ⟨-, -, item, hitem, -, hfile, -⟩ := exists_item_of_planned hseeded hitems hlist hpath
      exact ⟨item, (hitems item).mp hitem, hfile⟩

/-- In a plan that covers every file, no file is blank and the keys are distinct. -/
theorem plannable_of_partition (hseeded : SeededFrom workItems db sessionId)
    (hitems : ∀ item, item ∈ workItems ↔ item ∈ tree.workItems)
    (hbindable : ∀ item ∈ workItems, item.relativePath.encodable = true ∧
      item.fileRelativePaths.getLast?.all PyStr.encodable = true)
    (hpartition : Partition (db.plannedFiles sessionId) tree.regularFiles) :
    ItemsPlannable workItems := by
  -- a file of an item is obtained from a row with the key of this item
  have hcovered : ∀ item ∈ workItems, ∀ path ∈ item.fileRelativePaths, path.blank = false ∧
      ∃ row ∈ db.scanDirectoryQueue.rows, row.key = (sessionId, item.relativePath) ∧
        path ∈ row.payloadJson.elim [] filePathsFromPayload := by
    intro item hitem path hpath
    have hregular : path ∈ tree.regularFiles :=
      DirectoryTree.mem_regularFiles_iff.mpr ⟨item, (hitems item).mp hitem, hpath⟩
    obtain ⟨list, hlist, hin⟩ := (hpartition.union path).mp hregular
    obtain ⟨row, hrow, hsession, rfl⟩ := mem_plannedFiles.mp hlist
    obtain ⟨other, hother, hkey, hpayload, -⟩ := hseeded.item row hrow hsession
    have hread := hin
    rw [planned_of_item ((hitems other).mp hother) hpayload, List.mem_filter] at hread
    have hsame : other = item := DirectoryTree.eq_of_common_file ((hitems other).mp hother)
      ((hitems item).mp hitem) hread.1 hpath
    refine ⟨by simpa using hread.2, row, hrow, ?_, hin⟩
    rw [DirectoryQueueRow.key, hsession, hkey, hsame]
  refine ⟨hbindable, fun item hitem path hpath => (hcovered item hitem path hpath).1, ?_⟩
  intro item hitem other hother hne hotherNe hkey
  obtain ⟨path, hpath⟩ := List.exists_mem_of_ne_nil _ hne
  obtain ⟨otherPath, hotherPath⟩ := List.exists_mem_of_ne_nil _ hotherNe
  obtain ⟨-, row, hrow, hrowKey, hin⟩ := hcovered item hitem path hpath
  obtain ⟨-, otherRow, hotherRow, hotherRowKey, hotherIn⟩ :=
    hcovered other hother otherPath hotherPath
  -- both files are read from the one row with this key
  have hsameRow : row = otherRow := db.scanDirectoryQueue.eq_of_key_eq hrow hotherRow
    (by rw [hrowKey, hotherRowKey, hkey])
  subst hsameRow
  obtain ⟨hsession, -⟩ := Prod.mk.inj hrowKey
  obtain ⟨source, hsource, -, hpayload, -⟩ := hseeded.item row hrow hsession
  rw [planned_of_item ((hitems source).mp hsource) hpayload] at hin hotherIn
  have hfirst : source = item := DirectoryTree.eq_of_common_file ((hitems source).mp hsource)
    ((hitems item).mp hitem) (List.mem_filter.mp hin).1 hpath
  have hsecond : source = other := DirectoryTree.eq_of_common_file ((hitems source).mp hsource)
    ((hitems other).mp hother) (List.mem_filter.mp hotherIn).1 hotherPath
  exact hfirst.symm.trans hsecond

end Planned

/-! ## From the tree to the items -/

namespace DirectoryTree

variable {tree : DirectoryTree} {directory other : Directory}

theorem mem_workItems_of_mem {item : WorkItem} (hdirectory : directory ∈ tree.directories)
    (hitem : item ∈ directory.workItems) : item ∈ tree.workItems :=
  List.mem_flatMap.mpr ⟨directory, hdirectory, hitem⟩

theorem eq_of_path_eq (hdirectory : directory ∈ tree.directories)
    (hother : other ∈ tree.directories) (hpath : directory.path = other.path) :
    directory = other :=
  List.inj_on_of_nodup_map tree.directories_nodup hdirectory hother hpath

end DirectoryTree

namespace Directory

variable {directory : Directory}

/-- The slice of a directory with the given index, as a work item. -/
def sliceItem (directory : Directory) (index : Nat) : WorkItem where
  relativePath := directoryWorkItemKey directory.path index
    (chunkCount directoryFileChunkSize directory.files.length)
  sourceRelativePath := directory.path
  fileRelativePaths := chunk directoryFileChunkSize (sortPaths directory.files) index
  payloadErrorCount := if index = 0 then (if directory.listed then 0 else 1) else 0

theorem sliceItem_mem {index : Nat}
    (hindex : index < chunkCount directoryFileChunkSize directory.files.length) :
    directory.sliceItem index ∈ directory.workItems :=
  mem_workItems.mpr (Or.inr ⟨index, hindex, rfl⟩)

theorem sliceItem_ne_nil {index : Nat}
    (hindex : index < chunkCount directoryFileChunkSize directory.files.length) :
    (directory.sliceItem index).fileRelativePaths ≠ [] := by
  apply chunk_ne_nil chunkSize_pos
  rwa [length_sortPaths]

/-- An item with files is a slice. -/
theorem exists_slice_of_mem {item : WorkItem} (hitem : item ∈ directory.workItems)
    (hne : item.fileRelativePaths ≠ []) :
    ∃ index < chunkCount directoryFileChunkSize directory.files.length,
      item = directory.sliceItem index := by
  rcases mem_workItems.mp hitem with ⟨-, rfl⟩ | hslice
  · exact absurd rfl hne
  · exact hslice

theorem exists_mem_workItems (directory : Directory) :
    ∃ item ∈ directory.workItems, ∃ index count,
      item.relativePath = directoryWorkItemKey directory.path index count := by
  by_cases hfiles : directory.files = []
  · exact ⟨_, mem_workItems.mpr (Or.inl ⟨hfiles, rfl⟩), 0, 1, rfl⟩
  · have hpos : 0 < chunkCount directoryFileChunkSize directory.files.length := by
      rw [lt_chunkCount_iff chunkSize_pos, Nat.zero_mul]
      exact List.length_pos_iff.mpr hfiles
    exact ⟨_, sliceItem_mem hpos, _, _, rfl⟩

theorem zero_lt_chunkCount (hfiles : directory.files ≠ []) :
    0 < chunkCount directoryFileChunkSize directory.files.length := by
  rw [lt_chunkCount_iff chunkSize_pos, Nat.zero_mul]
  exact List.length_pos_iff.mpr hfiles

theorem batched_iff (hfiles : directory.files ≠ []) :
    directory.batched ↔ chunkCount directoryFileChunkSize directory.files.length ≠ 1 := by
  have hpos := List.length_pos_iff.mpr hfiles
  rw [ne_eq, chunkCount_eq_one_iff chunkSize_pos, batched]
  omega

theorem files_ne_nil_of_slice {index : Nat}
    (hindex : index < chunkCount directoryFileChunkSize directory.files.length) :
    directory.files ≠ [] := by
  intro hnil
  rw [lt_chunkCount_iff chunkSize_pos, hnil] at hindex
  exact Nat.not_lt_zero _ hindex

theorem sliceItem_key_of_batched {index : Nat}
    (hindex : index < chunkCount directoryFileChunkSize directory.files.length)
    (hbatched : directory.batched) :
    (directory.sliceItem index).relativePath =
      batchPrefix directory.path ++ py "::batch-" ++ PyStr.zeroPad 6 index :=
  directoryWorkItemKey_batch ((batched_iff (files_ne_nil_of_slice hindex)).mp hbatched)

theorem sliceItem_key_of_single {index : Nat}
    (hindex : index < chunkCount directoryFileChunkSize directory.files.length)
    (hsingle : ¬ directory.batched) :
    (directory.sliceItem index).relativePath = directory.path ∧ index = 0 := by
  rw [batched_iff (files_ne_nil_of_slice hindex), not_not] at hsingle
  refine ⟨?_, by omega⟩
  rw [sliceItem, directoryWorkItemKey, if_pos hsingle]

end Directory

/-- Slices of a plannable tree with the same key are the same slice. -/
theorem DirectoryTree.Plannable.slice_inj {tree : DirectoryTree} (h : tree.Plannable)
    {directory other : Directory} {i j : Nat} (hdirectory : directory ∈ tree.directories)
    (hother : other ∈ tree.directories)
    (hi : i < chunkCount directoryFileChunkSize directory.files.length)
    (hj : j < chunkCount directoryFileChunkSize other.files.length)
    (hkey : (directory.sliceItem i).relativePath = (other.sliceItem j).relativePath) :
    directory.sliceItem i = other.sliceItem j := by
  by_cases hbatched : directory.batched
  · rw [Directory.sliceItem_key_of_batched hi hbatched] at hkey
    by_cases hotherBatched : other.batched
    · rw [Directory.sliceItem_key_of_batched hj hotherBatched] at hkey
      obtain ⟨hpre, rfl⟩ := batchPrefix_inj hkey
      rcases eq_of_batchPrefix_eq hpre with hpath | ⟨hroot, hname⟩ | ⟨hname, hroot⟩
      · rw [eq_of_path_eq hdirectory hother hpath]
      · exact absurd hname
          (h.rootName directory hdirectory other hother hbatched hotherBatched hroot)
      · exact absurd hname
          (h.rootName other hother directory hdirectory hotherBatched hbatched hroot)
    · rw [(Directory.sliceItem_key_of_single hj hotherBatched).1] at hkey
      exact absurd hkey.symm (h.batchNames directory hdirectory other hother hbatched
        (Directory.files_ne_nil_of_slice hj) hotherBatched i hi)
  · obtain ⟨hpath, rfl⟩ := Directory.sliceItem_key_of_single hi hbatched
    rw [hpath] at hkey
    by_cases hotherBatched : other.batched
    · rw [Directory.sliceItem_key_of_batched hj hotherBatched] at hkey
      exact absurd hkey (h.batchNames other hother directory hdirectory hotherBatched
        (Directory.files_ne_nil_of_slice hi) hbatched j hj)
    · obtain ⟨hotherPath, rfl⟩ := Directory.sliceItem_key_of_single hj hotherBatched
      rw [eq_of_path_eq hdirectory hother (hkey.trans hotherPath)]

theorem itemsPlannable_of_plannable {tree : DirectoryTree} (h : tree.Plannable) :
    ItemsPlannable tree.workItems := by
  refine ⟨?_, ?_, ?_⟩
  · intro item hitem
    obtain ⟨directory, hdirectory, hof⟩ := List.mem_flatMap.mp hitem
    have hpath := h.directories directory hdirectory
    rcases Directory.mem_workItems.mp hof with ⟨-, rfl⟩ | ⟨index, hindex, rfl⟩
    · exact ⟨hpath, rfl⟩
    · exact ⟨(encodable_directoryWorkItemKey _ _ _).trans hpath,
        h.lastFiles directory hdirectory index hindex⟩
  · intro item hitem path hpath
    exact h.visible path (DirectoryTree.mem_regularFiles_iff.mpr ⟨item, hitem, hpath⟩)
  · intro item hitem other hother hne hotherNe hkey
    obtain ⟨directory, hdirectory, hof⟩ := List.mem_flatMap.mp hitem
    obtain ⟨second, hsecond, hotherOf⟩ := List.mem_flatMap.mp hother
    obtain ⟨i, hi, rfl⟩ := Directory.exists_slice_of_mem hof hne
    obtain ⟨j, hj, rfl⟩ := Directory.exists_slice_of_mem hotherOf hotherNe
    exact h.slice_inj hdirectory hsecond hi hj hkey

theorem plannable_of_itemsPlannable {tree : DirectoryTree} (h : ItemsPlannable tree.workItems) :
    tree.Plannable := by
  -- slices with the same key are of one directory
  have hsource : ∀ directory ∈ tree.directories, ∀ other ∈ tree.directories, ∀ i j,
      i < chunkCount directoryFileChunkSize directory.files.length →
      j < chunkCount directoryFileChunkSize other.files.length →
      (directory.sliceItem i).relativePath = (other.sliceItem j).relativePath →
      directory.path = other.path := by
    intro directory hdirectory other hother i j hi hj hkey
    have hsame := h.keys _
      (DirectoryTree.mem_workItems_of_mem hdirectory (Directory.sliceItem_mem hi)) _
      (DirectoryTree.mem_workItems_of_mem hother (Directory.sliceItem_mem hj))
      (Directory.sliceItem_ne_nil hi) (Directory.sliceItem_ne_nil hj) hkey
    exact congrArg WorkItem.sourceRelativePath hsame
  refine ⟨?_, ?_, ?_, ?_, ?_⟩
  · intro directory hdirectory
    obtain ⟨item, hitem, index, count, hkey⟩ := directory.exists_mem_workItems
    have hencodable := (h.bindable item (DirectoryTree.mem_workItems_of_mem hdirectory hitem)).1
    rwa [hkey, encodable_directoryWorkItemKey] at hencodable
  · intro directory hdirectory index hindex
    exact (h.bindable _ (DirectoryTree.mem_workItems_of_mem hdirectory
      (Directory.sliceItem_mem hindex))).2
  · intro path hpath
    obtain ⟨item, hitem, hfile⟩ := DirectoryTree.mem_regularFiles_iff.mp hpath
    exact h.visible item hitem path hfile
  · intro directory hdirectory other hother hbatched hne hsingle index hindex hname
    have hzero := Directory.zero_lt_chunkCount hne
    have hpath := hsource directory hdirectory other hother index 0 hindex hzero (by
      rw [Directory.sliceItem_key_of_batched hindex hbatched,
        (Directory.sliceItem_key_of_single hzero hsingle).1, hname])
    rw [DirectoryTree.eq_of_path_eq hdirectory hother hpath] at hbatched
    exact hsingle hbatched
  · intro directory hdirectory other hother hbatched hotherBatched hroot hname
    have hfiles : ∀ d : Directory, d.batched → d.files ≠ [] := by
      intro d hd hnil
      rw [Directory.batched, hnil] at hd
      exact Nat.not_lt_zero _ hd
    have hzero := Directory.zero_lt_chunkCount (hfiles directory hbatched)
    have hotherZero := Directory.zero_lt_chunkCount (hfiles other hotherBatched)
    have hpath := hsource directory hdirectory other hother 0 0 hzero hotherZero (by
      rw [Directory.sliceItem_key_of_batched hzero hbatched,
        Directory.sliceItem_key_of_batched hotherZero hotherBatched, hroot, hname]
      rfl)
    rw [hroot, hname] at hpath
    cases hpath

/-! ## The plan of a new session -/

section Plan

variable {clock created now : Instant} {s t : CatalogState} {sessionId : SessionId}
  {storageRootId : Nat} {maxFiles : Option Int} {tree : DirectoryTree}
  {control : Nat → ControlState}

/-- A session that was just created has no work yet. -/
theorem queue_empty_of_created
    (hreach : Reachable CatalogState.step (CatalogState.start clock) s)
    (hcreate : s.step (created, .createScanSession sessionId storageRootId maxFiles) = some t) :
    (t.db.getScanSession sessionId).isSome = true ∧
      ∀ row ∈ t.db.scanDirectoryQueue.rows, row.scanSessionId ≠ sessionId := by
  obtain ⟨-, hrun, -⟩ := CatalogState.step_eq_some_iff.mp hcreate
  obtain ⟨hqueue, hfresh, session, hrows, hid, -⟩ := CatalogDb.queue_createScanSession hrun
  refine ⟨?_, ?_⟩
  · have hfind : t.db.getScanSession sessionId = some session := by
      apply Table.find?_eq_some_iff.mpr
      rw [hrows]
      exact ⟨List.mem_append_right _ List.mem_cons_self, hid⟩
    rw [hfind]
    rfl
  · intro row hrow hsession
    rw [hqueue] at hrow
    obtain ⟨old, hold, holdId⟩ := queueReferences_of_reachable hreach row hrow
    exact hfresh old hold (holdId.trans hsession)

/-- The queue that is prepared for a new session covers every regular file of the tree
exactly once if and only if the tree is plannable. -/
theorem planned_once_iff (hreach : Reachable CatalogState.step (CatalogState.start clock) s)
    (hcreate : s.step (created, .createScanSession sessionId storageRootId maxFiles) = some t)
    (hquiet : ∀ poll, (control poll).reason = none) :
    PlannedOnce tree sessionId (t.db.prepareDirectoryQueue now sessionId tree control) ↔
      tree.Plannable := by
  obtain ⟨hsession, hempty⟩ := queue_empty_of_created hreach hcreate
  obtain ⟨visited, rest, seen, hdiscover, hperm, hdone, hseen⟩ := discover_spec tree control
  rw [hdone (hseen hquiet), List.append_nil] at hperm
  have hitemsPerm : (visited.flatMap Directory.workItems).Perm tree.workItems :=
    hperm.flatMap_right _
  have hitems : ∀ item, item ∈ visited.flatMap Directory.workItems ↔ item ∈ tree.workItems :=
    fun item => hitemsPerm.mem_iff
  have hne : visited.flatMap Directory.workItems ≠ [] := by
    intro hnil
    rw [hnil] at hitemsPerm
    obtain ⟨directory, hdirectory⟩ : ∃ directory, directory ∈ tree.directories := by
      obtain ⟨files, listed, heq⟩ := Walk.directoriesFrom_eq_cons ([], tree.root)
      exact ⟨_, heq ▸ List.mem_cons_self⟩
    obtain ⟨item, hitem, -⟩ := directory.exists_mem_workItems
    have hmem := DirectoryTree.mem_workItems_of_mem hdirectory hitem
    rw [← hitemsPerm.nil_eq] at hmem
    cases hmem
  have hprepared : t.db.prepareDirectoryQueue now sessionId tree control =
      t.db.seedDirectoryWorkQueue now sessionId
        (balancedDirectoryWorkItems (visited.flatMap Directory.workItems)) := by
    rw [CatalogDb.prepareDirectoryQueue, hdiscover]
    rfl
  rw [hprepared]
  constructor
  · rintro ⟨seeded, hseed, hpartition⟩
    have hbindable := all_bindable_iff.mp (CatalogDb.bindable_of_seed hseed)
    have hplannable := plannable_of_partition (seededFrom_of_seed hne hempty hseed) hitems
      hbindable hpartition
    exact plannable_of_itemsPlannable (hplannable.congr hitems)
  · intro hplannable
    have hsound := (itemsPlannable_of_plannable hplannable).congr fun item => (hitems item).symm
    obtain ⟨seeded, hseed⟩ := CatalogDb.exists_seed_of_bindable now hsession
      (all_bindable_iff.mpr hsound.bindable)
    exact ⟨seeded, hseed,
      partition_of_plannable (seededFrom_of_seed hne hempty hseed) hitems hsound⟩

end Plan

/-! ## A file named by a space -/

/-- The catalog of a single root, right after a session of it was created. -/
def oneRootCreated : CatalogState :=
  Steps.last CatalogState.step (.start 0)
    [(1, .upsertStorageRoot ⟨py "uploads", py "immich_uploads_path", py "source", py "/uploads"⟩),
      (2, .createScanSession (py "a") 1 none)]

/-- The same catalog before the session. -/
def oneRoot : CatalogState :=
  Steps.last CatalogState.step (.start 0)
    [(1, .upsertStorageRoot ⟨py "uploads", py "immich_uploads_path", py "source", py "/uploads"⟩)]

/-- A root with one file of the given name. -/
def singleFile (name : PyStr) (hname : validName name = true) : DirectoryTree where
  root := some (.leaf name (.file (some ⟨0, 0, 0, 0, 0⟩)) .nil)
  wellFormed := by simp [Entries.wellFormed, Entries.names, hname]

theorem planned_once_iff_single_file :
    PlannedOnce (singleFile (py "a.jpg") (by decide)) (py "a")
        (oneRootCreated.db.prepareDirectoryQueue 3 (py "a")
          (singleFile (py "a.jpg") (by decide)) fun _ => ⟨false, false⟩) ↔
      (singleFile (py "a.jpg") (by decide)).Plannable := by
  have hreach : Reachable CatalogState.step (CatalogState.start 0) oneRoot :=
    Reachable.of_exec (Steps.exec_eq_last (by decide))
  have hcreate : oneRoot.step (2, .createScanSession (py "a") 1 none) = some oneRootCreated := rfl
  exact planned_once_iff hreach hcreate fun _ => rfl

/-- The file of a root with a file named by a space is in no file list of the queue. -/
theorem blank_name_not_planned :
    Reachable CatalogState.step (CatalogState.start 0) oneRoot ∧
      oneRoot.step (2, .createScanSession (py "a") 1 none) = some oneRootCreated ∧
      ¬ PlannedOnce (singleFile (py " ") (by decide)) (py "a")
        (oneRootCreated.db.prepareDirectoryQueue 3 (py "a")
          (singleFile (py " ") (by decide)) fun _ => ⟨false, false⟩) := by
  refine ⟨Reachable.of_exec (Steps.exec_eq_last (by decide)), rfl, ?_⟩
  rintro ⟨prepared, hprepared, hpartition⟩
  have hplanned : (oneRootCreated.db.prepareDirectoryQueue 3 (py "a")
      (singleFile (py " ") (by decide)) fun _ => ⟨false, false⟩).map
        (fun db => db.plannedFiles (py "a")) = some [[]] := by decide
  rw [hprepared, Option.map_some, Option.some.injEq] at hplanned
  have hfile : py " " ∈ (singleFile (py " ") (by decide)).regularFiles := by decide
  obtain ⟨list, hlist, hin⟩ := (hpartition.union _).mp hfile
  rw [hplanned, List.mem_singleton] at hlist
  rw [hlist] at hin
  cases hin

end ImmichDoctor.Catalog
