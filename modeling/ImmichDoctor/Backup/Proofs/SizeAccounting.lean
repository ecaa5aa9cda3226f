import ImmichDoctor.Backup.SizeEstimation
import ImmichDoctor.Library.Fibers
import Mathlib.Algebra.Order.Group.Multiset
import Mathlib.Data.List.Induction
import Mathlib.Tactic.Abel
/-!
# Size accounting

The totals of the scan and the totals of the categories are kept by different code, file by
file. Both are sums over the same list, the files that were counted: an entry whose `stat`
raises and a listing that breaks off change neither.
-/

namespace ImmichDoctor.Backup

open ImmichDoctor.Library ImmichDoctor.Storage

/-! ## The files of a scan -/

section Scan

variable {σ : Type*} {onFile : σ → PurePath → Nat → σ} {env : ScanEnvironment}
  {directory : PurePath} {before middle after : UsageScan σ}
  {files more : Multiset (PurePath × Option Nat)}

/-- A file and its size as the tree shows it. -/
def sized (file : PurePath × Nat) : PurePath × Option Nat :=
  (file.1, some file.2)

/-- The regular files below the directories on the stack. -/
def stackFiles (stack : List (PurePath × UsageTree)) : Multiset (PurePath × Option Nat) :=
  (stack.map fun entry => (entry.2.regularFiles entry.1 : Multiset _)).sum

/-- From one state to another every file that is new or was pending is counted, still pending,
or lost to an error. -/
structure Accounts (onFile : σ → PurePath → Nat → σ) (before after : UsageScan σ)
    (files : Multiset (PurePath × Option Nat)) (counted : List (PurePath × Nat))
    (lost : Multiset (PurePath × Option Nat)) : Prop where
  state : after.state = counted.foldl (fun state file => onFile state file.1 file.2) before.state
  bytes : after.totalBytes = before.totalBytes + (counted.map Prod.snd).sum
  count : after.fileCount = before.fileCount + counted.length
  errors : before.errorCount ≤ after.errorCount
  balance : (counted.map sized : Multiset _) + stackFiles after.stack + lost =
    files + stackFiles before.stack
  complete : after.errorCount = before.errorCount → lost = 0

namespace Accounts

variable {counted later : List (PurePath × Nat)} {lost gone : Multiset (PurePath × Option Nat)}

theorem refl (scan : UsageScan σ) : Accounts onFile scan scan 0 [] 0 where
  state := rfl
  bytes := rfl
  count := rfl
  errors := Nat.le_refl _
  balance := by simp
  complete _ := rfl

theorem trans (h : Accounts onFile before middle files counted lost)
    (h' : Accounts onFile middle after more later gone) :
    Accounts onFile before after (files + more) (counted ++ later) (lost + gone) where
  state := by rw [List.foldl_append, ← h.state, h'.state]
  bytes := by
    rw [List.map_append, List.sum_append, h'.bytes, h.bytes, Nat.add_assoc]
  count := by rw [List.length_append, h'.count, h.count, Nat.add_assoc]
  errors := h.errors.trans h'.errors
  balance := by
    rw [List.map_append, ← Multiset.coe_add]
    calc _ = (counted.map sized : Multiset _) + lost +
          ((later.map sized : Multiset _) + stackFiles after.stack + gone) := by abel
      _ = ((counted.map sized : Multiset _) + stackFiles middle.stack + lost) + more := by
          rw [h'.balance]
          abel
      _ = files + more + stackFiles before.stack := by
          rw [h.balance]
          abel
  complete heq := by
    have hfirst := h.errors
    have hsecond := h'.errors
    rw [h.complete (by omega), h'.complete (by omega), add_zero]

/-- What comes with an error may be lost. -/
theorem fail (scan : UsageScan σ) (path message : PyStr)
    (files : Multiset (PurePath × Option Nat)) :
    Accounts onFile scan (scan.fail path message) files [] files where
  state := rfl
  bytes := rfl
  count := rfl
  errors := Nat.le_succ _
  balance := by
    rw [List.map_nil, Multiset.coe_nil, zero_add, add_comm]
    rfl
  complete heq := absurd heq (Nat.succ_ne_self _)

end Accounts

theorem accounts_visitFile (name : PyStr) (stat : Except PyStr Nat) (scan : UsageScan σ) :
    ∃ counted lost, Accounts onFile scan (visitFile onFile directory name stat scan)
      {(entryPath directory name, stat.toOption)} counted lost := by
  cases stat with
  | error message => exact ⟨_, _, .fail scan _ message _⟩
  | ok size =>
      refine ⟨[(entryPath directory name, size)], 0, ?_⟩
      constructor
      · rfl
      · rfl
      · rfl
      · exact Nat.le_refl _
      · rw [add_zero]
        rfl
      · exact fun _ => rfl

theorem accounts_visitDirectory (name : PyStr) (contents : UsageTree) (scan : UsageScan σ) :
    Accounts onFile scan (visitDirectory directory name contents scan)
      (contents.regularFiles (entryPath directory name)) [] 0 where
  state := rfl
  bytes := rfl
  count := rfl
  errors := Nat.le_refl _
  balance := by
    rw [List.map_nil, Multiset.coe_nil, zero_add, add_zero, visitDirectory, stackFiles,
      List.map_cons, List.sum_cons]
    rfl
  complete _ := rfl

/-- One pass and the later ones. -/
theorem accounts_passEntry {visit : UsageScan σ → UsageScan σ}
    {next : UsageScan σ → Except ScanStop (UsageScan σ)}
    (hvisit : ∀ scan, ∃ counted lost, Accounts onFile scan (visit scan) files counted lost)
    (hnext : ∀ scan, next scan = .ok after →
      ∃ counted lost, Accounts onFile scan after more counted lost)
    (h : passEntry env directory visit next before = .ok after) :
    ∃ counted lost, Accounts onFile before after (files + more) counted lost := by
  obtain ⟨counted, lost, hfirst⟩ := hvisit { before with checks := before.checks + 1 }
  have hstart : Accounts onFile before (visit { before with checks := before.checks + 1 }) files
      counted lost := ⟨hfirst.1, hfirst.2, hfirst.3, hfirst.4, hfirst.5, hfirst.6⟩
  rcases passEntry_cases h with hrest | ⟨message, rfl⟩
  · obtain ⟨later, gone, hsecond⟩ := hnext _ hrest
    exact ⟨_, _, hstart.trans hsecond⟩
  · exact ⟨_, _, hstart.trans (.fail _ _ message more)⟩

/-- The listing of a directory. -/
theorem accounts_scanEntries (tree : UsageTree)
    (h : scanEntries env onFile directory tree before = .ok after) :
    ∃ counted lost, Accounts onFile before after (tree.regularFiles directory) counted lost := by
  induction tree generalizing before with
  | done failure =>
      cases failure with
      | none =>
          cases h
          exact ⟨_, _, .refl _⟩
      | some message =>
          cases h
          exact ⟨_, _, .fail _ _ message _⟩
  | file name stat rest ih =>
      rw [scanEntries] at h
      exact accounts_passEntry (accounts_visitFile name stat) (fun _ => ih) h
  | directory name contents rest _ ih =>
      rw [scanEntries] at h
      rw [UsageTree.regularFiles, ← Multiset.coe_add]
      exact accounts_passEntry
        (fun scan => ⟨_, _, accounts_visitDirectory name contents scan⟩) (fun _ => ih) h
  | other name rest ih =>
      rw [scanEntries] at h
      rw [UsageTree.regularFiles, ← zero_add (Multiset.ofList _)]
      refine accounts_passEntry (fun scan => ?_) (fun _ => ih) h
      have hrefl : Accounts onFile scan scan 0 [] 0 := .refl scan
      exact ⟨[], 0, ⟨hrefl.1, hrefl.2, hrefl.3, hrefl.4, hrefl.5, hrefl.6⟩⟩
  | failing name message rest ih =>
      rw [scanEntries] at h
      rw [UsageTree.regularFiles, ← zero_add (Multiset.ofList _)]
      exact accounts_passEntry (fun scan => ⟨_, _, .fail scan _ message 0⟩) (fun _ => ih) h

/-- The loop over the stack ends with nothing pending. -/
theorem accounts_scanStack (h : scanStack env onFile before = .ok after) :
    (∃ counted lost, Accounts onFile before after 0 counted lost) ∧ after.stack = [] := by
  fun_induction scanStack env onFile before with
  | case1 scan hstack =>
      cases h
      exact ⟨⟨_, _, .refl _⟩, hstack⟩
  | case2 scan directory tree stack hstack stop hstop => cases h
  | case3 scan directory tree stack hstack hstop stop hentries => cases h
  | case4 scan directory tree stack hstack hstop visited hentries ih =>
      obtain ⟨⟨later, gone, hsecond⟩, hempty⟩ := ih h
      obtain ⟨counted, lost, hfirst⟩ := accounts_scanEntries tree hentries
      have hpop : Accounts onFile scan visited 0 counted lost := by
        refine ⟨hfirst.1, hfirst.2, hfirst.3, hfirst.4, ?_, hfirst.6⟩
        rw [hfirst.balance, hstack, zero_add, stackFiles, stackFiles, List.map_cons, List.sum_cons]
      refine ⟨⟨counted ++ later, lost + gone, ?_⟩, hempty⟩
      have hboth := hpop.trans hsecond
      rwa [add_zero] at hboth

/-- What a scan reports is about a list of files of the tree, all of them when there was no
error, and its callback has seen these files. -/
theorem scanDirectoryUsage_spec {state last : σ} {path : PurePath} {tree : UsageTree}
    {usage : DirectoryUsageSummary}
    (h : scanDirectoryUsage env onFile state path tree = .ok (usage, last)) :
    ∃ counted : List (PurePath × Nat),
      last = counted.foldl (fun state file => onFile state file.1 file.2) state ∧
      usage.totalBytes = (counted.map Prod.snd).sum ∧ usage.fileCount = counted.length ∧
      (counted.map sized).Subperm (tree.regularFiles path) ∧
      (usage.errorCount = 0 → (counted.map sized).Perm (tree.regularFiles path)) := by
  unfold scanDirectoryUsage at h
  split at h
  · cases h
  · next scan hscan =>
      split at h
      · cases h
      · cases h
        obtain ⟨⟨counted, lost, haccounts⟩, hempty⟩ := accounts_scanStack hscan
        have hbytes := haccounts.bytes
        have hcount := haccounts.count
        have hbalance := haccounts.balance
        have hstart : stackFiles (UsageScan.start path tree state).stack =
            (tree.regularFiles path : Multiset _) := by
          rw [UsageScan.start, stackFiles, List.map_singleton, List.sum_singleton]
        rw [hempty, hstart, zero_add] at hbalance
        have hnone : stackFiles [] = 0 := rfl
        rw [hnone, add_zero] at hbalance
        refine ⟨counted, haccounts.state, ?_, ?_, ?_, fun hnoError => ?_⟩
        · rw [UsageScan.summary, hbytes, UsageScan.start, Nat.zero_add]
        · rw [UsageScan.summary, hcount, UsageScan.start, Nat.zero_add]
        · rw [← Multiset.coe_le, ← hbalance]
          exact Multiset.le_add_right _ _
        · rw [haccounts.complete hnoError, add_zero] at hbalance
          exact Multiset.coe_eq_coe.mp hbalance

end Scan

/-! ## Scans that return -/

/-- No entry and no listing below the directory fails. -/
def UsageTree.Readable : UsageTree → Prop
  | .done failure => failure = none
  | .file _ stat rest => (∃ size, stat = .ok size) ∧ rest.Readable
  | .directory _ contents rest => contents.Readable ∧ rest.Readable
  | .other _ rest => rest.Readable
  | .failing _ _ _ => False

/-- No stop is requested, the deadline is not reached, and no callback raises but for the
errors that the scan catches. -/
structure ScanEnvironment.Quiet (env : ScanEnvironment) : Prop where
  stop : ∀ i, env.stop i = none
  report : ∀ i, env.report i ≠ some .other
  finalReport : env.finalReportRaises = false

section Returns

variable {σ : Type*} {onFile : σ → PurePath → Nat → σ} {env : ScanEnvironment}
  {directory : PurePath}

theorem passEntry_returns (henv : env.Quiet) {visit : UsageScan σ → UsageScan σ}
    {next : UsageScan σ → Except ScanStop (UsageScan σ)}
    (hnext : ∀ scan, ∃ after, next scan = .ok after) (scan : UsageScan σ) :
    ∃ after, passEntry env directory visit next scan = .ok after := by
  unfold passEntry
  rw [henv.stop]
  simp only
  split
  · exact hnext _
  · exact ⟨_, rfl⟩
  · next hreport => exact absurd hreport (henv.report _)

theorem scanEntries_returns (henv : env.Quiet) (onFile : σ → PurePath → Nat → σ)
    (tree : UsageTree) (scan : UsageScan σ) :
    ∃ after, scanEntries env onFile directory tree scan = .ok after := by
  induction tree generalizing scan with
  | done failure => cases failure <;> exact ⟨_, rfl⟩
  | file name stat rest ih => exact passEntry_returns henv ih scan
  | directory name contents rest _ ih => exact passEntry_returns henv ih scan
  | other name rest ih => exact passEntry_returns henv ih scan
  | failing name message rest ih => exact passEntry_returns henv ih scan

theorem scanStack_returns (henv : env.Quiet) (onFile : σ → PurePath → Nat → σ)
    (scan : UsageScan σ) :
    ∃ after, scanStack env onFile scan = .ok after := by
  fun_induction scanStack env onFile scan with
  | case1 scan hstack => exact ⟨_, rfl⟩
  | case2 scan directory tree stack hstack stop hstop =>
      rw [henv.stop] at hstop
      cases hstop
  | case3 scan directory tree stack hstack hstop stop hentries =>
      obtain ⟨after, hafter⟩ := scanEntries_returns henv onFile tree _
      rw [hafter] at hentries
      cases hentries
  | case4 scan directory tree stack hstack hstop visited hentries ih => exact ih

/-- Nothing goes wrong in a listing: no error is counted, and what is pushed can be read. -/
def Smooth (before after : UsageScan σ) : Prop :=
  after.errorCount = before.errorCount ∧
    ((∀ entry ∈ before.stack, entry.2.Readable) → ∀ entry ∈ after.stack, entry.2.Readable)

theorem Smooth.trans {a b c : UsageScan σ} (hab : Smooth a b) (hbc : Smooth b c) : Smooth a c :=
  ⟨hbc.1.trans hab.1, fun h => hbc.2 (hab.2 h)⟩

theorem smooth_passEntry (hreport : ∀ i, env.report i = none)
    {visit : UsageScan σ → UsageScan σ} {next : UsageScan σ → Except ScanStop (UsageScan σ)}
    {before after : UsageScan σ} (h : passEntry env directory visit next before = .ok after)
    (hvisit : ∀ scan, Smooth scan (visit scan))
    (hnext : ∀ scan, next scan = .ok after → Smooth scan after) : Smooth before after := by
  have hstart : Smooth before (visit { before with checks := before.checks + 1 }) :=
    hvisit { before with checks := before.checks + 1 }
  unfold passEntry at h
  simp only [hreport] at h
  split at h
  · cases h
  · exact hstart.trans (hnext _ h)

theorem smooth_scanEntries (hreport : ∀ i, env.report i = none) {tree : UsageTree}
    {before after : UsageScan σ} (htree : tree.Readable)
    (h : scanEntries env onFile directory tree before = .ok after) : Smooth before after := by
  induction tree generalizing before with
  | done failure =>
      cases htree
      cases h
      exact ⟨rfl, id⟩
  | file name stat rest ih =>
      obtain ⟨⟨size, rfl⟩, hrest⟩ := htree
      rw [scanEntries] at h
      exact smooth_passEntry hreport h (fun _ => ⟨rfl, id⟩) fun _ => ih hrest
  | directory name contents rest _ ih =>
      rw [scanEntries] at h
      refine smooth_passEntry hreport h (fun _ => ⟨rfl, fun hall => ?_⟩) fun _ => ih htree.2
      exact List.forall_mem_cons.mpr ⟨htree.1, hall⟩
  | other name rest ih =>
      rw [scanEntries] at h
      exact smooth_passEntry hreport h (fun _ => ⟨rfl, id⟩) fun _ => ih htree
  | failing name message rest ih => cases htree

theorem errorCount_scanStack (hreport : ∀ i, env.report i = none) {before after : UsageScan σ}
    (hstack : ∀ entry ∈ before.stack, entry.2.Readable)
    (h : scanStack env onFile before = .ok after) : after.errorCount = before.errorCount := by
  fun_induction scanStack env onFile before with
  | case1 scan heq =>
      cases h
      rfl
  | case2 scan directory tree stack heq stop hstop => cases h
  | case3 scan directory tree stack heq hstop stop hentries => cases h
  | case4 scan directory tree stack heq hstop visited hentries ih =>
      rw [heq, List.forall_mem_cons] at hstack
      obtain ⟨herrors, hreadable⟩ := smooth_scanEntries hreport hstack.1 hentries
      rw [ih (hreadable hstack.2) h, herrors]

end Returns

/-! ## The categories -/

section Categories

variable {categoryMap : List (StorageCategory × PyStr)} {counted : List (PurePath × Nat)}

/-- Where a file is counted; `none` is `other`. -/
def categoryOf (categoryMap : List (StorageCategory × PyStr)) (file : PurePath × Nat) :
    Option StorageCategory :=
  categorizePath file.1.text categoryMap

/-- The totals after a list of files are those of the files of each category. -/
theorem foldl_handleFile (categoryMap : List (StorageCategory × PyStr))
    (counted : List (PurePath × Nat)) :
    let totals := counted.foldl
      (fun totals file => handleFile categoryMap totals file.1 file.2) CategoryTotals.zero
    (∀ category, totals.categoryTotals category =
        fiberSum (categoryOf categoryMap) Prod.snd counted (some category)) ∧
      (∀ category, totals.categoryFiles category =
        fiberSum (categoryOf categoryMap) (fun _ => 1) counted (some category)) ∧
      totals.otherBytes = fiberSum (categoryOf categoryMap) Prod.snd counted none ∧
      totals.otherFiles = fiberSum (categoryOf categoryMap) (fun _ => 1) counted none := by
  induction counted using List.reverseRecOn with
  | nil => exact ⟨fun _ => rfl, fun _ => rfl, rfl, rfl⟩
  | append_singleton counted file ih =>
      obtain ⟨hbytes, hfiles, hotherBytes, hotherFiles⟩ := ih
      simp only [List.foldl_append, List.foldl_cons, List.foldl_nil, fiberSum_append,
        fiberSum_singleton, ← hbytes, ← hfiles, ← hotherBytes, ← hotherFiles]
      generalize counted.foldl
        (fun totals file => handleFile categoryMap totals file.1 file.2) .zero = totals
      cases hcategory : categoryOf categoryMap file with
      | none =>
          have hkey : categorizePath file.1.text categoryMap = none := hcategory
          simp [handleFile, hkey]
      | some category =>
          have hkey : categorizePath file.1.text categoryMap = some category := hcategory
          refine ⟨fun other => ?_, fun other => ?_, ?_, ?_⟩
          · by_cases heq : other = category
            · simp [handleFile, hkey, heq]
            · simp [handleFile, hkey, Function.update_of_ne heq, Ne.symm heq]
          · by_cases heq : other = category
            · simp [handleFile, hkey, heq]
            · simp [handleFile, hkey, Function.update_of_ne heq, Ne.symm heq]
          · simp [handleFile, hkey]
          · simp [handleFile, hkey]

theorem map_fst_filterMap_sublist {α β : Type*} {f : α → Option (α × β)}
    (hf : ∀ a pair, f a = some pair → pair.1 = a) (as : List α) :
    ((as.filterMap f).map Prod.fst).Sublist as := by
  induction as with
  | nil => exact List.Sublist.slnil
  | cons a as ih =>
      rw [List.filterMap_cons]
      split
      · exact ih.cons a
      · next pair hpair =>
          rw [List.map_cons, hf a pair hpair]
          exact ih.cons_cons a

theorem nodup_categoryPathMap (resolvePath : PurePath → PurePath) (settings : StorageSettings)
    (libraryRoot : PurePath) :
    ((categoryPathMap resolvePath settings libraryRoot).map Prod.fst).Nodup := by
  have hall : StorageCategory.all.Nodup := by decide
  refine hall.sublist (map_fst_filterMap_sublist (fun category pair hpair => ?_) _)
  split at hpair
  · cases hpair
  · split at hpair
    · cases hpair
      rfl
    · cases hpair

/-- A category of a file is one of the map. -/
theorem mem_of_categoryOf {file : PurePath × Nat} {category : StorageCategory}
    (h : categoryOf categoryMap file = some category) : category ∈ categoryMap.map Prod.fst := by
  obtain ⟨entry, hentry, rfl⟩ := Option.map_eq_some_iff.mp h
  exact List.mem_map_of_mem (List.mem_of_find?_eq_some hentry)

end Categories

/-! ## The estimate -/

/-- The categories of an estimate, `none` for `other`. -/
def categoryKeys (categoryMap : List (StorageCategory × PyStr)) : List (Option StorageCategory) :=
  categoryMap.map (fun entry => some entry.1) ++ [none]

def categoryName : Option StorageCategory → PyStr
  | none => py "other"
  | some category => category.name

/-- The sizes of an estimate are those of a list of files of the tree, each of which belongs to
one of its categories; these are all the files when nothing went wrong. -/
structure SizesAddUp (categoryMap : List (StorageCategory × PyStr)) (libraryRoot : PurePath)
    (tree : UsageTree) (estimate : BackupSizeScopeEstimate) (counted : List (PurePath × Nat)) :
    Prop where
  bytes : estimate.bytes = some (counted.map Prod.snd).sum
  fileCount : estimate.fileCount = some counted.length
  ofTree : (counted.map sized).Subperm (tree.regularFiles libraryRoot)
  all : estimate.state = .completed → (counted.map sized).Perm (tree.regularFiles libraryRoot)
  /-- The categories have different names, and each file is in one of them. -/
  names : estimate.categories.map BackupSizeCategory.name =
    (categoryKeys categoryMap).map categoryName
  distinct : (estimate.categories.map BackupSizeCategory.name).Nodup
  once : ∀ file ∈ counted, (estimate.categories.map BackupSizeCategory.name).count
    (categoryName (categoryOf categoryMap file)) = 1
  categoryBytes : estimate.categories.map BackupSizeCategory.bytes =
    (categoryKeys categoryMap).map fun key =>
      fiberSum (categoryOf categoryMap) Prod.snd counted key
  categoryFiles : estimate.categories.map BackupSizeCategory.fileCount =
    (categoryKeys categoryMap).map fun key =>
      fiberSum (categoryOf categoryMap) (fun _ => 1) counted key
  sumBytes : (estimate.categories.map BackupSizeCategory.bytes).sum = (counted.map Prod.snd).sum
  sumFiles : (estimate.categories.map BackupSizeCategory.fileCount).sum = counted.length

section Estimates

variable {categoryMap : List (StorageCategory × PyStr)} {counted : List (PurePath × Nat)}
  {libraryRoot : PurePath} {tree : UsageTree} {env : ScanEnvironment}

theorem categoryName_injective : Function.Injective categoryName := by
  intro a b h
  rcases a with _ | a <;> rcases b with _ | b
  · rfl
  · revert h
    cases b <;> decide
  · revert h
    cases a <;> decide
  · revert h
    cases a <;> cases b <;> decide

theorem nodup_categoryKeys (h : (categoryMap.map Prod.fst).Nodup) :
    (categoryKeys categoryMap).Nodup := by
  have hmap : categoryMap.map (fun entry => some entry.1) =
      (categoryMap.map Prod.fst).map some := by
    rw [List.map_map]
    rfl
  rw [categoryKeys, hmap, List.nodup_append_comm, List.singleton_append, List.nodup_cons]
  refine ⟨fun hmem => ?_, h.map (Option.some_injective _)⟩
  obtain ⟨category, -, hnone⟩ := List.mem_map.mp hmem
  cases hnone

/-- What the categories weigh is what the counted files weigh. -/
theorem sum_categoryKeys (h : (categoryMap.map Prod.fst).Nodup) (weight : PurePath × Nat → Nat)
    (counted : List (PurePath × Nat)) :
    ((categoryKeys categoryMap).map fun key =>
      fiberSum (categoryOf categoryMap) weight counted key).sum = (counted.map weight).sum := by
  have hfibers := sum_fibers (categoryOf categoryMap) weight h counted
    fun file _ category hcategory => mem_of_categoryOf hcategory
  rw [← hfibers, categoryKeys, List.map_append, List.sum_append, List.map_map, List.map_map,
    List.map_singleton, List.sum_singleton]
  rfl

theorem sizesAddUp_storageEstimate (hnodup : (categoryMap.map Prod.fst).Nodup)
    {usage : DirectoryUsageSummary} {totals : CategoryTotals}
    (h : scanDirectoryUsage env (handleFile categoryMap) .zero libraryRoot tree =
      .ok (usage, totals)) :
    ∃ counted, SizesAddUp categoryMap libraryRoot tree
      (storageEstimate libraryRoot categoryMap usage totals) counted := by
  obtain ⟨counted, htotals, hbytes, hcount, hsub, hperm⟩ := scanDirectoryUsage_spec h
  obtain ⟨hcategoryBytes, hcategoryFiles, hotherBytes, hotherFiles⟩ :=
    foldl_handleFile categoryMap counted
  rw [← htotals] at hcategoryBytes hcategoryFiles hotherBytes hotherFiles
  have hlength : (counted.map fun _ => 1).sum = counted.length := by
    simp
  have hnames : (estimateCategories libraryRoot categoryMap totals).map BackupSizeCategory.name =
      (categoryKeys categoryMap).map categoryName := by
    rw [estimateCategories, categoryKeys, List.map_append, List.map_append, List.map_map,
      List.map_map]
    rfl
  have hmapBytes : (estimateCategories libraryRoot categoryMap totals).map
      BackupSizeCategory.bytes = (categoryKeys categoryMap).map fun key =>
        fiberSum (categoryOf categoryMap) Prod.snd counted key := by
    rw [estimateCategories, categoryKeys, List.map_append, List.map_append, List.map_map,
      List.map_map, List.map_singleton, List.map_singleton, hotherBytes]
    congr 1
    exact List.map_congr_left fun entry _ => hcategoryBytes entry.1
  have hmapFiles : (estimateCategories libraryRoot categoryMap totals).map
      BackupSizeCategory.fileCount = (categoryKeys categoryMap).map fun key =>
        fiberSum (categoryOf categoryMap) (fun _ => 1) counted key := by
    rw [estimateCategories, categoryKeys, List.map_append, List.map_append, List.map_map,
      List.map_map, List.map_singleton, List.map_singleton, hotherFiles]
    congr 1
    exact List.map_congr_left fun entry _ => hcategoryFiles entry.1
  have hdistinct : ((estimateCategories libraryRoot categoryMap totals).map
      BackupSizeCategory.name).Nodup := by
    rw [hnames]
    exact (nodup_categoryKeys hnodup).map categoryName_injective
  refine ⟨counted, ?_, ?_, hsub, fun hcompleted => ?_, hnames, hdistinct, fun file hfile => ?_,
    hmapBytes, hmapFiles, ?_, ?_⟩
  · rw [storageEstimate, hbytes]
  · rw [storageEstimate, hcount]
  · refine hperm ?_
    rw [storageEstimate] at hcompleted
    by_contra herrors
    rw [if_neg herrors] at hcompleted
    cases hcompleted
  · refine List.count_eq_one_of_mem hdistinct ?_
    rw [storageEstimate, hnames]
    refine List.mem_map_of_mem ?_
    rw [categoryKeys]
    cases hcategory : categoryOf categoryMap file with
    | none => exact List.mem_append_right _ List.mem_cons_self
    | some category =>
        obtain ⟨entry, hentry, rfl⟩ := List.mem_map.mp (mem_of_categoryOf hcategory)
        exact List.mem_append_left _ (List.mem_map.mpr ⟨entry, hentry, rfl⟩)
  · rw [storageEstimate, hmapBytes, sum_categoryKeys hnodup]
  · rw [storageEstimate, hmapFiles, sum_categoryKeys hnodup, hlength]

/-- An estimate with sizes comes from a scan that returned. -/
theorem estimate_cases {resolvePath : PurePath → PurePath} {settings : StorageSettings}
    {directoryCheck : PurePath → Option PyStr} {tree : PurePath → UsageTree}
    {estimate : BackupSizeScopeEstimate}
    (h : collectStorageScope resolvePath settings directoryCheck env tree = some estimate)
    (hbytes : estimate.bytes.isSome = true) :
    ∃ libraryRoot usage totals, settings.immichLibraryRoot = some libraryRoot ∧
      scanDirectoryUsage env (handleFile (categoryPathMap resolvePath settings libraryRoot)) .zero
        libraryRoot (tree libraryRoot) = .ok (usage, totals) ∧
      estimate = storageEstimate libraryRoot (categoryPathMap resolvePath settings libraryRoot)
        usage totals := by
  unfold collectStorageScope at h
  split at h
  · cases h
    cases hbytes
  · next libraryRoot hroot =>
      split at h
      · cases h
        cases hbytes
      · simp only at h
        split at h
        · cases h
          cases hbytes
        · cases h
          cases hbytes
        · cases h
        · next usage totals hscan =>
            cases h
            exact ⟨libraryRoot, usage, totals, hroot, hscan, rfl⟩

/-- A scan that nothing interrupts returns, without errors when everything can be read. -/
theorem scanDirectoryUsage_returns {σ : Type*} (henv : env.Quiet)
    (onFile : σ → PurePath → Nat → σ) (state : σ) (path : PurePath) (tree : UsageTree) :
    ∃ usage last, scanDirectoryUsage env onFile state path tree = .ok (usage, last) ∧
      ((∀ i, env.report i = none) → tree.Readable → usage.errorCount = 0) := by
  obtain ⟨scan, hscan⟩ := scanStack_returns henv onFile (.start path tree state)
  refine ⟨scan.summary, scan.state, ?_, fun hreport htree => ?_⟩
  · rw [scanDirectoryUsage, hscan]
    simp only [henv.finalReport, Bool.false_eq_true, if_false]
  · have herrors := errorCount_scanStack hreport (by simpa [UsageScan.start] using htree) hscan
    exact herrors

/-- For every tree and every configuration the sizes of the categories add up to the totals, and
each file that is counted is counted in one category; every scan that nothing interrupts reports
such totals, and those of all files when everything can be read. -/
theorem storage_sizes_add_up (resolvePath : PurePath → PurePath) (settings : StorageSettings)
    (directoryCheck : PurePath → Option PyStr) (env : ScanEnvironment)
    (tree : PurePath → UsageTree) :
    (∀ estimate, collectStorageScope resolvePath settings directoryCheck env tree =
        some estimate → estimate.bytes.isSome = true →
      ∃ libraryRoot counted, settings.immichLibraryRoot = some libraryRoot ∧
        SizesAddUp (categoryPathMap resolvePath settings libraryRoot) libraryRoot
          (tree libraryRoot) estimate counted) ∧
    (∀ libraryRoot, settings.immichLibraryRoot = some libraryRoot →
      directoryCheck libraryRoot = none → env.Quiet →
      ∃ estimate, collectStorageScope resolvePath settings directoryCheck env tree =
          some estimate ∧ estimate.bytes.isSome = true ∧
        ((∀ i, env.report i = none) → (tree libraryRoot).Readable →
          estimate.state = .completed)) := by
  constructor
  · intro estimate hestimate hbytes
    obtain ⟨libraryRoot, usage, totals, hroot, hscan, rfl⟩ := estimate_cases hestimate hbytes
    obtain ⟨counted, hcounted⟩ :=
      sizesAddUp_storageEstimate (nodup_categoryPathMap resolvePath settings libraryRoot) hscan
    exact ⟨libraryRoot, counted, hroot, hcounted⟩
  · intro libraryRoot hroot hcheck henv
    obtain ⟨usage, totals, hscan, hclean⟩ := scanDirectoryUsage_returns henv
      (handleFile (categoryPathMap resolvePath settings libraryRoot)) .zero libraryRoot
      (tree libraryRoot)
    refine ⟨storageEstimate libraryRoot (categoryPathMap resolvePath settings libraryRoot) usage
      totals, ?_, rfl, fun hreport htree => ?_⟩
    · unfold collectStorageScope
      simp only [hroot, hcheck, hscan]
    · rw [storageEstimate, if_pos (hclean hreport htree)]

end Estimates

end ImmichDoctor.Backup
