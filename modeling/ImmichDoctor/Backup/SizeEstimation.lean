import ImmichDoctor.Catalog.RootRegistry
import ImmichDoctor.Services.JobRuntime
/-!
# Size estimation

`FilesystemAdapter.scan_directory_usage` and the storage scope of `BackupSizeEstimateService`.
A tree says what `os.scandir` yields and which calls fail; the checks for a stop and the
progress reports answer as their number says. Durations and times are left out.
-/

namespace ImmichDoctor.Backup

open ImmichDoctor.Library ImmichDoctor.Storage
open ImmichDoctor.Services (BackgroundJobState)

/-! ## What the scan meets -/

/-- The entries of a directory in the order in which `os.scandir` yields them, up to the end or
to the `OSError` that it raises, on the first one already when it cannot be listed. -/
inductive UsageTree
  | done (failure : Option PyStr)
  | file (name : PyStr) (stat : Except PyStr Nat) (rest : UsageTree)
  | directory (name : PyStr) (contents : UsageTree) (rest : UsageTree)
  | other (name : PyStr) (rest : UsageTree)
  /-- `is_dir` or `is_file` raises. -/
  | failing (name message : PyStr) (rest : UsageTree)

/-- How a scan ends without a result. -/
inductive ScanStop
  | canceled
  | timeout
  /-- A callback raises. -/
  | raised
  deriving DecidableEq

inductive ReportFault
  | osError (message : PyStr)
  | other

/-- What the checks and the reports do, by the number of checks that were made so far. -/
structure ScanEnvironment where
  stop : Nat → Option ScanStop
  /-- What the progress report after an entry raises, if one is due. -/
  report : Nat → Option ReportFault
  finalReportRaises : Bool

/-- `entry.path` in a listing of the directory. -/
def entryText (directory : PurePath) (name : PyStr) : PyStr :=
  if directory.text.getLast? = some 47 then directory.text ++ name
  else directory.text ++ 47 :: name

def entryPath (directory : PurePath) (name : PyStr) : PurePath :=
  .parse (entryText directory name)

namespace UsageTree

/-- The regular files below a directory; the size of one is `none` when its `stat` raises. -/
def regularFiles (directory : PurePath) : UsageTree → List (PurePath × Option Nat)
  | .done _ => []
  | .file name stat rest =>
      (entryPath directory name, stat.toOption) :: rest.regularFiles directory
  | .directory name contents rest =>
      contents.regularFiles (entryPath directory name) ++ rest.regularFiles directory
  | .other _ rest => rest.regularFiles directory
  | .failing _ _ rest => rest.regularFiles directory

/-- How many directories there are below. -/
def directories : UsageTree → Nat
  | .done _ => 0
  | .file _ _ rest => rest.directories
  | .directory _ contents rest => 1 + contents.directories + rest.directories
  | .other _ rest => rest.directories
  | .failing _ _ rest => rest.directories

end UsageTree

/-! ## The scan -/

/-- The variables of the scan, with those of its `on_file`; the directory on the stack that was
pushed last comes first. -/
structure UsageScan (σ : Type*) where
  stack : List (PurePath × UsageTree)
  totalBytes : Nat
  fileCount : Nat
  directoryCount : Nat
  otherEntryCount : Nat
  errorCount : Nat
  errorSamples : List (PyStr × PyStr)
  state : σ
  checks : Nat

variable {σ : Type*}

def errorSampleLimit : Nat := 5

/-- What `except OSError` does. -/
def UsageScan.fail (scan : UsageScan σ) (path message : PyStr) : UsageScan σ :=
  { scan with
    errorCount := scan.errorCount + 1
    errorSamples :=
      if scan.errorSamples.length < errorSampleLimit then scan.errorSamples ++ [(path, message)]
      else scan.errorSamples }

def visitFile (onFile : σ → PurePath → Nat → σ) (directory : PurePath) (name : PyStr)
    (stat : Except PyStr Nat) (scan : UsageScan σ) : UsageScan σ :=
  match stat with
  | .error message => scan.fail (entryText directory name) message
  | .ok size =>
      { scan with
        totalBytes := scan.totalBytes + size
        fileCount := scan.fileCount + 1
        state := onFile scan.state (entryPath directory name) size }

def visitDirectory (directory : PurePath) (name : PyStr) (contents : UsageTree)
    (scan : UsageScan σ) : UsageScan σ :=
  { scan with stack := (entryPath directory name, contents) :: scan.stack }

def visitOther (scan : UsageScan σ) : UsageScan σ :=
  { scan with otherEntryCount := scan.otherEntryCount + 1 }

/-- One pass of the loop over the entries; `next` are the later ones. -/
def passEntry (env : ScanEnvironment) (directory : PurePath) (visit : UsageScan σ → UsageScan σ)
    (next : UsageScan σ → Except ScanStop (UsageScan σ)) (scan : UsageScan σ) :
    Except ScanStop (UsageScan σ) :=
  match env.stop scan.checks with
  | some stop => .error stop
  | none =>
      let after := visit { scan with checks := scan.checks + 1 }
      match env.report after.checks with
      | none => next after
      | some (.osError message) => .ok (after.fail directory.text message)
      | some .other => .error .raised

/-- The loop over the entries of a directory. -/
def scanEntries (env : ScanEnvironment) (onFile : σ → PurePath → Nat → σ)
    (directory : PurePath) : UsageTree → UsageScan σ → Except ScanStop (UsageScan σ)
  | .done none => fun scan => .ok scan
  | .done (some message) => fun scan => .ok (scan.fail directory.text message)
  | .file name stat rest =>
      passEntry env directory (visitFile onFile directory name stat)
        (scanEntries env onFile directory rest)
  | .directory name contents rest =>
      passEntry env directory (visitDirectory directory name contents)
        (scanEntries env onFile directory rest)
  | .other _ rest => passEntry env directory visitOther (scanEntries env onFile directory rest)
  | .failing name message rest =>
      passEntry env directory (fun scan => scan.fail (entryText directory name) message)
        (scanEntries env onFile directory rest)

/-- How many directories are on the stack or below one that is. -/
def pendingDirectories (stack : List (PurePath × UsageTree)) : Nat :=
  (stack.map fun entry => 1 + entry.2.directories).sum

theorem pending_cons (entry : PurePath × UsageTree) (stack : List (PurePath × UsageTree)) :
    pendingDirectories (entry :: stack) = 1 + entry.2.directories + pendingDirectories stack := by
  rw [pendingDirectories, List.map_cons, List.sum_cons]
  rfl

/-- A pass that returns has visited its entry, and gone on or ended the listing. -/
theorem passEntry_cases {env : ScanEnvironment} {directory : PurePath}
    {visit : UsageScan σ → UsageScan σ} {next : UsageScan σ → Except ScanStop (UsageScan σ)}
    {scan after : UsageScan σ} (h : passEntry env directory visit next scan = .ok after) :
    next (visit { scan with checks := scan.checks + 1 }) = .ok after ∨
      ∃ message, after =
        (visit { scan with checks := scan.checks + 1 }).fail directory.text message := by
  unfold passEntry at h
  generalize visit { scan with checks := scan.checks + 1 } = visited at h ⊢
  split at h
  · cases h
  · simp only at h
    split at h
    · exact .inl h
    · cases h
      exact .inr ⟨_, rfl⟩
    · cases h

/-- Only the directories of a listing are pushed. -/
theorem pending_scanEntries (env : ScanEnvironment) (onFile : σ → PurePath → Nat → σ)
    (directory : PurePath) (tree : UsageTree) {scan after : UsageScan σ}
    (h : scanEntries env onFile directory tree scan = .ok after) :
    pendingDirectories after.stack ≤ pendingDirectories scan.stack + tree.directories := by
  induction tree generalizing scan with
  | done failure =>
      cases failure <;>
        · cases h
          exact Nat.le_add_right _ _
  | file name stat rest ih =>
      rw [scanEntries] at h
      have hvisit : ∀ scan : UsageScan σ,
          (visitFile onFile directory name stat scan).stack = scan.stack := by
        intro scan
        unfold visitFile
        split <;> rfl
      rcases passEntry_cases h with hnext | ⟨message, rfl⟩
      · have hrest := ih hnext
        rwa [hvisit] at hrest
      · rw [UsageScan.fail, hvisit]
        exact Nat.le_add_right _ _
  | directory name contents rest _ ih =>
      rw [scanEntries] at h
      rw [UsageTree.directories]
      rcases passEntry_cases h with hnext | ⟨message, rfl⟩
      · have hrest := ih hnext
        rw [visitDirectory, pending_cons] at hrest
        simp only at hrest
        omega
      · rw [UsageScan.fail, visitDirectory, pending_cons]
        simp only
        omega
  | other name rest ih =>
      rw [scanEntries] at h
      rcases passEntry_cases h with hnext | ⟨message, rfl⟩
      · have hrest := ih hnext
        exact hrest
      · exact Nat.le_add_right _ _
  | failing name message rest ih =>
      rw [scanEntries] at h
      rcases passEntry_cases h with hnext | ⟨message, rfl⟩
      · have hrest := ih hnext
        exact hrest
      · exact Nat.le_add_right _ _

/-- The loop over the stack. -/
def scanStack (env : ScanEnvironment) (onFile : σ → PurePath → Nat → σ) (scan : UsageScan σ) :
    Except ScanStop (UsageScan σ) :=
  match _hstack : scan.stack with
  | [] => .ok scan
  | (directory, tree) :: stack =>
      match env.stop scan.checks with
      | some stop => .error stop
      | none =>
          match _hentries : scanEntries env onFile directory tree
              { scan with
                stack
                directoryCount := scan.directoryCount + 1
                checks := scan.checks + 1 } with
          | .error stop => .error stop
          | .ok after => scanStack env onFile after
termination_by pendingDirectories scan.stack
decreasing_by
  have hpending := pending_scanEntries env onFile directory tree _hentries
  rw [_hstack, pending_cons]
  simp only at hpending ⊢
  omega

structure DirectoryUsageSummary where
  totalBytes : Nat
  fileCount : Nat
  directoryCount : Nat
  otherEntryCount : Nat
  errorCount : Nat
  errorSamples : List (PyStr × PyStr)

/-- The variables before the loop. -/
def UsageScan.start (path : PurePath) (tree : UsageTree) (state : σ) : UsageScan σ where
  stack := [(path, tree)]
  totalBytes := 0
  fileCount := 0
  directoryCount := 0
  otherEntryCount := 0
  errorCount := 0
  errorSamples := []
  state := state
  checks := 0

def UsageScan.summary (scan : UsageScan σ) : DirectoryUsageSummary where
  totalBytes := scan.totalBytes
  fileCount := scan.fileCount
  directoryCount := scan.directoryCount
  otherEntryCount := scan.otherEntryCount
  errorCount := scan.errorCount
  errorSamples := scan.errorSamples

/-- `scan_directory_usage`, with what `on_file` has left behind. -/
def scanDirectoryUsage (env : ScanEnvironment) (onFile : σ → PurePath → Nat → σ) (state : σ)
    (path : PurePath) (tree : UsageTree) : Except ScanStop (DirectoryUsageSummary × σ) :=
  match scanStack env onFile (.start path tree state) with
  | .error stop => .error stop
  | .ok scan => if env.finalReportRaises then .error .raised else .ok (scan.summary, scan.state)

/-! ## The storage scope -/

inductive StorageCategory
  | originals
  | thumbs
  | profile
  | encoded
  deriving DecidableEq

namespace StorageCategory

def name : StorageCategory → PyStr
  | .originals => py "originals"
  | .thumbs => py "thumbs"
  | .profile => py "profile"
  | .encoded => py "encoded"

def label : StorageCategory → PyStr
  | .originals => py "Originals"
  | .thumbs => py "Thumbs"
  | .profile => py "Profile"
  | .encoded => py "Encoded"

/-- The configured path of a category. -/
def path (settings : StorageSettings) : StorageCategory → Option PurePath
  | .originals => settings.immichUploadsPath
  | .thumbs => settings.immichThumbsPath
  | .profile => settings.immichProfilePath
  | .encoded => settings.immichVideoPath

/-- The keys of `configured`. -/
def all : List StorageCategory :=
  [.originals, .thumbs, .profile, .encoded]

end StorageCategory

/-- `_category_path_map` below the library root. -/
def categoryPathMap (resolvePath : PurePath → PurePath) (settings : StorageSettings)
    (libraryRoot : PurePath) : List (StorageCategory × PyStr) :=
  StorageCategory.all.filterMap fun category =>
    match category.path settings with
    | none => none
    | some path =>
        if Catalog.CatalogRootRegistry.isChildPath resolvePath libraryRoot path then
          some (category, path.text)
        else none

/-- `prefix.rstrip("/") + "/"`. -/
def normalizedPrefix (text : PyStr) : PyStr :=
  (text.reverse.dropWhile (· = 47)).reverse ++ [47]

/-- `_categorize_path`. -/
def categorizePath (filePath : PyStr) (categoryMap : List (StorageCategory × PyStr)) :
    Option StorageCategory :=
  (categoryMap.find? fun entry => (normalizedPrefix entry.2).isPrefixOf filePath).map Prod.fst

/-- The variables of `handle_file`. -/
structure CategoryTotals where
  categoryTotals : StorageCategory → Nat
  categoryFiles : StorageCategory → Nat
  otherBytes : Nat
  otherFiles : Nat

def CategoryTotals.zero : CategoryTotals := ⟨fun _ => 0, fun _ => 0, 0, 0⟩

/-- `handle_file`. -/
def handleFile (categoryMap : List (StorageCategory × PyStr)) (totals : CategoryTotals)
    (path : PurePath) (size : Nat) : CategoryTotals :=
  match categorizePath path.text categoryMap with
  | none =>
      { totals with otherBytes := totals.otherBytes + size, otherFiles := totals.otherFiles + 1 }
  | some category =>
      { totals with
        categoryTotals :=
          Function.update totals.categoryTotals category (totals.categoryTotals category + size)
        categoryFiles :=
          Function.update totals.categoryFiles category (totals.categoryFiles category + 1) }

structure BackupSizeCategory where
  name : PyStr
  label : PyStr
  path : PyStr
  bytes : Nat
  fileCount : Nat

structure StorageMetadata where
  directoryCount : Nat
  otherEntryCount : Nat
  errorCount : Nat
  errorSamples : List (PyStr × PyStr)

/-- The fields of `BackupSizeScopeEstimate` that differ between its results; `scope`, `label` and
`representation` are the same in all of them. -/
structure BackupSizeScopeEstimate where
  state : BackgroundJobState
  sourceScope : PyStr
  bytes : Option Nat := none
  fileCount : Option Nat := none
  categories : List BackupSizeCategory := []
  warnings : List PyStr := []
  error : Option PyStr := none
  metadata : Option StorageMetadata := none

/-- The categories in the order of the map, and what is left. -/
def estimateCategories (libraryRoot : PurePath) (categoryMap : List (StorageCategory × PyStr))
    (totals : CategoryTotals) : List BackupSizeCategory :=
  categoryMap.map (fun entry =>
    { name := entry.1.name
      label := entry.1.label
      path := entry.2
      bytes := totals.categoryTotals entry.1
      fileCount := totals.categoryFiles entry.1 }) ++
  [{ name := py "other"
     label := py "Other"
     path := libraryRoot.text
     bytes := totals.otherBytes
     fileCount := totals.otherFiles }]

def storageEstimate (libraryRoot : PurePath) (categoryMap : List (StorageCategory × PyStr))
    (usage : DirectoryUsageSummary) (totals : CategoryTotals) : BackupSizeScopeEstimate where
  state := if usage.errorCount = 0 then .completed else .partial_
  sourceScope := libraryRoot.text
  bytes := some usage.totalBytes
  fileCount := some usage.fileCount
  categories := estimateCategories libraryRoot categoryMap totals
  warnings :=
    if usage.errorCount = 0 then []
    else [py "Storage scan completed with " ++ PyStr.decimal usage.errorCount ++
      py " unreadable or unsupported entries."]
  metadata := some
    { directoryCount := usage.directoryCount
      otherEntryCount := usage.otherEntryCount
      errorCount := usage.errorCount
      errorSamples := usage.errorSamples }

/-- `_collect_storage_scope`; `directoryCheck` is the message of `validate_directory` where it
does not pass. The result is `none` when a callback raises. -/
def collectStorageScope (resolvePath : PurePath → PurePath) (settings : StorageSettings)
    (directoryCheck : PurePath → Option PyStr) (env : ScanEnvironment)
    (tree : PurePath → UsageTree) : Option BackupSizeScopeEstimate :=
  match settings.immichLibraryRoot with
  | none => some
      { state := .unsupported
        sourceScope := py "immich_library_root"
        warnings := [py ("Storage size estimate is unavailable because " ++
          "IMMICH library root is not configured.")] }
  | some libraryRoot =>
      match directoryCheck libraryRoot with
      | some message => some
          { state := .failed, sourceScope := libraryRoot.text, error := some message }
      | none =>
          let categoryMap := categoryPathMap resolvePath settings libraryRoot
          match scanDirectoryUsage env (handleFile categoryMap) .zero libraryRoot
              (tree libraryRoot) with
          | .error .canceled => some
              { state := .canceled
                sourceScope := libraryRoot.text
                error := some (py "Storage size collection was canceled.") }
          | .error .timeout => some
              { state := .failed
                sourceScope := libraryRoot.text
                error := some (py "Storage size collection timed out.") }
          | .error .raised => none
          | .ok (usage, totals) => some (storageEstimate libraryRoot categoryMap usage totals)

end ImmichDoctor.Backup
