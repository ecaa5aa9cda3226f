import ImmichDoctor.Library.Transition
import ImmichDoctor.Storage.EmptyFolders.Proofs.ConfiguredRoots
import ImmichDoctor.Storage.EmptyFolders.QuarantineManager
/-!
# Files in folders that were taken for empty

The workflow looks once whether a directory is empty, and never again. As long as nobody
creates a file where it has looked, everything it moves and removes is a directory.
-/

namespace ImmichDoctor.Storage

open ImmichDoctor.Library
open ImmichDoctor.Library.FileSystem (SameLeaves OnlyDirectories)

/-! ## Calls on directories without files -/

section Calls

variable {files : Files}

theorem sameLeaves_mkdirs {files' : Files} {path : FsPath} (h : files.mkdirs path = some files') :
    SameLeaves files files' :=
  (FileSystem.widens_foldlM_mkdir h).1.sameLeaves

theorem sameLeaves_makeDirectories (made : Option Nat) (path : FsPath) :
    SameLeaves files (makeDirectories files made path).1 := by
  unfold makeDirectories
  split
  · split
    · exact .refl _
    · next hmade => exact sameLeaves_mkdirs hmade
  · next made =>
      cases hmade : (path.inits.tail.take made).foldlM FileSystem.mkdir files with
      | none => exact .refl _
      | some files' => exact (FileSystem.widens_foldlM_mkdir hmade).1.sameLeaves

theorem sameLeaves_beginMove {source : FsPath} (h : files.OnlyDirectories source) (how : MoveHow)
    (destination : FsPath) : SameLeaves files (beginMove files how source destination).1 := by
  unfold beginMove
  split
  · exact .refl _
  · split
    · exact .refl _
    · next target _ =>
        split
        · exact .refl _
        · next hclear =>
            simp only [not_or, not_and, Bool.not_eq_false, Option.isNone_iff_eq_none] at hclear
            obtain ⟨hsome, -, hvacant⟩ := hclear
            obtain ⟨node, hnode⟩ := Option.ne_none_iff_exists'.mp hsome
            have hdirectory : files.isDirectory source = true := by
              rw [FileSystem.isDirectory_iff, hnode, h source node List.prefix_rfl hnode]
            have hfree := hvacant hdirectory
            cases how with
            | renamed => exact FileSystem.sameLeaves_moveTree h hfree
            | copied => exact FileSystem.sameLeaves_copyTree h hfree
            | cutOff left => exact FileSystem.sameLeaves_copyTree h hfree
            | refused => exact .refl _

theorem sameLeaves_removeDirectory {path : FsPath} (h : files.OnlyDirectories path)
    (kept : Option (List FsPath)) : SameLeaves files (removeDirectory files kept path).1 := by
  have hbelow : ∀ other, (!decide (path <+: other)) = false → path <+: other := by
    intro other hother
    simpa using hother
  unfold removeDirectory
  cases kept with
  | none =>
      exact FileSystem.sameLeaves_keep fun other node hkept => h other node (hbelow other hkept)
  | some kept =>
      refine FileSystem.sameLeaves_keep fun other node hkept => h other node (hbelow other ?_)
      simp only [Bool.or_eq_false_iff] at hkept
      exact hkept.1.1

/-- A directory without entries that was listed has nothing below it. -/
theorem onlyDirectories_of_shows {path : FsPath} {view : DirectoryView}
    (h : view.shows files path = true) (hvacant : view.Vacant) : files.OnlyDirectories path := by
  obtain ⟨herror, hentries⟩ := hvacant
  simp only [DirectoryView.shows, herror, hentries, Bool.and_eq_true, Bool.or_eq_true,
    Option.isSome_none, Bool.false_eq_true, false_or, Listing.names, List.contains_nil] at h
  obtain ⟨⟨hdirectory, -⟩, hnames⟩ := h
  have hnil : files.names path = [] := by
    by_contra hne
    obtain ⟨name, hname⟩ := List.exists_mem_of_ne_nil _ hne
    have hfalse := List.all_eq_true.mp hnames name hname
    cases hfalse
  intro other node hbelow hother
  rw [FileSystem.eq_of_names_nil hnil hbelow hother, FileSystem.isDirectory_iff.mp hdirectory]
    at hother
  exact (Option.some.inj hother).symm

end Calls

/-! ## Directories that were taken for empty -/

def activePaths (items : List EmptyDirQuarantineItem) : List FsPath :=
  (items.filter (·.state = .active)).map (·.quarantinePath.parts)

/-- The items of the index, none when there is no index. -/
def EmptyFolderConfig.indexItems (config : EmptyFolderConfig) (files : Files) :
    List EmptyDirQuarantineItem :=
  match files.lookup config.indexFile with
  | some (.file ⟨_, .index items⟩) => items.rows
  | _ => []

/-- The quarantined directories that a request deals with. -/
def EmptyFolderPhase.itemPaths : EmptyFolderPhase → List FsPath
  | .idle | .scanning _ _ _ => []
  | .quarantining _ _ _ items => items.map (·.quarantinePath.parts)
  | .restoring pending _ updated | .deleting pending updated =>
      pending.map (·.quarantinePath.parts) ++ activePaths updated.rows

/-- What a quarantine request has listed as empty and covers, and where it moves it. -/
def EmptyFolderPhase.pendingPaths (config : EmptyFolderConfig) : EmptyFolderPhase → List FsPath
  | .scanning selection dryRun listed =>
      (listed.filter fun walked =>
        !dryRun && walked.2.error.isNone && walked.2.entries = .nil &&
          config.roots.any fun root =>
            selection.covers
              (ScannedRoot.buildFinding ⟨root.1, root.2⟩ walked.1 walked.2.stat 0)).map
        (·.1.parts)
  | .quarantining sessionId pending _ _ =>
      pending.flatMap fun finding =>
        [finding.absolutePath.parts, (config.quarantineDestination sessionId finding).parts]
  | _ => []

/-- The directories that the workflow has taken for empty: those that the running request
has listed and is to move, and those in quarantine. -/
def EmptyFolderSystem.taken (config : EmptyFolderConfig) (s : EmptyFolderSystem) : List FsPath :=
  activePaths (config.indexItems s.files) ++ s.phase.itemPaths ++ s.phase.pendingPaths config

/-- Nobody creates a file at or below a directory that was taken for empty. -/
def CreatesElsewhere (config : EmptyFolderConfig) (s : EmptyFolderSystem) :
    EmptyFolderEvent → Prop
  | .createFile path _ => ∀ directory ∈ s.taken config, ¬ directory <+: path
  | _ => True

/-- The file is somewhere. -/
def Present (files : Files) (fileId : Nat) : Prop :=
  ∃ path content, files.lookup path = some (.file ⟨fileId, content⟩)

/-- What was taken for empty is, and what is in quarantine lies below the sessions. -/
structure TakenEmpty (config : EmptyFolderConfig) (s : EmptyFolderSystem) : Prop where
  empty : ∀ directory ∈ s.taken config, s.files.OnlyDirectories directory
  placed : ∀ directory ∈ activePaths (config.indexItems s.files) ++ s.phase.itemPaths,
    config.sessionsRoot.parts <+: directory

section Steps

variable {config : EmptyFolderConfig} {s t : EmptyFolderSystem}

theorem present_of_sameLeaves {files files' : Files} (h : SameLeaves files files') {fileId : Nat}
    (hpresent : Present files fileId) : Present files' fileId := by
  obtain ⟨path, content, hlookup⟩ := hpresent
  exact ⟨path, content, (h path _ (by simp)).mpr hlookup⟩

theorem indexItems_of_sameLeaves {files files' : Files} (h : SameLeaves files files') :
    config.indexItems files' = config.indexItems files := by
  unfold EmptyFolderConfig.indexItems
  have hiff := h config.indexFile
  cases hbefore : files.lookup config.indexFile with
  | none =>
      cases hafter : files'.lookup config.indexFile with
      | none => rfl
      | some node =>
          by_cases hnode : node = .directory
          · rw [hnode]
          · rw [(hiff node hnode).mp hafter] at hbefore
            cases hbefore
  | some node =>
      by_cases hnode : node = .directory
      · cases hafter : files'.lookup config.indexFile with
        | none => rw [hnode]
        | some after =>
            by_cases hother : after = .directory
            · rw [hnode, hother]
            · rw [(hiff after hother).mp hafter] at hbefore
              exact absurd (Option.some.inj hbefore ▸ hnode) hother
      · rw [(hiff node hnode).mpr hbefore]

/-- A step that leaves everything but directories as it was. -/
theorem TakenEmpty.of_sameLeaves (h : TakenEmpty config s) (hsame : SameLeaves s.files t.files)
    (hitems : ∀ directory ∈ t.phase.itemPaths, directory ∈ s.taken config ∧
      (directory ∈ s.phase.itemPaths ∨ config.sessionsRoot.parts <+: directory))
    (hpending : ∀ directory ∈ t.phase.pendingPaths config,
      directory ∈ s.taken config ∨ t.files.OnlyDirectories directory) :
    TakenEmpty config t := by
  have hindex := @indexItems_of_sameLeaves config _ _ hsame
  constructor
  · intro directory hdirectory
    simp only [EmptyFolderSystem.taken, hindex, List.mem_append] at hdirectory
    rcases hdirectory with (hactive | hitem) | hpend
    · refine (h.empty directory ?_).of_sameLeaves hsame
      exact List.mem_append_left _ (List.mem_append_left _ hactive)
    · exact (h.empty directory (hitems directory hitem).1).of_sameLeaves hsame
    · rcases hpending directory hpend with htaken | honly
      · exact (h.empty directory htaken).of_sameLeaves hsame
      · exact honly
  · intro directory hdirectory
    rw [hindex] at hdirectory
    rcases List.mem_append.mp hdirectory with hactive | hitem
    · exact h.placed directory (List.mem_append_left _ hactive)
    · rcases (hitems directory hitem).2 with hbefore | hplaced
      · exact h.placed directory (List.mem_append_right _ hbefore)
      · exact hplaced

/-- What a step does to files: those that are there stay, and it keeps what is assumed. -/
def KeepsFiles (config : EmptyFolderConfig) (s t : EmptyFolderSystem) : Prop :=
  TakenEmpty config t ∧ ∀ fileId, Present s.files fileId → Present t.files fileId

/-- Steps on directories only, which take no further ones for empty. -/
theorem TakenEmpty.keeps (h : TakenEmpty config s) (hsame : SameLeaves s.files t.files)
    (hitems : ∀ directory ∈ t.phase.itemPaths, directory ∈ s.taken config ∧
      (directory ∈ s.phase.itemPaths ∨ config.sessionsRoot.parts <+: directory))
    (hpending : ∀ directory ∈ t.phase.pendingPaths config,
      directory ∈ s.taken config ∨ t.files.OnlyDirectories directory) : KeepsFiles config s t :=
  ⟨h.of_sameLeaves hsame hitems hpending, fun _ => present_of_sameLeaves hsame⟩

theorem mem_taken_of_item {directory : FsPath} (h : directory ∈ s.phase.itemPaths) :
    directory ∈ s.taken config :=
  List.mem_append_left _ (List.mem_append_right _ h)

theorem mem_taken_of_pending {directory : FsPath} (h : directory ∈ s.phase.pendingPaths config) :
    directory ∈ s.taken config :=
  List.mem_append_right _ h

theorem quarantineDestination_placed (sessionId : PyStr) (finding : EmptyDirectoryFinding) :
    config.sessionsRoot.parts <+: (config.quarantineDestination sessionId finding).parts := by
  simp only [EmptyFolderConfig.quarantineDestination, entryPath, PurePath.joinParts,
    List.append_assoc]
  exact List.prefix_append _ _

section Quarantining

variable {files : Files} {sessionId : PyStr} {finding : EmptyDirectoryFinding}
  {rest : List EmptyDirectoryFinding} {copied : Bool} {items : List EmptyDirQuarantineItem}

/-- The rest of the findings goes on, with an item for the first one or without. -/
theorem TakenEmpty.next_finding
    (h : TakenEmpty config ⟨files, .quarantining sessionId (finding :: rest) copied items⟩)
    {files' : Files} (hsame : SameLeaves files files') {added : List EmptyDirQuarantineItem}
    (hadded : ∀ item ∈ added,
      item.quarantinePath = config.quarantineDestination sessionId finding) :
    KeepsFiles config ⟨files, .quarantining sessionId (finding :: rest) copied items⟩
      ⟨files', .quarantining sessionId rest false (items ++ added)⟩ := by
  refine h.keeps hsame (fun directory hdirectory => ?_) fun directory hdirectory => .inl ?_
  · obtain ⟨item, hitem, rfl⟩ := List.mem_map.mp hdirectory
    rcases List.mem_append.mp hitem with hold | hnew
    · have hmem : item.quarantinePath.parts ∈
          (EmptyFolderPhase.quarantining sessionId (finding :: rest) copied items).itemPaths :=
        List.mem_map_of_mem hold
      exact ⟨mem_taken_of_item hmem, .inl hmem⟩
    · rw [hadded item hnew]
      refine ⟨mem_taken_of_pending ?_, .inr (quarantineDestination_placed sessionId finding)⟩
      exact List.mem_flatMap.mpr ⟨finding, List.mem_cons_self, by simp⟩
  · obtain ⟨other, hother, hmem⟩ := List.mem_flatMap.mp hdirectory
    exact mem_taken_of_pending
      (List.mem_flatMap.mpr ⟨other, List.mem_cons_of_mem _ hother, hmem⟩)

theorem quarantineStep_keeps {event : EmptyFolderEvent}
    (h : TakenEmpty config ⟨files, .quarantining sessionId (finding :: rest) copied items⟩)
    (hstep : quarantineStep config files sessionId finding rest copied items event = some t) :
    KeepsFiles config ⟨files, .quarantining sessionId (finding :: rest) copied items⟩ t := by
  have honly : files.OnlyDirectories finding.absolutePath.parts :=
    h.empty _ (mem_taken_of_pending
      (List.mem_flatMap.mpr ⟨finding, List.mem_cons_self, List.mem_cons_self⟩))
  have hnone := fun files' hsame => @TakenEmpty.next_finding _ _ _ _ _ _ _ h files' hsame []
    (List.forall_mem_nil _)
  simp only [List.append_nil] at hnone
  cases event with
  | moveFinding made how mode =>
      simp only [quarantineStep] at hstep
      split at hstep
      · cases hstep
      · have hprepared := @sameLeaves_makeDirectories files made
          (config.quarantineDestination sessionId finding).parts.dropLast
        split at hstep
        · cases hstep
          exact hnone _ hprepared
        · have hmoved := hprepared.trans (sameLeaves_beginMove
            (honly.of_sameLeaves hprepared) how
            (config.quarantineDestination sessionId finding).parts)
          split at hstep
          · cases hstep
            exact hnone _ hmoved
          · cases hstep
            exact h.keeps hmoved
              (fun directory hdirectory => ⟨mem_taken_of_item hdirectory, .inl hdirectory⟩)
              fun directory hdirectory => .inl (mem_taken_of_pending hdirectory)
          · cases hstep
            exact h.next_finding hmoved fun item hitem => List.mem_singleton.mp hitem ▸ rfl
  | removeSource kept mode =>
      simp only [quarantineStep] at hstep
      split at hstep
      · cases hstep
      · have hremoved := sameLeaves_removeDirectory honly kept
        cases hstep
        split
        · exact h.next_finding hremoved fun item hitem => List.mem_singleton.mp hitem ▸ rfl
        · exact hnone _ hremoved
  | _ => cases hstep

end Quarantining

section Scanning

variable {files : Files} {selection : QuarantineSelection} {dryRun : Bool}
  {listed : List (PurePath × DirectoryView)}

theorem TakenEmpty.to_idle (h : TakenEmpty config s) : KeepsFiles config s ⟨s.files, .idle⟩ :=
  h.keeps (.refl _) (List.forall_mem_nil _) (List.forall_mem_nil _)

/-- What the scan finds empty was listed as empty. -/
theorem mem_pendingPaths_of_selected {views : List (PyStr × RootView)}
    (hviews : viewsListed config listed views = true) {finding : EmptyDirectoryFinding}
    (hfinding : finding ∈
      selectFindings (scan config.roots (viewOf views)).findings selection) :
    finding.absolutePath.parts ∈
      (EmptyFolderPhase.scanning selection false listed).pendingPaths config := by
  obtain ⟨hmem, hcovers⟩ := List.mem_filter.mp hfinding
  obtain ⟨root, hroot, walked, hwalked, hvacant, -, rfl⟩ := mem_findings.mp hmem
  have hlisted := List.all_eq_true.mp hviews root hroot
  unfold walkOf at hwalked
  refine List.mem_map.mpr ⟨walked, List.mem_filter.mpr ⟨?_, ?_⟩, rfl⟩
  · split at hwalked
    · cases hwalked
    · next view hview =>
        rw [hview, Bool.and_eq_true] at hlisted
        exact List.contains_iff_mem.mp (List.all_eq_true.mp hlisted.2 walked hwalked)
  · simp only [hvacant.1, hvacant.2, Option.isNone_none, decide_true, Bool.not_false,
      Bool.and_true, Bool.true_and]
    exact List.any_eq_true.mpr ⟨root, hroot, hcovers⟩

theorem scanStep_keeps {event : EmptyFolderEvent}
    (h : TakenEmpty config ⟨files, .scanning selection dryRun listed⟩)
    (hstep : scanStep config files selection dryRun listed event = some t) :
    KeepsFiles config ⟨files, .scanning selection dryRun listed⟩ t := by
  cases event with
  | list path view =>
      simp only [scanStep] at hstep
      split at hstep
      · next hshows =>
          cases hstep
          refine h.keeps (.refl _) (List.forall_mem_nil _) fun directory hdirectory => ?_
          obtain ⟨walked, hwalked, rfl⟩ := List.mem_map.mp hdirectory
          obtain ⟨hmem, hcovered⟩ := List.mem_filter.mp hwalked
          rcases List.mem_append.mp hmem with hold | hnew
          · exact .inl (mem_taken_of_pending
              (List.mem_map_of_mem (List.mem_filter.mpr ⟨hold, hcovered⟩)))
          · rw [List.mem_singleton] at hnew
            subst hnew
            simp only [Bool.and_eq_true, decide_eq_true_eq, Option.isNone_iff_eq_none] at hcovered
            exact .inr (onlyDirectories_of_shows hshows ⟨hcovered.1.1.2, hcovered.1.2⟩)
      · cases hstep
  | abortScan =>
      cases hstep
      exact h.to_idle
  | select views sessionId =>
      simp only [scanStep] at hstep
      split at hstep
      · next hviews =>
          split at hstep
          · cases hstep
            exact h.to_idle
          · next hselected =>
              split at hstep
              · next hfresh =>
                  cases hstep
                  simp only [Bool.or_eq_true, not_or, Bool.not_eq_true] at hselected
                  obtain ⟨-, rfl⟩ := hselected
                  refine h.keeps (.refl _) (List.forall_mem_nil _) fun directory hdirectory => ?_
                  obtain ⟨finding, hfinding, hmem⟩ := List.mem_flatMap.mp hdirectory
                  simp only [List.mem_cons, List.not_mem_nil, or_false] at hmem
                  rcases hmem with rfl | rfl
                  · exact .inl (mem_taken_of_pending
                      (mem_pendingPaths_of_selected hviews hfinding))
                  · refine .inr fun other node hbelow hother => ?_
                    simp only [freshSession, Bool.and_eq_true] at hfresh
                    obtain ⟨⟨hvalid, hvacant⟩, -⟩ := hfresh
                    have hsession : config.sessionsRoot.parts ++ [sessionId] <+: other := by
                      refine List.IsPrefix.trans ?_ hbelow
                      simp only [EmptyFolderConfig.quarantineDestination, entryPath,
                        PurePath.joinParts, PurePath.partsOf_of_valid hvalid, List.append_assoc]
                      exact ⟨_, List.append_assoc _ _ _⟩
                    rw [FileSystem.vacant_iff.mp hvacant other hsession] at hother
                    cases hother
              · cases hstep
      · cases hstep
  | _ => cases hstep

end Scanning

section Transitions

variable {files : Files} {item : EmptyDirQuarantineItem} {rest : List EmptyDirQuarantineItem}
  {updated : EmptyDirIndex}

theorem mem_activePaths {items : List EmptyDirQuarantineItem} {directory : FsPath} :
    directory ∈ activePaths items ↔
      ∃ item ∈ items, item.state = .active ∧ item.quarantinePath.parts = directory := by
  unfold activePaths
  simp only [List.mem_map, List.mem_filter, decide_eq_true_eq, and_assoc]

/-- An item that is no longer active adds no active path. -/
theorem activePaths_put {ended : EmptyDirQuarantineItem} (hended : ended.state ≠ .active)
    {directory : FsPath} (h : directory ∈ activePaths (updated.put ended).rows) :
    directory ∈ activePaths updated.rows := by
  obtain ⟨other, hother, hactive, rfl⟩ := mem_activePaths.mp h
  rcases Table.mem_put.mp hother with rfl | ⟨hold, -⟩
  · exact absurd hactive hended
  · exact mem_activePaths.mpr ⟨other, hold, hactive, rfl⟩

theorem readIndex_rows {index : EmptyDirIndex} (h : config.readIndex files = some index) :
    index.rows = config.indexItems files := by
  unfold EmptyFolderConfig.readIndex at h
  unfold EmptyFolderConfig.indexItems
  split at h
  · next hnone =>
      cases h
      rw [hnone]
      rfl
  · next hfile =>
      cases h
      rw [hfile]
  · cases h

theorem mem_of_selectQuarantineItems {index : EmptyDirIndex} {sessionId : PyStr}
    {paths : List PyStr} {selectAll : Bool} {selected : EmptyDirQuarantineItem}
    (h : selected ∈ selectQuarantineItems index sessionId paths selectAll) :
    selected ∈ index.rows ∧ selected.state = .active := by
  have hmem := (List.mem_filter.mp h).1
  rw [List.mem_insertionSort, List.mem_filter] at hmem
  rw [Bool.and_eq_true] at hmem
  exact ⟨hmem.1, of_decide_eq_true hmem.2.2⟩

/-- A restore or a deletion deals with active items of the index. -/
theorem TakenEmpty.keeps_selected (h : TakenEmpty config ⟨files, .idle⟩) {index : EmptyDirIndex}
    (hindex : config.readIndex files = some index) {sessionId : PyStr} {paths : List PyStr}
    {selectAll : Bool} {directory : FsPath}
    (hdirectory : directory ∈
      (selectQuarantineItems index sessionId paths selectAll).map (·.quarantinePath.parts) ++
        activePaths index.rows) :
    directory ∈ (EmptyFolderSystem.mk files .idle).taken config ∧
      (directory ∈ (EmptyFolderPhase.idle).itemPaths ∨
        config.sessionsRoot.parts <+: directory) := by
  have hactive : directory ∈ activePaths (config.indexItems files) := by
    rw [← readIndex_rows hindex]
    rcases List.mem_append.mp hdirectory with hselected | hactive
    · obtain ⟨selected, hmem, rfl⟩ := List.mem_map.mp hselected
      obtain ⟨hrow, hstate⟩ := mem_of_selectQuarantineItems hmem
      exact mem_activePaths.mpr ⟨selected, hrow, hstate, rfl⟩
    · exact hactive
  refine ⟨?_, .inr (h.placed directory (List.mem_append_left _ hactive))⟩
  exact List.mem_append_left _ (List.mem_append_left _ hactive)

theorem startStep_keeps {event : EmptyFolderEvent} (h : TakenEmpty config ⟨files, .idle⟩)
    (hstep : startStep config files event = some t) :
    KeepsFiles config ⟨files, .idle⟩ t := by
  cases event with
  | scan =>
      cases hstep
      exact h.to_idle
  | quarantine selection dryRun =>
      cases hstep
      exact h.keeps (.refl _) (List.forall_mem_nil _) (List.forall_mem_nil _)
  | restore sessionId paths restoreAll =>
      simp only [startStep] at hstep
      split at hstep
      · cases hstep
        exact h.to_idle
      · next hindex =>
          split at hstep
          · cases hstep
            exact h.to_idle
          · cases hstep
            exact h.keeps (.refl _) (fun directory => h.keeps_selected hindex)
              (List.forall_mem_nil _)
  | delete sessionId paths deleteAll =>
      simp only [startStep] at hstep
      split at hstep
      · cases hstep
        exact h.to_idle
      · next hindex =>
          split at hstep
          · cases hstep
            exact h.to_idle
          · cases hstep
            exact h.keeps (.refl _) (fun directory => h.keeps_selected hindex)
              (List.forall_mem_nil _)
  | _ => cases hstep

/-- The rest of the items goes on, with an index that has no further active items. -/
theorem TakenEmpty.next_item {stage stage' : RestoreStage} {pending : List EmptyDirQuarantineItem}
    {updated' : EmptyDirIndex} {files' : Files}
    (h : TakenEmpty config ⟨files, .restoring (item :: rest) stage updated⟩)
    (hsame : SameLeaves files files') (hpending : ∀ other ∈ pending, other ∈ item :: rest)
    (hactive : ∀ directory ∈ activePaths updated'.rows, directory ∈ activePaths updated.rows) :
    KeepsFiles config ⟨files, .restoring (item :: rest) stage updated⟩
      ⟨files', .restoring pending stage' updated'⟩ := by
  refine h.keeps hsame (fun directory hdirectory => ?_) (List.forall_mem_nil _)
  have hmem : directory ∈
      (EmptyFolderPhase.restoring (item :: rest) stage updated).itemPaths := by
    rcases List.mem_append.mp hdirectory with hpend | hactive'
    · obtain ⟨other, hother, rfl⟩ := List.mem_map.mp hpend
      exact List.mem_append_left _ (List.mem_map_of_mem (hpending other hother))
    · exact List.mem_append_right _ (hactive directory hactive')
  exact ⟨mem_taken_of_item hmem, .inl hmem⟩

theorem afterMoveBack_active {metadataRaises : Bool} {updated' : EmptyDirIndex}
    (h : afterMoveBack item metadataRaises updated = some updated') {directory : FsPath}
    (hdirectory : directory ∈ activePaths updated'.rows) :
    directory ∈ activePaths updated.rows := by
  unfold afterMoveBack at h
  split at h
  · cases h
    exact activePaths_put (by simp) hdirectory
  · split at h
    · cases h
      exact hdirectory
    · cases h

theorem restoreStep_keeps {stage : RestoreStage} {event : EmptyFolderEvent}
    (h : TakenEmpty config ⟨files, .restoring (item :: rest) stage updated⟩)
    (hstep : restoreStep files item rest stage updated event = some t) :
    KeepsFiles config ⟨files, .restoring (item :: rest) stage updated⟩ t := by
  have honly : files.OnlyDirectories item.quarantinePath.parts :=
    h.empty _ (mem_taken_of_item (List.mem_append_left _ List.mem_cons_self))
  have htail : ∀ other ∈ rest, other ∈ item :: rest := fun _ => List.mem_cons_of_mem item
  cases event with
  | checkPaths raises =>
      simp only [restoreStep] at hstep
      split at hstep
      · cases hstep
      · split at hstep
        · cases hstep
          exact h.to_idle
        · split at hstep
          · cases hstep
            exact h.next_item (.refl _) htail fun _ => id
          · cases hstep
            exact h.next_item (.refl _) (fun _ => id) fun _ => id
  | moveBack how metadataRaises =>
      simp only [restoreStep] at hstep
      split at hstep
      · cases hstep
      · have hmoved := sameLeaves_beginMove honly how item.originalPath.parts
        split at hstep
        · cases hstep
          exact h.next_item hmoved htail fun _ => id
        · cases hstep
          exact h.next_item hmoved (fun _ => id) fun _ => id
        · obtain ⟨updated', hupdated, hstep⟩ := Option.bind_eq_some_iff.mp hstep
          cases hstep
          exact h.next_item hmoved htail fun _ => afterMoveBack_active hupdated
  | removeQuarantined kept metadataRaises =>
      simp only [restoreStep] at hstep
      split at hstep
      · cases hstep
      · have hremoved := sameLeaves_removeDirectory honly kept
        split at hstep
        · cases hstep
          exact h.next_item hremoved htail fun _ => id
        · obtain ⟨updated', hupdated, hstep⟩ := Option.bind_eq_some_iff.mp hstep
          cases hstep
          exact h.next_item hremoved htail fun _ => afterMoveBack_active hupdated
  | _ => cases hstep

theorem deleteStep_keeps {event : EmptyFolderEvent}
    (h : TakenEmpty config ⟨files, .deleting (item :: rest) updated⟩)
    (hstep : deleteStep files item rest updated event = some t) :
    KeepsFiles config ⟨files, .deleting (item :: rest) updated⟩ t := by
  have honly : files.OnlyDirectories item.quarantinePath.parts :=
    h.empty _ (mem_taken_of_item (List.mem_append_left _ List.mem_cons_self))
  have hnext : ∀ files' updated', SameLeaves files files' →
      (∀ directory ∈ activePaths updated'.rows, directory ∈ activePaths updated.rows) →
      KeepsFiles config ⟨files, .deleting (item :: rest) updated⟩
        ⟨files', .deleting rest updated'⟩ := by
    intro files' updated' hsame hactive
    refine h.keeps hsame (fun directory hdirectory => ?_) (List.forall_mem_nil _)
    have hmem : directory ∈ (EmptyFolderPhase.deleting (item :: rest) updated).itemPaths := by
      rcases List.mem_append.mp hdirectory with hpend | hactive'
      · exact List.mem_append_left _ (List.mem_cons_of_mem _ hpend)
      · exact List.mem_append_right _ (hactive directory hactive')
    exact ⟨mem_taken_of_item hmem, .inl hmem⟩
  cases event with
  | removeItem kept =>
      simp only [deleteStep] at hstep
      split at hstep
      · cases hstep
        refine hnext _ _ (sameLeaves_removeDirectory honly kept) fun directory hdirectory => ?_
        split at hdirectory
        · exact activePaths_put (by simp) hdirectory
        · exact hdirectory
      · cases hstep
        exact hnext _ _ (.refl _) fun _ => id
  | _ => cases hstep

end Transitions

/-! ## What the workflow writes itself -/

section Writes

variable {files files' : Files} {fileId : Nat} {content : FileContent}

theorem lookup_writeText {path : FsPath} (h : writeText files path fileId content = some files') :
    (∃ written, files'.lookup path = some (.file ⟨written, content⟩) ∧
      ∀ data, files.lookup path = some (.file data) → data.fileId = written) ∧
    ∀ other, other ≠ path → files'.lookup other = files.lookup other := by
  unfold writeText at h
  split at h
  · next hnone =>
      cases h
      refine ⟨⟨fileId, ?_, fun data hdata => ?_⟩, fun other hne => ?_⟩
      · rw [FileSystem.lookup_set, if_pos rfl]
      · rw [hnone] at hdata
        cases hdata
      · rw [FileSystem.lookup_set, if_neg hne]
  · next data hdata =>
      cases h
      refine ⟨⟨data.fileId, ?_, fun old hold => ?_⟩, fun other hne => ?_⟩
      · rw [FileSystem.lookup_set, if_pos rfl]
      · rw [hdata] at hold
        cases hold
        rfl
      · rw [FileSystem.lookup_set, if_neg hne]
  · cases h

/-- A write away from the quarantined directories. -/
structure OwnWrites (config : EmptyFolderConfig) (files files' : Files) : Prop where
  present : ∀ fileId, Present files fileId → Present files' fileId
  empty : ∀ directory, config.sessionsRoot.parts <+: directory →
    files.OnlyDirectories directory → files'.OnlyDirectories directory

theorem OwnWrites.trans {files'' : Files} (h : OwnWrites config files files')
    (h' : OwnWrites config files' files'') : OwnWrites config files files'' :=
  ⟨fun fileId hpresent => h'.present fileId (h.present fileId hpresent),
    fun directory hplaced honly => h'.empty directory hplaced (h.empty directory hplaced honly)⟩

theorem OwnWrites.of_sameLeaves (h : SameLeaves files files') : OwnWrites config files files' :=
  ⟨fun _ => present_of_sameLeaves h, fun _ _ honly => honly.of_sameLeaves h⟩

theorem OwnWrites.of_writeText {path : FsPath} (haway : ¬ config.sessionsRoot.parts <+: path)
    (h : writeText files path fileId content = some files') : OwnWrites config files files' := by
  obtain ⟨⟨written, hwritten, hid⟩, hother⟩ := lookup_writeText h
  constructor
  · rintro id ⟨place, old, hplace⟩
    by_cases hsame : place = path
    · subst hsame
      rw [← hid _ hplace] at hwritten
      exact ⟨place, content, hwritten⟩
    · exact ⟨place, old, (hother place hsame).trans hplace⟩
  · intro directory hplaced honly below node hbelow hnode
    rw [hother below fun heq => haway (heq ▸ hplaced.trans hbelow)] at hnode
    exact honly below node hbelow hnode

theorem parts_sessionsRoot :
    config.sessionsRoot.parts = config.quarantineRoot.parts ++ [py "sessions"] :=
  parts_entryPath (by decide)

theorem parts_indexFile : config.indexFile = config.quarantineRoot.parts ++ [py "index.json"] :=
  parts_entryPath (by decide)

theorem parts_sessionFile (sessionId : PyStr) :
    config.sessionFile sessionId =
      config.quarantineRoot.parts ++ [py "session-index", sessionId ++ py ".json"] := by
  unfold EmptyFolderConfig.sessionFile
  rw [parts_entryPath (by decide), List.append_assoc]
  rfl

theorem sessionsRoot_away_indexFile : ¬ config.sessionsRoot.parts <+: config.indexFile := by
  rw [parts_sessionsRoot, parts_indexFile, List.prefix_append_right_inj]
  decide

theorem sessionsRoot_away_sessionFile (sessionId : PyStr) :
    ¬ config.sessionsRoot.parts <+: config.sessionFile sessionId := by
  rw [parts_sessionsRoot, parts_sessionFile, List.prefix_append_right_inj,
    List.cons_prefix_cons]
  exact fun h => absurd h.1 (by decide)

theorem sessionFile_ne_indexFile (sessionId : PyStr) :
    config.indexFile ≠ config.sessionFile sessionId := by
  rw [parts_indexFile, parts_sessionFile, Ne, List.append_cancel_left_eq]
  exact fun h => absurd (congrArg List.length h) (by simp)

theorem indexItems_congr (h : files'.lookup config.indexFile = files.lookup config.indexFile) :
    config.indexItems files' = config.indexItems files := by
  unfold EmptyFolderConfig.indexItems
  rw [h]

/-- What every operation of a sequence keeps, the sequence keeps. -/
theorem foldlM_kept {R : Files → Files → Prop} (hrefl : ∀ files, R files files)
    (htrans : ∀ {a b c}, R a b → R b c → R a c) {operations : List (Files → Option Files)}
    (hall : ∀ operation ∈ operations, ∀ a b, operation a = some b → R a b) {a b : Files}
    (h : operations.foldlM (fun files step => step files) a = some b) : R a b := by
  induction operations generalizing a with
  | nil =>
      cases h
      exact hrefl _
  | cons operation operations ih =>
      obtain ⟨next, hnext, hrest⟩ := Option.bind_eq_some_iff.mp h
      exact htrans (hall operation List.mem_cons_self a next hnext)
        (ih (fun other hother => hall other (List.mem_cons_of_mem _ hother)) hrest)

/-- The session file is written beside the index. -/
theorem writeSession_own {steps : Nat} {sessionId : PyStr}
    (h : config.writeSession files steps sessionId fileId = some files') :
    OwnWrites config files files' ∧ config.indexItems files' = config.indexItems files := by
  have hmkdirs : ∀ path a b, FileSystem.mkdirs a path = some b →
      OwnWrites config a b ∧ config.indexItems b = config.indexItems a := by
    intro path a b hmade
    exact ⟨.of_sameLeaves (sameLeaves_mkdirs hmade),
      indexItems_of_sameLeaves (sameLeaves_mkdirs hmade)⟩
  have hwrite : ∀ a b, writeText a (config.sessionFile sessionId) fileId .other = some b →
      OwnWrites config a b ∧ config.indexItems b = config.indexItems a := by
    intro a b hwritten
    refine ⟨.of_writeText (sessionsRoot_away_sessionFile sessionId) hwritten, ?_⟩
    exact indexItems_congr ((lookup_writeText hwritten).2 _ (sessionFile_ne_indexFile sessionId))
  refine foldlM_kept (R := fun a b => OwnWrites config a b ∧
      config.indexItems b = config.indexItems a) (fun _ => ⟨.of_sameLeaves (.refl _), rfl⟩)
    (fun h h' => ⟨h.1.trans h'.1, h'.2.trans h.2⟩) (fun operation hoperation a b => ?_) h
  have hmem := List.mem_of_mem_take hoperation
  simp only [List.mem_cons, List.not_mem_nil, or_false] at hmem
  rcases hmem with rfl | rfl | rfl
  · exact hmkdirs _ a b
  · exact hmkdirs _ a b
  · exact hwrite a b

theorem writeIndex_own {fault : Option WriteFault} {index : EmptyDirIndex}
    (h : config.writeIndex files fault fileId index = some files') :
    OwnWrites config files files' ∧
      ∀ item ∈ config.indexItems files', item ∈ index.rows ∨ item ∈ config.indexItems files := by
  have hwrite : ∀ written,
      ((files.mkdirs config.quarantineRoot.parts).bind fun made =>
        writeText made config.indexFile fileId written) = some files' →
      OwnWrites config files files' ∧
        ∃ id, files'.lookup config.indexFile = some (.file ⟨id, written⟩) := by
    intro written hsome
    obtain ⟨made, hmade, hwritten⟩ := Option.bind_eq_some_iff.mp hsome
    obtain ⟨id, hid, -⟩ := (lookup_writeText hwritten).1
    exact ⟨(OwnWrites.of_sameLeaves (sameLeaves_mkdirs hmade)).trans
      (.of_writeText sessionsRoot_away_indexFile hwritten), id, hid⟩
  unfold EmptyFolderConfig.writeIndex at h
  split at h
  · cases h
    exact ⟨.of_sameLeaves (.refl _), fun item hitem => .inr hitem⟩
  · obtain ⟨hown, id, hlookup⟩ := hwrite _ h
    refine ⟨hown, fun item hitem => ?_⟩
    unfold EmptyFolderConfig.indexItems at hitem
    rw [hlookup] at hitem
    cases hitem
  · obtain ⟨hown, id, hlookup⟩ := hwrite _ h
    refine ⟨hown, fun item hitem => ?_⟩
    unfold EmptyFolderConfig.indexItems at hitem
    rw [hlookup] at hitem
    exact .inl hitem

/-- A request ends with its writes. -/
theorem TakenEmpty.ends (h : TakenEmpty config s) (hown : OwnWrites config s.files files')
    (hitems : ∀ directory ∈ activePaths (config.indexItems files'),
      directory ∈ activePaths (config.indexItems s.files) ++ s.phase.itemPaths) :
    KeepsFiles config s ⟨files', .idle⟩ := by
  refine ⟨⟨fun directory hdirectory => ?_, fun directory hdirectory => ?_⟩, hown.present⟩
  · simp only [EmptyFolderSystem.taken, EmptyFolderPhase.itemPaths, EmptyFolderPhase.pendingPaths,
      List.append_nil] at hdirectory
    have hmem := hitems directory hdirectory
    exact hown.empty directory (h.placed directory hmem)
      (h.empty directory (List.mem_append_left _ hmem))
  · rw [EmptyFolderPhase.itemPaths, List.append_nil] at hdirectory
    exact h.placed directory (hitems directory hdirectory)

theorem mem_foldl_put {items : List EmptyDirQuarantineItem} {index : EmptyDirIndex}
    {item : EmptyDirQuarantineItem}
    (h : item ∈ (items.foldl (fun existing item => existing.put item) index).rows) :
    item ∈ items ∨ item ∈ index.rows := by
  induction items generalizing index with
  | nil => exact .inr h
  | cons first items ih =>
      rcases ih h with hlater | hput
      · exact .inl (List.mem_cons_of_mem _ hlater)
      · rcases Table.mem_put.mp hput with rfl | ⟨hold, -⟩
        · exact .inl List.mem_cons_self
        · exact .inr hold

theorem recordStep_keeps {sessionId : PyStr} {copied : Bool} {items : List EmptyDirQuarantineItem}
    {event : EmptyFolderEvent}
    (h : TakenEmpty config ⟨files, .quarantining sessionId [] copied items⟩)
    (hstep : recordStep config files sessionId items event = some t) :
    KeepsFiles config ⟨files, .quarantining sessionId [] copied items⟩ t := by
  cases event with
  | recordSession steps fault sessionFileId indexFileId =>
      obtain ⟨written, hsession, hstep⟩ := Option.bind_eq_some_iff.mp hstep
      obtain ⟨hown, hsame⟩ := writeSession_own hsession
      have hearly : KeepsFiles config ⟨files, .quarantining sessionId [] copied items⟩
          ⟨written, .idle⟩ := by
        refine h.ends hown fun directory hdirectory => ?_
        rw [hsame] at hdirectory
        exact List.mem_append_left _ hdirectory
      split at hstep
      · cases hstep
        exact hearly
      · split at hstep
        · cases hstep
          exact hearly
        · next index hindex =>
            obtain ⟨final, hfinal, hstep⟩ := Option.bind_eq_some_iff.mp hstep
            cases hstep
            obtain ⟨hown', hrows⟩ := writeIndex_own hfinal
            refine h.ends (hown.trans hown') fun directory hdirectory => ?_
            obtain ⟨item, hitem, hactive, rfl⟩ := mem_activePaths.mp hdirectory
            have hold : item ∈ config.indexItems files → item.quarantinePath.parts ∈
                activePaths (config.indexItems files) ++
                  (EmptyFolderPhase.quarantining sessionId [] copied items).itemPaths :=
              fun hmem => List.mem_append_left _ (mem_activePaths.mpr ⟨item, hmem, hactive, rfl⟩)
            rcases hrows item hitem with hput | hbefore
            · rcases mem_foldl_put hput with hnew | hread
              · exact List.mem_append_right _ (List.mem_map_of_mem hnew)
              · rw [readIndex_rows hindex, hsame] at hread
                exact hold hread
            · rw [hsame] at hbefore
              exact hold hbefore
  | _ => cases hstep

theorem finishStep_keeps {updated : EmptyDirIndex} {event : EmptyFolderEvent}
    (h : TakenEmpty config s) (hactive : ∀ directory ∈ activePaths updated.rows,
      directory ∈ s.phase.itemPaths)
    (hstep : finishStep config s.files updated event = some t) : KeepsFiles config s t := by
  cases event with
  | writeIndex fault fileId =>
      obtain ⟨written, hwritten, hstep⟩ := Option.bind_eq_some_iff.mp hstep
      cases hstep
      obtain ⟨hown, hrows⟩ := writeIndex_own hwritten
      refine h.ends hown fun directory hdirectory => ?_
      obtain ⟨item, hitem, hstate, rfl⟩ := mem_activePaths.mp hdirectory
      rcases hrows item hitem with hnew | hbefore
      · exact List.mem_append_right _
          (hactive _ (mem_activePaths.mpr ⟨item, hnew, hstate, rfl⟩))
      · exact List.mem_append_left _ (mem_activePaths.mpr ⟨item, hbefore, hstate, rfl⟩)
  | _ => cases hstep

end Writes

/-! ## Runs -/

theorem TakenEmpty.phaseStep (h : TakenEmpty config s) {event : EmptyFolderEvent}
    (hstep : s.phase.step config s.files event = some t) : KeepsFiles config s t := by
  obtain ⟨files, phase⟩ := s
  cases phase with
  | idle => exact startStep_keeps h hstep
  | scanning selection dryRun listed => exact scanStep_keeps h hstep
  | quarantining sessionId pending copied items =>
      cases pending with
      | nil => exact recordStep_keeps h hstep
      | cons finding rest => exact quarantineStep_keeps h hstep
  | restoring pending stage updated =>
      cases pending with
      | nil => exact finishStep_keeps h (fun _ hactive => List.mem_append_right _ hactive) hstep
      | cons item rest => exact restoreStep_keeps h hstep
  | deleting pending updated =>
      cases pending with
      | nil => exact finishStep_keeps h (fun _ hactive => List.mem_append_right _ hactive) hstep
      | cons item rest => exact deleteStep_keeps h hstep

/-- What someone else creates elsewhere stays away from what was taken for empty. -/
theorem TakenEmpty.created (h : TakenEmpty config s) {path : FsPath} {node : FsNode FileData}
    (hfree : s.files.vacant path = true)
    (helsewhere : node ≠ .directory → ∀ directory ∈ s.taken config, ¬ directory <+: path)
    (hcontent : ∀ fileId items, node ≠ .file ⟨fileId, .index items⟩) :
    KeepsFiles config s ⟨s.files.set path node, s.phase⟩ := by
  have hindex : config.indexItems (s.files.set path node) = config.indexItems s.files := by
    by_cases hpath : config.indexFile = path
    · unfold EmptyFolderConfig.indexItems
      rw [FileSystem.lookup_set, if_pos hpath, hpath,
        FileSystem.vacant_iff.mp hfree path List.prefix_rfl]
      split
      · next hnode => exact absurd (Option.some.inj hnode) (hcontent _ _)
      · rfl
    · apply indexItems_congr
      rw [FileSystem.lookup_set, if_neg hpath]
  refine ⟨⟨fun directory hdirectory => ?_, fun directory hdirectory => ?_⟩, ?_⟩
  · rw [EmptyFolderSystem.taken, hindex] at hdirectory
    intro below found hbelow hfound
    rw [FileSystem.lookup_set] at hfound
    split at hfound
    · next hsame =>
        by_contra hne
        cases hfound
        exact helsewhere hne directory hdirectory (hsame ▸ hbelow)
    · exact h.empty directory hdirectory below found hbelow hfound
  · rw [hindex] at hdirectory
    exact h.placed directory hdirectory
  · rintro fileId ⟨place, content, hplace⟩
    refine ⟨place, content, ?_⟩
    rw [FileSystem.lookup_set, if_neg, hplace]
    rintro rfl
    rw [FileSystem.vacant_iff.mp hfree place List.prefix_rfl] at hplace
    cases hplace

theorem TakenEmpty.step (h : TakenEmpty config s) {event : EmptyFolderEvent}
    (hok : CreatesElsewhere config s event) (hstep : s.step config event = some t) :
    KeepsFiles config s t := by
  cases event with
  | createFile path fileId =>
      simp only [EmptyFolderSystem.step, Bool.and_eq_true] at hstep
      split at hstep
      · next hfree =>
          cases hstep
          exact h.created hfree.2 (fun _ => hok) (by simp)
      · cases hstep
  | createDirectory path =>
      simp only [EmptyFolderSystem.step, Bool.and_eq_true] at hstep
      split at hstep
      · next hfree =>
          cases hstep
          exact h.created hfree.2 (fun hne => absurd rfl hne) (by simp)
      · cases hstep
  | _ => exact h.phaseStep hstep

/-- Nothing was taken for empty before the first request. -/
theorem takenEmpty_start (hidle : s.phase = .idle)
    (hindex : s.files.lookup config.indexFile = none) : TakenEmpty config s := by
  have hnone : config.indexItems s.files = [] := by
    unfold EmptyFolderConfig.indexItems
    rw [hindex]
  constructor
  · rw [EmptyFolderSystem.taken, hnone, hidle]
    exact List.forall_mem_nil _
  · rw [hnone, hidle]
    exact List.forall_mem_nil _

/-- As long as nobody creates a file where a directory was taken for empty, every file that
was there at any time of a run is still there later. -/
theorem files_survive (config : EmptyFolderConfig) {start s t : EmptyFolderSystem}
    {before after : List EmptyFolderEvent} (hidle : start.phase = .idle)
    (hindex : start.files.lookup config.indexFile = none)
    (hbefore : Steps (EmptyFolderSystem.step config) (CreatesElsewhere config) start before s)
    (hafter : Steps (EmptyFolderSystem.step config) (CreatesElsewhere config) s after t) :
    ∀ fileId, Present s.files fileId → Present t.files fileId := by
  have hs : TakenEmpty config s :=
    hbefore.invariant (fun _ _ _ hok hstep hempty => (hempty.step hok hstep).1)
      (takenEmpty_start hidle hindex)
  clear hbefore
  induction hafter with
  | refl => exact fun _ => id
  | head hok hstep _ ih =>
      obtain ⟨hnext, hkept⟩ := hs.step hok hstep
      exact fun fileId hpresent => ih hnext fileId (hkept fileId hpresent)

end Steps

/-! ## A file in a quarantined folder -/

def uploadsConfig : EmptyFolderConfig where
  storage := ⟨none, some (.parse (py "/up")), none, none, none⟩
  quarantinePath := .parse (py "/q")

/-- `/up/a` is empty. -/
def emptyUploadFolder : EmptyFolderSystem where
  files := ⟨[([], .directory), ([py "up"], .directory), ([py "up", py "a"], .directory),
    ([py "q"], .directory)], by decide⟩
  phase := .idle

def emptyView : DirectoryView :=
  ⟨none, none, .nil⟩

def uploadsView : DirectoryView :=
  ⟨none, none, .directory (py "a") none none .nil .nil⟩

/-- The empty folder is quarantined. -/
def quarantineFolder : List EmptyFolderEvent :=
  [.quarantine ⟨[], [], true⟩ false, .list (.parse (py "/up/a")) emptyView,
    .list (.parse (py "/up")) uploadsView, .select [(py "uploads", .inr uploadsView)] (py "s"),
    .moveFinding none .renamed none, .recordSession 3 none 1 2]

/-- What is in quarantine is deleted for good. -/
def deleteFolder : List EmptyFolderEvent :=
  [.delete (py "s") [] true, .removeItem none, .writeIndex none 3]

/-- Where the empty folder is in quarantine. -/
def quarantinedFolder : FsPath :=
  [py "q", py "empty-folders", py "sessions", py "s", py "uploads", py "a"]

def createsElsewhere (config : EmptyFolderConfig) (s : EmptyFolderSystem) :
    EmptyFolderEvent → Bool
  | .createFile path _ => (s.taken config).all fun directory => !decide (directory <+: path)
  | _ => true

theorem createsElsewhere_of_check {config : EmptyFolderConfig} (s : EmptyFolderSystem)
    (event : EmptyFolderEvent) (h : createsElsewhere config s event = true) :
    CreatesElsewhere config s event := by
  cases event with
  | createFile path fileId =>
      intro directory hdirectory
      simpa using List.all_eq_true.mp h directory hdirectory
  | _ => exact trivial

def fileIds (files : Files) : List Nat :=
  files.rows.filterMap fun entry =>
    match entry.2 with
    | .file data => some data.fileId
    | _ => none

theorem present_iff {files : Files} {fileId : Nat} :
    Present files fileId ↔ fileId ∈ fileIds files := by
  unfold Present fileIds
  rw [List.mem_filterMap]
  constructor
  · rintro ⟨path, content, hlookup⟩
    exact ⟨_, FileSystem.lookup_eq_some_iff.mp hlookup, rfl⟩
  · rintro ⟨⟨path, node⟩, hmem, hid⟩
    cases node with
    | file data =>
        cases hid
        exact ⟨path, data.content, FileSystem.lookup_eq_some_iff.mpr hmem⟩
    | _ => cases hid

def checkedUploads : EmptyFolderSystem → EmptyFolderEvent → Option EmptyFolderSystem :=
  checkedStep (EmptyFolderSystem.step uploadsConfig) (createsElsewhere uploadsConfig)

/-- A file that comes where the empty folder was outlives the deletion of the folder. -/
theorem files_survive_beside :
    Present (Steps.last checkedUploads
      (Steps.last checkedUploads emptyUploadFolder
        (quarantineFolder ++ [.createFile [py "up", py "a"] 7]))
      deleteFolder).files 7 :=
  files_survive uploadsConfig rfl rfl
    (Steps.of_checked createsElsewhere_of_check (Steps.exec_eq_last (by decide +kernel)))
    (Steps.of_checked createsElsewhere_of_check (Steps.exec_eq_last (by decide +kernel)))
    7 (present_iff.mpr (by decide +kernel))

/-- A file that comes into a quarantined folder is deleted with it. -/
theorem file_in_quarantine_deleted :
    ∃ s t, Steps (EmptyFolderSystem.step uploadsConfig) (fun _ _ => True) emptyUploadFolder
        (quarantineFolder ++ [.createFile (quarantinedFolder ++ [py "x"]) 7]) s ∧
      Steps (EmptyFolderSystem.step uploadsConfig) (fun _ _ => True) s deleteFolder t ∧
      Present s.files 7 ∧ ¬ Present t.files 7 := by
  refine ⟨_, _, Steps.of_exec (fun _ _ _ => trivial) (Steps.exec_eq_last (by decide +kernel)),
    Steps.of_exec (fun _ _ _ => trivial) (Steps.exec_eq_last (by decide +kernel)), ?_, ?_⟩
  · rw [present_iff]
    decide +kernel
  · rw [present_iff]
    decide +kernel

end ImmichDoctor.Storage
