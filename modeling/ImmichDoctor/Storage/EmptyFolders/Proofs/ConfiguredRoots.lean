import ImmichDoctor.Storage.EmptyFolders.Proofs.Walk
import ImmichDoctor.Storage.EmptyFolders.QuarantineManager
/-!
# Configured roots among the findings

Only the library root is left out when another root lies below it. The walk of any other
root goes through the roots nested in it, and reports them and their parents when they
are bare.
-/

namespace ImmichDoctor.Storage

open ImmichDoctor.Library
open ImmichDoctor.Catalog.CatalogRootRegistry (isChildPath)

/-- The directories from `/` on. -/
structure FolderTree where
  top : DirectoryView
  wellFormed : top.entries.wellFormed = true

/-- What the scan sees of a root: the message of `validate_readable_directory`, or what
stands where the path leads. -/
def FolderTree.view (tree : FolderTree) (resolvePath : PurePath → PurePath)
    (readability : PurePath → Option PyStr) (root : PyStr × PurePath) : RootView :=
  match readability root.2 with
  | some message => .inl message
  | none =>
      match tree.top.descend (resolvePath root.2).parts with
      | none => .inl []
      | some directory => .inr directory

/-- `Path.resolve` follows no link where the tree has a directory. -/
structure Resolves (tree : FolderTree) (resolvePath : PurePath → PurePath) : Prop where
  anchor : ∀ path, (resolvePath path).anchor = .slash
  below : ∀ path directory name below,
    tree.top.descend (resolvePath path).parts = some directory →
      directory.entries.child name = some below →
      resolvePath (entryPath path name) = entryPath (resolvePath path) name

/-- The finding is neither a configured root nor an ancestor of one. -/
def SparesRoots (resolvePath : PurePath → PurePath) (settings : StorageSettings)
    (finding : EmptyDirectoryFinding) : Prop :=
  ∀ configured ∈ configuredRoots settings,
    isChildPath resolvePath finding.absolutePath configured.2 = false

/-- On the way from a root to a configured root below it, the last directory the walk
reaches is the root itself or one without the property. -/
def NoneOnTheWay (resolvePath : PurePath → PurePath) (settings : StorageSettings)
    (view : PyStr × PurePath → RootView) (P : DirectoryView → Prop)
    (root : PyStr × PurePath) : Prop :=
  ∀ directory, view root = .inr directory → ∀ configured ∈ configuredRoots settings,
    ∀ names, (resolvePath configured.2).parts = (resolvePath root.2).parts ++ names →
      ∀ last, directory.lastReached names = some last → ¬ P last

/-- The directory has no entries. -/
def DirectoryView.Vacant (view : DirectoryView) : Prop :=
  view.error = none ∧ view.entries = .nil

theorem DirectoryView.descend_append (view : DirectoryView) (names rest : List PyStr) :
    view.descend (names ++ rest) = (view.descend names).bind fun below => below.descend rest := by
  induction names generalizing view with
  | nil => rfl
  | cons name names ih =>
      rw [List.cons_append, descend, descend, Option.bind_assoc]
      exact Option.bind_congr fun below _ => ih below

theorem DirectoryView.wellFormed_of_descend {view below : DirectoryView} {names : List PyStr}
    (hwell : view.entries.wellFormed = true) (h : view.descend names = some below) :
    below.entries.wellFormed = true := by
  induction names generalizing view with
  | nil =>
      cases h
      exact hwell
  | cons name names ih =>
      obtain ⟨child, hchild, hrest⟩ := Option.bind_eq_some_iff.mp h
      exact ih (Listing.valid_of_child hwell hchild).2 hrest

theorem FolderTree.view_eq_inr {tree : FolderTree} {resolvePath : PurePath → PurePath}
    {readability : PurePath → Option PyStr} {root : PyStr × PurePath} {directory : DirectoryView}
    (h : tree.view resolvePath readability root = .inr directory) :
    tree.top.descend (resolvePath root.2).parts = some directory ∧
      directory.entries.wellFormed = true := by
  unfold FolderTree.view at h
  split at h
  · cases h
  · split at h
    · cases h
    · next hplace =>
        cases h
        exact ⟨hplace, DirectoryView.wellFormed_of_descend tree.wellFormed hplace⟩

section Way

variable {tree : FolderTree} {resolvePath : PurePath → PurePath}

/-- The walk goes where the names lead from the place of the root. -/
theorem Resolves.pathBelow (h : Resolves tree resolvePath) {path : PurePath}
    {directory reached : DirectoryView} {names : List PyStr}
    (hplace : tree.top.descend (resolvePath path).parts = some directory)
    (hwell : directory.entries.wellFormed = true)
    (hreach : directory.reach names = some reached) :
    (resolvePath (pathBelow path names)).parts = (resolvePath path).parts ++ names := by
  induction names generalizing path directory with
  | nil => rw [Storage.pathBelow, List.foldl_nil, List.append_nil]
  | cons name names ih =>
      rw [DirectoryView.reach] at hreach
      split at hreach
      · cases hreach
      · obtain ⟨below, hchild, hreach⟩ := Option.bind_eq_some_iff.mp hreach
        obtain ⟨hname, hbelow⟩ := Listing.valid_of_child hwell hchild
        have hresolved := h.below path directory name below hplace hchild
        have hparts : (resolvePath (entryPath path name)).parts =
            (resolvePath path).parts ++ [name] := by
          rw [hresolved, parts_entryPath hname]
        have hnext : tree.top.descend (resolvePath (entryPath path name)).parts = some below := by
          rw [hparts, DirectoryView.descend_append, hplace, Option.bind_some,
            DirectoryView.descend, hchild]
          rfl
        have hrest := ih hnext hbelow hreach
        rw [hparts, List.append_assoc, List.singleton_append] at hrest
        exact hrest

theorem isChildPath_iff (h : Resolves tree resolvePath) (parent child : PurePath) :
    isChildPath resolvePath parent child = true ↔
      ∃ names, (resolvePath child).parts = (resolvePath parent).parts ++ names := by
  unfold isChildPath
  rw [Option.isSome_iff_exists]
  refine exists_congr fun names => ?_
  rw [PurePath.relativeTo?_eq_some_iff, h.anchor, h.anchor]
  exact and_iff_right rfl

/-- No directory of the walk with the property is at or above a configured root exactly when
none is on the way to one. -/
theorem noneOnTheWay_iff (h : Resolves tree resolvePath) {settings : StorageSettings}
    {readability : PurePath → Option PyStr} {P : DirectoryView → Prop}
    (hdown : ∀ view name below, P view → view.entries.child name = some below → P below)
    (root : PyStr × PurePath) :
    (∀ walked ∈ walkOf (tree.view resolvePath readability) root, P walked.2 →
        ScannedRoot.relativePath ⟨root.1, root.2⟩ walked.1 ≠ [] →
        ∀ configured ∈ configuredRoots settings,
          isChildPath resolvePath walked.1 configured.2 = false) ↔
      NoneOnTheWay resolvePath settings (tree.view resolvePath readability) P root := by
  unfold NoneOnTheWay walkOf
  cases hview : tree.view resolvePath readability root with
  | inl message => exact iff_of_true (List.forall_mem_nil _) nofun
  | inr directory =>
      obtain ⟨hplace, hwell⟩ := FolderTree.view_eq_inr hview
      constructor
      · intro hspared found hfound configured hconfigured names hnames last hlast hP
        cases hfound
        obtain ⟨way, reached, hne, ⟨rest, rfl⟩, hreach, hP⟩ :=
          (DirectoryView.exists_reach_iff hdown).mpr ⟨last, hlast, hP⟩
        have hvalid := (DirectoryView.valid_of_reach hwell hreach).1
        have hfalse := hspared (pathBelow root.2 way, reached)
          ((DirectoryView.mem_walk_iff hwell).mpr ⟨way, hreach, rfl⟩) hP
          (fun hnil => hne ((relativePath_pathBelow hvalid).mp hnil)) configured hconfigured
        have htrue := (isChildPath_iff h (pathBelow root.2 way) configured.2).mpr
          ⟨rest, by rw [h.pathBelow hplace hwell hreach, hnames, List.append_assoc]⟩
        rw [htrue] at hfalse
        cases hfalse
      · intro hnone walked hwalked hP hrelative configured hconfigured
        obtain ⟨way, hreach, hpath⟩ := (DirectoryView.mem_walk_iff hwell).mp hwalked
        have hvalid := (DirectoryView.valid_of_reach hwell hreach).1
        by_contra hchild
        rw [Bool.not_eq_false, hpath, isChildPath_iff h] at hchild
        obtain ⟨rest, hrest⟩ := hchild
        rw [h.pathBelow hplace hwell hreach, List.append_assoc] at hrest
        rw [hpath, Ne, relativePath_pathBelow hvalid] at hrelative
        obtain ⟨last, hlast, hP⟩ := (DirectoryView.exists_reach_iff hdown).mp
          ⟨way, walked.2, hrelative, List.prefix_append way rest, hreach, hP⟩
        exact hnone directory rfl configured hconfigured _ hrest last hlast hP

end Way

/-! ## Reports and moves -/

theorem Listing.bare_of_child {listing : Listing} {name : PyStr} {below : DirectoryView}
    (hbare : listing.bare = true) (h : listing.child name = some below) : below.bare = true := by
  induction listing with
  | nil => cases h
  | entry => cases hbare
  | directory other stat error entries rest _ ih =>
      simp only [bare, Bool.and_eq_true] at hbare
      rw [child] at h
      split at h
      · cases h
        rw [DirectoryView.bare, hbare.1.1, hbare.1.2]
        rfl
      · exact ih hbare.2 h

theorem bare_goes_down (view : DirectoryView) (name : PyStr) (below : DirectoryView)
    (h : view.bare = true) (hchild : view.entries.child name = some below) :
    below.bare = true := by
  rw [DirectoryView.bare, Bool.and_eq_true] at h
  exact Listing.bare_of_child h.2 hchild

theorem vacant_goes_down (view : DirectoryView) (name : PyStr) (below : DirectoryView)
    (h : view.Vacant) (hchild : view.entries.child name = some below) : below.Vacant := by
  rw [h.2] at hchild
  cases hchild

theorem vacant_iff {view : DirectoryView} :
    view.Vacant ↔ view.bare = true ∧ view.entries.childCount = 0 := by
  unfold DirectoryView.Vacant DirectoryView.bare
  rw [Bool.and_eq_true, Option.isNone_iff_eq_none, and_assoc]
  refine and_congr_right fun _ => ?_
  constructor
  · intro h
    rw [h]
    exact ⟨rfl, rfl⟩
  · rintro ⟨hbare, hcount⟩
    exact Listing.bare_of_childCount hbare hcount

section Reports

variable {roots : List (PyStr × PurePath)} {view : PyStr × PurePath → RootView}

theorem mem_findings {finding : EmptyDirectoryFinding} :
    finding ∈ (scan roots view).findings ↔
      ∃ root ∈ roots, ∃ walked ∈ walkOf view root, walked.2.Vacant ∧
        ScannedRoot.relativePath ⟨root.1, root.2⟩ walked.1 ≠ [] ∧
        finding = ScannedRoot.buildFinding ⟨root.1, root.2⟩ walked.1 walked.2.stat 0 := by
  rw [(findings_scan roots view).1.mem_iff, List.mem_flatMap]
  refine exists_congr fun root => and_congr_right fun _ => ?_
  rw [mem_foundIn]
  refine exists_congr fun walked => and_congr_right fun _ => ?_
  rw [vacant_iff, decide_eq_false_iff_not, not_not]
  constructor
  · rintro ⟨hbare, hrelative, hcount, rfl⟩
    exact ⟨⟨hbare, hcount⟩, hrelative, by rw [hcount]⟩
  · rintro ⟨⟨hbare, hcount⟩, hrelative, rfl⟩
    exact ⟨hbare, hrelative, hcount, by rw [hcount]⟩

theorem mem_reported {finding : EmptyDirectoryFinding} :
    finding ∈ (scan roots view).findings ++ (scan roots view).orphanParents ↔
      ∃ root ∈ roots, ∃ walked ∈ walkOf view root, walked.2.bare = true ∧
        ScannedRoot.relativePath ⟨root.1, root.2⟩ walked.1 ≠ [] ∧
        finding = ScannedRoot.buildFinding ⟨root.1, root.2⟩ walked.1 walked.2.stat
          walked.2.entries.childCount := by
  obtain ⟨hfindings, horphans⟩ := findings_scan roots view
  rw [List.mem_append, hfindings.mem_iff, horphans.mem_iff, List.mem_flatMap, List.mem_flatMap]
  simp only [mem_foundIn]
  constructor
  · rintro (⟨root, hroot, walked, hwalked, hbare, hrelative, -, hfinding⟩ |
      ⟨root, hroot, walked, hwalked, hbare, hrelative, -, hfinding⟩)
    · exact ⟨root, hroot, walked, hwalked, hbare, hrelative, hfinding⟩
    · exact ⟨root, hroot, walked, hwalked, hbare, hrelative, hfinding⟩
  · rintro ⟨root, hroot, walked, hwalked, hbare, hrelative, hfinding⟩
    by_cases hcount : decide (walked.2.entries.childCount ≠ 0) = true
    · exact .inr ⟨root, hroot, walked, hwalked, hbare, hrelative, hcount, hfinding⟩
    · rw [Bool.not_eq_true] at hcount
      exact .inl ⟨root, hroot, walked, hwalked, hbare, hrelative, hcount, hfinding⟩

end Reports

/-- What a request moves: the selected findings of a scan of all roots. -/
def quarantineSources (resolvePath : PurePath → PurePath) (settings : StorageSettings)
    (view : PyStr × PurePath → RootView) (selection : QuarantineSelection) :
    List EmptyDirectoryFinding :=
  selectFindings (scan (effectiveRoots resolvePath settings none) view).findings selection

/-- No configured root or ancestor of one is reported, or moved by any selection, exactly
when none that the walk reaches is bare, or vacant. -/
theorem configured_roots_spared_iff (tree : FolderTree) (settings : StorageSettings)
    (resolvePath : PurePath → PurePath) (readability : PurePath → Option PyStr)
    (rootSlug : Option PyStr) (hresolve : Resolves tree resolvePath) :
    ((∀ finding ∈
          (scan (effectiveRoots resolvePath settings rootSlug)
            (tree.view resolvePath readability)).findings ++
          (scan (effectiveRoots resolvePath settings rootSlug)
            (tree.view resolvePath readability)).orphanParents,
        SparesRoots resolvePath settings finding) ∧
      ∀ selection, ∀ finding ∈ quarantineSources resolvePath settings
          (tree.view resolvePath readability) selection,
        SparesRoots resolvePath settings finding) ↔
    (∀ root ∈ effectiveRoots resolvePath settings rootSlug,
        NoneOnTheWay resolvePath settings (tree.view resolvePath readability)
          (fun directory => directory.bare = true) root) ∧
      ∀ root ∈ effectiveRoots resolvePath settings none,
        NoneOnTheWay resolvePath settings (tree.view resolvePath readability)
          DirectoryView.Vacant root := by
  refine and_congr ?_ ?_
  · simp only [← noneOnTheWay_iff hresolve bare_goes_down]
    constructor
    · intro h root hroot walked hwalked hbare hrelative
      exact h _ (mem_reported.mpr ⟨root, hroot, walked, hwalked, hbare, hrelative, rfl⟩)
    · intro h finding hfinding
      obtain ⟨root, hroot, walked, hwalked, hbare, hrelative, rfl⟩ := mem_reported.mp hfinding
      exact h root hroot walked hwalked hbare hrelative
  · simp only [← noneOnTheWay_iff hresolve vacant_goes_down]
    constructor
    · intro h root hroot walked hwalked hvacant hrelative
      have hfinding := mem_findings.mpr ⟨root, hroot, walked, hwalked, hvacant, hrelative, rfl⟩
      exact h ⟨[], [], true⟩ _ (List.mem_filter.mpr ⟨hfinding, rfl⟩)
    · intro h selection finding hfinding
      obtain ⟨root, hroot, walked, hwalked, hvacant, hrelative, rfl⟩ :=
        mem_findings.mp (List.mem_filter.mp hfinding).1
      exact h root hroot walked hwalked hvacant hrelative

/-! ## Thumbnails below the uploads -/

def thumbsBelowUploads : StorageSettings :=
  ⟨none, some (.parse (py "/up")), some (.parse (py "/up/thumbs")), none, none⟩

/-- `/up/thumbs` with the given entries. -/
def thumbsTree (entries : Listing) (h : entries.wellFormed = true) : FolderTree where
  top := ⟨none, none, .directory (py "up") none none
    (.directory (py "thumbs") none none entries .nil) .nil⟩
  wellFormed := by
    simp only [Listing.wellFormed, h]
    decide

/-- A path without links and `..`, taken from `/`. -/
def fromTop (path : PurePath) : PurePath :=
  { path with anchor := .slash }

theorem resolves_fromTop (tree : FolderTree) : Resolves tree fromTop :=
  ⟨fun _ => rfl, fun _ _ _ _ _ _ => rfl⟩

/-- The last directories on the way from a root to the configured ones. -/
def lastOnTheWay (settings : StorageSettings) (view : PyStr × PurePath → RootView)
    (root : PyStr × PurePath) : List DirectoryView :=
  (configuredRoots settings).filterMap fun configured =>
    (view root).getRight?.bind fun directory =>
      directory.lastReached (configured.2.parts.drop root.2.parts.length)

theorem noneOnTheWay_of_last {settings : StorageSettings} {view : PyStr × PurePath → RootView}
    {P : DirectoryView → Prop} {root : PyStr × PurePath}
    (h : ∀ last ∈ lastOnTheWay settings view root, ¬ P last) :
    NoneOnTheWay fromTop settings view P root := by
  intro directory hview configured hconfigured names hnames last hlast
  refine h last (List.mem_filterMap.mpr ⟨configured, hconfigured, ?_⟩)
  have hdrop : configured.2.parts.drop root.2.parts.length = names := by
    change configured.2.parts = root.2.parts ++ names at hnames
    rw [hnames, List.drop_left]
  rw [hview, hdrop]
  exact hlast

theorem configured_roots_spared_thumbnail :
    (∀ finding ∈
        (scan (effectiveRoots fromTop thumbsBelowUploads none)
          ((thumbsTree (.entry (py "a.webp") .file .nil) (by decide)).view fromTop
            fun _ => none)).findings ++
        (scan (effectiveRoots fromTop thumbsBelowUploads none)
          ((thumbsTree (.entry (py "a.webp") .file .nil) (by decide)).view fromTop
            fun _ => none)).orphanParents,
      SparesRoots fromTop thumbsBelowUploads finding) ∧
    ∀ selection, ∀ finding ∈ quarantineSources fromTop thumbsBelowUploads
        ((thumbsTree (.entry (py "a.webp") .file .nil) (by decide)).view fromTop fun _ => none)
        selection,
      SparesRoots fromTop thumbsBelowUploads finding := by
  have hlast : ∀ root ∈ effectiveRoots fromTop thumbsBelowUploads none,
      ∀ last ∈ lastOnTheWay thumbsBelowUploads
          ((thumbsTree (.entry (py "a.webp") .file .nil) (by decide)).view fromTop fun _ => none)
          root,
        ¬ last.bare = true := by
    decide +kernel
  refine (configured_roots_spared_iff _ _ _ _ _ (resolves_fromTop _)).mpr
    ⟨fun root hroot => noneOnTheWay_of_last (hlast root hroot), fun root hroot => ?_⟩
  exact noneOnTheWay_of_last fun last hmem hvacant =>
    hlast root hroot last hmem (vacant_iff.mp hvacant).1

/-- An empty thumbnail root is reported as an empty folder of the uploads. -/
theorem nested_root_reported :
    Resolves (thumbsTree .nil rfl) fromTop ∧
      ¬ ∀ finding ∈
          (scan (effectiveRoots fromTop thumbsBelowUploads none)
            ((thumbsTree .nil rfl).view fromTop fun _ => none)).findings,
        SparesRoots fromTop thumbsBelowUploads finding := by
  refine ⟨resolves_fromTop _, ?_⟩
  unfold SparesRoots
  decide +kernel

end ImmichDoctor.Storage
