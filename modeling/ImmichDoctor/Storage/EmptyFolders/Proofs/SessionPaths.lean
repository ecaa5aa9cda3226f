import ImmichDoctor.Storage.EmptyFolders.Proofs.ConfiguredRoots
import ImmichDoctor.Storage.EmptyFolders.QuarantineManager
/-!
# Places in quarantine

The findings of one scan get places in their session that are neither equal nor below one
another.
-/

namespace ImmichDoctor.Storage

open ImmichDoctor.Library
open ImmichDoctor.Library.FileSystem (Apart)

/-! ## Vacant directories of a walk -/

theorem apart_append_iff {base a b : FsPath} : Apart (base ++ a) (base ++ b) ↔ Apart a b := by
  unfold Apart
  rw [List.prefix_append_right_inj, List.prefix_append_right_inj]

theorem apart_cons_of_ne {a b : PyStr} {as bs : FsPath} (h : a ≠ b) : Apart (a :: as) (b :: bs) :=
  ⟨fun hbelow => h (List.cons_prefix_cons.mp hbelow).1,
    fun hbelow => h (List.cons_prefix_cons.mp hbelow).1.symm⟩

/-- Two vacant directories of a walk are apart. -/
def VacantApart (a b : PurePath × DirectoryView) : Prop :=
  a.2.Vacant → b.2.Vacant → Apart a.1.parts b.1.parts

/-- Where a directory of the walk of some entries is. -/
theorem Listing.parts_of_mem_walk {listing : Listing} (hwell : listing.wellFormed = true)
    {path : PurePath} {walked : PurePath × DirectoryView} (h : walked ∈ listing.walk path) :
    ∃ name ∈ listing.names, ∃ names, walked.1.parts = path.parts ++ name :: names := by
  obtain ⟨name, names, below, hchild, hreach, hpath⟩ := (mem_walk_iff hwell).mp h
  obtain ⟨hname, hbelow⟩ := valid_of_child hwell hchild
  refine ⟨name, mem_names_of_child hchild, names, ?_⟩
  rw [hpath, parts_pathBelow (DirectoryView.valid_of_reach hbelow hreach).1,
    parts_entryPath hname, List.append_assoc, List.singleton_append]

theorem Listing.walk_apart {listing : Listing} (hwell : listing.wellFormed = true)
    (path : PurePath) : (listing.walk path).Pairwise VacantApart := by
  induction listing generalizing path with
  | nil => exact List.Pairwise.nil
  | entry name kind rest ih =>
      rw [wellFormed, Bool.and_eq_true] at hwell
      exact ih hwell.2 path
  | directory name stat error entries rest ihEntries ihRest =>
      have hall := hwell
      simp only [wellFormed, Bool.and_eq_true, Bool.not_eq_true', List.contains_eq_mem,
        decide_eq_false_iff_not] at hwell
      obtain ⟨⟨⟨hname, hfresh⟩, hrest⟩, hentries⟩ := hwell
      -- what is at or below the subdirectory, and what is below the other entries
      have hside : ∀ a ∈ (if error.isSome then [] else entries.walk (entryPath path name)) ++
          [(entryPath path name, (⟨stat, error, entries⟩ : DirectoryView))],
          ∀ b ∈ rest.walk path, VacantApart a b := by
        intro a ha b hb _ _
        obtain ⟨other, hother, names, hb⟩ := parts_of_mem_walk hrest hb
        have hshape : ∃ names, a.1.parts = path.parts ++ name :: names := by
          rcases List.mem_append.mp ha with hbelow | hself
          · split at hbelow
            · cases hbelow
            · obtain ⟨inner, -, names, hparts⟩ := parts_of_mem_walk hentries hbelow
              rw [parts_entryPath hname, List.append_assoc] at hparts
              exact ⟨_, hparts⟩
          · rw [List.mem_singleton.mp hself]
            exact ⟨[], parts_entryPath hname⟩
        obtain ⟨names', ha⟩ := hshape
        rw [ha, hb, apart_append_iff]
        apply apart_cons_of_ne
        rintro rfl
        exact hfresh hother
      have hown : ((if error.isSome then [] else entries.walk (entryPath path name)) ++
          [(entryPath path name, (⟨stat, error, entries⟩ : DirectoryView))]).Pairwise
            VacantApart := by
        rw [List.pairwise_append]
        refine ⟨?_, List.pairwise_singleton _ _, fun a ha b hb _ hvacant => ?_⟩
        · split
          · exact List.Pairwise.nil
          · exact ihEntries hentries _
        · rw [List.mem_singleton.mp hb] at hvacant
          have hnil : entries = .nil := hvacant.2
          rw [hnil] at ha
          split at ha <;> cases ha
      have hlist := List.pairwise_append.mpr ⟨hown, ihRest hrest path, hside⟩
      rw [List.append_assoc] at hlist
      exact hlist

theorem DirectoryView.walk_apart {view : DirectoryView} (hwell : view.entries.wellFormed = true)
    (path : PurePath) : (view.walk path).Pairwise VacantApart := by
  unfold walk
  rw [List.pairwise_append]
  refine ⟨?_, List.pairwise_singleton _ _, fun a ha b hb _ hvacant => ?_⟩
  · split
    · exact List.Pairwise.nil
    · exact Listing.walk_apart hwell path
  · rw [List.mem_singleton.mp hb] at hvacant
    rw [hvacant.2] at ha
    split at ha <;> cases ha

/-! ## Slugs -/

/-- The slugs that a root may have. -/
def knownSlugs : List PyStr :=
  [py "library", py "uploads", py "thumbs", py "profile", py "video"]

theorem map_fst_filterMap {α β : Type*} (entries : List (α × Option β)) :
    ((entries.filterMap fun entry => entry.2.map
      fun value => (entry.1, value)).map Prod.fst).Sublist
      (entries.map Prod.fst) := by
  induction entries with
  | nil => exact .slnil
  | cons entry entries ih =>
      obtain ⟨key, value⟩ := entry
      cases value with
      | none => exact ih.cons _
      | some value => exact ih.cons_cons _

theorem slugs_configuredRoots (settings : StorageSettings) :
    ((configuredRoots settings).map Prod.fst).Sublist knownSlugs := by
  have hnames := map_fst_filterMap
    [(py "immich_library_root", settings.immichLibraryRoot),
      (py "immich_uploads_path", settings.immichUploadsPath),
      (py "immich_thumbs_path", settings.immichThumbsPath),
      (py "immich_profile_path", settings.immichProfilePath),
      (py "immich_video_path", settings.immichVideoPath)]
  have hslugs := hnames.map fun name =>
    ((Catalog.rootSpecs.lookup name).map Prod.fst).getD name
  rw [List.map_map] at hslugs
  rw [configuredRoots, List.map_map]
  exact hslugs

theorem nodup_knownSlugs : knownSlugs.Nodup := by decide

theorem valid_knownSlugs : ∀ slug ∈ knownSlugs, validPart slug = true := by decide

variable {config : EmptyFolderConfig}

theorem mem_roots {root : PyStr × PurePath} (h : root ∈ config.roots) :
    root ∈ configuredRoots config.storage := by
  simp only [EmptyFolderConfig.roots, effectiveRoots, List.mem_insertionSort] at h
  exact (List.mem_filter.mp h).1

theorem valid_slug {root : PyStr × PurePath} (h : root ∈ config.roots) :
    validPart root.1 = true :=
  valid_knownSlugs _ ((slugs_configuredRoots config.storage).subset
    (List.mem_map_of_mem (mem_roots h)))

theorem roots_pairwise (config : EmptyFolderConfig) :
    config.roots.Pairwise fun a b => a.1 ≠ b.1 := by
  have hnodup : ((configuredRoots config.storage).map Prod.fst).Nodup :=
    nodup_knownSlugs.sublist (slugs_configuredRoots config.storage)
  have hconfigured := List.pairwise_map.mp hnodup
  unfold EmptyFolderConfig.roots effectiveRoots
  exact (List.perm_insertionSort _ _).symm.pairwise (hconfigured.filter _) fun h => h.symm

/-! ## Destinations -/

/-- Where the finding of a walked directory goes. -/
theorem parts_destination {sessionId : PyStr} (hsession : validPart sessionId = true)
    {root : PyStr × PurePath} (hroot : validPart root.1 = true) {path : PurePath}
    {names : List PyStr} (hpath : path.parts = root.2.parts ++ names)
    (hnames : ∀ name ∈ names, validPart name = true) (hne : names ≠ [])
    (stat : Option DirectoryStat) (count : Nat) :
    (config.quarantineDestination sessionId
        (ScannedRoot.buildFinding ⟨root.1, root.2⟩ path stat count)).parts =
      config.sessionsRoot.parts ++ sessionId :: root.1 :: names := by
  have hrelative : ScannedRoot.relativeParts ⟨root.1, root.2⟩ path = names := by
    rw [ScannedRoot.relativeParts, hpath, List.drop_left]
  have hjoined : PurePath.joined names ≠ [] := by
    rw [Ne, PurePath.joined_eq_nil_iff]
    · exact hne
    · intro name hname hnil
      have hvalid := hnames name hname
      rw [hnil] at hvalid
      cases hvalid
  simp only [EmptyFolderConfig.quarantineDestination, ScannedRoot.buildFinding,
    ScannedRoot.relativePath, hrelative, if_neg hjoined, entryPath, PurePath.joinParts,
    PurePath.partsOf_of_valid hsession, PurePath.partsOf_of_valid hroot,
    PurePath.partsOf_joined (List.all_eq_true.mpr hnames), List.append_assoc]
  rfl

section Views

variable {listed : List (PurePath × DirectoryView)} {views : List (PyStr × RootView)}

/-- A readable root shows a well-formed directory whose walk was listed. -/
theorem listed_of_walkOf (hviews : viewsListed config listed views = true)
    {root : PyStr × PurePath} (hroot : root ∈ config.roots) :
    (∀ walked ∈ walkOf (viewOf views) root, walked ∈ listed) ∧
      (walkOf (viewOf views) root).Pairwise VacantApart ∧
      ∀ walked ∈ walkOf (viewOf views) root, ∃ names, walked.1 = pathBelow root.2 names ∧
        ∀ name ∈ names, validPart name = true := by
  have hview := List.all_eq_true.mp hviews root hroot
  unfold walkOf
  split
  · exact ⟨List.forall_mem_nil _, List.Pairwise.nil, List.forall_mem_nil _⟩
  · next directory hdirectory =>
      rw [hdirectory, Bool.and_eq_true] at hview
      obtain ⟨hwell, hall⟩ := hview
      refine ⟨fun walked hwalked => ?_, DirectoryView.walk_apart hwell _, fun walked hwalked => ?_⟩
      · exact List.contains_iff_mem.mp (List.all_eq_true.mp hall walked hwalked)
      · obtain ⟨names, hreach, hpath⟩ := (DirectoryView.mem_walk_iff hwell).mp hwalked
        exact ⟨names, hpath, (DirectoryView.valid_of_reach hwell hreach).1⟩

/-- Where a finding is and where it goes. -/
theorem places_of_found (hviews : viewsListed config listed views = true) {sessionId : PyStr}
    (hsession : validPart sessionId = true) {root : PyStr × PurePath} (hroot : root ∈ config.roots)
    {finding : EmptyDirectoryFinding} (h : finding ∈ foundIn (viewOf views) false root) :
    ∃ names, finding.absolutePath.parts = root.2.parts ++ names ∧
      (config.quarantineDestination sessionId finding).parts =
        config.sessionsRoot.parts ++ sessionId :: root.1 :: names := by
  obtain ⟨walked, hwalked, -, hrelative, -, rfl⟩ := mem_foundIn.mp h
  obtain ⟨names, hpath, hnames⟩ := (listed_of_walkOf hviews hroot).2.2 walked hwalked
  have hparts : walked.1.parts = root.2.parts ++ names := by
    rw [hpath, parts_pathBelow hnames]
  refine ⟨names, hparts, parts_destination hsession (valid_slug hroot) hparts hnames ?_ _ _⟩
  rintro rfl
  rw [hpath] at hrelative
  exact hrelative ((relativePath_pathBelow hnames).mpr rfl)

/-- The findings of one root are apart. -/
theorem foundIn_apart (hviews : viewsListed config listed views = true)
    {root : PyStr × PurePath} (hroot : root ∈ config.roots) :
    (foundIn (viewOf views) false root).Pairwise fun a b =>
      Apart a.absolutePath.parts b.absolutePath.parts := by
  unfold foundIn
  rw [List.pairwise_filterMap]
  refine (listed_of_walkOf hviews hroot).2.1.imp fun hapart a ha b hb => ?_
  have hvacant : ∀ (walked : PurePath × DirectoryView) finding,
      ScannedRoot.found ⟨root.1, root.2⟩ false walked = some finding →
      walked.2.Vacant ∧ finding.absolutePath = walked.1 := by
    intro walked finding hfound
    rw [ScannedRoot.found, Option.ite_none_right_eq_some] at hfound
    simp only [Bool.and_eq_true, decide_eq_true_eq, decide_eq_false_iff_not, not_not] at hfound
    obtain ⟨⟨⟨hbare, -⟩, hcount⟩, hfinding⟩ := hfound
    exact ⟨vacant_iff.mpr ⟨hbare, hcount⟩, Option.some.inj hfinding ▸ rfl⟩
  obtain ⟨hempty, hpath⟩ := hvacant _ _ ha
  obtain ⟨hempty', hpath'⟩ := hvacant _ _ hb
  rw [hpath, hpath']
  exact hapart hempty hempty'

/-- No finding of a scan is moved to the place of another one, above or below it. -/
theorem destinations_apart (hviews : viewsListed config listed views = true) {sessionId : PyStr}
    (hsession : validPart sessionId = true) (selection : QuarantineSelection) :
    (selectFindings (scan config.roots (viewOf views)).findings selection).Pairwise fun a b =>
      Apart (config.quarantineDestination sessionId a).parts
        (config.quarantineDestination sessionId b).parts := by
  have hflat : (config.roots.flatMap (foundIn (viewOf views) false)).Pairwise fun a b =>
      Apart (config.quarantineDestination sessionId a).parts
        (config.quarantineDestination sessionId b).parts := by
    rw [List.pairwise_flatMap]
    constructor
    · intro root hroot
      refine (foundIn_apart hviews hroot).imp_of_mem fun ha hb hapart => ?_
      obtain ⟨names, hnames, hplace⟩ := places_of_found hviews hsession hroot ha
      obtain ⟨names', hnames', hplace'⟩ := places_of_found hviews hsession hroot hb
      rw [hnames, hnames', apart_append_iff] at hapart
      rw [hplace, hplace', apart_append_iff]
      exact (@apart_append_iff [sessionId, root.1] names names').mpr hapart
    · refine (roots_pairwise config).imp_of_mem fun hroot hroot' hne a ha b hb => ?_
      obtain ⟨names, -, hplace⟩ := places_of_found hviews hsession hroot ha
      obtain ⟨names', -, hplace'⟩ := places_of_found hviews hsession hroot' hb
      rw [hplace, hplace', apart_append_iff]
      exact (@apart_append_iff [sessionId] _ _).mpr (apart_cons_of_ne hne)
  exact ((findings_scan _ _).1.symm.pairwise hflat fun h => h.symm).filter _

end Views

end ImmichDoctor.Storage
