import ImmichDoctor.Storage.EmptyFolders.Proofs.Walk
/-!
# What an empty-folder scan reports

Directories as they are, with the parts of them that cannot be read, and what a scan makes of
them. A directory is reported when it is reached and everything below it can be read and is
a directory; one that has a file below it, seen or not, is never reported.
-/

namespace ImmichDoctor.Storage

open ImmichDoctor.Library

/-! ## Directories as they are -/

/-- An entry that is not a directory. -/
inductive LeafKind
  | symlink
  | file
  | other
  deriving DecidableEq

/-- The entries of a directory in the order of a listing. `unreadable` is the error of the
attempt to read the kind of an entry, `cutOff` the error that ends the listing of a directory
and the number of the entries before it. -/
inductive ActualEntries
  | nil
  | leaf (name : PyStr) (kind : LeafKind) (unreadable : Option PyStr) (rest : ActualEntries)
  | directory (name : PyStr) (stat : Option DirectoryStat) (unreadable : Option PyStr)
      (cutOff : Option (Nat × PyStr)) (entries rest : ActualEntries)
  deriving DecidableEq

structure ActualDirectory where
  stat : Option DirectoryStat
  unreadable : Option PyStr
  cutOff : Option (Nat × PyStr)
  entries : ActualEntries
  deriving DecidableEq

namespace ActualEntries

def names : ActualEntries → List PyStr
  | nil => []
  | leaf name _ _ rest => name :: rest.names
  | directory name _ _ _ _ rest => name :: rest.names

def wellFormed : ActualEntries → Bool
  | nil => true
  | leaf name _ _ rest => validPart name && !rest.names.contains name && rest.wellFormed
  | directory name _ _ _ entries rest =>
      validPart name && !rest.names.contains name && rest.wellFormed && entries.wellFormed

/-- The subdirectory of a name. -/
def child (name : PyStr) : ActualEntries → Option ActualDirectory
  | nil => none
  | leaf _ _ _ rest => rest.child name
  | directory other stat unreadable cutOff entries rest =>
      if other = name then some ⟨stat, unreadable, cutOff, entries⟩ else rest.child name

theorem mem_names_of_child {entries : ActualEntries} {name : PyStr} {below : ActualDirectory}
    (h : entries.child name = some below) : name ∈ entries.names := by
  induction entries with
  | nil => cases h
  | leaf other kind unreadable rest ih => exact List.mem_cons_of_mem _ (ih h)
  | directory other stat unreadable cutOff entries rest _ ih =>
      rw [child] at h
      split at h
      · next heq => exact heq ▸ List.mem_cons_self
      · exact List.mem_cons_of_mem _ (ih h)

/-- There is a file, at any depth. -/
def containsFile : ActualEntries → Bool
  | nil => false
  | leaf _ kind _ rest => kind = .file || rest.containsFile
  | directory _ _ _ _ entries rest => entries.containsFile || rest.containsFile

/-- There are only directories, at any depth, and all of them can be read. -/
def onlyDirectories : ActualEntries → Bool
  | nil => true
  | leaf _ _ _ _ => false
  | directory _ _ unreadable cutOff entries rest =>
      unreadable.isNone && cutOff.isNone && entries.onlyDirectories && rest.onlyDirectories

/-- What can be read are directories, at any depth. -/
def readableOnlyDirectories : ActualEntries → Bool
  | nil => true
  | leaf _ _ unreadable rest => unreadable.isSome && rest.readableOnlyDirectories
  | directory _ _ unreadable cutOff entries rest =>
      (unreadable.isSome || cutOff.isSome || entries.readableOnlyDirectories) &&
        rest.readableOnlyDirectories

end ActualEntries

namespace ActualDirectory

/-- The directory at a path below a directory. -/
def descend (directory : ActualDirectory) : List PyStr → Option ActualDirectory
  | [] => some directory
  | name :: names => (directory.entries.child name).bind fun below => below.descend names

/-- The directory at a path below a directory, when all directories before it can be listed
and it can be told from a file. -/
def reach (directory : ActualDirectory) : List PyStr → Option ActualDirectory
  | [] => some directory
  | name :: names =>
      if directory.cutOff.isSome then none
      else (directory.entries.child name).bind fun below =>
        if below.unreadable.isSome then none else below.reach names

theorem descend_of_reach {directory reached : ActualDirectory} {names : List PyStr}
    (h : directory.reach names = some reached) : directory.descend names = some reached := by
  induction names generalizing directory with
  | nil => exact h
  | cons name names ih =>
      rw [reach] at h
      split at h
      · cases h
      · obtain ⟨below, hchild, hrest⟩ := Option.bind_eq_some_iff.mp h
        split at hrest
        · cases hrest
        · rw [descend, hchild]
          exact ih hrest

end ActualDirectory

/-! ## What of it is shown -/

def LeafKind.shown : LeafKind → EntryKind
  | symlink => .symlink
  | file => .file
  | other => .other

namespace Listing

def take : Nat → Listing → Listing
  | 0, _ => nil
  | _ + 1, nil => nil
  | n + 1, entry name kind rest => entry name kind (rest.take n)
  | n + 1, directory name stat error entries rest =>
      directory name stat error entries (rest.take n)

theorem names_take (n : Nat) (listing : Listing) :
    (listing.take n).names = listing.names.take n := by
  induction n generalizing listing with
  | zero => rfl
  | succ n ih =>
      cases listing with
      | nil => rfl
      | entry name kind rest => simp only [take, names, List.take_succ_cons, ih]
      | directory name stat error entries rest =>
          simp only [take, names, List.take_succ_cons, ih]

theorem wellFormed_take {listing : Listing} (h : listing.wellFormed = true) (n : Nat) :
    (listing.take n).wellFormed = true := by
  induction n generalizing listing with
  | zero => rfl
  | succ n ih =>
      cases listing with
      | nil => rfl
      | entry name kind rest =>
          simp only [wellFormed, Bool.and_eq_true, Bool.not_eq_true', List.contains_eq_mem,
            decide_eq_false_iff_not] at h
          simp only [take, wellFormed, Bool.and_eq_true, Bool.not_eq_true', List.contains_eq_mem,
            decide_eq_false_iff_not, names_take]
          exact ⟨⟨h.1.1, fun hmem => h.1.2 (List.mem_of_mem_take hmem)⟩, ih h.2⟩
      | directory name stat error entries rest =>
          simp only [wellFormed, Bool.and_eq_true, Bool.not_eq_true', List.contains_eq_mem,
            decide_eq_false_iff_not] at h
          simp only [take, wellFormed, Bool.and_eq_true, Bool.not_eq_true', List.contains_eq_mem,
            decide_eq_false_iff_not, names_take]
          exact ⟨⟨⟨h.1.1.1, fun hmem => h.1.1.2 (List.mem_of_mem_take hmem)⟩, ih h.1.2⟩, h.2⟩

/-- The entries that are listed before an error. -/
def upTo (cutOff : Option (Nat × PyStr)) (listing : Listing) : Listing :=
  match cutOff with
  | none => listing
  | some (count, _) => listing.take count

end Listing

/-- What `os.scandir` shows of the entries. -/
def ActualEntries.shown : ActualEntries → Listing
  | nil => .nil
  | leaf name kind unreadable rest =>
      .entry name (unreadable.elim kind.shown .unreadable) rest.shown
  | directory name _ (some message) _ _ rest => .entry name (.unreadable message) rest.shown
  | directory name stat none cutOff entries rest =>
      .directory name stat (cutOff.map (·.2)) (entries.shown.upTo cutOff) rest.shown

def ActualDirectory.view (directory : ActualDirectory) : DirectoryView where
  stat := directory.stat
  error := directory.cutOff.map (·.2)
  entries := directory.entries.shown.upTo directory.cutOff

/-- A configured root as it is: a check before the scan may fail with a message. -/
structure ActualRoot where
  check : Option PyStr
  top : ActualDirectory
  wellFormed : top.entries.wellFormed = true

def ActualRoot.view (root : ActualRoot) : RootView :=
  match root.check with
  | some message => .inl message
  | none => .inr root.top.view

namespace ActualEntries

@[simp] theorem names_shown (entries : ActualEntries) : entries.shown.names = entries.names := by
  induction entries with
  | nil => rfl
  | leaf name kind unreadable rest ih => simp only [shown, Listing.names, names, ih]
  | directory name stat unreadable cutOff entries rest _ ih =>
      cases unreadable with
      | none => simp only [shown, Listing.names, names, ih]
      | some message => simp only [shown, Listing.names, names, ih]

theorem wellFormed_upTo {listing : Listing} (h : listing.wellFormed = true)
    (cutOff : Option (Nat × PyStr)) : (listing.upTo cutOff).wellFormed = true := by
  cases cutOff with
  | none => exact h
  | some cut => exact Listing.wellFormed_take h cut.1

theorem wellFormed_shown {entries : ActualEntries} (h : entries.wellFormed = true) :
    entries.shown.wellFormed = true := by
  induction entries with
  | nil => rfl
  | leaf name kind unreadable rest ih =>
      simp only [wellFormed, Bool.and_eq_true] at h
      simp only [shown, Listing.wellFormed, names_shown, Bool.and_eq_true]
      exact ⟨h.1, ih h.2⟩
  | directory name stat unreadable cutOff entries rest ihEntries ihRest =>
      simp only [wellFormed, Bool.and_eq_true] at h
      cases unreadable with
      | none =>
          simp only [shown, Listing.wellFormed, names_shown, Bool.and_eq_true]
          exact ⟨⟨h.1.1, ihRest h.1.2⟩, wellFormed_upTo (ihEntries h.2) cutOff⟩
      | some message =>
          simp only [shown, Listing.wellFormed, names_shown, Bool.and_eq_true]
          exact ⟨h.1.1, ihRest h.1.2⟩

theorem wellFormed_of_child {entries : ActualEntries} {name : PyStr} {below : ActualDirectory}
    (h : entries.wellFormed = true) (hchild : entries.child name = some below) :
    below.entries.wellFormed = true := by
  induction entries with
  | nil => cases hchild
  | leaf other kind unreadable rest ih =>
      simp only [wellFormed, Bool.and_eq_true] at h
      exact ih h.2 hchild
  | directory other stat unreadable cutOff entries rest _ ihRest =>
      simp only [wellFormed, Bool.and_eq_true] at h
      rw [child] at hchild
      split at hchild
      · cases hchild
        exact h.2
      · exact ihRest h.1.2 hchild

/-- A listing shows the subdirectories that can be told from files. -/
theorem child_shown {entries : ActualEntries} (h : entries.wellFormed = true) (name : PyStr) :
    entries.shown.child name = (entries.child name).bind fun below =>
      if below.unreadable.isSome then none else some below.view := by
  induction entries with
  | nil => rfl
  | leaf other kind unreadable rest ih =>
      simp only [wellFormed, Bool.and_eq_true] at h
      exact ih h.2
  | directory other stat unreadable cutOff entries rest _ ihRest =>
      simp only [wellFormed, Bool.and_eq_true, Bool.not_eq_true', List.contains_eq_mem,
        decide_eq_false_iff_not] at h
      have hrest := ihRest h.1.2
      cases unreadable with
      | none =>
          rw [shown, Listing.child, child]
          split
          · rfl
          · exact hrest
      | some message =>
          rw [shown, Listing.child, child, hrest]
          split
          · next heq =>
              cases hchild : rest.child name with
              | none => rfl
              | some below =>
                  have hmem := mem_names_of_child hchild
                  exact absurd (heq ▸ hmem) h.1.1.2
          · rfl

/-- What is shown is bare when all of it can be read and is a directory. -/
theorem bare_shown (entries : ActualEntries) : entries.shown.bare = entries.onlyDirectories := by
  induction entries with
  | nil => rfl
  | leaf name kind unreadable rest ih => rfl
  | directory name stat unreadable cutOff entries rest ihEntries ihRest =>
      cases unreadable with
      | some message => rfl
      | none =>
          cases cutOff with
          | some cut => rfl
          | none =>
              simp only [shown, Listing.bare, Listing.upTo, onlyDirectories, ihEntries, ihRest]
              rfl

theorem childCount_shown_eq_zero_iff {entries : ActualEntries}
    (h : entries.onlyDirectories = true) : entries.shown.childCount = 0 ↔ entries = .nil := by
  constructor
  · intro hcount
    have hnil := Listing.bare_of_childCount (bare_shown entries ▸ h) hcount
    cases entries with
    | nil => rfl
    | leaf => cases hnil
    | directory name stat unreadable => cases unreadable <;> cases hnil
  · rintro rfl
    rfl

theorem containsFile_of_onlyDirectories {entries : ActualEntries}
    (h : entries.onlyDirectories = true) : entries.containsFile = false := by
  induction entries with
  | nil => rfl
  | leaf => cases h
  | directory name stat unreadable cutOff entries rest ihEntries ihRest =>
      simp only [onlyDirectories, Bool.and_eq_true] at h
      rw [containsFile, ihEntries h.1.2, ihRest h.2]
      rfl

end ActualEntries

namespace ActualDirectory

theorem wellFormed_view {directory : ActualDirectory}
    (h : directory.entries.wellFormed = true) : directory.view.entries.wellFormed = true :=
  ActualEntries.wellFormed_upTo (ActualEntries.wellFormed_shown h) directory.cutOff

/-- The walk goes where the directories lead. -/
theorem reach_view {directory : ActualDirectory} (h : directory.entries.wellFormed = true)
    (names : List PyStr) :
    directory.view.reach names = (directory.reach names).map ActualDirectory.view := by
  induction names generalizing directory with
  | nil => rfl
  | cons name names ih =>
      rw [DirectoryView.reach, reach]
      cases hcut : directory.cutOff with
      | some cut => simp [view, hcut]
      | none =>
          have hentries : directory.view.entries = directory.entries.shown := by
            simp [view, hcut, Listing.upTo]
          rw [hentries, ActualEntries.child_shown h]
          have herror : directory.view.error = none := by simp [view, hcut]
          rw [herror]
          simp only [Option.isSome_none, Bool.false_eq_true, if_false, Option.map_bind,
            Option.bind_assoc]
          cases hchild : directory.entries.child name with
          | none => rfl
          | some below =>
              cases hreadable : below.unreadable with
              | some message => simp [hreadable]
              | none =>
                  simpa [hreadable] using ih (ActualEntries.wellFormed_of_child h hchild)

theorem bare_view (directory : ActualDirectory) :
    directory.view.bare = (directory.cutOff.isNone && directory.entries.onlyDirectories) := by
  cases hcut : directory.cutOff with
  | some cut => simp [DirectoryView.bare, view, hcut]
  | none =>
      simp [DirectoryView.bare, view, hcut, Listing.upTo, ActualEntries.bare_shown]

end ActualDirectory

/-! ## The report -/

/-- The directory at a path is among the findings of a root. -/
def Reported (findings : List EmptyDirectoryFinding) (slug : PyStr) (path : PurePath) : Prop :=
  ∃ finding ∈ findings, finding.rootSlug = slug ∧ finding.absolutePath = path

/-- Some root has such a directory at the path, other than the root itself. -/
def SomeDirectory (roots : List (PyStr × PurePath)) (slug : PyStr) (path : PurePath)
    (P : PyStr × PurePath → List PyStr → ActualDirectory → Prop) : Prop :=
  ∃ root ∈ roots, root.1 = slug ∧ ∃ names directory, names ≠ [] ∧ P root names directory ∧
    path = pathBelow root.2 names

section Report

variable {actual : PyStr × PurePath → ActualRoot}

/-- The walk leaves the directories that it reaches. -/
theorem mem_walkOf_iff {root : PyStr × PurePath} {walked : PurePath × DirectoryView} :
    walked ∈ walkOf (fun root => (actual root).view) root ↔ (actual root).check = none ∧
      ∃ names directory, (actual root).top.reach names = some directory ∧
        walked = (pathBelow root.2 names, directory.view) := by
  have hwell := (actual root).wellFormed
  have hwalk : walkOf (fun root => (actual root).view) root =
      if (actual root).check = none then (actual root).top.view.walk root.2 else [] := by
    rw [walkOf, ActualRoot.view]
    cases (actual root).check <;> rfl
  rw [hwalk]
  split
  · next hcheck =>
      rw [DirectoryView.mem_walk_iff (ActualDirectory.wellFormed_view hwell), and_iff_right hcheck]
      refine exists_congr fun names => ?_
      rw [ActualDirectory.reach_view hwell]
      constructor
      · rintro ⟨hreach, hpath⟩
        obtain ⟨directory, hdirectory, hview⟩ := Option.map_eq_some_iff.mp hreach
        exact ⟨directory, hdirectory, Prod.ext hpath hview.symm⟩
      · rintro ⟨directory, hdirectory, rfl⟩
        exact ⟨by rw [hdirectory]; rfl, rfl⟩
  · next hcheck => exact iff_of_false List.not_mem_nil fun h => hcheck h.1

/-- The names on the way to a directory that is reached are valid. -/
theorem valid_of_reach {root : PyStr × PurePath} {names : List PyStr}
    {directory : ActualDirectory} (h : (actual root).top.reach names = some directory) :
    ∀ name ∈ names, validPart name = true := by
  have hwell := (actual root).wellFormed
  have hreach : (actual root).top.view.reach names = some directory.view := by
    rw [ActualDirectory.reach_view hwell, h]
    rfl
  exact (DirectoryView.valid_of_reach (ActualDirectory.wellFormed_view hwell) hreach).1

variable (actual)

/-- The walk comes to the directory and can list it. -/
def Listed (root : PyStr × PurePath) (names : List PyStr) (directory : ActualDirectory) : Prop :=
  (actual root).check = none ∧ (actual root).top.reach names = some directory ∧
    directory.cutOff = none

/-- The findings of all roots are the listed directories with nothing but directories below,
with or without any. -/
theorem reported_foundIn_iff (roots : List (PyStr × PurePath)) (orphanParents : Bool)
    (slug : PyStr) (path : PurePath) :
    Reported (roots.flatMap (foundIn (fun root => (actual root).view) orphanParents)) slug path ↔
      SomeDirectory roots slug path fun root names directory =>
        Listed actual root names directory ∧ directory.entries.onlyDirectories = true ∧
          decide (directory.entries ≠ .nil) = orphanParents := by
  have hbare : ∀ directory : ActualDirectory, directory.view.bare = true ∧
      decide (directory.view.entries.childCount ≠ 0) = orphanParents ↔
        directory.cutOff = none ∧ directory.entries.onlyDirectories = true ∧
          decide (directory.entries ≠ .nil) = orphanParents := by
    intro directory
    rw [ActualDirectory.bare_view, Bool.and_eq_true, Option.isNone_iff_eq_none, and_assoc]
    refine and_congr_right fun hcut => and_congr_right fun honly => ?_
    have hentries : directory.view.entries = directory.entries.shown := by
      simp [ActualDirectory.view, hcut, Listing.upTo]
    rw [hentries, decide_eq_decide.mpr
      (not_congr (ActualEntries.childCount_shown_eq_zero_iff honly))]
  constructor
  · rintro ⟨finding, hfinding, rfl, rfl⟩
    obtain ⟨root, hroot, hfound⟩ := List.mem_flatMap.mp hfinding
    obtain ⟨walked, hwalked, hwalkedBare, hrelative, hcount, rfl⟩ := mem_foundIn.mp hfound
    obtain ⟨hcheck, names, directory, hreach, rfl⟩ := mem_walkOf_iff.mp hwalked
    obtain ⟨hcut, honly⟩ := (hbare directory).mp ⟨hwalkedBare, hcount⟩
    have hnames : names ≠ [] := fun hnil =>
      hrelative ((relativePath_pathBelow (valid_of_reach hreach)).mpr hnil)
    exact ⟨root, hroot, rfl, names, directory, hnames, ⟨⟨hcheck, hreach, hcut⟩, honly⟩, rfl⟩
  · rintro ⟨root, hroot, rfl, names, directory, hnames, ⟨⟨hcheck, hreach, hcut⟩, honly⟩, rfl⟩
    obtain ⟨hwalkedBare, hcount⟩ := (hbare directory).mpr ⟨hcut, honly⟩
    have hwalked := mem_walkOf_iff.mpr ⟨hcheck, names, directory, hreach, rfl⟩
    have hrelative := mt (@relativePath_pathBelow root names (valid_of_reach hreach)).mp hnames
    have hfound := mem_foundIn.mpr ⟨_, hwalked, hwalkedBare, hrelative, hcount, rfl⟩
    exact ⟨_, List.mem_flatMap.mpr ⟨root, hroot, hfound⟩, rfl, rfl⟩

theorem reported_congr {findings findings' : List EmptyDirectoryFinding}
    (h : findings.Perm findings') (slug : PyStr) (path : PurePath) :
    Reported findings slug path ↔ Reported findings' slug path :=
  exists_congr fun _ => and_congr_left fun _ => h.mem_iff

/-- What a report says of the directories as they are. -/
structure Classifies (roots : List (PyStr × PurePath)) (report : EmptyFolderScanReport) :
    Prop where
  emptyFolders : ∀ slug path, Reported report.findings slug path ↔
    SomeDirectory roots slug path fun root names directory =>
      Listed actual root names directory ∧ directory.entries = .nil
  orphanParents : ∀ slug path, Reported report.orphanParents slug path ↔
    SomeDirectory roots slug path fun root names directory =>
      Listed actual root names directory ∧ directory.entries ≠ .nil ∧
        directory.entries.onlyDirectories = true
  noFile : ∀ slug path, Reported (report.findings ++ report.orphanParents) slug path →
    SomeDirectory roots slug path fun root names directory =>
      (actual root).top.descend names = some directory ∧ directory.entries.containsFile = false

/-- The empty folders of a scan are the listed directories without an entry, its orphan
parents those with entries, all of them readable and directories down to the leaves. -/
theorem scan_classifies (roots : List (PyStr × PurePath)) :
    Classifies actual roots (scan roots fun root => (actual root).view) := by
  obtain ⟨hfindings, horphans⟩ := findings_scan roots fun root => (actual root).view
  have hempty := fun slug path => (reported_congr hfindings slug path).trans
    (reported_foundIn_iff actual roots false slug path)
  have hparents := fun slug path => (reported_congr horphans slug path).trans
    (reported_foundIn_iff actual roots true slug path)
  constructor
  · intro slug path
    rw [hempty]
    refine exists_congr fun root => and_congr_right fun _ => and_congr_right fun _ =>
      exists_congr fun names => exists_congr fun directory => and_congr_right fun _ =>
        and_congr_left fun _ => and_congr_right fun _ => ?_
    constructor
    · rintro ⟨-, hnil⟩
      simpa using hnil
    · intro hnil
      rw [hnil]
      exact ⟨rfl, rfl⟩
  · intro slug path
    rw [hparents]
    refine exists_congr fun root => and_congr_right fun _ => and_congr_right fun _ =>
      exists_congr fun names => exists_congr fun directory => and_congr_right fun _ =>
        and_congr_left fun _ => and_congr_right fun _ => ?_
    rw [decide_eq_true_eq]
    exact and_comm
  · rintro slug path ⟨finding, hfinding, hslug, hpath⟩
    have hdirectory : ∃ orphanParents, SomeDirectory roots slug path fun root names directory =>
        Listed actual root names directory ∧ directory.entries.onlyDirectories = true ∧
          decide (directory.entries ≠ .nil) = orphanParents := by
      rcases List.mem_append.mp hfinding with hmem | hmem
      · exact ⟨false, (hempty slug path).mp ⟨finding, hmem, hslug, hpath⟩⟩
      · exact ⟨true, (hparents slug path).mp ⟨finding, hmem, hslug, hpath⟩⟩
    obtain ⟨-, root, hroot, hrootSlug, names, directory, hnames, ⟨hlisted, honly, -⟩, hbelow⟩ :=
      hdirectory
    exact ⟨root, hroot, hrootSlug, names, directory, hnames,
      ⟨ActualDirectory.descend_of_reach hlisted.2.1,
        ActualEntries.containsFile_of_onlyDirectories honly⟩, hbelow⟩

end Report

/-! ## A directory that cannot be listed -/

/-- The reading by the entries alone: what cannot be read does not count. -/
structure ClassifiesReadable (actual : PyStr × PurePath → ActualRoot)
    (roots : List (PyStr × PurePath)) (report : EmptyFolderScanReport) : Prop where
  emptyFolders : ∀ slug path, Reported report.findings slug path ↔
    SomeDirectory roots slug path fun root names directory =>
      (actual root).top.descend names = some directory ∧ directory.entries = .nil
  orphanParents : ∀ slug path, Reported report.orphanParents slug path ↔
    SomeDirectory roots slug path fun root names directory =>
      (actual root).top.descend names = some directory ∧ directory.entries ≠ .nil ∧
        directory.entries.readableOnlyDirectories = true

/-- The uploads with `a/b`, where `b` is empty and cannot be listed. -/
def lockedUploads : ActualRoot where
  check := none
  top := ⟨none, none, none, .directory (py "a") none none none
    (.directory (py "b") none none (some (0, py "Permission denied")) .nil .nil) .nil⟩
  wellFormed := by decide

def lockedRoot : PyStr × PurePath :=
  (py "uploads", .parse (py "/uploads"))

/-- Neither `a/b` is reported as empty nor `a` as an orphan parent. -/
theorem locked_directory_unreported :
    ¬ ∀ (actual : PyStr × PurePath → ActualRoot) (roots : List (PyStr × PurePath)),
      ClassifiesReadable actual roots (scan roots fun root => (actual root).view) := by
  intro h
  have hclassified := h (fun _ => lockedUploads) [lockedRoot]
  have hreported := (hclassified.orphanParents (py "uploads") (pathBelow lockedRoot.2 [py "a"])).mpr
    ⟨lockedRoot, List.mem_singleton.mpr rfl, rfl, [py "a"], _, List.cons_ne_nil _ _,
      ⟨rfl, nofun, by decide⟩, rfl⟩
  obtain ⟨finding, hfinding, -⟩ := hreported
  have hnone : (scan [lockedRoot] fun _ => lockedUploads.view).orphanParents = [] := by decide
  rw [hnone] at hfinding
  cases hfinding

end ImmichDoctor.Storage
