import ImmichDoctor.Storage.EmptyFolders.Scanner
/-!
# What the walk of a root finds

The directories of a walk in the order in which they are left, and the findings as the
bare ones among them. A directory is bare when there are only directories below it, and
all of them were listed to the end.
-/

namespace ImmichDoctor.Storage

open ImmichDoctor.Library

/-! ## Bare directories -/

namespace Listing

/-- Only directories, listed to the end, down to the leaves. -/
def bare : Listing → Bool
  | nil => true
  | entry _ _ _ => false
  | directory _ _ error entries rest => error.isNone && entries.bare && rest.bare

/-- All the subdirectories are bare. -/
def childrenBare : Listing → Bool
  | nil => true
  | entry _ _ rest => rest.childrenBare
  | directory _ _ error entries rest => error.isNone && entries.bare && rest.childrenBare

def childCount : Listing → Nat
  | nil => 0
  | entry _ _ rest => rest.childCount
  | directory _ _ _ _ rest => rest.childCount + 1

def hasRegularFile : Listing → Bool
  | nil => false
  | entry _ .file _ => true
  | entry _ _ rest | directory _ _ _ _ rest => rest.hasRegularFile

def hasBlockingEntries : Listing → Bool
  | nil => false
  | entry _ .file rest | directory _ _ _ _ rest => rest.hasBlockingEntries
  | entry _ _ _ => true

theorem bare_eq (listing : Listing) :
    listing.bare =
      (!listing.hasRegularFile && !listing.hasBlockingEntries && listing.childrenBare) := by
  induction listing with
  | nil => rfl
  | entry name kind rest ih =>
      cases kind <;> simp [bare, hasRegularFile, hasBlockingEntries]
  | directory name stat error entries rest _ ih =>
      simp only [bare, hasRegularFile, hasBlockingEntries, childrenBare, ih]
      cases error.isNone && entries.bare <;> simp

theorem bare_of_childCount {listing : Listing} (hbare : listing.bare = true)
    (hcount : listing.childCount = 0) : listing = .nil := by
  cases listing with
  | nil => rfl
  | entry => cases hbare
  | directory => exact absurd hcount (Nat.succ_ne_zero _)

end Listing

namespace DirectoryView

def bare (view : DirectoryView) : Bool :=
  view.error.isNone && view.entries.bare

end DirectoryView

/-! ## The findings of a walk -/

namespace ScannedRoot

variable (root : ScannedRoot)

/-- The finding of a directory that was walked. -/
def found (orphanParents : Bool) (walked : PurePath × DirectoryView) :
    Option EmptyDirectoryFinding :=
  if walked.2.bare && root.relativePath walked.1 ≠ [] &&
      decide (walked.2.entries.childCount ≠ 0) = orphanParents then
    some (root.buildFinding walked.1 walked.2.stat walked.2.entries.childCount)
  else none

theorem seen_readEntries (path : PurePath) (listing : Listing) (state : RootScanState)
    (seen : SeenEntries) :
    (root.readEntries path listing (state, seen)).2 =
      ⟨seen.childDirectories + listing.childCount, seen.hasRegularFile || listing.hasRegularFile,
        seen.hasBlockingEntries || listing.hasBlockingEntries⟩ := by
  induction listing generalizing state seen with
  | nil => simp [readEntries, Listing.childCount, Listing.hasRegularFile,
      Listing.hasBlockingEntries]
  | entry name kind rest ih =>
      cases kind <;> simp [readEntries, ih, Listing.childCount, Listing.hasRegularFile,
        Listing.hasBlockingEntries]
  | directory name stat error entries rest _ ih =>
      simp only [readEntries, ih, Listing.childCount, Listing.hasRegularFile,
        Listing.hasBlockingEntries, SeenEntries.mk.injEq, and_true]
      omega

theorem findings_readEntries (path : PurePath) (listing : Listing) (state : RootScanState)
    (seen : SeenEntries) :
    (root.readEntries path listing (state, seen)).1.findings = state.findings ∧
      (root.readEntries path listing (state, seen)).1.orphanParents = state.orphanParents := by
  induction listing generalizing state seen with
  | nil => exact ⟨rfl, rfl⟩
  | entry name kind rest ih =>
      cases kind <;> simp only [readEntries, ih, and_self]
  | directory name stat error entries rest _ ih =>
      simp only [readEntries, ih, and_self]

/-- The findings a walk adds to a state. -/
structure Adds (state state' : RootScanState) (walked : List (PurePath × DirectoryView)) :
    Prop where
  findings : state'.findings = state.findings ++ walked.filterMap (root.found false)
  orphanParents : state'.orphanParents =
    state.orphanParents ++ walked.filterMap (root.found true)

variable {root}

theorem Adds.trans {state state' state'' : RootScanState}
    {walked walked' : List (PurePath × DirectoryView)} (h : root.Adds state state' walked)
    (h' : root.Adds state' state'' walked') : root.Adds state state'' (walked ++ walked') := by
  constructor
  · rw [h'.findings, h.findings, List.filterMap_append, List.append_assoc]
  · rw [h'.orphanParents, h.orphanParents, List.filterMap_append, List.append_assoc]

/-- The last directory of a walk adds its own finding. -/
theorem Adds.last {state before after : RootScanState} {walked : List (PurePath × DirectoryView)}
    {own : PurePath × DirectoryView} (h : root.Adds state before walked)
    (hfindings : after.findings = before.findings ++ (root.found false own).toList)
    (horphans : after.orphanParents = before.orphanParents ++ (root.found true own).toList) :
    root.Adds state after (walked ++ [own]) := by
  have hown : ∀ orphan, [own].filterMap (root.found orphan) = (root.found orphan own).toList := by
    intro orphan
    cases hfound : root.found orphan own <;> simp [hfound]
  constructor
  · rw [hfindings, h.findings, List.filterMap_append, List.append_assoc, hown]
  · rw [horphans, h.orphanParents, List.filterMap_append, List.append_assoc, hown]

/-- A directory that could not be listed has no finding. -/
theorem found_of_error {path : PurePath} {view : DirectoryView} {message : PyStr}
    (herror : view.error = some message) (orphan : Bool) :
    root.found orphan (path, view) = none := by
  simp [found, DirectoryView.bare, herror]

/-- A directory that was listed has a finding of its kind when nothing but directories is
below it. -/
theorem found_of_listed {path : PurePath} {view : DirectoryView} (herror : view.error = none)
    (orphan : Bool) : root.found orphan (path, view) =
      if (view.entries.bare && root.relativePath path ≠ []) = true ∧
          decide (view.entries.childCount ≠ 0) = orphan then
        some (root.buildFinding path view.stat view.entries.childCount)
      else none := by
  simp [found, DirectoryView.bare, herror]

/-- The walk of a directory adds its own finding after those below it. -/
theorem scanListed_adds {path : PurePath} {view : DirectoryView}
    {below : RootScanState → Bool × RootScanState}
    (hempty : ∀ state, (below state).1 = view.entries.childrenBare)
    (hbelow : ∀ state, root.Adds state (below state).2 (view.entries.walk path))
    (state : RootScanState) :
    (root.scanListed path view below state).1 = view.bare ∧
      root.Adds state (root.scanListed path view below state).2 (view.walk path) := by
  unfold scanListed DirectoryView.bare DirectoryView.walk
  have hseen := root.seen_readEntries path view.entries
    { state with directoryCount := state.directoryCount + 1 } ⟨0, false, false⟩
  have hkept := root.findings_readEntries path view.entries
    { state with directoryCount := state.directoryCount + 1 } ⟨0, false, false⟩
  generalize root.readEntries path view.entries
    ({ state with directoryCount := state.directoryCount + 1 }, ⟨0, false, false⟩) = read
    at hseen hkept
  obtain ⟨next, seen⟩ := read
  obtain ⟨hfindings, horphans⟩ := hkept
  dsimp only at hseen hfindings horphans
  have hnext : root.Adds state next [] := by
    constructor
    · rw [hfindings, List.filterMap_nil, List.append_nil]
    · rw [horphans, List.filterMap_nil, List.append_nil]
  cases herror : view.error with
  | some message =>
      refine ⟨rfl, hnext.last ?_ ?_⟩
      · rw [found_of_error herror, Option.toList_none, List.append_nil]
      · rw [found_of_error herror, Option.toList_none, List.append_nil]
  | none =>
      have hwalked := hnext.trans (hbelow next)
      have hisEmpty : (!seen.hasRegularFile && !seen.hasBlockingEntries && (below next).1) =
          view.entries.bare := by
        rw [hseen, hempty next, view.entries.bare_eq, Bool.false_or, Bool.false_or]
      have hcount : seen.childDirectories = view.entries.childCount := by
        rw [hseen, Nat.zero_add]
      simp only [hisEmpty, hcount, Option.isNone_none, Bool.true_and]
      by_cases hfound : (view.entries.bare && root.relativePath path ≠ []) = true
      · rw [if_pos hfound]
        by_cases hleaf : view.entries.childCount = 0
        · rw [if_neg (not_not.mpr hleaf)]
          refine ⟨rfl, hwalked.last ?_ ?_⟩
          · rw [found_of_listed herror, if_pos ⟨hfound, by simp [hleaf]⟩, Option.toList_some]
          · simp [found_of_listed herror, hleaf]
        · rw [if_pos hleaf]
          refine ⟨rfl, hwalked.last ?_ ?_⟩
          · simp [found_of_listed herror, hleaf]
          · rw [found_of_listed herror, if_pos ⟨hfound, by simp [hleaf]⟩, Option.toList_some]
      · rw [if_neg hfound]
        refine ⟨rfl, hwalked.last ?_ ?_⟩
        · rw [found_of_listed herror, if_neg (fun h => hfound h.1), Option.toList_none,
            List.append_nil]
        · rw [found_of_listed herror, if_neg (fun h => hfound h.1), Option.toList_none,
            List.append_nil]

theorem scanSubdirectories_adds (path : PurePath) (listing : Listing) (state : RootScanState) :
    (root.scanSubdirectories path listing state).1 = listing.childrenBare ∧
      root.Adds state (root.scanSubdirectories path listing state).2 (listing.walk path) := by
  induction listing generalizing path state with
  | nil => exact ⟨rfl, by simp [scanSubdirectories, Listing.walk], by
      simp [scanSubdirectories, Listing.walk]⟩
  | entry name kind rest ih => exact ih path state
  | directory name stat error entries rest ihEntries ihRest =>
      have hbelow := @scanListed_adds root (entryPath path name) ⟨stat, error, entries⟩ _
        (fun state => (ihEntries (entryPath path name) state).1)
        (fun state => (ihEntries (entryPath path name) state).2) state
      obtain ⟨hchild, hadds⟩ := hbelow
      simp only [scanSubdirectories, Listing.childrenBare, Listing.walk]
      generalize root.scanListed (entryPath path name) ⟨stat, error, entries⟩
        (root.scanSubdirectories (entryPath path name) entries) state = outcome at hchild hadds
      obtain ⟨childEmpty, next⟩ := outcome
      obtain ⟨hothers, hrest⟩ := ihRest path next
      refine ⟨?_, ?_⟩
      · rw [hothers]
        exact congrArg (· && rest.childrenBare) hchild
      · have hall := hadds.trans hrest
        rw [DirectoryView.walk, List.append_assoc] at hall
        exact hall

/-- The findings of a root are the directories of its walk that are bare. -/
theorem scanDirectory_adds (view : DirectoryView) :
    root.Adds .initial (root.scanDirectory view) (view.walk root.rootPath) :=
  (scanListed_adds (fun state => (scanSubdirectories_adds _ _ state).1)
    (fun state => (scanSubdirectories_adds _ _ state).2) .initial).2

end ScannedRoot

/-! ## The report -/

/-- The directories that the walk of a root has left, none if it is not readable. -/
def walkOf (view : PyStr × PurePath → RootView) (root : PyStr × PurePath) :
    List (PurePath × DirectoryView) :=
  match view root with
  | .inl _ => []
  | .inr directory => directory.walk root.2

def foundIn (view : PyStr × PurePath → RootView) (orphanParents : Bool)
    (root : PyStr × PurePath) : List EmptyDirectoryFinding :=
  (walkOf view root).filterMap (ScannedRoot.found ⟨root.1, root.2⟩ orphanParents)

theorem foldl_scanRoot (view : PyStr × PurePath → RootView) (roots : List (PyStr × PurePath))
    (report : EmptyFolderScanReport) :
    (roots.foldl (scanRoot view) report).findings =
        report.findings ++ roots.flatMap (foundIn view false) ∧
      (roots.foldl (scanRoot view) report).orphanParents =
        report.orphanParents ++ roots.flatMap (foundIn view true) := by
  induction roots generalizing report with
  | nil => exact ⟨by simp, by simp⟩
  | cons root roots ih =>
      have hroot : (scanRoot view report root).findings =
            report.findings ++ foundIn view false root ∧
          (scanRoot view report root).orphanParents =
            report.orphanParents ++ foundIn view true root := by
        unfold scanRoot foundIn walkOf
        cases view root with
        | inl message => exact ⟨by simp, by simp⟩
        | inr directory =>
            have hadds := @ScannedRoot.scanDirectory_adds ⟨root.1, root.2⟩ directory
            dsimp only
            rw [hadds.findings, hadds.orphanParents]
            exact ⟨rfl, rfl⟩
      obtain ⟨hfindings, horphans⟩ := ih (scanRoot view report root)
      rw [List.foldl_cons, hfindings, horphans, hroot.1, hroot.2, List.append_assoc,
        List.append_assoc]
      exact ⟨rfl, rfl⟩

/-- The findings of a scan, up to their order. -/
theorem findings_scan (roots : List (PyStr × PurePath)) (view : PyStr × PurePath → RootView) :
    (scan roots view).findings.Perm (roots.flatMap (foundIn view false)) ∧
      (scan roots view).orphanParents.Perm (roots.flatMap (foundIn view true)) := by
  obtain ⟨hfindings, horphans⟩ := foldl_scanRoot view roots .empty
  constructor
  · refine (List.perm_insertionSort _ _).trans ?_
    rw [hfindings]
    exact .rfl
  · refine (List.perm_insertionSort _ _).trans ?_
    rw [horphans]
    exact .rfl

theorem mem_foundIn {view : PyStr × PurePath → RootView} {orphanParents : Bool}
    {root : PyStr × PurePath} {finding : EmptyDirectoryFinding} :
    finding ∈ foundIn view orphanParents root ↔
      ∃ walked ∈ walkOf view root, walked.2.bare = true ∧
        ScannedRoot.relativePath ⟨root.1, root.2⟩ walked.1 ≠ [] ∧
        decide (walked.2.entries.childCount ≠ 0) = orphanParents ∧
        finding = ScannedRoot.buildFinding ⟨root.1, root.2⟩ walked.1 walked.2.stat
          walked.2.entries.childCount := by
  unfold foundIn ScannedRoot.found
  rw [List.mem_filterMap]
  refine exists_congr fun walked => and_congr_right fun _ => ?_
  rw [Option.ite_none_right_eq_some]
  simp only [Bool.and_eq_true, decide_eq_true_eq, Option.some.injEq, and_assoc,
    eq_comm (a := finding)]

/-! ## Directories that a walk reaches -/

/-- The path of a directory below another one. -/
def pathBelow (path : PurePath) (names : List PyStr) : PurePath :=
  names.foldl entryPath path

namespace DirectoryView

/-- The directory that the walk reaches by the names; it goes no further where it meets an
error. -/
def reach (view : DirectoryView) : List PyStr → Option DirectoryView
  | [] => some view
  | name :: names =>
      if view.error.isSome then none
      else (view.entries.child name).bind fun below => below.reach names

/-- The last directory that the walk reaches on the way, other than the first. -/
def lastReached (view : DirectoryView) : List PyStr → Option DirectoryView
  | [] => none
  | name :: names =>
      if view.error.isSome then none
      else (view.entries.child name).map fun below => (below.lastReached names).getD below

end DirectoryView

theorem parts_entryPath {path : PurePath} {name : PyStr} (h : validPart name = true) :
    (entryPath path name).parts = path.parts ++ [name] := by
  simp only [entryPath, PurePath.joinParts, PurePath.partsOf_of_valid h]

theorem parts_pathBelow {path : PurePath} {names : List PyStr}
    (h : ∀ name ∈ names, validPart name = true) :
    (pathBelow path names).parts = path.parts ++ names := by
  induction names generalizing path with
  | nil => rw [pathBelow, List.foldl_nil, List.append_nil]
  | cons name names ih =>
      obtain ⟨hname, hnames⟩ := List.forall_mem_cons.mp h
      have hrest := @ih (entryPath path name) hnames
      rw [parts_entryPath hname, List.append_assoc, List.singleton_append] at hrest
      exact hrest

/-- Only the root itself has no relative path. -/
theorem relativePath_pathBelow {root : PyStr × PurePath} {names : List PyStr}
    (hnames : ∀ name ∈ names, validPart name = true) :
    ScannedRoot.relativePath ⟨root.1, root.2⟩ (pathBelow root.2 names) = [] ↔ names = [] := by
  unfold ScannedRoot.relativePath ScannedRoot.relativeParts
  rw [parts_pathBelow hnames, List.drop_left, PurePath.joined_eq_nil_iff]
  intro name hname hnil
  have hvalid := hnames name hname
  rw [hnil] at hvalid
  cases hvalid

namespace Listing

theorem mem_names_of_child {listing : Listing} {name : PyStr} {below : DirectoryView}
    (h : listing.child name = some below) : name ∈ listing.names := by
  induction listing with
  | nil => cases h
  | entry other kind rest ih => exact List.mem_cons_of_mem _ (ih h)
  | directory other stat error entries rest _ ih =>
      rw [child] at h
      split at h
      · next heq => exact heq ▸ List.mem_cons_self
      · exact List.mem_cons_of_mem _ (ih h)

theorem valid_of_child {listing : Listing} {name : PyStr} {below : DirectoryView}
    (hwell : listing.wellFormed = true) (h : listing.child name = some below) :
    validPart name = true ∧ below.entries.wellFormed = true := by
  induction listing with
  | nil => cases h
  | entry other kind rest ih =>
      rw [wellFormed, Bool.and_eq_true] at hwell
      exact ih hwell.2 h
  | directory other stat error entries rest _ ih =>
      rw [child] at h
      simp only [wellFormed, Bool.and_eq_true] at hwell
      obtain ⟨⟨⟨hother, -⟩, hrest⟩, hentries⟩ := hwell
      split at h
      · next heq =>
          cases h
          exact ⟨heq ▸ hother, hentries⟩
      · exact ih hrest h

/-- The walk leaves exactly the directories that it reaches. -/
theorem mem_walk_iff {listing : Listing} (hwell : listing.wellFormed = true) {path : PurePath}
    {walked : PurePath × DirectoryView} :
    walked ∈ listing.walk path ↔
      ∃ name names below, listing.child name = some below ∧
        below.reach names = some walked.2 ∧ walked.1 = pathBelow (entryPath path name) names := by
  induction listing generalizing path with
  | nil =>
      refine iff_of_false List.not_mem_nil ?_
      rintro ⟨name, names, below, hchild, -⟩
      cases hchild
  | entry other kind rest ih =>
      rw [wellFormed, Bool.and_eq_true] at hwell
      exact ih hwell.2
  | directory other stat error entries rest ihEntries ihRest =>
      simp only [wellFormed, Bool.and_eq_true, Bool.not_eq_true', List.contains_eq_mem,
        decide_eq_false_iff_not] at hwell
      obtain ⟨⟨⟨-, hfresh⟩, hrest⟩, hentries⟩ := hwell
      rw [walk, List.mem_append, List.mem_cons, ihRest hrest]
      constructor
      · rintro (hbelow | rfl | ⟨name, names, below, hchild, hreach, hpath⟩)
        · split at hbelow
          · cases hbelow
          · next herror =>
              obtain ⟨name, names, below, hchild, hreach, hpath⟩ :=
                (ihEntries hentries).mp hbelow
              refine ⟨other, name :: names, ⟨stat, error, entries⟩, if_pos rfl, ?_, hpath⟩
              rw [DirectoryView.reach, if_neg herror, hchild]
              exact hreach
        · exact ⟨other, [], ⟨stat, error, entries⟩, if_pos rfl, rfl, rfl⟩
        · refine ⟨name, names, below, ?_, hreach, hpath⟩
          rw [child, if_neg, hchild]
          rintro rfl
          exact hfresh (mem_names_of_child hchild)
      · rintro ⟨name, names, below, hchild, hreach, hpath⟩
        rw [child] at hchild
        split at hchild
        · next heq =>
            cases hchild
            subst heq
            cases names with
            | nil => exact .inr (.inl (Prod.ext hpath (Option.some.inj hreach).symm))
            | cons next names =>
                rw [DirectoryView.reach] at hreach
                split at hreach
                · cases hreach
                · next herror =>
                    obtain ⟨inner, hinner, hreach⟩ := Option.bind_eq_some_iff.mp hreach
                    left
                    rw [if_neg herror]
                    exact (ihEntries hentries).mpr ⟨next, names, inner, hinner, hreach, hpath⟩
        · exact .inr (.inr ⟨name, names, below, hchild, hreach, hpath⟩)

end Listing

theorem DirectoryView.mem_walk_iff {view : DirectoryView}
    (hwell : view.entries.wellFormed = true) {path : PurePath}
    {walked : PurePath × DirectoryView} :
    walked ∈ view.walk path ↔
      ∃ names, view.reach names = some walked.2 ∧ walked.1 = pathBelow path names := by
  rw [walk, List.mem_append, List.mem_singleton]
  constructor
  · rintro (hbelow | rfl)
    · split at hbelow
      · cases hbelow
      · next herror =>
          obtain ⟨name, names, below, hchild, hreach, hpath⟩ :=
            (Listing.mem_walk_iff hwell).mp hbelow
          refine ⟨name :: names, ?_, hpath⟩
          rw [reach, if_neg herror, hchild]
          exact hreach
    · exact ⟨[], rfl, rfl⟩
  · rintro ⟨names, hreach, hpath⟩
    cases names with
    | nil => exact .inr (Prod.ext hpath (Option.some.inj hreach).symm)
    | cons name names =>
        rw [reach] at hreach
        split at hreach
        · cases hreach
        · next herror =>
            obtain ⟨below, hchild, hreach⟩ := Option.bind_eq_some_iff.mp hreach
            left
            rw [if_neg herror]
            exact (Listing.mem_walk_iff hwell).mpr ⟨name, names, below, hchild, hreach, hpath⟩

theorem DirectoryView.valid_of_reach {view reached : DirectoryView} {names : List PyStr}
    (hwell : view.entries.wellFormed = true) (h : view.reach names = some reached) :
    (∀ name ∈ names, validPart name = true) ∧ reached.entries.wellFormed = true := by
  induction names generalizing view with
  | nil =>
      cases h
      exact ⟨List.forall_mem_nil _, hwell⟩
  | cons name names ih =>
      rw [reach] at h
      split at h
      · cases h
      · obtain ⟨below, hchild, hreach⟩ := Option.bind_eq_some_iff.mp h
        obtain ⟨hname, hbelow⟩ := Listing.valid_of_child hwell hchild
        obtain ⟨hnames, hreached⟩ := ih hbelow hreach
        exact ⟨List.forall_mem_cons.mpr ⟨hname, hnames⟩, hreached⟩

theorem DirectoryView.of_lastReached {P : DirectoryView → Prop}
    (hdown : ∀ view name below, P view → view.entries.child name = some below → P below)
    {view : DirectoryView} {names : List PyStr} (h : P view) :
    P ((view.lastReached names).getD view) := by
  induction names generalizing view with
  | nil => exact h
  | cons name names ih =>
      rw [lastReached]
      split
      · exact h
      · cases hchild : view.entries.child name with
        | none => exact h
        | some below => exact ih (hdown view name below h hchild)

/-- A property that goes down to the subdirectories holds somewhere on the way exactly when
it holds of the last directory that is reached. -/
theorem DirectoryView.exists_reach_iff {P : DirectoryView → Prop}
    (hdown : ∀ view name below, P view → view.entries.child name = some below → P below)
    {view : DirectoryView} {names : List PyStr} :
    (∃ way reached, way ≠ [] ∧ way <+: names ∧ view.reach way = some reached ∧ P reached) ↔
      ∃ last, view.lastReached names = some last ∧ P last := by
  induction names generalizing view with
  | nil =>
      refine iff_of_false ?_ ?_
      · rintro ⟨way, reached, hne, hway, -⟩
        exact hne (List.prefix_nil.mp hway)
      · rintro ⟨last, hlast, -⟩
        cases hlast
  | cons name names ih =>
      constructor
      · rintro ⟨way, reached, hne, hway, hreach, hP⟩
        cases way with
        | nil => exact absurd rfl hne
        | cons first way =>
            obtain ⟨rfl, hrest⟩ := List.cons_prefix_cons.mp hway
            rw [reach] at hreach
            split at hreach
            · cases hreach
            · next herror =>
                obtain ⟨below, hchild, hreach⟩ := Option.bind_eq_some_iff.mp hreach
                rw [lastReached, if_neg herror, hchild, Option.map_some]
                refine ⟨_, rfl, ?_⟩
                cases way with
                | nil =>
                    cases hreach
                    exact of_lastReached hdown hP
                | cons second way =>
                    obtain ⟨last, hlast, hP⟩ :=
                      ih.mp ⟨_, reached, List.cons_ne_nil _ _, hrest, hreach, hP⟩
                    rw [hlast]
                    exact hP
      · rintro ⟨last, hlast, hP⟩
        rw [lastReached] at hlast
        split at hlast
        · cases hlast
        · next herror =>
            obtain ⟨below, hchild, rfl⟩ := Option.map_eq_some_iff.mp hlast
            cases hdeeper : below.lastReached names with
            | none =>
                rw [hdeeper] at hP
                refine ⟨[name], below, List.cons_ne_nil _ _, ?_, ?_, hP⟩
                · exact List.cons_prefix_cons.mpr ⟨rfl, List.nil_prefix⟩
                · rw [reach, if_neg herror, hchild]
                  rfl
            | some deeper =>
                rw [hdeeper] at hP
                obtain ⟨way, reached, -, hway, hreach, hP⟩ := ih.mpr ⟨deeper, hdeeper, hP⟩
                refine ⟨name :: way, reached, List.cons_ne_nil _ _, ?_, ?_, hP⟩
                · exact List.cons_prefix_cons.mpr ⟨rfl, hway⟩
                · rw [reach, if_neg herror, hchild]
                  exact hreach

end ImmichDoctor.Storage
