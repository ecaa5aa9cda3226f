import ImmichDoctor.Catalog.Discovery
import ImmichDoctor.Catalog.Proofs.TreePaths
/-!
# The walk visits every directory once

What is still to come of a walk is below the directories on its stack. A round
moves the items of one directory from there to the items found, so at every moment
both together are the items of the tree, and a walk that ends with an empty stack
has found them all.
-/

namespace ImmichDoctor.Catalog

open ImmichDoctor.Library

/-! ## The work items of a tree -/

/-- The work items of a directory. -/
def Directory.workItems (directory : Directory) : List WorkItem :=
  directoryWorkItems directory.path (sortPaths directory.files) (if directory.listed then 0 else 1)

def DirectoryTree.workItems (tree : DirectoryTree) : List WorkItem :=
  tree.directories.flatMap Directory.workItems

/-! ## Listing one directory -/

namespace ListedDirectory

theorem addDirectory_eq {listed : ListedDirectory} {path : PyStr} (below : Option Entries)
    (hpath : path ∉ listed.seenRelativePaths) :
    listed.addDirectory path below =
      { listed with
        seenRelativePaths := path :: listed.seenRelativePaths
        childDirectories := listed.childDirectories ++ [(path, below)] } := by
  rw [addDirectory, if_neg hpath]

/-- The rest stays unseen when the first of several directories is added. -/
theorem notMem_seen_addDirectory {listed : ListedDirectory} {path : PyStr} {rest : List PyStr}
    (below : Option Entries) (hnodup : (path :: rest).Nodup)
    (hfresh : ∀ other ∈ path :: rest, other ∉ listed.seenRelativePaths) :
    ∀ other ∈ rest, other ∉ (listed.addDirectory path below).seenRelativePaths := by
  intro other hother
  rw [addDirectory_eq below (hfresh path List.mem_cons_self), List.mem_cons, not_or]
  have hne : other ≠ path := fun heq => (List.nodup_cons.mp hnodup).1 (heq ▸ hother)
  exact ⟨hne, hfresh other (List.mem_cons_of_mem path hother)⟩

/-- A directory whose subdirectories have not been seen is listed as it is. -/
theorem scandir_eq {entries : Entries} {base : PyStr} {listed : ListedDirectory}
    (hnodup : ((entries.subdirectories base).map Prod.fst).Nodup)
    (hfresh : ∀ path ∈ (entries.subdirectories base).map Prod.fst,
      path ∉ listed.seenRelativePaths) :
    scandir base entries listed =
      { seenRelativePaths :=
          ((entries.subdirectories base).map Prod.fst).reverse ++ listed.seenRelativePaths
        childDirectories := listed.childDirectories ++ entries.subdirectories base
        fileRelativePaths := listed.fileRelativePaths ++ entries.ownFiles base } := by
  induction entries generalizing listed with
  | nil =>
      rw [scandir, Entries.subdirectories, Entries.ownFiles, List.append_nil, List.append_nil]
      rfl
  | leaf name leaf rest ih =>
      cases leaf with
      | file stat =>
          have hrest : scandir base rest (listed.addFile (childPath base name)) = _ :=
            ih hnodup hfresh
          rw [scandir, hrest]
          simp [Entries.subdirectories, Entries.ownFiles, Leaf.subdirectories, Leaf.files, addFile]
      | locked =>
          have hrest := notMem_seen_addDirectory none hnodup hfresh
          rw [scandir, ih (List.nodup_cons.mp hnodup).2 hrest,
            addDirectory_eq none (hfresh _ List.mem_cons_self)]
          simp [Entries.subdirectories, Entries.ownFiles, Leaf.subdirectories, Leaf.files]
      | other =>
          rw [scandir, ih hnodup hfresh]
          rfl
  | directory name entries rest _ ih =>
      have hrest := notMem_seen_addDirectory (some entries) hnodup hfresh
      rw [scandir, ih (List.nodup_cons.mp hnodup).2 hrest,
        addDirectory_eq (some entries) (hfresh _ List.mem_cons_self)]
      simp [Entries.subdirectories, Entries.ownFiles]

end ListedDirectory

/-! ## One round -/

namespace Walk

/-- The directories still to be visited. -/
def toVisit (walk : Walk) : List Directory :=
  walk.stack.flatMap directoriesFrom

/-- The directories the walk has not come across yet. -/
def unseen (walk : Walk) : List Directory :=
  walk.stack.flatMap fun entry => (directoriesFrom entry).tail

/-- The walk has visited the given directories of the tree, and has the others ahead. -/
structure Covers (tree : DirectoryTree) (visited : List Directory) (walk : Walk) : Prop where
  items : walk.workItems = visited.flatMap Directory.workItems
  directories : (visited ++ walk.toVisit).Perm tree.directories
  fresh : (walk.seenRelativePaths ++ walk.unseen.map Directory.path).Nodup

theorem directoriesFrom_eq_cons (entry : PyStr × Option Entries) :
    ∃ files listed, directoriesFrom entry =
      ⟨entry.1, listed, files⟩ :: (directoriesFrom entry).tail := by
  obtain ⟨path, entries⟩ := entry
  cases entries with
  | none => exact ⟨[], false, rfl⟩
  | some entries => exact ⟨entries.ownFiles path, true, rfl⟩

/-- The directories below a list of entries are the entries and what is unseen below. -/
theorem paths_directoriesFrom (stack : List (PyStr × Option Entries)) :
    ((stack.flatMap directoriesFrom).map Directory.path).Perm
      (stack.map Prod.fst ++
        (stack.flatMap fun entry => (directoriesFrom entry).tail).map Directory.path) := by
  induction stack with
  | nil => exact List.Perm.refl _
  | cons entry stack ih =>
      obtain ⟨files, listed, heq⟩ := directoriesFrom_eq_cons entry
      rw [List.flatMap_cons, heq, List.map_append, List.map_cons, List.cons_append, List.map_cons,
        List.flatMap_cons, List.map_append, List.cons_append]
      refine List.Perm.cons _ ?_
      refine (ih.append_left _).trans ?_
      rw [← List.append_assoc, ← List.append_assoc]
      exact List.perm_append_comm.append_right _

theorem Covers.start (tree : DirectoryTree) : Covers tree [] (Walk.start tree) := by
  refine ⟨rfl, ?_, ?_⟩
  · rw [toVisit, Walk.start, List.flatMap_singleton]
    exact List.Perm.refl _
  · have hnodup := tree.directories_nodup
    obtain ⟨files, listed, heq⟩ := directoriesFrom_eq_cons ([], tree.root)
    rw [DirectoryTree.directories, heq, List.map_cons] at hnodup
    simpa [unseen, Walk.start] using hnodup

theorem Covers.visit {tree : DirectoryTree} {visited : List Directory} {walk : Walk}
    {current : PyStr × Option Entries} {below : List (PyStr × Option Entries)}
    (h : Covers tree visited walk) (hstack : walk.stack = current :: below) :
    ∃ directory, Covers tree (visited ++ [directory]) (walk.visit current below) := by
  obtain ⟨path, entries⟩ := current
  obtain ⟨hitems, hdirectories, hfresh⟩ := h
  unfold toVisit at hdirectories
  unfold unseen at hfresh
  rw [hstack, List.flatMap_cons] at hdirectories hfresh
  cases entries with
  | none =>
      refine ⟨⟨path, false, []⟩, ?_, ?_, hfresh⟩
      · simp only [Walk.visit, hitems, List.flatMap_append, List.flatMap_singleton]
        rfl
      · rw [List.append_assoc]
        exact hdirectories
  | some entries =>
      have htail : (directoriesFrom (path, some entries)).tail =
          (entries.subdirectories path).flatMap directoriesFrom :=
        entries.directoriesBelow_eq path
      rw [htail, List.map_append] at hfresh
      -- what was below the directory is now found: its paths move to the seen ones
      have hfound : (walk.seenRelativePaths ++ ((entries.subdirectories path).map Prod.fst ++
          (((entries.subdirectories path).flatMap fun entry => (directoriesFrom entry).tail).map
            Directory.path ++
          (below.flatMap
            fun entry => (directoriesFrom entry).tail).map Directory.path))).Nodup := by
        rw [← List.append_assoc (List.map Prod.fst _)]
        have hperm := paths_directoriesFrom (entries.subdirectories path)
        exact ((hperm.append_right _).append_left _).nodup_iff.mp hfresh
      have hnodup : ((entries.subdirectories path).map Prod.fst).Nodup :=
        (List.nodup_append.mp (List.nodup_append.mp hfound).2.1).1
      have hunseen : ∀ child ∈ (entries.subdirectories path).map Prod.fst,
          child ∉ walk.seenRelativePaths := by
        intro child hchild hseen
        exact (List.nodup_append.mp hfound).2.2 child hseen child
          (List.mem_append_left _ hchild) rfl
      have hlisted : ListedDirectory.scandir path entries ⟨walk.seenRelativePaths, [], []⟩ =
          ⟨((entries.subdirectories path).map Prod.fst).reverse ++ walk.seenRelativePaths,
            entries.subdirectories path, entries.ownFiles path⟩ :=
        ListedDirectory.scandir_eq hnodup hunseen
      have hchildren :
          ((entries.subdirectories path).insertionSort fun a b => b.1 ≤ a.1).reverse.Perm
          (entries.subdirectories path) :=
        (List.reverse_perm _).trans (List.perm_insertionSort _ _)
      refine ⟨⟨path, true, entries.ownFiles path⟩, ?_, ?_, ?_⟩
      · simp only [Walk.visit, hlisted, hitems, List.flatMap_append, List.flatMap_singleton]
        rfl
      · simp only [Walk.visit, hlisted, toVisit, List.flatMap_append, List.append_assoc]
        refine List.Perm.trans (List.Perm.append_left _ ?_) hdirectories
        have hown : directoriesFrom (path, some entries) = ⟨path, true, entries.ownFiles path⟩ ::
            (entries.subdirectories path).flatMap directoriesFrom := by
          rw [← entries.directoriesBelow_eq path]
          rfl
        rw [hown, List.cons_append]
        exact ((hchildren.flatMap_right _).append_right _).cons _
      · simp only [Walk.visit, hlisted, unseen, List.flatMap_append, List.map_append]
        refine (List.Perm.nodup_iff ?_).mpr hfound
        rw [← List.append_assoc walk.seenRelativePaths]
        refine List.Perm.append ?_ (List.Perm.append_right _ ?_)
        · exact ((List.reverse_perm _).append_right _).trans List.perm_append_comm
        · exact (hchildren.flatMap_right _).map _

/-! ## The whole walk -/

theorem Covers.length {tree : DirectoryTree} {visited : List Directory} {walk : Walk}
    (h : Covers tree visited walk) :
    visited.length + walk.toVisit.length = tree.directories.length := by
  rw [← List.length_append]
  exact h.directories.length_eq

/-- A walk has ended, with an empty stack unless it has seen a request. -/
def Ended (tree : DirectoryTree) (control : Nat → ControlState) (last : ControlState)
    (result : Option (ControlState × Walk)) : Prop :=
  ∃ ended walk visited, result = some (ended, walk) ∧ Covers tree visited walk ∧
    (ended.reason = none → walk.stack = []) ∧
    ((∀ poll, (control poll).reason = none) → last.reason = none → ended.reason = none)

theorem Ended.of_stack_nil {tree : DirectoryTree} {visited : List Directory} {walk : Walk}
    {control : Nat → ControlState} {last : ControlState} (h : Covers tree visited walk)
    (hstack : walk.stack = []) : Ended tree control last (some (last, walk)) :=
  ⟨last, walk, visited, rfl, h, fun _ => hstack, fun _ hlast => hlast⟩

/-- A walk with enough rounds left ends. -/
theorem Covers.run {tree : DirectoryTree} {visited : List Directory} {walk : Walk}
    {control : Nat → ControlState} {last : ControlState} {fuel : Nat}
    (h : Covers tree visited walk) (hfuel : walk.toVisit.length ≤ fuel) :
    Ended tree control last (walk.run control last fuel) := by
  induction fuel generalizing visited walk control last with
  | zero =>
      have hstack : walk.stack = [] := by
        cases hstack : walk.stack with
        | nil => rfl
        | cons current below =>
            obtain ⟨files, listed, heq⟩ := directoriesFrom_eq_cons current
            rw [toVisit, hstack, List.flatMap_cons, heq, List.cons_append,
              List.length_cons] at hfuel
            omega
      rw [Walk.run, hstack]
      exact Ended.of_stack_nil h hstack
  | succ fuel ih =>
      rw [Walk.run]
      split
      · next hstack => exact Ended.of_stack_nil h hstack
      · next current below hstack =>
          split
          · next reason hreason =>
              have hnone : (control 0).reason ≠ none := by simp [hreason]
              exact ⟨control 0, walk, visited, rfl, h, fun hquiet => absurd hquiet hnone,
                fun hcontrol _ => hcontrol 0⟩
          · next hreason =>
              obtain ⟨directory, hvisited⟩ := h.visit hstack
              have hbefore := h.length
              have hafter := hvisited.length
              rw [List.length_append, List.length_singleton] at hafter
              have hrest : Ended tree (fun poll => control (poll + 1)) (control 0) _ :=
                ih hvisited (by omega)
              obtain ⟨ended, final, found, hrun, hcovers, hstop, hquiet⟩ := hrest
              exact ⟨ended, final, found, hrun, hcovers, hstop,
                fun hcontrol _ => hquiet (fun poll => hcontrol (poll + 1)) hreason⟩

end Walk

/-! ## Discovery -/

/-- Discovery always ends. What it hands to the store are work items of visited
directories, of all of them if it saw no request, and it sees one only if there is one. -/
theorem discover_spec (tree : DirectoryTree) (control : Nat → ControlState) :
    ∃ visited rest seen, discover tree control =
        some (balancedDirectoryWorkItems (visited.flatMap Directory.workItems), seen) ∧
      (visited ++ rest).Perm tree.directories ∧ (seen = none → rest = []) ∧
      ((∀ poll, (control poll).reason = none) → seen = none) := by
  have hstart := Walk.Covers.start tree
  have hfuel : (Walk.start tree).toVisit.length ≤ tree.rounds := by
    have hlength := hstart.length
    rw [List.length_nil, Nat.zero_add] at hlength
    exact Nat.le_of_eq hlength
  have hended : Walk.Ended tree control ⟨false, false⟩ _ := hstart.run hfuel
  obtain ⟨ended, walk, visited, hrun, hcovers, hstop, hquiet⟩ := hended
  refine ⟨visited, walk.toVisit, ended.reason, ?_, hcovers.directories, ?_, ?_⟩
  · rw [discover, hrun, Option.map_some, hcovers.items]
  · intro hnone
    rw [Walk.toVisit, hstop hnone, List.flatMap_nil]
  · intro hcontrol
    exact hquiet hcontrol rfl

end ImmichDoctor.Catalog
