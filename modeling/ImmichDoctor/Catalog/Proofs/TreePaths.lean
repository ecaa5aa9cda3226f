import ImmichDoctor.Catalog.DirectoryTree
import ImmichDoctor.Library.JsonText
import Mathlib.Data.List.Perm.Basic
import Mathlib.Data.List.Nodup
/-!
# Paths of a directory tree

Names without a slash that differ within each directory give relative paths that
differ over the whole tree.
-/

namespace ImmichDoctor.Catalog

open ImmichDoctor.Library

/-! ## Names and paths -/

theorem validName_ne_nil {name : PyStr} (h : validName name = true) : name ≠ [] := by
  intro hnil
  simp [validName, hnil] at h

theorem slash_notMem_of_validName {name : PyStr} (h : validName name = true) : 47 ∉ name := by
  intro hslash
  simp [validName, hslash] at h

theorem readable_of_validName {name : PyStr} (h : validName name = true) :
    Json.Readable name := by
  intro c hc
  have hchars : name.all decodedChar = true := by
    simp only [validName, Bool.and_eq_true] at h
    exact h.2
  have hdecoded := List.all_eq_true.mp hchars c hc
  simp only [decodedChar, Bool.or_eq_true, Bool.and_eq_true, decide_eq_true_eq] at hdecoded
  simp only [Json.isHigh, Bool.and_eq_false_iff, decide_eq_false_iff_not]
  omega

theorem readable_childPath {base name : PyStr} (hbase : Json.Readable base)
    (hname : Json.Readable name) : Json.Readable (childPath base name) := by
  unfold childPath
  split
  · exact hname
  · intro c hc
    rcases List.mem_append.mp hc with hc | hc
    · exact hbase c hc
    · rcases List.mem_cons.mp hc with rfl | hc
      · exact ⟨by omega, rfl⟩
      · exact hname c hc

theorem under_iff_append {path other : PyStr} :
    Under path other ↔ ∃ rest, other = path ++ rest ∧ rest.takeWhile (· ≠ 47) = [] := by
  constructor
  · rintro (rfl | ⟨rest, rfl⟩)
    · exact ⟨[], (List.append_nil _).symm, rfl⟩
    · exact ⟨47 :: rest, rfl, by simp⟩
  · rintro ⟨rest, rfl, hrest⟩
    cases rest with
    | nil => exact Or.inl (List.append_nil _)
    | cons c rest =>
        have hc : c = 47 := by
          by_contra hne
          simp [hne] at hrest
        exact Or.inr ⟨rest, by rw [hc]⟩

theorem takeWhile_name_append {name rest : PyStr} (hname : 47 ∉ name)
    (hrest : rest.takeWhile (· ≠ 47) = []) : (name ++ rest).takeWhile (· ≠ 47) = name := by
  induction name with
  | nil => exact hrest
  | cons c name ih =>
      have hc : c ≠ 47 := fun heq => hname (heq ▸ List.mem_cons_self)
      have htail : 47 ∉ name := fun hmem => hname (List.mem_cons_of_mem c hmem)
      rw [List.cons_append, List.takeWhile_cons_of_pos (by simpa using hc), ih htail]

/-- Two entries of one directory have nothing below them in common. -/
theorem name_eq_of_under {base n m path : PyStr} (hn : 47 ∉ n) (hm : 47 ∉ m)
    (hunder : Under (childPath base n) path) (hother : Under (childPath base m) path) : n = m := by
  obtain ⟨first, hfirst, hfirst'⟩ := under_iff_append.mp hunder
  obtain ⟨second, hsecond, hsecond'⟩ := under_iff_append.mp hother
  have happend : n ++ first = m ++ second := by
    have hpaths : childPath base n ++ first = childPath base m ++ second :=
      hfirst.symm.trans hsecond
    unfold childPath at hpaths
    by_cases hbase : base = []
    · rwa [if_pos hbase, if_pos hbase] at hpaths
    · rw [if_neg hbase, if_neg hbase, List.append_assoc, List.append_assoc] at hpaths
      have htail := List.append_cancel_left hpaths
      rw [List.cons_append, List.cons_append] at htail
      exact (List.cons.inj htail).2
  calc n = (n ++ first).takeWhile (· ≠ 47) := (takeWhile_name_append hn hfirst').symm
    _ = (m ++ second).takeWhile (· ≠ 47) := by rw [happend]
    _ = m := takeWhile_name_append hm hsecond'

theorem length_lt_of_under_childPath {path name other : PyStr} (hpath : path ≠ [])
    (h : Under (childPath path name) other) : path.length < other.length := by
  obtain ⟨rest, hrest, -⟩ := under_iff_append.mp h
  rw [hrest, childPath, if_neg hpath]
  simp only [List.length_append, List.length_cons]
  omega

namespace Entries

/-! ## All paths below a directory -/

def paths (base : PyStr) : Entries → List PyStr
  | nil => []
  | leaf name _ rest => childPath base name :: rest.paths base
  | directory name entries rest =>
      childPath base name :: (entries.paths (childPath base name) ++ rest.paths base)

theorem regularFiles_sublist (entries : Entries) (base : PyStr) :
    (entries.regularFiles base).Sublist (entries.paths base) := by
  induction entries generalizing base with
  | nil => exact List.Sublist.refl _
  | leaf name leaf rest ih =>
      cases leaf with
      | file stat => exact (ih base).cons_cons _
      | locked => exact (ih base).cons _
      | other => exact (ih base).cons _
  | directory name entries rest ihEntries ihRest =>
      exact ((ihEntries _).append (ihRest base)).cons _

theorem directoriesBelow_sublist (entries : Entries) (base : PyStr) :
    ((entries.directoriesBelow base).map Directory.path).Sublist (entries.paths base) := by
  induction entries generalizing base with
  | nil => exact List.Sublist.refl _
  | leaf name leaf rest ih =>
      cases leaf with
      | file stat => exact (ih base).cons _
      | locked => exact (ih base).cons_cons _
      | other => exact (ih base).cons _
  | directory name entries rest ihEntries ihRest =>
      rw [directoriesBelow, List.map_cons, List.map_append]
      exact ((ihEntries _).append (ihRest base)).cons_cons _

theorem wellFormed_leaf {name : PyStr} {kind : Leaf} {rest : Entries} :
    (leaf name kind rest).wellFormed = true ↔
      validName name = true ∧ name ∉ rest.names ∧ rest.wellFormed = true := by
  simp only [wellFormed, Bool.and_eq_true, Bool.not_eq_true', List.contains_eq_mem,
    decide_eq_false_iff_not, and_assoc]

theorem wellFormed_directory {name : PyStr} {entries rest : Entries} :
    (directory name entries rest).wellFormed = true ↔
      validName name = true ∧ name ∉ rest.names ∧ rest.wellFormed = true ∧
        entries.wellFormed = true := by
  simp only [wellFormed, Bool.and_eq_true, Bool.not_eq_true', List.contains_eq_mem,
    decide_eq_false_iff_not, and_assoc]

theorem validName_of_mem_names {entries : Entries} {name : PyStr}
    (hwell : entries.wellFormed = true) (hname : name ∈ entries.names) : validName name = true := by
  induction entries with
  | nil => cases hname
  | leaf other leaf rest ih =>
      obtain ⟨hvalid, -, hrestWell⟩ := wellFormed_leaf.mp hwell
      rcases List.mem_cons.mp hname with rfl | hrest
      · exact hvalid
      · exact ih hrestWell hrest
  | directory other entries rest _ ih =>
      obtain ⟨hvalid, -, hrestWell, -⟩ := wellFormed_directory.mp hwell
      rcases List.mem_cons.mp hname with rfl | hrest
      · exact hvalid
      · exact ih hrestWell hrest

/-- Whatever is below a directory is below one of its entries. -/
theorem under_of_mem_paths {entries : Entries} {base path : PyStr}
    (hwell : entries.wellFormed = true) (hpath : path ∈ entries.paths base) :
    ∃ name ∈ entries.names, Under (childPath base name) path := by
  induction entries generalizing base with
  | nil => cases hpath
  | leaf name leaf rest ih =>
      obtain ⟨-, -, hrestWell⟩ := wellFormed_leaf.mp hwell
      rcases List.mem_cons.mp hpath with rfl | hrest
      · exact ⟨name, List.mem_cons_self, under_self _⟩
      · obtain ⟨other, hother, hunder⟩ := ih hrestWell hrest
        exact ⟨other, List.mem_cons_of_mem name hother, hunder⟩
  | directory name entries rest ihEntries ihRest =>
      obtain ⟨hname, -, hrestWell, hentries⟩ := wellFormed_directory.mp hwell
      rcases List.mem_cons.mp hpath with rfl | hbelow
      · exact ⟨name, List.mem_cons_self, under_self _⟩
      · rcases List.mem_append.mp hbelow with hinner | hrest
        · obtain ⟨inner, -, hunder⟩ := ihEntries hentries hinner
          have hchild : childPath base name ≠ [] := childPath_ne_nil (validName_ne_nil hname)
          exact ⟨name, List.mem_cons_self, (under_childPath hchild).trans hunder⟩
        · obtain ⟨other, hother, hunder⟩ := ihRest hrestWell hrest
          exact ⟨other, List.mem_cons_of_mem name hother, hunder⟩

/-- Nothing that is below one entry is among the paths of the entries after it. -/
theorem notMem_paths_of_under {rest : Entries} {base name path : PyStr}
    (hname : validName name = true) (hfresh : name ∉ rest.names) (hrest : rest.wellFormed = true)
    (hunder : Under (childPath base name) path) : path ∉ rest.paths base := by
  intro hpath
  obtain ⟨other, hother, hbelow⟩ := under_of_mem_paths hrest hpath
  have hvalid := validName_of_mem_names hrest hother
  have heq : name = other := name_eq_of_under (slash_notMem_of_validName hname)
    (slash_notMem_of_validName hvalid) hunder hbelow
  exact hfresh (heq ▸ hother)

theorem nodup_paths {entries : Entries} (base : PyStr) (hwell : entries.wellFormed = true) :
    (entries.paths base).Nodup := by
  induction entries generalizing base with
  | nil => exact List.nodup_nil
  | leaf name leaf rest ih =>
      obtain ⟨hname, hfresh, hrest⟩ := wellFormed_leaf.mp hwell
      exact List.nodup_cons.mpr
        ⟨notMem_paths_of_under hname hfresh hrest (under_self _), ih base hrest⟩
  | directory name entries rest ihEntries ihRest =>
      obtain ⟨hname, hfresh, hrest, hentries⟩ := wellFormed_directory.mp hwell
      have hchild : childPath base name ≠ [] := childPath_ne_nil (validName_ne_nil hname)
      -- a path below the directory is longer than its own
      have hinner : ∀ path ∈ entries.paths (childPath base name),
          Under (childPath base name) path ∧ (childPath base name).length < path.length := by
        intro path hpath
        obtain ⟨inner, -, hunder⟩ := under_of_mem_paths hentries hpath
        exact ⟨(under_childPath hchild).trans hunder, length_lt_of_under_childPath hchild hunder⟩
      rw [paths, List.nodup_cons, List.nodup_append]
      refine ⟨?_, ihEntries _ hentries, ihRest base hrest, ?_⟩
      · intro hmem
        rcases List.mem_append.mp hmem with hmem | hmem
        · exact absurd (hinner _ hmem).2 (Nat.lt_irrefl _)
        · exact notMem_paths_of_under hname hfresh hrest (under_self _) hmem
      · rintro path hpath other hother rfl
        exact notMem_paths_of_under hname hfresh hrest (hinner path hpath).1 hother

theorem nil_notMem_paths {entries : Entries} {base : PyStr} (hwell : entries.wellFormed = true) :
    [] ∉ entries.paths base := by
  intro hnil
  obtain ⟨name, hname, hunder⟩ := under_of_mem_paths hwell hnil
  have hvalid := validName_of_mem_names hwell hname
  rcases hunder with heq | ⟨rest, heq⟩
  · exact childPath_ne_nil (validName_ne_nil hvalid) heq.symm
  · simp at heq

theorem readable_of_mem_paths {entries : Entries} {base path : PyStr}
    (hwell : entries.wellFormed = true) (hbase : Json.Readable base)
    (hpath : path ∈ entries.paths base) : Json.Readable path := by
  induction entries generalizing base with
  | nil => cases hpath
  | leaf name leaf rest ih =>
      obtain ⟨hname, -, hrestWell⟩ := wellFormed_leaf.mp hwell
      rcases List.mem_cons.mp hpath with rfl | hrest
      · exact readable_childPath hbase (readable_of_validName hname)
      · exact ih hrestWell hbase hrest
  | directory name entries rest ihEntries ihRest =>
      obtain ⟨hname, -, hrestWell, hentries⟩ := wellFormed_directory.mp hwell
      have hchild := readable_childPath hbase (readable_of_validName hname)
      rcases List.mem_cons.mp hpath with rfl | hbelow
      · exact hchild
      · rcases List.mem_append.mp hbelow with hinner | hrest
        · exact ihEntries hentries hchild hinner
        · exact ihRest hrestWell hbase hrest

/-! ## Files by directory -/

theorem directoriesBelow_eq (entries : Entries) (base : PyStr) :
    entries.directoriesBelow base = (entries.subdirectories base).flatMap directoriesFrom := by
  induction entries generalizing base with
  | nil => rfl
  | leaf name leaf rest ih =>
      rw [directoriesBelow, subdirectories, List.flatMap_append, ← ih base]
      cases leaf <;> rfl
  | directory name entries rest _ ih =>
      rw [directoriesBelow, subdirectories, List.flatMap_cons, ← ih base]
      rfl

/-- The regular files are those of the directory and of the directories below it. -/
theorem regularFiles_perm (entries : Entries) (base : PyStr) :
    (entries.regularFiles base).Perm
      (entries.ownFiles base ++ (entries.directoriesBelow base).flatMap Directory.files) := by
  induction entries generalizing base with
  | nil => exact List.Perm.refl _
  | leaf name leaf rest ih =>
      rw [regularFiles, ownFiles, directoriesBelow, List.flatMap_append, List.append_assoc]
      have hempty : (leaf.directories (childPath base name)).flatMap Directory.files = [] := by
        cases leaf <;> rfl
      rw [hempty, List.nil_append]
      exact (ih base).append_left _
  | directory name entries rest ihEntries ihRest =>
      rw [regularFiles, ownFiles, directoriesBelow, List.flatMap_cons, List.flatMap_append]
      refine ((ihEntries (childPath base name)).append (ihRest base)).trans ?_
      -- the files of the directory itself move in front of those of the subdirectory
      rw [← List.append_assoc (_ ++ _)]
      refine (List.perm_append_comm.append_right _).trans ?_
      simp only [List.append_assoc]
      exact List.Perm.refl _

end Entries

/-! ## Trees -/

namespace DirectoryTree

theorem regularFiles_nodup (tree : DirectoryTree) : tree.regularFiles.Nodup := by
  unfold regularFiles
  cases hroot : tree.root with
  | none => exact List.nodup_nil
  | some entries =>
      have hwell : entries.wellFormed = true := by
        have := tree.wellFormed
        rwa [hroot] at this
      exact (entries.regularFiles_sublist []).nodup (Entries.nodup_paths [] hwell)

theorem directories_nodup (tree : DirectoryTree) : (tree.directories.map Directory.path).Nodup := by
  unfold directories
  cases hroot : tree.root with
  | none => exact List.nodup_singleton _
  | some entries =>
      have hwell : entries.wellFormed = true := by
        have := tree.wellFormed
        rwa [hroot] at this
      rw [directoriesFrom, List.map_cons, List.nodup_cons]
      have hbelow := entries.directoriesBelow_sublist []
      exact ⟨fun hmem => Entries.nil_notMem_paths hwell (hbelow.subset hmem),
        hbelow.nodup (Entries.nodup_paths [] hwell)⟩

theorem regularFiles_perm (tree : DirectoryTree) :
    tree.regularFiles.Perm (tree.directories.flatMap Directory.files) := by
  unfold regularFiles directories
  cases tree.root with
  | none => exact List.Perm.refl _
  | some entries => exact entries.regularFiles_perm []

theorem readable_of_mem_regularFiles {tree : DirectoryTree} {path : PyStr}
    (hpath : path ∈ tree.regularFiles) : Json.Readable path := by
  unfold regularFiles at hpath
  cases hroot : tree.root with
  | none =>
      rw [hroot] at hpath
      cases hpath
  | some entries =>
      rw [hroot] at hpath
      have hwell : entries.wellFormed = true := by
        have := tree.wellFormed
        rwa [hroot] at this
      exact Entries.readable_of_mem_paths hwell (fun c hc => by cases hc)
        ((entries.regularFiles_sublist []).subset hpath)

end DirectoryTree

end ImmichDoctor.Catalog
