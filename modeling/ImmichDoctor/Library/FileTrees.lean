import ImmichDoctor.Library.FileSystem
import Mathlib.Data.Set.Function
/-!
# File trees

A file system is grounded when directories stand above whatever stands at a path. Then
nothing stands below a file, or below a path where nothing stands. The operations on trees
keep a file system grounded, and those that only move or add keep every file.
-/

namespace ImmichDoctor.Library

/-- A path that is a proper prefix is a prefix of the directory. -/
theorem prefix_dropLast {α : Type*} {path other : List α} (h : path <+: other)
    (hne : path ≠ other) : path <+: other.dropLast := by
  obtain ⟨rest, rfl⟩ := h
  rcases List.eq_nil_or_concat rest with rfl | ⟨init, last, rfl⟩
  · exact absurd (List.append_nil _).symm hne
  · rw [List.concat_eq_append, ← List.append_assoc, List.dropLast_concat]
    exact List.prefix_append _ _

theorem not_below_dropLast {α : Type*} {path : List α} (hne : path ≠ []) :
    ¬ path <+: path.dropLast := by
  intro hbelow
  have hlength := hbelow.length_le
  have hpos := List.length_pos_of_ne_nil hne
  rw [List.length_dropLast] at hlength
  omega

namespace FileSystem

variable {ν κ : Type*} [DecidableEq ν] {fs fs' fs'' : FileSystem ν κ}
  {path other source destination : List ν} {node : FsNode κ}

/-- Directories stand above the path. -/
def Supported (fs : FileSystem ν κ) (path : List ν) : Prop :=
  ∀ above, above <+: path → above ≠ path → above ≠ [] → fs.lookup above = some .directory

structure Grounded (fs : FileSystem ν κ) : Prop where
  root : ∀ node, fs.lookup [] = some node → node = .directory
  supported : ∀ path node, fs.lookup path = some node → fs.Supported path

theorem grounded_empty : Grounded (.empty : FileSystem ν κ) where
  root _ h := by cases h
  supported _ _ h := by cases h

namespace Grounded

/-- Only directories have something below them. -/
theorem eq_of_below (h : fs.Grounded) (hpath : fs.lookup path ≠ some .directory)
    (hne : path ≠ []) (hbelow : path <+: other) (hother : fs.lookup other = some node) :
    other = path := by
  by_contra hnot
  exact hpath (h.supported other node hother path hbelow (fun heq => hnot heq.symm) hne)

theorem vacant (h : fs.Grounded) (hpath : fs.lookup path = none) (hne : path ≠ []) :
    fs.vacant path = true := by
  rw [vacant_iff]
  intro other hbelow
  by_contra hother
  obtain ⟨node, hnode⟩ := Option.ne_none_iff_exists'.mp hother
  have heq := h.eq_of_below (by rw [hpath]; exact (Option.some_ne_none _).symm) hne hbelow hnode
  exact hother (heq ▸ hpath)

theorem ne_nil_of_file (h : fs.Grounded) {content : κ}
    (hfile : fs.lookup path = some (.file content)) : path ≠ [] := by
  rintro rfl
  cases h.root _ hfile

end Grounded

/-! ## Directories -/

omit [DecidableEq ν] in
/-- The directories on the way to a path, made up to one of them. -/
theorem take_tail_inits (path : List ν) (made : Nat) :
    path.inits.tail.take made = (path.take made).inits.tail := by
  induction path generalizing made with
  | nil =>
      rw [List.take_nil]
      exact List.take_nil
  | cons name rest ih =>
      cases made with
      | zero => rfl
      | succ made =>
          have hrest : rest.inits = [] :: rest.inits.tail := by cases rest <;> simp
          have hmade : (rest.take made).inits = [] :: (rest.take made).inits.tail := by
            cases rest.take made <;> simp
          rw [List.take_succ_cons, List.inits_cons, List.inits_cons, List.tail_cons,
            List.tail_cons, hrest, hmade, List.map_cons, List.map_cons, List.take_succ_cons,
            ← List.map_take, ih]

theorem grounded_mkdirs (h : fs.Grounded) (hmade : fs.mkdirs path = some fs') : fs'.Grounded := by
  obtain ⟨hwidens, hall⟩ := widens_foldlM_mkdir hmade
  refine ⟨fun node hnode => ?_, fun other node hother above habove hne hnil => ?_⟩
  · rcases hwidens.new _ _ hnode with hbefore | ⟨-, hdirectory⟩
    · exact h.root node hbefore
    · exact hdirectory
  · rcases hwidens.new _ _ hother with hbefore | ⟨hmem, -⟩
    · exact hwidens.kept _ _ (h.supported other node hbefore above habove hne hnil)
    · have hother := (mem_tail_inits.mp hmem).1
      exact hall above (mem_tail_inits.mpr ⟨habove.trans hother, hnil⟩)

/-- What is made on the way to a path supports it. -/
theorem supported_of_mkdirs (hmade : fs.mkdirs path.dropLast = some fs') : fs'.Supported path :=
  fun _ habove hne hnil => lookup_of_mkdirs hmade (prefix_dropLast habove hne) hnil

/-! ## Operations -/

theorem grounded_set (h : fs.Grounded) (hpath : fs.lookup path = none) (hne : path ≠ [])
    (hsupported : fs.Supported path) (node : FsNode κ) : (fs.set path node).Grounded := by
  have hkept : ∀ other, other ≠ path → (fs.set path node).lookup other = fs.lookup other :=
    fun other hother => by rw [lookup_set, if_neg hother]
  refine ⟨fun found hfound => ?_, fun other found hother above habove hnot hnil => ?_⟩
  · rw [hkept [] hne.symm] at hfound
    exact h.root found hfound
  · have hdirectory : fs.lookup above = some .directory := by
      by_cases heq : other = path
      · exact hsupported above (heq ▸ habove) (heq ▸ hnot) hnil
      · rw [hkept other heq] at hother
        exact h.supported other found hother above habove hnot hnil
    rw [hkept above, hdirectory]
    rintro rfl
    rw [hpath] at hdirectory
    cases hdirectory

theorem grounded_keep (h : fs.Grounded) (hpath : fs.isDirectory path = false) :
    (fs.keep fun other => other ≠ path).Grounded := by
  refine ⟨fun node hnode => ?_, fun other node hother above habove hne hnil => ?_⟩
  · rw [lookup_keep, Option.ite_none_right_eq_some] at hnode
    exact h.root node hnode.2
  · rw [lookup_keep, Option.ite_none_right_eq_some] at hother
    have hdirectory := h.supported other node hother.2 above habove hne hnil
    rw [lookup_keep, if_pos, hdirectory]
    rw [decide_eq_true_eq]
    rintro rfl
    rw [isDirectory_iff.mpr hdirectory] at hpath
    cases hpath

omit [DecidableEq ν] in
theorem Apart.ne_nil (h : Apart source destination) : source ≠ [] ∧ destination ≠ [] :=
  ⟨fun heq => h.1 (heq ▸ List.nil_prefix), fun heq => h.2 (heq ▸ List.nil_prefix)⟩

/-- The tree at the destination is the one at the source, the rest is as it was. -/
theorem grounded_of_tree (h : fs.Grounded) (hapart : Apart source destination)
    (hsupported : fs'.Supported destination)
    (hdestination : ∀ rest, fs'.lookup (destination ++ rest) = fs.lookup (source ++ rest))
    (helsewhere : ∀ path node, ¬ destination <+: path → fs'.lookup path = some node →
      ∀ above, above <+: path → fs'.lookup above = fs.lookup above) : fs'.Grounded := by
  obtain ⟨hsource, hne⟩ := hapart.ne_nil
  refine ⟨fun node hnode => ?_, fun path node hnode above habove hnot hnil => ?_⟩
  · have hroot : ¬ destination <+: [] := fun hbelow => hne (List.prefix_nil.mp hbelow)
    rw [helsewhere [] node hroot hnode [] List.prefix_rfl] at hnode
    exact h.root node hnode
  · by_cases hbelow : destination <+: path
    · obtain ⟨rest, rfl⟩ := hbelow
      rw [hdestination] at hnode
      rcases List.prefix_or_prefix_of_prefix habove (List.prefix_append destination rest) with
        hup | ⟨rest', rfl⟩
      · by_cases heq : above = destination
        · have hbefore := h.supported _ node hnode source (List.prefix_append _ _) (fun hsame => ?_)
            hsource
          · have hsame := hdestination []
            rwa [List.append_nil, List.append_nil, hbefore, ← heq] at hsame
          · refine hnot ?_
            rw [heq, List.self_eq_append_right.mp hsame, List.append_nil]
        · exact hsupported above hup heq hnil
      · rw [hdestination]
        refine h.supported _ node hnode _ ?_ (fun hsame => hnot ?_) ?_
        · exact (List.prefix_append_right_inj source).mpr
            ((List.prefix_append_right_inj destination).mp habove)
        · rw [List.append_cancel_left hsame]
        · exact fun hempty => hsource (List.append_eq_nil_iff.mp hempty).1
    · have hsame := helsewhere path node hbelow hnode
      rw [hsame path List.prefix_rfl] at hnode
      rw [hsame above habove]
      exact h.supported path node hnode above habove hnot hnil

theorem grounded_moveTree (h : fs.Grounded) (hapart : Apart source destination)
    (hsupported : fs.Supported destination) : (fs.moveTree source destination).Grounded := by
  have hsame : ∀ path, ¬ source <+: path → ¬ destination <+: path → ∀ above, above <+: path →
      (fs.moveTree source destination).lookup above = fs.lookup above :=
    fun path hsource hdestination above habove => fs.lookup_moveTree_of_not_below
      (fun hbelow => hsource (hbelow.trans habove))
      (fun hbelow => hdestination (hbelow.trans habove))
  refine grounded_of_tree h hapart (fun above habove hne hnil => ?_)
    (fs.lookup_moveTree_destination hapart) (fun path node hbelow hnode => hsame path ?_ hbelow)
  · rw [fs.lookup_moveTree_of_not_below (fun hbelow => hapart.1 (hbelow.trans habove))
      (fun hbelow => hne (habove.eq_of_length_le hbelow.length_le))]
    exact hsupported above habove hne hnil
  · intro hsource
    rw [fs.lookup_moveTree_source hapart hsource] at hnode
    cases hnode

theorem grounded_copyTree (h : fs.Grounded) (hapart : Apart source destination)
    (hsupported : fs.Supported destination) :
    (fs.copyTree source destination fun _ => true).Grounded := by
  have hsame : ∀ path, ¬ destination <+: path →
      (fs.copyTree source destination fun _ => true).lookup path = fs.lookup path :=
    fun path => fs.lookup_copyTree_of_not_below _
  refine grounded_of_tree h hapart (fun above habove hne hnil => ?_) (fun rest => ?_)
    (fun path node hbelow _ above habove => hsame above fun hup => hbelow (hup.trans habove))
  · rw [hsame above fun hbelow => hne (habove.eq_of_length_le hbelow.length_le)]
    exact hsupported above habove hne hnil
  · rw [lookup_copyTree_destination, if_pos rfl]

/-! ## Files -/

/-- Every file stands somewhere, no two of them at one place. -/
def KeepsFiles (fs fs' : FileSystem ν κ) : Prop :=
  ∃ place : List ν → List ν,
    Set.InjOn place {path | ∃ content, fs.lookup path = some (.file content)} ∧
      ∀ path content, fs.lookup path = some (.file content) →
        fs'.lookup (place path) = some (.file content)

theorem keepsFiles_of_kept
    (h : ∀ path node, fs.lookup path = some node → fs'.lookup path = some node) :
    KeepsFiles fs fs' :=
  ⟨id, Set.injOn_id _, fun path _ hfile => h path _ hfile⟩

theorem KeepsFiles.trans (h : KeepsFiles fs fs') (h' : KeepsFiles fs' fs'') :
    KeepsFiles fs fs'' := by
  obtain ⟨place, hinj, hplace⟩ := h
  obtain ⟨place', hinj', hplace'⟩ := h'
  refine ⟨place' ∘ place, hinj'.comp hinj fun path hpath => ?_, fun path content hfile => ?_⟩
  · obtain ⟨content, hfile⟩ := hpath
    exact ⟨content, hplace path content hfile⟩
  · exact hplace' _ _ (hplace path content hfile)

theorem keepsFiles_set (hfree : fs.lookup path = none) (node : FsNode κ) :
    KeepsFiles fs (fs.set path node) := by
  refine keepsFiles_of_kept fun other found hfound => ?_
  rw [lookup_set, if_neg, hfound]
  rintro rfl
  rw [hfree] at hfound
  cases hfound

theorem keepsFiles_copyTree {kept : List ν → Bool} (hfree : fs.vacant destination = true) :
    KeepsFiles fs (fs.copyTree source destination kept) := by
  refine keepsFiles_of_kept fun other found hfound => ?_
  rw [fs.lookup_copyTree_of_not_below, hfound]
  intro hbelow
  rw [vacant_iff.mp hfree other hbelow] at hfound
  cases hfound

theorem keepsFiles_moveTree (hapart : Apart source destination)
    (hfree : fs.vacant destination = true) : KeepsFiles fs (fs.moveTree source destination) := by
  have hnot : ∀ path node, fs.lookup path = some node → ¬ destination <+: path := by
    intro path node hnode hbelow
    rw [vacant_iff.mp hfree path hbelow] at hnode
    cases hnode
  refine ⟨moved source destination, ?_, fun path content hfile => ?_⟩
  · rintro path ⟨content, hfile⟩ other ⟨content', hother⟩ heq
    exact moved_inj (hnot path _ hfile) (hnot other _ hother) heq
  · by_cases hbelow : source <+: path
    · obtain ⟨rest, rfl⟩ := hbelow
      rw [moved_append, fs.lookup_moveTree_destination hapart, hfile]
    · rw [moved_of_not_below hbelow,
        fs.lookup_moveTree_of_not_below hbelow (hnot path _ hfile), hfile]

end FileSystem

end ImmichDoctor.Library
