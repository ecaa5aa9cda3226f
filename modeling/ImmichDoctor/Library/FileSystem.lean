import Mathlib.Data.List.Infix
import ImmichDoctor.Library.Table
/-!
# File systems

What stands at which path, for paths that are lists of names: a file with its content, a
directory, or something else. The operations are those of a file system on whole trees:
a tree is removed, moved to a path below which nothing stands, or copied there in part.
-/

namespace ImmichDoctor.Library

/-- What stands at a path. -/
inductive FsNode (κ : Type*)
  | file (content : κ)
  | directory
  /-- A link, a socket or a device. -/
  | other
  deriving DecidableEq

abbrev FileSystem (ν κ : Type*) := Table (List ν × FsNode κ) (Prod.fst : _ → List ν)

namespace FileSystem

variable {ν κ : Type*} [DecidableEq ν]

def lookup (fs : FileSystem ν κ) (path : List ν) : Option (FsNode κ) :=
  (fs.find? path).map Prod.snd

theorem lookup_eq_some_iff {fs : FileSystem ν κ} {path : List ν} {node : FsNode κ} :
    fs.lookup path = some node ↔ (path, node) ∈ fs.rows := by
  unfold lookup
  rw [Option.map_eq_some_iff]
  constructor
  · rintro ⟨entry, hentry, rfl⟩
    obtain ⟨hmem, rfl⟩ := Table.find?_eq_some_iff.mp hentry
    exact hmem
  · intro hmem
    exact ⟨_, Table.find?_eq_some_iff.mpr ⟨hmem, rfl⟩, rfl⟩

/-- Two file systems show the same at a path when they have the same entries for it. -/
theorem lookup_congr {fs fs' : FileSystem ν κ} {path path' : List ν}
    (h : ∀ node, (path, node) ∈ fs.rows ↔ (path', node) ∈ fs'.rows) :
    fs.lookup path = fs'.lookup path' := by
  refine Option.ext fun node => ?_
  rw [lookup_eq_some_iff, lookup_eq_some_iff]
  exact h node

theorem lookup_eq_none_iff {fs : FileSystem ν κ} {path : List ν} :
    fs.lookup path = none ↔ ∀ node, (path, node) ∉ fs.rows := by
  constructor
  · intro h node hmem
    rw [lookup_eq_some_iff.mpr hmem] at h
    cases h
  · intro h
    cases hlookup : fs.lookup path with
    | none => rfl
    | some node => exact absurd (lookup_eq_some_iff.mp hlookup) (h node)

/-- A directory stands at the path. -/
def isDirectory (fs : FileSystem ν κ) (path : List ν) : Bool :=
  match fs.lookup path with
  | some .directory => true
  | _ => false

theorem isDirectory_iff {fs : FileSystem ν κ} {path : List ν} :
    fs.isDirectory path = true ↔ fs.lookup path = some .directory := by
  unfold isDirectory
  split
  · next h => exact iff_of_true rfl h
  · next h => exact iff_of_false Bool.false_ne_true h

/-- The names in a directory. -/
def names (fs : FileSystem ν κ) (path : List ν) : List ν :=
  fs.rows.filterMap fun entry =>
    if path <+: entry.1 then (entry.1.drop path.length).head? else none

/-- Nothing stands below a path without names. -/
theorem eq_of_names_nil {fs : FileSystem ν κ} {path other : List ν} {node : FsNode κ}
    (h : fs.names path = []) (hbelow : path <+: other) (hother : fs.lookup other = some node) :
    other = path := by
  obtain ⟨rest, rfl⟩ := hbelow
  have hnone := List.filterMap_eq_nil_iff.mp h (path ++ rest, node)
    (lookup_eq_some_iff.mp hother)
  rw [if_pos (List.prefix_append _ _), List.drop_left, List.head?_eq_none_iff] at hnone
  rw [hnone, List.append_nil]

/-- Nothing stands at the path or below it. -/
def vacant (fs : FileSystem ν κ) (path : List ν) : Bool :=
  fs.rows.all fun entry => !decide (path <+: entry.1)

theorem vacant_iff {fs : FileSystem ν κ} {path : List ν} :
    fs.vacant path = true ↔ ∀ other, path <+: other → fs.lookup other = none := by
  unfold vacant
  simp only [List.all_eq_true, Bool.not_eq_true', decide_eq_false_iff_not]
  constructor
  · intro h other hbelow
    rw [lookup_eq_none_iff]
    exact fun node hmem => h _ hmem hbelow
  · intro h entry hmem hbelow
    have hnone := h entry.1 hbelow
    rw [lookup_eq_some_iff.mpr hmem] at hnone
    cases hnone

/-! ## One path -/

/-- Write what stands at a path. -/
def set (fs : FileSystem ν κ) (path : List ν) (node : FsNode κ) : FileSystem ν κ :=
  Table.put fs (path, node)

theorem lookup_set (fs : FileSystem ν κ) (path other : List ν) (node : FsNode κ) :
    (fs.set path node).lookup other = if other = path then some node else fs.lookup other := by
  split
  · next h =>
      rw [lookup_eq_some_iff, h]
      exact Table.mem_put.mpr (.inl rfl)
  · next h =>
      refine lookup_congr fun found => ?_
      rw [set, Table.mem_put]
      constructor
      · rintro (heq | ⟨hmem, -⟩)
        · exact absurd (congrArg Prod.fst heq) h
        · exact hmem
      · exact fun hmem => .inr ⟨hmem, h⟩

/-- `mkdir(exist_ok=True)`; `none` when something else stands there. -/
def mkdir (fs : FileSystem ν κ) (path : List ν) : Option (FileSystem ν κ) :=
  match fs.lookup path with
  | none => some (fs.set path .directory)
  | some .directory => some fs
  | some _ => none

/-- `mkdir(parents=True, exist_ok=True)`, from the outermost directory on. -/
def mkdirs (fs : FileSystem ν κ) (path : List ν) : Option (FileSystem ν κ) :=
  path.inits.tail.foldlM mkdir fs

/-- What stood there stays, and what is new is a directory on the way. -/
structure Widens (paths : List (List ν)) (fs fs' : FileSystem ν κ) : Prop where
  kept : ∀ path node, fs.lookup path = some node → fs'.lookup path = some node
  new : ∀ path node, fs'.lookup path = some node → fs.lookup path = some node ∨
    path ∈ paths ∧ node = .directory

theorem Widens.refl (paths : List (List ν)) (fs : FileSystem ν κ) : Widens paths fs fs :=
  ⟨fun _ _ h => h, fun _ _ h => .inl h⟩

theorem Widens.trans {paths : List (List ν)} {fs fs' fs'' : FileSystem ν κ}
    (h : Widens paths fs fs') (h' : Widens paths fs' fs'') : Widens paths fs fs'' := by
  refine ⟨fun path node hlookup => h'.kept path node (h.kept path node hlookup),
    fun path node hlookup => ?_⟩
  rcases h'.new path node hlookup with hbefore | hnew
  · exact h.new path node hbefore
  · exact .inr hnew

theorem widens_mkdir {fs fs' : FileSystem ν κ} {path : List ν} (h : fs.mkdir path = some fs') :
    Widens [path] fs fs' ∧ fs'.lookup path = some .directory := by
  unfold mkdir at h
  split at h
  · next hnone =>
      cases h
      refine ⟨⟨fun other node hlookup => ?_, fun other node hlookup => ?_⟩, ?_⟩
      · rw [lookup_set, if_neg fun heq => ?_, hlookup]
        rw [heq, hnone] at hlookup
        cases hlookup
      · rw [lookup_set] at hlookup
        split at hlookup
        · next heq =>
            cases hlookup
            exact .inr ⟨List.mem_singleton.mpr heq, rfl⟩
        · exact .inl hlookup
      · rw [lookup_set, if_pos rfl]
  · next hdirectory =>
      cases h
      exact ⟨.refl _ _, hdirectory⟩
  · cases h

theorem Widens.mono {paths paths' : List (List ν)} {fs fs' : FileSystem ν κ}
    (h : Widens paths fs fs') (hsub : ∀ path ∈ paths, path ∈ paths') : Widens paths' fs fs' :=
  ⟨h.kept, fun path node hlookup => (h.new path node hlookup).imp_right fun ⟨hmem, hnode⟩ =>
    ⟨hsub path hmem, hnode⟩⟩

theorem widens_foldlM_mkdir {paths : List (List ν)} {fs fs' : FileSystem ν κ}
    (h : paths.foldlM mkdir fs = some fs') :
    Widens paths fs fs' ∧ ∀ path ∈ paths, fs'.lookup path = some .directory := by
  induction paths generalizing fs with
  | nil =>
      cases h
      exact ⟨.refl _ _, List.forall_mem_nil _⟩
  | cons path paths ih =>
      obtain ⟨next, hnext, hrest⟩ := Option.bind_eq_some_iff.mp h
      obtain ⟨hfirst, hmade⟩ := widens_mkdir hnext
      obtain ⟨hwidens, hall⟩ := ih hrest
      refine ⟨(hfirst.mono fun other hother => ?_).trans (hwidens.mono fun other hother => ?_),
        fun other hother => ?_⟩
      · rw [List.mem_singleton.mp hother]
        exact List.mem_cons_self
      · exact List.mem_cons_of_mem _ hother
      · rcases List.mem_cons.mp hother with rfl | hlater
        · exact hwidens.kept _ _ hmade
        · exact hall other hlater

theorem Widens.lookup {paths : List (List ν)} {fs fs' : FileSystem ν κ}
    (h : Widens paths fs fs') {path : List ν} (hpath : path ∉ paths) :
    fs'.lookup path = fs.lookup path := by
  refine Option.ext fun node => ⟨fun hlookup => ?_, h.kept path node⟩
  rcases h.new path node hlookup with hbefore | ⟨hmem, -⟩
  · exact hbefore
  · exact absurd hmem hpath

omit [DecidableEq ν] in
theorem mem_tail_inits {path above : List ν} :
    above ∈ path.inits.tail ↔ above <+: path ∧ above ≠ [] := by
  cases path with
  | nil =>
      refine iff_of_false (fun h => ?_) fun h => h.2 (List.prefix_nil.mp h.1)
      cases h
  | cons name rest =>
      have hinits := List.mem_inits above (name :: rest)
      rw [List.inits_cons] at hinits ⊢
      rw [List.tail_cons]
      constructor
      · intro hmem
        refine ⟨hinits.mp (List.mem_cons_of_mem _ hmem), ?_⟩
        rintro rfl
        simp at hmem
      · rintro ⟨habove, hne⟩
        exact (List.mem_cons.mp (hinits.mpr habove)).resolve_left hne

theorem lookup_mkdirs {fs fs' : FileSystem ν κ} {path other : List ν}
    (h : fs.mkdirs path = some fs') (hother : ¬ other <+: path) :
    fs'.lookup other = fs.lookup other :=
  (widens_foldlM_mkdir h).1.lookup fun hmem => hother (mem_tail_inits.mp hmem).1

theorem lookup_of_mkdirs {fs fs' : FileSystem ν κ} {path above : List ν}
    (h : fs.mkdirs path = some fs') (habove : above <+: path) (hne : above ≠ []) :
    fs'.lookup above = some .directory :=
  (widens_foldlM_mkdir h).2 _ (mem_tail_inits.mpr ⟨habove, hne⟩)

/-- Directories that are there are not made. -/
theorem foldlM_mkdir_of_directories {fs : FileSystem ν κ} {paths : List (List ν)}
    (h : ∀ above ∈ paths, fs.lookup above = some .directory) : paths.foldlM mkdir fs = some fs := by
  induction paths with
  | nil => rfl
  | cons first rest ih =>
      have hfirst : fs.mkdir first = some fs := by
        unfold mkdir
        rw [h first List.mem_cons_self]
      rw [List.foldlM_cons, hfirst]
      exact ih fun above habove => h above (List.mem_cons_of_mem _ habove)

/-- Directories can be made unless something else stands in their way. -/
theorem isSome_foldlM_mkdir_iff {fs : FileSystem ν κ} {paths : List (List ν)} :
    (paths.foldlM mkdir fs).isSome = true ↔
      ∀ above ∈ paths, fs.lookup above = none ∨ fs.lookup above = some .directory := by
  induction paths generalizing fs with
  | nil => exact iff_of_true rfl (List.forall_mem_nil _)
  | cons first rest ih =>
      rw [List.foldlM_cons, List.forall_mem_cons]
      cases hfirst : fs.mkdir first with
      | none =>
          refine iff_of_false Bool.false_ne_true fun h => ?_
          unfold mkdir at hfirst
          rcases h.1 with hlookup | hlookup
          · rw [hlookup] at hfirst
            cases hfirst
          · rw [hlookup] at hfirst
            cases hfirst
      | some made =>
          obtain ⟨hwidens, hmade⟩ := widens_mkdir hfirst
          have hfree : fs.lookup first = none ∨ fs.lookup first = some .directory := by
            cases hlookup : fs.lookup first with
            | none => exact .inl rfl
            | some node =>
                rw [hwidens.kept _ _ hlookup] at hmade
                exact .inr hmade
          refine ih.trans ⟨fun h => ⟨hfree, fun above hmem => ?_⟩, fun h above hmem => ?_⟩
          · cases hlookup : fs.lookup above with
            | none => exact .inl rfl
            | some node =>
                have hlater := h above hmem
                rw [hwidens.kept _ _ hlookup] at hlater
                exact .inr (hlater.resolve_left (Option.some_ne_none _))
          · by_cases heq : above = first
            · exact .inr (heq ▸ hmade)
            · rw [hwidens.lookup fun hsame => heq (List.mem_singleton.mp hsame)]
              exact h.2 above hmem

theorem isSome_mkdirs_iff {fs : FileSystem ν κ} {path : List ν} :
    (fs.mkdirs path).isSome = true ↔ ∀ above, above <+: path → above ≠ [] →
      fs.lookup above = none ∨ fs.lookup above = some .directory := by
  rw [mkdirs, isSome_foldlM_mkdir_iff]
  refine forall_congr' fun above => ?_
  rw [mem_tail_inits, and_imp]

/-! ## Trees -/

/-- Neither path is below the other. -/
def Apart (path other : List ν) : Prop :=
  ¬ path <+: other ∧ ¬ other <+: path

instance (path other : List ν) : Decidable (Apart path other) :=
  inferInstanceAs (Decidable (_ ∧ _))

omit [DecidableEq ν] in
theorem Apart.symm {path other : List ν} (h : Apart path other) : Apart other path :=
  ⟨h.2, h.1⟩

omit [DecidableEq ν] in
/-- Nothing is below both. -/
theorem Apart.not_below {path other below : List ν} (h : Apart path other)
    (hpath : path <+: below) : ¬ other <+: below := fun hother =>
  (List.prefix_or_prefix_of_prefix hpath hother).elim h.1 h.2

/-- Only the paths that `kept` holds of stay. -/
def keep (fs : FileSystem ν κ) (kept : List ν → Bool) : FileSystem ν κ where
  rows := fs.rows.filter fun entry => kept entry.1
  unique := fs.unique.sublist (List.filter_sublist.map _)

theorem lookup_keep (fs : FileSystem ν κ) (kept : List ν → Bool) (path : List ν) :
    (fs.keep kept).lookup path = if kept path then fs.lookup path else none := by
  split
  · next h =>
      refine lookup_congr fun node => ?_
      rw [keep, List.mem_filter]
      exact and_iff_left h
  · next h =>
      rw [lookup_eq_none_iff]
      intro node hmem
      exact h (List.mem_filter.mp hmem).2

/-- Everything at the path and below it is gone. -/
def removeTree (fs : FileSystem ν κ) (path : List ν) : FileSystem ν κ :=
  fs.keep fun other => !decide (path <+: other)

theorem lookup_removeTree (fs : FileSystem ν κ) (path other : List ν) :
    (fs.removeTree path).lookup other = if path <+: other then none else fs.lookup other := by
  rw [removeTree, lookup_keep]
  by_cases h : path <+: other
  · rw [if_pos h, if_neg (by simpa using h)]
  · rw [if_neg h, if_pos (by simpa using h)]

/-- The place of a path after the tree at `source` was moved. -/
def moved (source destination path : List ν) : List ν :=
  if source <+: path then destination ++ path.drop source.length else path

theorem moved_append (source destination rest : List ν) :
    moved source destination (source ++ rest) = destination ++ rest := by
  unfold moved
  rw [if_pos (List.prefix_append _ _), List.drop_left]

theorem moved_of_not_below {source destination path : List ν} (h : ¬ source <+: path) :
    moved source destination path = path :=
  if_neg h

theorem moved_inj {source destination path other : List ν} (hpath : ¬ destination <+: path)
    (hother : ¬ destination <+: other)
    (h : moved source destination path = moved source destination other) : path = other := by
  by_cases hbelow : source <+: path
  · obtain ⟨rest, rfl⟩ := hbelow
    rw [moved_append] at h
    by_cases hbelow' : source <+: other
    · obtain ⟨rest', rfl⟩ := hbelow'
      rw [moved_append] at h
      rw [List.append_cancel_left h]
    · rw [moved_of_not_below hbelow'] at h
      exact absurd ⟨rest, h⟩ hother
  · rw [moved_of_not_below hbelow] at h
    by_cases hbelow' : source <+: other
    · obtain ⟨rest', rfl⟩ := hbelow'
      rw [moved_append] at h
      exact absurd ⟨rest', h.symm⟩ hpath
    · rw [moved_of_not_below hbelow'] at h
      exact h

/-- The tree at `source` becomes the tree at `destination`. -/
def moveTree (fs : FileSystem ν κ) (source destination : List ν) : FileSystem ν κ where
  rows := (fs.removeTree destination).rows.map fun entry =>
    (moved source destination entry.1, entry.2)
  unique := by
    rw [List.map_map]
    have hunique := (fs.removeTree destination).unique
    refine List.Nodup.map_on ?_ (List.Nodup.of_map _ hunique)
    intro entry hentry other hother heq
    have hentryFree := (List.mem_filter.mp hentry).2
    have hotherFree := (List.mem_filter.mp hother).2
    simp only [Bool.not_eq_true', decide_eq_false_iff_not] at hentryFree hotherFree
    exact (fs.removeTree destination).eq_of_key_eq hentry hother
      (moved_inj hentryFree hotherFree heq)

theorem mem_moveTree {fs : FileSystem ν κ} {source destination path : List ν} {node : FsNode κ} :
    (path, node) ∈ (fs.moveTree source destination).rows ↔
      ∃ before, ¬ destination <+: before ∧ (before, node) ∈ fs.rows ∧
        moved source destination before = path := by
  unfold moveTree removeTree keep
  simp only [List.mem_map, List.mem_filter, Bool.not_eq_true', decide_eq_false_iff_not,
    Prod.mk.injEq, Prod.exists]
  constructor
  · rintro ⟨before, found, ⟨hmem, hfree⟩, hpath, rfl⟩
    exact ⟨before, hfree, hmem, hpath⟩
  · rintro ⟨before, hfree, hmem, hpath⟩
    exact ⟨before, node, ⟨hmem, hfree⟩, hpath, rfl⟩

theorem lookup_moveTree_destination {source destination : List ν} (fs : FileSystem ν κ)
    (hapart : Apart source destination) (rest : List ν) :
    (fs.moveTree source destination).lookup (destination ++ rest) = fs.lookup (source ++ rest) := by
  refine lookup_congr fun node => ?_
  rw [mem_moveTree]
  constructor
  · rintro ⟨before, hfree, hmem, hpath⟩
    by_cases hbelow : source <+: before
    · obtain ⟨rest', rfl⟩ := hbelow
      rw [moved_append] at hpath
      rw [← List.append_cancel_left hpath]
      exact hmem
    · rw [moved_of_not_below hbelow] at hpath
      rw [hpath] at hfree
      exact absurd (List.prefix_append _ _) hfree
  · intro hmem
    exact ⟨source ++ rest, hapart.not_below (List.prefix_append _ _), hmem, moved_append _ _ _⟩

theorem lookup_moveTree_source {source destination path : List ν} (fs : FileSystem ν κ)
    (hapart : Apart source destination) (hbelow : source <+: path) :
    (fs.moveTree source destination).lookup path = none := by
  rw [lookup_eq_none_iff]
  intro node hmem
  obtain ⟨before, -, -, hpath⟩ := mem_moveTree.mp hmem
  by_cases hbefore : source <+: before
  · obtain ⟨rest, rfl⟩ := hbefore
    rw [moved_append] at hpath
    exact hapart.not_below hbelow (hpath ▸ List.prefix_append _ _)
  · rw [moved_of_not_below hbefore] at hpath
    exact hbefore (hpath ▸ hbelow)

theorem lookup_moveTree_of_not_below {source destination path : List ν} (fs : FileSystem ν κ)
    (hsource : ¬ source <+: path) (hdestination : ¬ destination <+: path) :
    (fs.moveTree source destination).lookup path = fs.lookup path := by
  refine lookup_congr fun node => ?_
  rw [mem_moveTree]
  constructor
  · rintro ⟨before, -, hmem, hpath⟩
    by_cases hbelow : source <+: before
    · obtain ⟨rest, rfl⟩ := hbelow
      rw [moved_append] at hpath
      exact absurd (hpath ▸ List.prefix_append _ _) hdestination
    · rw [moved_of_not_below hbelow] at hpath
      rwa [← hpath]
  · intro hmem
    exact ⟨path, hdestination, hmem, moved_of_not_below hsource⟩

/-- Where `shutil.move` puts the source: in a directory that is there, if nothing has its
name in it. -/
def realDestination (fs : FileSystem ν κ) (source destination : List ν) : Option (List ν) :=
  if fs.isDirectory destination then
    let inside := destination ++ source.getLast?.toList
    if (fs.lookup inside).isSome then none else some inside
  else some destination

/-- What is kept of the tree at `source`, by its path below, stands at `destination` too. -/
def copyTree (fs : FileSystem ν κ) (source destination : List ν) (kept : List ν → Bool) :
    FileSystem ν κ where
  rows := (fs.removeTree destination).rows ++
    (fs.rows.filter fun entry =>
        decide (source <+: entry.1) && kept (entry.1.drop source.length)).map fun entry =>
      (destination ++ entry.1.drop source.length, entry.2)
  unique := by
    rw [List.map_append, List.nodup_append, List.map_map]
    refine ⟨(fs.removeTree destination).unique, ?_, ?_⟩
    · refine List.Nodup.map_on ?_ ((List.Nodup.of_map _ fs.unique).filter _)
      intro entry hentry other hother heq
      simp only [List.mem_filter, Bool.and_eq_true, decide_eq_true_eq] at hentry hother
      obtain ⟨rest, hrest⟩ := hentry.2.1
      obtain ⟨rest', hrest'⟩ := hother.2.1
      have hsame := List.append_cancel_left heq
      rw [← hrest, ← hrest', List.drop_left, List.drop_left] at hsame
      exact fs.eq_of_key_eq hentry.1 hother.1 (by rw [← hrest, ← hrest', hsame])
    · intro path hpath other hother heq
      obtain ⟨entry, hentry, rfl⟩ := List.mem_map.mp hpath
      obtain ⟨copied, -, rfl⟩ := List.mem_map.mp hother
      have hfree := (List.mem_filter.mp hentry).2
      rw [heq] at hfree
      simp at hfree

theorem mem_copyTree {fs : FileSystem ν κ} {source destination path : List ν}
    {kept : List ν → Bool} {node : FsNode κ} :
    (path, node) ∈ (fs.copyTree source destination kept).rows ↔
      (¬ destination <+: path ∧ (path, node) ∈ fs.rows) ∨
        ∃ rest, path = destination ++ rest ∧ kept rest = true ∧
          (source ++ rest, node) ∈ fs.rows := by
  unfold copyTree removeTree keep
  simp only [List.mem_append, List.mem_map, List.mem_filter, Bool.not_eq_true', Bool.and_eq_true,
    decide_eq_false_iff_not, decide_eq_true_eq, Prod.mk.injEq, Prod.exists]
  constructor
  · rintro (⟨hmem, hfree⟩ | ⟨before, found, ⟨hmem, ⟨rest, rfl⟩, hkept⟩, hpath, rfl⟩)
    · exact .inl ⟨hfree, hmem⟩
    · rw [List.drop_left] at hkept hpath
      exact .inr ⟨rest, hpath.symm, hkept, hmem⟩
  · rintro (⟨hfree, hmem⟩ | ⟨rest, rfl, hkept, hmem⟩)
    · exact .inl ⟨hmem, hfree⟩
    · refine .inr ⟨source ++ rest, node, ⟨hmem, List.prefix_append _ _, ?_⟩, ?_, rfl⟩
      · rw [List.drop_left]
        exact hkept
      · rw [List.drop_left]

theorem lookup_copyTree_destination {source destination : List ν} (fs : FileSystem ν κ)
    (kept : List ν → Bool) (rest : List ν) :
    (fs.copyTree source destination kept).lookup (destination ++ rest) =
      if kept rest then fs.lookup (source ++ rest) else none := by
  split
  · next h =>
      refine lookup_congr fun node => ?_
      rw [mem_copyTree]
      constructor
      · rintro (⟨hfree, -⟩ | ⟨rest', heq, -, hmem⟩)
        · exact absurd (List.prefix_append _ _) hfree
        · rw [List.append_cancel_left heq]
          exact hmem
      · exact fun hmem => .inr ⟨rest, rfl, h, hmem⟩
  · next h =>
      rw [lookup_eq_none_iff]
      intro node hmem
      rcases mem_copyTree.mp hmem with ⟨hfree, -⟩ | ⟨rest', heq, hkept, -⟩
      · exact hfree (List.prefix_append _ _)
      · rw [List.append_cancel_left heq] at h
        exact h hkept

theorem lookup_copyTree_of_not_below {source destination path : List ν} (fs : FileSystem ν κ)
    (kept : List ν → Bool) (h : ¬ destination <+: path) :
    (fs.copyTree source destination kept).lookup path = fs.lookup path := by
  refine lookup_congr fun node => ?_
  rw [mem_copyTree]
  constructor
  · rintro (⟨-, hmem⟩ | ⟨rest, rfl, -⟩)
    · exact hmem
    · exact absurd (List.prefix_append _ _) h
  · exact fun hmem => .inl ⟨h, hmem⟩

/-! ## Leaves -/

/-- Everything at the path and below it is a directory. -/
def OnlyDirectories (fs : FileSystem ν κ) (path : List ν) : Prop :=
  ∀ other node, path <+: other → fs.lookup other = some node → node = .directory

/-- Whatever is not a directory stands where it stood. -/
def SameLeaves (fs fs' : FileSystem ν κ) : Prop :=
  ∀ path node, node ≠ .directory → (fs'.lookup path = some node ↔ fs.lookup path = some node)

theorem SameLeaves.refl (fs : FileSystem ν κ) : SameLeaves fs fs :=
  fun _ _ _ => .rfl

theorem SameLeaves.trans {fs fs' fs'' : FileSystem ν κ} (h : SameLeaves fs fs')
    (h' : SameLeaves fs' fs'') : SameLeaves fs fs'' :=
  fun path node hnode => (h' path node hnode).trans (h path node hnode)

theorem OnlyDirectories.of_sameLeaves {fs fs' : FileSystem ν κ} {path : List ν}
    (h : fs.OnlyDirectories path) (hsame : SameLeaves fs fs') : fs'.OnlyDirectories path := by
  intro other node hbelow hother
  by_contra hnode
  exact hnode (h other node hbelow ((hsame other node hnode).mp hother))

theorem Widens.sameLeaves {paths : List (List ν)} {fs fs' : FileSystem ν κ}
    (h : Widens paths fs fs') : SameLeaves fs fs' := by
  intro path node hnode
  constructor
  · intro hlookup
    rcases h.new path node hlookup with hbefore | ⟨-, hdirectory⟩
    · exact hbefore
    · exact absurd hdirectory hnode
  · exact h.kept path node

theorem sameLeaves_keep {fs : FileSystem ν κ} {kept : List ν → Bool}
    (h : ∀ path node, kept path = false → fs.lookup path = some node → node = .directory) :
    SameLeaves fs (fs.keep kept) := by
  intro path node hnode
  rw [lookup_keep]
  by_cases hkept : kept path = true
  · rw [if_pos hkept]
  · rw [if_neg hkept]
    refine iff_of_false (Option.some_ne_none node).symm fun hlookup => ?_
    exact hnode (h path node (Bool.eq_false_iff.mpr hkept) hlookup)

theorem sameLeaves_moveTree {fs : FileSystem ν κ} {source destination : List ν}
    (hsource : fs.OnlyDirectories source) (hfree : fs.vacant destination = true) :
    SameLeaves fs (fs.moveTree source destination) := by
  intro path node hnode
  rw [lookup_eq_some_iff, lookup_eq_some_iff, mem_moveTree]
  have hnot : ∀ other, (other, node) ∈ fs.rows → ¬ source <+: other := fun other hmem hbelow =>
    hnode (hsource other node hbelow (lookup_eq_some_iff.mpr hmem))
  constructor
  · rintro ⟨before, -, hmem, hpath⟩
    rw [moved_of_not_below (hnot before hmem)] at hpath
    exact hpath ▸ hmem
  · intro hmem
    refine ⟨path, fun hbelow => ?_, hmem, moved_of_not_below (hnot path hmem)⟩
    have hnone := vacant_iff.mp hfree path hbelow
    rw [lookup_eq_some_iff.mpr hmem] at hnone
    cases hnone

theorem sameLeaves_copyTree {fs : FileSystem ν κ} {source destination : List ν}
    {kept : List ν → Bool} (hsource : fs.OnlyDirectories source)
    (hfree : fs.vacant destination = true) :
    SameLeaves fs (fs.copyTree source destination kept) := by
  intro path node hnode
  rw [lookup_eq_some_iff, lookup_eq_some_iff, mem_copyTree]
  constructor
  · rintro (⟨-, hmem⟩ | ⟨rest, -, -, hmem⟩)
    · exact hmem
    · exact absurd (hsource _ node (List.prefix_append _ _) (lookup_eq_some_iff.mpr hmem)) hnode
  · intro hmem
    refine .inl ⟨fun hbelow => ?_, hmem⟩
    have hnone := vacant_iff.mp hfree path hbelow
    rw [lookup_eq_some_iff.mpr hmem] at hnone
    cases hnone

end FileSystem

end ImmichDoctor.Library
