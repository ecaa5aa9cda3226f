import ImmichDoctor.Library.FileSystem
/-!
# Directories that are set aside

Empty directories of a file system are moved below a directory that holds them, and back again.
What stands apart from the holder is as it was before the first of them was moved, but for those
that are set aside; once all of them are back it is as it was.
-/

namespace ImmichDoctor.Library.FileSystem

variable {ν κ : Type*} [DecidableEq ν]

/-! ## A tree changes its place -/

/-- The tree at `source` is at `destination`, in the place of what was there. -/
structure Relocated (source destination : List ν) (fs fs' : FileSystem ν κ) : Prop where
  arrived : ∀ rest, fs'.lookup (destination ++ rest) = fs.lookup (source ++ rest)
  gone : ∀ path, source <+: path → fs'.lookup path = none
  same : ∀ path, ¬ source <+: path → ¬ destination <+: path → fs'.lookup path = fs.lookup path

theorem relocated_moveTree {source destination : List ν} (fs : FileSystem ν κ)
    (hapart : Apart source destination) :
    Relocated source destination fs (fs.moveTree source destination) :=
  ⟨lookup_moveTree_destination fs hapart,
    fun _ hbelow => lookup_moveTree_source fs hapart hbelow,
    fun _ hsource hdestination => lookup_moveTree_of_not_below fs hsource hdestination⟩

/-- A copy of everything whose source is removed then is a move. -/
theorem relocated_copyTree {source destination : List ν} (fs : FileSystem ν κ)
    (hapart : Apart source destination) :
    Relocated source destination fs
      ((fs.copyTree source destination fun _ => true).removeTree source) := by
  refine ⟨fun rest => ?_, fun path hbelow => ?_, fun path hsource hdestination => ?_⟩
  · rw [lookup_removeTree, if_neg (hapart.symm.not_below (List.prefix_append _ _)),
      lookup_copyTree_destination, if_pos rfl]
  · rw [lookup_removeTree, if_pos hbelow]
  · rw [lookup_removeTree, if_neg hsource, lookup_copyTree_of_not_below _ _ hdestination]

/-! ## Setting aside -/

/-- An empty directory apart from the holder, with something above it. -/
structure Bare (hold : List ν) (fs : FileSystem ν κ) (path : List ν) : Prop where
  apart : Apart hold path
  directory : fs.lookup path = some .directory
  empty : ∀ rest ≠ [], fs.lookup (path ++ rest) = none
  parent : (fs.lookup path.dropLast).isSome = true

/-- A place below the holder. -/
structure Below (hold path : List ν) : Prop where
  below : hold <+: path
  proper : ¬ path <+: hold

/-- Each pair is an empty directory of `base` with the place where it is set aside now. -/
structure SetAside (hold : List ν) (base fs : FileSystem ν κ) (away : List (List ν × List ν)) :
    Prop where
  outside : ∀ path, Apart hold path →
    fs.lookup path = if path ∈ away.map Prod.fst then none else base.lookup path
  above : ∀ path node, path <+: hold → base.lookup path = some node →
    fs.lookup path = some node
  bare : ∀ pair ∈ away, Bare hold base pair.1
  below : ∀ pair ∈ away, Below hold pair.2
  there : ∀ pair ∈ away, fs.lookup pair.2 = some .directory
  empty : ∀ pair ∈ away, ∀ rest ≠ [], fs.lookup (pair.2 ++ rest) = none
  homes : (away.map Prod.fst).Nodup
  places : away.Pairwise fun a b => Apart a.2 b.2

section Places

variable {hold path other : List ν}

omit [DecidableEq ν]

/-- What is below the holder is not apart from it. -/
theorem Below.not_apart (h : Below hold path) (hbelow : path <+: other) : ¬ Apart hold other :=
  fun hapart => hapart.1 (h.below.trans hbelow)

/-- What is apart from the holder is apart from all that is below it. -/
theorem Below.apart (h : Below hold path) (hother : Apart hold other) : Apart path other :=
  ⟨fun hbelow => h.not_apart hbelow hother, fun hbelow =>
    (List.prefix_or_prefix_of_prefix h.below hbelow).elim hother.1 hother.2⟩

theorem apart_append (h : Apart hold path) (rest : List ν) : Apart hold (path ++ rest) :=
  ⟨h.symm.not_below (List.prefix_append _ _), fun hbelow =>
    h.2 ((List.prefix_append _ _).trans hbelow)⟩

theorem ne_nil_of_apart (h : Apart hold path) : path ≠ [] := by
  rintro rfl
  exact h.2 List.nil_prefix

end Places

section SetAside

variable {hold : List ν} {base fs fs' : FileSystem ν κ} {away : List (List ν × List ν)}
  {home place : List ν}

theorem setAside_nil (hold : List ν) (base : FileSystem ν κ) : SetAside hold base base [] :=
  ⟨fun _ _ => by rw [List.map_nil, if_neg List.not_mem_nil], fun _ _ _ h => h,
    List.forall_mem_nil _, List.forall_mem_nil _, List.forall_mem_nil _, List.forall_mem_nil _,
    List.nodup_nil, List.Pairwise.nil⟩

/-- Changes below the holder, other than to what is set aside. -/
theorem SetAside.congr (h : SetAside hold base fs away)
    (houtside : ∀ path, Apart hold path → fs'.lookup path = fs.lookup path)
    (habove : ∀ path node, path <+: hold → fs.lookup path = some node →
      fs'.lookup path = some node)
    (hplaces : ∀ pair ∈ away, ∀ rest,
      fs'.lookup (pair.2 ++ rest) = fs.lookup (pair.2 ++ rest)) :
    SetAside hold base fs' away :=
  { h with
    outside := fun path hpath => (houtside path hpath).trans (h.outside path hpath)
    above := fun path node hpath hnode => habove path node hpath (h.above path node hpath hnode)
    there := fun pair hpair => by
      have hsame := hplaces pair hpair []
      rw [List.append_nil] at hsame
      rw [hsame]
      exact h.there pair hpair
    empty := fun pair hpair rest hrest => by
      rw [hplaces pair hpair rest]
      exact h.empty pair hpair rest hrest }

theorem SetAside.perm (h : SetAside hold base fs away) {other : List (List ν × List ν)}
    (hperm : away.Perm other) : SetAside hold base fs other := by
  have hmem : ∀ pair ∈ other, pair ∈ away := fun pair => hperm.mem_iff.mpr
  refine
    { above := h.above
      outside := fun path hpath => ?_
      bare := fun pair hpair => h.bare pair (hmem pair hpair)
      below := fun pair hpair => h.below pair (hmem pair hpair)
      there := fun pair hpair => h.there pair (hmem pair hpair)
      empty := fun pair hpair => h.empty pair (hmem pair hpair)
      homes := (hperm.map Prod.fst).nodup_iff.mp h.homes
      places := hperm.pairwise h.places fun hapart => hapart.symm }
  rw [h.outside path hpath]
  simp only [(hperm.map Prod.fst).mem_iff]

/-- What is set aside is not where it was. -/
theorem SetAside.home_free (h : SetAside hold base fs away) {pair : List ν × List ν}
    (hpair : pair ∈ away) (rest : List ν) : fs.lookup (pair.1 ++ rest) = none := by
  have hbare := h.bare pair hpair
  rw [h.outside _ (apart_append hbare.apart rest)]
  split
  · rfl
  · next hhome =>
      apply hbare.empty
      rintro rfl
      rw [List.append_nil] at hhome
      exact hhome (List.mem_map_of_mem hpair)

/-- The directory above the one that is set aside is still there. -/
theorem SetAside.parent_there (h : SetAside hold base fs away) {pair : List ν × List ν}
    (hpair : pair ∈ away) : (fs.lookup pair.1.dropLast).isSome = true := by
  have hbare := h.bare pair hpair
  obtain ⟨node, hnode⟩ := Option.isSome_iff_exists.mp hbare.parent
  by_cases habove : pair.1.dropLast <+: hold
  · rw [h.above _ node habove hnode]
    rfl
  have hapart : Apart hold pair.1.dropLast :=
    ⟨fun hbelow => hbare.apart.1 (hbelow.trans (List.dropLast_prefix _)), habove⟩
  rw [h.outside _ hapart, if_neg, hnode]
  · rfl
  -- a directory that is set aside had nothing below it
  intro hmem
  obtain ⟨other, hother, hsame⟩ := List.mem_map.mp hmem
  have hempty := (h.bare other hother).empty
    [pair.1.getLast (ne_nil_of_apart hbare.apart)] (List.cons_ne_nil _ _)
  rw [hsame, List.dropLast_append_getLast, hbare.directory] at hempty
  cases hempty

/-- What is below a directory that is not set aside is as it was. -/
theorem SetAside.lookup_home (h : SetAside hold base fs away) (hbare : Bare hold base home)
    (hnew : home ∉ away.map Prod.fst) (rest : List ν) :
    fs.lookup (home ++ rest) = base.lookup (home ++ rest) := by
  rw [h.outside _ (apart_append hbare.apart rest)]
  by_cases hrest : rest = []
  · rw [hrest, List.append_nil, if_neg hnew]
  · rw [hbare.empty rest hrest, ite_self]

/-- A directory that is where it was is moved below the holder. -/
theorem SetAside.take (h : SetAside hold base fs away) (hbare : Bare hold base home)
    (hplace : Below hold place) (hplaces : ∀ pair ∈ away, Apart pair.2 place)
    (hthere : (fs.lookup home).isSome = true) (hmoved : Relocated home place fs fs') :
    SetAside hold base fs' (away ++ [(home, place)]) := by
  have hnew : home ∉ away.map Prod.fst := by
    intro hmem
    rw [h.outside home hbare.apart, if_pos hmem] at hthere
    cases hthere
  have hdirectory := h.lookup_home hbare hnew
  have hkept : ∀ pair ∈ away, ∀ rest,
      fs'.lookup (pair.2 ++ rest) = fs.lookup (pair.2 ++ rest) := by
    intro pair hpair rest
    apply hmoved.same
    · exact ((h.below pair hpair).apart hbare.apart).not_below (List.prefix_append _ _)
    · exact (hplaces pair hpair).not_below (List.prefix_append _ _)
  have hmem : ∀ pair ∈ away ++ [(home, place)], pair ∈ away ∨ pair = (home, place) := by
    intro pair hpair
    rwa [List.mem_append, List.mem_singleton] at hpair
  refine ⟨fun path hpath => ?_, fun path node hpath hnode => ?_, fun pair hpair => ?_,
    fun pair hpair => ?_, fun pair hpair => ?_, fun pair hpair rest hrest => ?_, ?_, ?_⟩
  · by_cases hbelow : home <+: path
    · rw [hmoved.gone path hbelow]
      obtain ⟨rest, rfl⟩ := hbelow
      by_cases hrest : rest = []
      · rw [hrest, List.append_nil, if_pos]
        rw [List.map_append, List.mem_append]
        exact .inr (List.mem_singleton.mpr rfl)
      · rw [hbare.empty rest hrest, ite_self]
    · rw [hmoved.same path hbelow fun hplaced => hplace.not_apart hplaced hpath,
        h.outside path hpath]
      have hne : path ≠ home := fun heq => hbelow (heq ▸ List.prefix_rfl)
      refine if_congr ?_ rfl rfl
      rw [List.map_append, List.map_singleton, List.mem_append, List.mem_singleton, or_iff_left hne]
  · rw [hmoved.same path (fun hbelow => hbare.apart.2 (hbelow.trans hpath))
      fun hplaced => hplace.proper (hplaced.trans hpath)]
    exact h.above path node hpath hnode
  · rcases hmem pair hpair with hbefore | rfl
    · exact h.bare pair hbefore
    · exact hbare
  · rcases hmem pair hpair with hbefore | rfl
    · exact h.below pair hbefore
    · exact hplace
  · rcases hmem pair hpair with hbefore | rfl
    · have hsame := hkept pair hbefore []
      rw [List.append_nil] at hsame
      rw [hsame]
      exact h.there pair hbefore
    · have harrived := hmoved.arrived []
      rw [hdirectory, List.append_nil, List.append_nil, hbare.directory] at harrived
      exact harrived
  · rcases hmem pair hpair with hbefore | rfl
    · rw [hkept pair hbefore rest]
      exact h.empty pair hbefore rest hrest
    · rw [hmoved.arrived rest, hdirectory, hbare.empty rest hrest]
  · rw [List.map_append, List.map_singleton, List.nodup_append]
    refine ⟨h.homes, List.nodup_singleton _, fun path hpath other hother => ?_⟩
    rintro rfl
    rw [List.mem_singleton.mp hother] at hpath
    exact hnew hpath
  · rw [List.pairwise_append]
    refine ⟨h.places, List.pairwise_singleton _ _, fun pair hpair other hother => ?_⟩
    rw [List.mem_singleton.mp hother]
    exact hplaces pair hpair

/-- The first of the directories is moved back. -/
theorem SetAside.putBack (h : SetAside hold base fs ((home, place) :: away))
    (hmoved : Relocated place home fs fs') : SetAside hold base fs' away := by
  obtain ⟨hbare, hbares⟩ := List.forall_mem_cons.mp h.bare
  obtain ⟨hplace, hbelows⟩ := List.forall_mem_cons.mp h.below
  obtain ⟨hapart, hplaces⟩ := List.pairwise_cons.mp h.places
  have hhomes := h.homes
  rw [List.map_cons, List.nodup_cons] at hhomes
  obtain ⟨hnew, hhomes⟩ := hhomes
  have hkept : ∀ pair ∈ away, ∀ rest,
      fs'.lookup (pair.2 ++ rest) = fs.lookup (pair.2 ++ rest) := by
    intro pair hpair rest
    apply hmoved.same
    · exact (hapart pair hpair).symm.not_below (List.prefix_append _ _)
    · exact ((hbelows pair hpair).apart hbare.apart).not_below (List.prefix_append _ _)
  refine ⟨fun path hpath => ?_, fun path node hpath hnode => ?_, hbares, hbelows,
    fun pair hpair => ?_, fun pair hpair rest hrest => ?_, hhomes, hplaces⟩
  · by_cases hbelow : home <+: path
    · obtain ⟨rest, rfl⟩ := hbelow
      rw [hmoved.arrived rest]
      by_cases hrest : rest = []
      · rw [hrest, List.append_nil, List.append_nil, if_neg hnew, hbare.directory]
        exact h.there _ List.mem_cons_self
      · rw [h.empty _ List.mem_cons_self rest hrest, hbare.empty rest hrest]
        split
        · rfl
        · rfl
    · rw [hmoved.same path (fun hplaced => hplace.not_apart hplaced hpath) hbelow,
        h.outside path hpath]
      have hne : path ≠ home := fun heq => hbelow (heq ▸ List.prefix_rfl)
      refine if_congr ?_ rfl rfl
      rw [List.map_cons, List.mem_cons, or_iff_right hne]
  · rw [hmoved.same path (fun hplaced => hplace.proper (hplaced.trans hpath))
      fun hbelow => hbare.apart.2 (hbelow.trans hpath)]
    exact h.above path node hpath hnode
  · have hsame := hkept pair hpair []
    rw [List.append_nil] at hsame
    rw [hsame]
    exact h.there pair (List.mem_cons_of_mem _ hpair)
  · rw [hkept pair hpair rest]
    exact h.empty pair (List.mem_cons_of_mem _ hpair) rest hrest

/-- When nothing is set aside, all that is apart from the holder is as it was. -/
theorem SetAside.back (h : SetAside hold base fs []) {path : List ν} (hpath : Apart hold path) :
    fs.lookup path = base.lookup path := by
  rw [h.outside path hpath, List.map_nil, if_neg List.not_mem_nil]

end SetAside

end ImmichDoctor.Library.FileSystem
