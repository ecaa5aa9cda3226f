import ImmichDoctor.Library.PathText
import ImmichDoctor.Storage.PathMapping
import Mathlib.Data.List.Nodup
/-!
# What a path is resolved to

The configured roots are tried in their order, first where they are mounted, then at
their places in a stock container. The container's places exclude each other.
-/

namespace ImmichDoctor.Library.PurePath

/-- The path is `base` or lies below it. -/
def Below (path base : PurePath) : Prop :=
  path.anchor = base.anchor ∧ base.parts <+: path.parts

instance (path base : PurePath) : Decidable (path.Below base) :=
  inferInstanceAs (Decidable (_ ∧ _))

theorem relativeTo?_eq_none_iff {path base : PurePath} :
    path.relativeTo? base = none ↔ ¬ path.Below base := by
  unfold relativeTo?
  split
  · next h => exact iff_of_false nofun (not_not_intro h)
  · next h => exact iff_of_true rfl h

theorem Below.exists_relativeTo {path base : PurePath} (h : path.Below base) :
    ∃ parts, path.relativeTo? base = some parts ∧ path.parts = base.parts ++ parts := by
  obtain ⟨hanchor, parts, hparts⟩ := h
  exact ⟨parts, relativeTo?_eq_some_iff.mpr ⟨hanchor, hparts.symm⟩, hparts.symm⟩

theorem Below.length_le {path base : PurePath} (h : path.Below base) :
    base.parts.length ≤ path.parts.length :=
  h.2.length_le

/-- Of two paths above a path one is above the other. -/
theorem Below.total {path a b : PurePath} (ha : path.Below a) (hb : path.Below b) :
    a.Below b ∨ b.Below a := by
  obtain ⟨haAnchor, haParts⟩ := ha
  obtain ⟨hbAnchor, hbParts⟩ := hb
  have hanchor : a.anchor = b.anchor := haAnchor.symm.trans hbAnchor
  rcases List.prefix_or_prefix_of_prefix haParts hbParts with hab | hba
  · exact Or.inr ⟨hanchor.symm, hab⟩
  · exact Or.inl ⟨hanchor, hba⟩

end ImmichDoctor.Library.PurePath

namespace ImmichDoctor.Storage

open ImmichDoctor.Library
open ImmichDoctor.Library.PurePath (Below)

/-! ## The configured roots -/

/-- `(slug, path)` of the configured roots in the order in which they are tried. -/
def configuredPaths (settings : StorageSettings) : List (PyStr × Option PurePath) :=
  [(py "library", settings.immichLibraryRoot), (py "uploads", settings.immichUploadsPath),
    (py "thumbs", settings.immichThumbsPath), (py "profile", settings.immichProfilePath),
    (py "video", settings.immichVideoPath)]

theorem mem_buildRoots {settings : StorageSettings} {root : RootMapping}
    (h : root ∈ buildRoots settings) :
    ∃ entry ∈ configuredPaths settings, ∃ path, entry.2 = some path ∧
      root = rootMapping entry.1 path := by
  obtain ⟨entry, hentry, hroot⟩ := List.mem_filterMap.mp h
  obtain ⟨path, hpath, rfl⟩ := Option.map_eq_some_iff.mp hroot
  exact ⟨entry, hentry, path, hpath, rfl⟩

/-- No slug is configured twice. -/
theorem buildRoots_slugs_nodup (settings : StorageSettings) :
    ((buildRoots settings).map (·.slug)).Nodup := by
  have hslugs : (buildRoots settings).map (·.slug) =
      ((configuredPaths settings).filter fun entry => entry.2.isSome).map Prod.fst := by
    change ((configuredPaths settings).filterMap _).map _ = _
    generalize configuredPaths settings = entries
    induction entries with
    | nil => rfl
    | cons entry rest ih =>
        obtain ⟨slug, path⟩ := entry
        cases path with
        | none => simpa using ih
        | some path => simpa [rootMapping] using ih
  have hall : ((configuredPaths settings).map Prod.fst).Nodup := by
    change [py "library", py "uploads", py "thumbs", py "profile", py "video"].Nodup
    decide
  rw [hslugs]
  exact (List.filter_sublist.map Prod.fst).nodup hall

theorem eq_of_slug_eq {settings : StorageSettings} {root other : RootMapping}
    (hroot : root ∈ buildRoots settings) (hother : other ∈ buildRoots settings)
    (h : other.slug = root.slug) : other = root :=
  List.inj_on_of_nodup_map (buildRoots_slugs_nodup settings) hother hroot h

theorem runtimePrefix_of_mem {settings : StorageSettings} {root : RootMapping}
    (h : root ∈ buildRoots settings) :
    root.runtimePrefix = .parse root.rootPath.text.forwardSlashes := by
  obtain ⟨entry, -, path, -, rfl⟩ := mem_buildRoots h
  rfl

/-- The place of a root in a stock container is one directory of `/usr/src/app/upload`. -/
theorem legacyPrefix_of_mem {settings : StorageSettings} {root : RootMapping}
    (h : root ∈ buildRoots settings) :
    ∃ base segment, root.legacyPrefix = some base ∧ base.anchor = .slash ∧
      base.parts = legacyRootPrefix.parts ++ [segment] ∧
      legacySegmentsByRoot.lookup root.slug = some segment := by
  obtain ⟨entry, hentry, path, -, rfl⟩ := mem_buildRoots h
  have hslug : entry.1 ∈ [py "library", py "uploads", py "thumbs", py "profile", py "video"] :=
    List.mem_map_of_mem (f := Prod.fst) hentry
  have hplace : ∀ slug ∈ [py "library", py "uploads", py "thumbs", py "profile", py "video"],
      ∃ base segment, legacyPrefixOf slug = some base ∧ base.anchor = .slash ∧
        base.parts = legacyRootPrefix.parts ++ [segment] ∧
        legacySegmentsByRoot.lookup slug = some segment := by
    intro slug hmem
    simp only [List.mem_cons, List.not_mem_nil, or_false] at hmem
    rcases hmem with rfl | rfl | rfl | rfl | rfl
    · exact ⟨_, py "library", rfl, rfl, by decide, by decide⟩
    · exact ⟨_, py "upload", rfl, rfl, by decide, by decide⟩
    · exact ⟨_, py "thumbs", rfl, rfl, by decide, by decide⟩
    · exact ⟨_, py "profile", rfl, rfl, by decide, by decide⟩
    · exact ⟨_, py "encoded-video", rfl, rfl, by decide, by decide⟩
  exact hplace entry.1 hslug

/-! ## Resolution -/

theorem resolveRuntime_eq_some_iff {root : RootMapping} {path : PurePath}
    {resolved : ResolvedStoragePath} :
    root.resolveRuntime path = some resolved ↔
      ∃ parts, path.anchor = root.runtimePrefix.anchor ∧
        path.parts = root.runtimePrefix.parts ++ parts ∧
        resolved = root.resolved .runtime (PurePath.joined parts) := by
  simp only [RootMapping.resolveRuntime, relativeTo, Option.map_map, Option.map_eq_some_iff,
    PurePath.relativeTo?_eq_some_iff, Function.comp_apply, and_assoc]
  refine exists_congr fun parts => and_congr_right fun _ => and_congr_right fun _ => ?_
  exact eq_comm

theorem resolveRuntime_eq_none_iff {root : RootMapping} {path : PurePath} :
    root.resolveRuntime path = none ↔ ¬ path.Below root.runtimePrefix := by
  simp only [RootMapping.resolveRuntime, relativeTo, Option.map_map, Option.map_eq_none_iff,
    PurePath.relativeTo?_eq_none_iff]

theorem resolveLegacy_eq_some_iff {root : RootMapping} {path base : PurePath}
    (hbase : root.legacyPrefix = some base) {resolved : ResolvedStoragePath} :
    root.resolveLegacy path = some resolved ↔
      ∃ parts, path.anchor = base.anchor ∧ path.parts = base.parts ++ parts ∧
        resolved = root.resolved .legacy (PurePath.joined parts) := by
  simp only [RootMapping.resolveLegacy, hbase, Option.bind_eq_bind, Option.bind_some, relativeTo,
    Option.map_map, Option.map_eq_some_iff, PurePath.relativeTo?_eq_some_iff,
    Function.comp_apply, and_assoc]
  refine exists_congr fun parts => and_congr_right fun _ => and_congr_right fun _ => ?_
  exact eq_comm

/-- The resolution is that of the first root above the path where it is mounted or, with
no such root, that of the first root whose place in the container is above it. -/
theorem resolve_eq_some_iff {settings : StorageSettings} {text : PyStr}
    {resolved : ResolvedStoragePath} :
    resolve settings text = some resolved ↔ ∃ path, normalize text = some path ∧
      ((∃ before root after, buildRoots settings = before ++ root :: after ∧
          (∀ other ∈ before, ¬ path.Below other.runtimePrefix) ∧
          root.resolveRuntime path = some resolved) ∨
        (∀ root ∈ buildRoots settings, ¬ path.Below root.runtimePrefix) ∧
          ∃ before root after, buildRoots settings = before ++ root :: after ∧
            (∀ other ∈ before, other.resolveLegacy path = none) ∧
            root.resolveLegacy path = some resolved) := by
  unfold resolve
  cases ImmichDoctor.Storage.normalize text with
  | none => simp
  | some path =>
      simp only [Option.bind_eq_bind, Option.bind_some, Option.some.injEq, exists_eq_left',
        Option.orElse_eq_orElse, Option.orElse_eq_or, Option.or_eq_some_iff,
        List.findSome?_eq_some_iff, List.findSome?_eq_none_iff, resolveRuntime_eq_none_iff]
      refine or_congr ?_ (and_congr_right fun _ => ?_)
      · refine exists_congr fun before => exists_congr fun root => exists_congr fun after => ?_
        exact and_congr_right fun _ => and_comm
      · refine exists_congr fun before => exists_congr fun root => exists_congr fun after => ?_
        exact and_congr_right fun _ => and_comm

end ImmichDoctor.Storage
