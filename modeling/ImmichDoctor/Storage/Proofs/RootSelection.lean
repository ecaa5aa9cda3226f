import ImmichDoctor.Storage.Proofs.PathResolution
/-!
# Which root a path is resolved to

The first place above the path decides, not the deepest one, and what is below that
place is joined to the root as it is. So the choice is the deepest root unless an outer
root is tried before an inner one, and the path stays inside unless it has a `..` there.
-/

namespace ImmichDoctor.Storage

open ImmichDoctor.Library
open ImmichDoctor.Library.PurePath

/-! ## The places that are tried -/

/-- A root with one of the paths it is known under. -/
structure RootPlace where
  root : RootMapping
  base : PurePath
  mode : MappingMode

/-- The places in the order in which they are tried. -/
def rootPlaces (settings : StorageSettings) : List RootPlace :=
  (buildRoots settings).map (fun root => ⟨root, root.runtimePrefix, .runtime⟩) ++
    (buildRoots settings).filterMap fun root =>
      root.legacyPrefix.map fun base => ⟨root, base, .legacy⟩

/-- The place is the first above the path. -/
def Decides (settings : StorageSettings) (path : PurePath) (place : RootPlace) : Prop :=
  ∃ before after, rootPlaces settings = before ++ place :: after ∧ path.Below place.base ∧
    ∀ earlier ∈ before, ¬ path.Below earlier.base

section Places

variable {settings : StorageSettings} {text : PyStr} {path : PurePath} {place : RootPlace}
  {resolved : ResolvedStoragePath}

/-- What the path is resolved to at a place. -/
def RootPlace.resolve (path : PurePath) (place : RootPlace) : Option ResolvedStoragePath :=
  (relativeTo path place.base).map (place.root.resolved place.mode)

theorem RootPlace.resolve_eq_some_iff :
    place.resolve path = some resolved ↔ ∃ parts, path.anchor = place.base.anchor ∧
      path.parts = place.base.parts ++ parts ∧
        resolved = place.root.resolved place.mode (joined parts) := by
  simp only [RootPlace.resolve, relativeTo, Option.map_map, Option.map_eq_some_iff,
    relativeTo?_eq_some_iff, Function.comp_apply, and_assoc]
  refine exists_congr fun parts => and_congr_right fun _ => and_congr_right fun _ => ?_
  exact eq_comm

theorem RootPlace.resolve_eq_none_iff : place.resolve path = none ↔ ¬ path.Below place.base := by
  simp only [RootPlace.resolve, relativeTo, Option.map_map, Option.map_eq_none_iff,
    relativeTo?_eq_none_iff]

/-- The two passes over the roots are one over their places. -/
theorem resolve_eq_findSome (settings : StorageSettings) (text : PyStr) :
    resolve settings text = (ImmichDoctor.Storage.normalize text).bind fun path =>
      (rootPlaces settings).findSome? (RootPlace.resolve path) := by
  unfold ImmichDoctor.Storage.resolve
  refine Option.bind_congr fun path _ => ?_
  have hlegacy : ∀ roots : List RootMapping,
      (roots.filterMap fun root => root.legacyPrefix.map fun base =>
        (⟨root, base, .legacy⟩ : RootPlace)).findSome? (RootPlace.resolve path) =
          roots.findSome? (RootMapping.resolveLegacy path) := by
    intro roots
    induction roots with
    | nil => rfl
    | cons root roots ih =>
        rw [List.findSome?_cons, ← ih]
        cases hbase : root.legacyPrefix with
        | none => simp [RootMapping.resolveLegacy, hbase]
        | some base =>
            rw [List.filterMap_cons_some (by rw [hbase]; rfl), List.findSome?_cons]
            simp [RootMapping.resolveLegacy, RootPlace.resolve, hbase]
  rw [rootPlaces, List.findSome?_append, List.findSome?_map, hlegacy, Option.orElse_eq_orElse,
    Option.orElse_eq_or]
  rfl

theorem resolve_eq_some_iff_decides :
    resolve settings text = some resolved ↔
      ∃ path place parts, ImmichDoctor.Storage.normalize text = some path ∧
        Decides settings path place ∧ path.parts = place.base.parts ++ parts ∧
        resolved = place.root.resolved place.mode (joined parts) := by
  rw [resolve_eq_findSome, Option.bind_eq_some_iff]
  constructor
  · rintro ⟨path, hpath, hfound⟩
    obtain ⟨before, place, after, hplaces, hplace, hbefore⟩ := List.findSome?_eq_some_iff.mp hfound
    obtain ⟨parts, hanchor, hparts, hresolved⟩ := RootPlace.resolve_eq_some_iff.mp hplace
    refine ⟨path, place, parts, hpath, ⟨before, after, hplaces, ⟨hanchor, parts, hparts.symm⟩, ?_⟩,
      hparts, hresolved⟩
    exact fun earlier hearlier => RootPlace.resolve_eq_none_iff.mp (hbefore earlier hearlier)
  · rintro ⟨path, place, parts, hpath, ⟨before, after, hplaces, hbelow, hbefore⟩, hparts, hresolved⟩
    refine ⟨path, hpath, List.findSome?_eq_some_iff.mpr ⟨before, place, after, hplaces, ?_, ?_⟩⟩
    · exact RootPlace.resolve_eq_some_iff.mpr ⟨parts, hbelow.1, hparts, hresolved⟩
    · exact fun earlier hearlier => RootPlace.resolve_eq_none_iff.mpr (hbefore earlier hearlier)

theorem Decides.mem (h : Decides settings path place) : place ∈ rootPlaces settings := by
  obtain ⟨before, after, hplaces, -, -⟩ := h
  rw [hplaces]
  exact List.mem_append_right _ List.mem_cons_self

theorem Decides.below (h : Decides settings path place) : path.Below place.base := by
  obtain ⟨-, -, -, hbelow, -⟩ := h
  exact hbelow

/-- Above a path that is below some place one place decides. -/
theorem exists_decides (hplace : place ∈ rootPlaces settings) (hbelow : path.Below place.base) :
    ∃ first, Decides settings path first := by
  have hsome : ((rootPlaces settings).findSome? (RootPlace.resolve path)).isSome = true := by
    rw [List.findSome?_isSome_iff]
    refine ⟨place, hplace, ?_⟩
    rw [Option.isSome_iff_ne_none]
    exact fun hnone => RootPlace.resolve_eq_none_iff.mp hnone hbelow
  obtain ⟨resolved, hfound⟩ := Option.isSome_iff_exists.mp hsome
  obtain ⟨before, first, after, hplaces, hfirst, hbefore⟩ := List.findSome?_eq_some_iff.mp hfound
  obtain ⟨parts, hanchor, hparts, -⟩ := RootPlace.resolve_eq_some_iff.mp hfirst
  exact ⟨first, before, after, hplaces, ⟨hanchor, parts, hparts.symm⟩, fun earlier hearlier =>
    RootPlace.resolve_eq_none_iff.mp (hbefore earlier hearlier)⟩

/-- The resolution has the root of the place that decides. -/
theorem resolve_of_decides (hpath : ImmichDoctor.Storage.normalize text = some path)
    (h : Decides settings path place) :
    ∃ resolved, resolve settings text = some resolved ∧ resolved.rootSlug = place.root.slug := by
  obtain ⟨parts, -, hparts⟩ := h.below.exists_relativeTo
  exact ⟨_, resolve_eq_some_iff_decides.mpr ⟨path, place, parts, hpath, h, hparts, rfl⟩, rfl⟩

theorem root_mem_of_mem_rootPlaces (h : place ∈ rootPlaces settings) :
    place.root ∈ buildRoots settings := by
  rcases List.mem_append.mp h with hruntime | hlegacy
  · obtain ⟨root, hroot, rfl⟩ := List.mem_map.mp hruntime
    exact hroot
  · obtain ⟨root, hroot, hbase⟩ := List.mem_filterMap.mp hlegacy
    obtain ⟨base, -, rfl⟩ := Option.map_eq_some_iff.mp hbase
    exact hroot

end Places

/-! ## The deepest root -/

/-- `inner` lies below `outer` and is not `outer`. -/
def StrictlyBelow (inner outer : PurePath) : Prop :=
  inner.Below outer ∧ inner ≠ outer

theorem below_or_strictlyBelow {path a b : PurePath} (ha : path.Below a) (hb : path.Below b) :
    a.Below b ∨ StrictlyBelow b a := by
  rcases ha.total hb with hab | hba
  · exact Or.inl hab
  · by_cases heq : b = a
    · exact Or.inl (heq ▸ hba)
    · exact Or.inr ⟨hba, heq⟩

theorem StrictlyBelow.length_lt {inner outer : PurePath} (h : StrictlyBelow inner outer) :
    outer.parts.length < inner.parts.length := by
  obtain ⟨⟨hanchor, hprefix⟩, hne⟩ := h
  by_contra hlength
  have hparts : outer.parts = inner.parts := hprefix.eq_of_length_le (by omega)
  apply hne
  cases inner
  cases outer
  cases hanchor
  cases hparts
  rfl

/-- Whenever a place is above the path, the path is resolved to a root which has a place
above it that is as deep. -/
def MostSpecific (settings : StorageSettings) (text : PyStr) : Prop :=
  ∀ path, ImmichDoctor.Storage.normalize text = some path →
    ∀ place ∈ rootPlaces settings, path.Below place.base →
      ∃ resolved, resolve settings text = some resolved ∧
        ∃ own ∈ rootPlaces settings, own.root.slug = resolved.rootSlug ∧ path.Below own.base ∧
          place.base.parts.length ≤ own.base.parts.length

/-- A place above the path lies strictly below every place above the path that the root
tried first has. -/
def Shadowed (settings : StorageSettings) (path : PurePath) : Prop :=
  ∃ outer, Decides settings path outer ∧ ∃ inner ∈ rootPlaces settings, path.Below inner.base ∧
    ∀ own ∈ rootPlaces settings, own.root.slug = outer.root.slug → path.Below own.base →
      StrictlyBelow inner.base own.base

/-- The path is resolved to the deepest root above it if and only if no root is shadowed by
one around it that is tried before. -/
theorem most_specific_iff (settings : StorageSettings) (text : PyStr) :
    MostSpecific settings text ↔
      ∀ path, ImmichDoctor.Storage.normalize text = some path → ¬ Shadowed settings path := by
  constructor
  · rintro h path hpath ⟨outer, houter, inner, hinner, hbelow, hdeeper⟩
    obtain ⟨resolved, hresolved, own, hown, hslug, hownBelow, hlength⟩ :=
      h path hpath inner hinner hbelow
    obtain ⟨first, hfirst, hfirstSlug⟩ := resolve_of_decides hpath houter
    have hsame : own.root.slug = outer.root.slug := by
      rw [hslug, ← hfirstSlug, Option.some.inj (hresolved.symm.trans hfirst)]
    have hlt := (hdeeper own hown hsame hownBelow).length_lt
    omega
  · intro h path hpath place hplace hbelow
    obtain ⟨outer, houter⟩ := exists_decides hplace hbelow
    obtain ⟨resolved, hresolved, hslug⟩ := resolve_of_decides hpath houter
    by_contra hnone
    refine h path hpath ⟨outer, houter, place, hplace, hbelow, ?_⟩
    intro own hown hown' hownBelow
    rcases below_or_strictlyBelow hownBelow hbelow with hown'' | hstrict
    · exact absurd ⟨resolved, hresolved, own, hown, hown'.trans hslug.symm, hownBelow,
        hown''.length_le⟩ hnone
    · exact hstrict

/-- The library around the uploads takes the uploads. -/
theorem library_takes_upload :
    ¬ ∀ (settings : StorageSettings) (text : PyStr), MostSpecific settings text := by
  intro h
  have huploads : rootMapping (py "uploads") (.parse (py "/mnt/storage/upload")) ∈ buildRoots
      ⟨some (.parse (py "/mnt/storage")), some (.parse (py "/mnt/storage/upload")), none, none,
        none⟩ := List.mem_cons_of_mem _ List.mem_cons_self
  obtain ⟨resolved, hresolved, own, hown, hslug, hbelow, hlength⟩ := h _
    (py "/mnt/storage/upload/a.jpg") (.parse (py "/mnt/storage/upload/a.jpg")) (by decide)
    ⟨_, _, .runtime⟩ (List.mem_append_left _ (List.mem_map_of_mem huploads)) (by decide)
  have hlibrary : resolved.rootSlug = py "library" := by
    have hfound : (resolve ⟨some (.parse (py "/mnt/storage")),
        some (.parse (py "/mnt/storage/upload")), none, none, none⟩
          (py "/mnt/storage/upload/a.jpg")).map (·.rootSlug) = some (py "library") := by decide
    rw [hresolved] at hfound
    exact Option.some.inj hfound
  have hshallow : ∀ own ∈ rootPlaces ⟨some (.parse (py "/mnt/storage")),
      some (.parse (py "/mnt/storage/upload")), none, none, none⟩, own.root.slug = py "library" →
        (PurePath.parse (py "/mnt/storage/upload/a.jpg")).Below own.base →
          own.base.parts.length < 3 := by decide
  have hlt := hshallow own hown (hslug.trans hlibrary) hbelow
  have hdeep : (rootMapping (py "uploads")
      (.parse (py "/mnt/storage/upload"))).runtimePrefix.parts.length = 3 := by decide
  have hle : 3 ≤ own.base.parts.length := hdeep ▸ hlength
  omega

/-! ## Containment -/

/-- The resolved relative path has no `..`, and the absolute one is lexically below the
returned root. -/
def StaysInside (settings : StorageSettings) (text : PyStr) : Prop :=
  ∀ resolved, resolve settings text = some resolved →
    py ".." ∉ partsOf resolved.relativePath ∧
      ∀ root ∈ buildRoots settings, root.slug = resolved.rootSlug →
        resolved.absolutePath.lexicalNormal.Below root.rootPath.lexicalNormal

theorem joinRoot_parts {path : PurePath} {names : List PyStr}
    (hvalid : names.all validPart = true) :
    (joinRoot path (joined names)).parts = path.parts ++ names := by
  change path.parts ++ (PurePath.parse (joined names)).parts = _
  rw [parse_parts, partsOf_joined hvalid]

/-- Without `..` among the names a join stays below, also after normalisation. -/
theorem lexicalNormal_joinRoot_below {path : PurePath} {names : List PyStr}
    (hvalid : names.all validPart = true) (hup : py ".." ∉ names) :
    (joinRoot path (joined names)).lexicalNormal.Below path.lexicalNormal := by
  refine ⟨rfl, ?_⟩
  change (path.parts.foldl (collapse path.anchor) []).reverse <+:
    ((joinRoot path (joined names)).parts.foldl (collapse path.anchor) []).reverse
  rw [joinRoot_parts hvalid, List.foldl_append, foldl_collapse_of_notMem hup, List.reverse_append,
    List.reverse_reverse]
  exact List.prefix_append _ _

/-- The resolution of a path stays inside its root if and only if the path has no `..`
below the place that decides. -/
theorem stays_inside_iff (settings : StorageSettings) (text : PyStr) :
    StaysInside settings text ↔
      ∀ path place, ImmichDoctor.Storage.normalize text = some path → Decides settings path place →
        py ".." ∉ path.parts.drop place.base.parts.length := by
  constructor
  · intro h path place hpath hplace hup
    obtain ⟨parts, -, hparts⟩ := hplace.below.exists_relativeTo
    have hvalid := valid_of_parts_eq_append hparts
    have hresolved :=
      resolve_eq_some_iff_decides.mpr ⟨path, place, parts, hpath, hplace, hparts, rfl⟩
    obtain ⟨hnone, -⟩ := h _ hresolved
    rw [hparts, List.drop_left] at hup
    exact hnone ((partsOf_joined hvalid).symm ▸ hup)
  · intro h resolved hresolved
    obtain ⟨path, place, parts, hpath, hplace, hparts, rfl⟩ :=
      resolve_eq_some_iff_decides.mp hresolved
    have hvalid := valid_of_parts_eq_append hparts
    have hup := h path place hpath hplace
    rw [hparts, List.drop_left] at hup
    refine ⟨(partsOf_joined hvalid).symm ▸ hup, ?_⟩
    intro root hroot hslug
    have hsame : root = place.root := eq_of_slug_eq (root_mem_of_mem_rootPlaces hplace.mem) hroot
      hslug
    rw [hsame]
    exact lexicalNormal_joinRoot_below hvalid hup

/-- A path of the uploads leads out of them. -/
theorem dots_lead_out :
    ¬ ∀ (settings : StorageSettings) (text : PyStr), StaysInside settings text := by
  intro h
  have hinside := h ⟨none, some (.parse (py "/data/upload")), none, none, none⟩
    (py "/data/upload/../secret/a.jpg")
    ((rootMapping (py "uploads") (.parse (py "/data/upload"))).resolved .runtime
      (py "../secret/a.jpg")) (by decide)
  exact hinside.1 (by decide)

end ImmichDoctor.Storage
