import ImmichDoctor.Catalog.Store
import ImmichDoctor.Storage.PathMapping
/-!
# The root registry

`CatalogRootRegistry`: the configured storage roots, their rows in the catalog, and the
effective ones that are scanned. A root with another one below it is not scanned.
-/

namespace ImmichDoctor.Catalog

open ImmichDoctor.Library
open ImmichDoctor.Storage

/-- `configured_immich_paths`. -/
def configuredImmichPaths (settings : StorageSettings) : List (PyStr × PurePath) :=
  [(py "immich_library_root", settings.immichLibraryRoot),
    (py "immich_uploads_path", settings.immichUploadsPath),
    (py "immich_thumbs_path", settings.immichThumbsPath),
    (py "immich_profile_path", settings.immichProfilePath),
    (py "immich_video_path", settings.immichVideoPath)].filterMap fun entry =>
      entry.2.map fun path => (entry.1, path)

/-- `_ROOT_SPECS`: the slug and the type of a root by its setting. -/
def rootSpecs : List (PyStr × PyStr × PyStr) :=
  [(py "immich_library_root", py "library", py "library"),
    (py "immich_uploads_path", py "uploads", py "source"),
    (py "immich_thumbs_path", py "thumbs", py "derivative"),
    (py "immich_profile_path", py "profile", py "metadata"),
    (py "immich_video_path", py "video", py "derivative")]

/-- `_SCAN_PRIORITY.get(slug, 99)`. -/
def scanPriority (slug : PyStr) : Nat :=
  ([(py "uploads", 0), (py "thumbs", 1), (py "profile", 2), (py "video", 3),
    (py "library", 4)].lookup slug).getD 99

namespace CatalogRootRegistry

/-- `configured_roots`, in the order of the slugs. -/
def configuredRoots (settings : StorageSettings) : List CatalogRootSpec :=
  ((configuredImmichPaths settings).map fun entry =>
    let spec := (rootSpecs.lookup entry.1).getD (entry.1, py "unknown")
    { slug := spec.1
      settingName := entry.1
      rootType := spec.2
      path := entry.2.text : CatalogRootSpec }).insertionSort fun a b => a.slug ≤ b.slug

/-- `sync`; `now` is the time each root is written at. -/
def sync (settings : StorageSettings) (now : PyStr → Instant) (db : CatalogDb) :
    Option CatalogDb :=
  (configuredRoots settings).foldlM
    (fun db root => db.upsertStorageRoot (now root.slug) root) db

/-- `FilesystemAdapter.is_child_path`; `resolvePath` stands for `Path.resolve`. -/
def isChildPath (resolvePath : PurePath → PurePath) (parent child : PurePath) : Bool :=
  ((resolvePath child).relativeTo? (resolvePath parent)).isSome

/-- The order in which the effective roots are scanned. -/
def scannedBefore (a b : CatalogRootSpec) : Prop :=
  scanPriority a.slug < scanPriority b.slug ∨
    scanPriority a.slug = scanPriority b.slug ∧ a.slug ≤ b.slug

instance : DecidableRel scannedBefore := fun _ _ => inferInstanceAs (Decidable (_ ∨ _))

/-- Whether another root lies below the root. -/
def isParentOfOther (resolvePath : PurePath → PurePath) (roots : List CatalogRootSpec)
    (root : CatalogRootSpec) : Bool :=
  roots.any fun other => other.slug ≠ root.slug &&
    isChildPath resolvePath (.parse root.path) (.parse other.path)

/-- `scan_roots`. -/
def scanRoots (resolvePath : PurePath → PurePath) (settings : StorageSettings) :
    List CatalogRootSpec :=
  let roots := configuredRoots settings
  (roots.filter fun root => !isParentOfOther resolvePath roots root).insertionSort scannedBefore

end CatalogRootRegistry

example : (CatalogRootRegistry.scanRoots id
    ⟨some (.parse (py "/s")), some (.parse (py "/s/upload")),
    some (.parse (py "/s/thumbs")), none, none⟩).map (·.slug) = [py "uploads", py "thumbs"] := by
  decide

end ImmichDoctor.Catalog
